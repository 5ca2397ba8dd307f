/-
How the directory of an open WAL relates to the records it was given.

`Stored` says that the retained segments hold the record blocks `init` and, last, `cur`: one file and one descriptor per
block, only the last block possibly empty, counted exactly by the statistics. Each operation keeps it:

- `writeRecord_stored`: a whole write extends the last block by one record;
- `rotate_stored`: rotation closes the last block;
- `compactFrom_stored`: compaction drops whole leading blocks that the checkpoint covers, and only those.

What is read from the blocks is then said once, for a live and for a reopened WAL: `Stored.oldest` is the retention cursor,
`Stored.replay` the records after the checkpoint.
-/
import MasiEdge.Wal.Durable

namespace MasiEdge.Wal

open Codec List

/-! ## Blocks, files and descriptors -/

variable (crc : Bytes → UInt32) {w' : DurableWal}

/-- the files of consecutive record blocks, the first of which starts at sequence `n` -/
def filesOf (kind : WalKind) : ℕ → List (List WalRecord) → List (ℕ × Bytes)
  | _, [] => []
  | n, g :: gs => (n, encodeRecords crc kind g) :: filesOf kind (n + g.length) gs

theorem filesOf_append (kind : WalKind) (n : ℕ) (gs hs : List (List WalRecord)) :
    filesOf crc kind n (gs ++ hs) = filesOf crc kind n gs ++ filesOf crc kind (n + gs.flatten.length) hs := by
  induction gs generalizing n with
  | nil => simp [filesOf]
  | cons _ _ ih =>
    simp only [cons_append, filesOf, ih, flatten_cons, length_append, Nat.add_assoc]

theorem bounds_of_mem_filesOf (kind : WalKind) (n : ℕ) (gs : List (List WalRecord)) (f : ℕ × Bytes)
    (hf : f ∈ filesOf crc kind n gs) : n ≤ f.1 ∧ ((∀ g ∈ gs, g ≠ []) → f.1 < n + gs.flatten.length) := by
  induction gs generalizing n with
  | nil => simp [filesOf] at hf
  | cons g _ ih =>
    simp only [forall_mem_cons, ← length_pos_iff, flatten_cons, length_append] at ih ⊢
    rcases List.mem_cons.1 hf with rfl | hf
    · exact ⟨le_rfl, fun hfull => by omega⟩
    · obtain ⟨hle, hlt⟩ := ih (n + g.length) hf
      exact ⟨by omega, fun hfull => by have := hlt hfull.2; omega⟩

/-- the descriptor counts exactly the block, and has the time of its first record -/
structure Fits (s : Segment) (n : ℕ) (g : List WalRecord) : Prop where
  start : s.start = n
  last : s.last = n + g.length - 1
  bytes : s.bytes = recordsSize g
  records : s.records = g.length
  first : (∀ r ∈ g, 0 < r.recordedAtUnixMs) → s.firstRecordedAt = (g.head?.map WalRecord.recordedAtUnixMs).getD 0

def SegmentsFit : ℕ → List (List WalRecord) → List Segment → Prop
  | _, [], ss => ss = []
  | n, g :: gs, ss => ∃ s rest, ss = s :: rest ∧ Fits s n g ∧ SegmentsFit (n + g.length) gs rest

theorem segmentsFit_append (n : ℕ) (gs : List (List WalRecord)) (g : List WalRecord) (ss : List Segment) :
    SegmentsFit n (gs ++ [g]) ss ↔
      ∃ init s, ss = init ++ [s] ∧ SegmentsFit n gs init ∧ Fits s (n + gs.flatten.length) g := by
  induction gs generalizing n ss with
  | nil => simp [SegmentsFit]
  | cons _ _ ih =>
    simp only [cons_append, SegmentsFit, ih, flatten_cons, length_append]
    constructor
    · rintro ⟨s, -, rfl, hs, init, t, rfl, hinit, ht⟩
      exact ⟨s :: init, t, rfl, ⟨s, init, rfl, hs, hinit⟩, by rwa [Nat.add_assoc] at ht⟩
    · rintro ⟨-, t, rfl, ⟨s, init, rfl, hs, hinit⟩, ht⟩
      exact ⟨s, init ++ [t], rfl, hs, init, t, rfl, hinit, by rwa [Nat.add_assoc]⟩

/-- the retained segments of `w` hold the blocks `init` and `cur`, starting at sequence `n` -/
structure Stored (w : DurableWal) (n : ℕ) (init : List (List WalRecord)) (cur : List WalRecord) : Prop where
  full : ∀ g ∈ init, g ≠ []
  segments : SegmentsFit n (init ++ [cur]) w.segments
  files : w.dir.files = filesOf crc w.kind n (init ++ [cur])
  bytes : w.stats.bytes = recordsSize (init.flatten ++ cur)
  records : w.stats.records = (init.flatten ++ cur).length

/-- what one durable record adds: it extends the last block, everything else is counters and times -/
structure Written (w w' : DurableWal) (clock : ℤ) (payload : Bytes) (sequence n : ℕ) (init : List (List WalRecord))
    (cur : List WalRecord) : Prop where
  notBefore : w.lastRecordedAt ≤ clock.toNat
  timeFits : clock.toNat ≤ u64Max
  lengthFits : payload.length < 2 ^ 32
  next : sequence = w.stats.lastSequence + 1
  stored : Stored crc w' n init (cur ++ [⟨sequence, clock.toNat, payload⟩])
  last : w'.stats.lastSequence = sequence
  checkpoint : w'.stats.checkpointSequence = w.stats.checkpointSequence
  kind : w'.kind = w.kind
  limits : w'.limits = w.limits
  file : w'.dir.checkpoint = w.dir.checkpoint
  time : w'.lastRecordedAt = clock.toNat
  oldest : w'.oldestPending = some (w.oldestPending.getD clock.toNat)

/-- what compaction keeps: `k` leading blocks are gone, everything but files, descriptors and counters is as before -/
structure Compacted (w w' : DurableWal) (n : ℕ) (init : List (List WalRecord)) (cur : List WalRecord) (k : ℕ) :
    Prop where
  stored : Stored crc w' (n + (init.take k).flatten.length) (init.drop k) cur
  frame : ∃ files segments bytes records, w' = { w with
    dir := { w.dir with files }, segments, stats := { w.stats with bytes, records } }
  covered : k = 0 ∨ n + (init.take k).flatten.length ≤ w.stats.checkpointSequence + 1
  head : ∀ g rest, init = g :: rest → (0 < k ↔ n + g.length ≤ w.stats.checkpointSequence + 1)

variable {crc} {w : DurableWal} {n : ℕ} {init : List (List WalRecord)} {cur : List WalRecord}

/-- the current segment is the last one, and its file is the last file -/
theorem Stored.current (h : Stored crc w n init cur) :
    ∃ ss s, w.segments = ss ++ [s] ∧ SegmentsFit n init ss ∧ Fits s (n + init.flatten.length) cur ∧
      w.dir.files = filesOf crc w.kind n init ++ [(n + init.flatten.length, encodeRecords crc w.kind cur)] := by
  obtain ⟨ss, s, hss, hinit, hs⟩ := (segmentsFit_append n init cur w.segments).1 h.segments
  refine ⟨ss, s, hss, hinit, hs, ?_⟩
  rw [h.files, filesOf_append]
  rfl

/-! ## The operations -/

theorem write_last (d : Dir) (fs : List (ℕ × Bytes)) (n : ℕ) (file bytes : Bytes) (hd : d.files = fs ++ [(n, file)])
    (hlt : ∀ f ∈ fs, f.1 < n) : (d.write n bytes).files = fs ++ [(n, file ++ bytes)] := by
  have hfs : fs.map (fun f => if f.1 = n then (f.1, f.2 ++ bytes) else f) = fs :=
    (map_congr_left fun f hf => if_neg (hlt f hf).ne).trans (map_id fs)
  simp [Dir.write, hd, hfs]

/-- a whole write extends the last block; the caller vouches that no counter saturates -/
theorem writeRecord_stored {clock : ℤ} {payload : Bytes} {sequence : ℕ} (h : Stored crc w n init cur)
    (hlast : w.stats.lastSequence + 1 = n + init.flatten.length + cur.length) (hseq : w.stats.lastSequence + 1 ≤ u64Max)
    (hfit : w.stats.bytes + (headerBytes + payload.length) ≤ u64Max)
    (hok : w.writeRecord crc clock payload .none = (.ok sequence, w')) :
    Written crc w w' clock payload sequence n init cur := by
  obtain ⟨ss, s, hss, hinit, hs, hfiles⟩ := h.current
  have hone : satAdd w.stats.lastSequence 1 = w.stats.lastSequence + 1 := satAdd_eq hseq
  have hrec : w.stats.records ≤ w.stats.bytes := by
    rw [h.records, h.bytes]; exact length_le_recordsSize _
  have hcur : recordsSize cur ≤ w.stats.bytes := by
    rw [h.bytes, recordsSize_append]; omega
  have hcurlen := length_le_recordsSize cur
  unfold DurableWal.writeRecord at hok
  rw [show w.segments.getLast? = some s by simp [hss]] at hok
  cases hseal : w.sealRecord crc clock payload with
  | error => simp [hseal] at hok
  | ok hdr =>
    obtain ⟨t, header⟩ := hdr
    simp only [hseal, Prod.mk.injEq, Except.ok.injEq] at hok
    obtain ⟨rfl, rfl⟩ := hok
    unfold DurableWal.sealRecord at hseal
    simp only [bind_ok, refuse_ok, unixMs_ok, encodeHeader_ok, not_lt] at hseal
    obtain ⟨-, ⟨-, htime, rfl⟩, -, hle, -, ⟨hlen, rfl⟩, heq⟩ := hseal
    obtain ⟨rfl, rfl⟩ : t = clock.toNat ∧
        header = Wal.header crc w.kind (satAdd w.stats.lastSequence 1) clock.toNat payload := by
      simpa [pure, Except.pure, eq_comm] using heq
    refine ⟨hle, htime, hlen, hone, ?_, rfl, rfl, rfl, rfl, rfl, rfl, rfl⟩
    have hbytes : satAdd s.bytes (headerBytes + payload.length) = s.bytes + (headerBytes + payload.length) :=
      satAdd_eq (by rw [hs.bytes]; omega)
    have hrecs : satAdd s.records 1 = s.records + 1 :=
      satAdd_eq (by rw [hs.records]; unfold headerBytes at hfit; omega)
    have htot : satAdd w.stats.bytes (headerBytes + payload.length) = w.stats.bytes + (headerBytes + payload.length) :=
      satAdd_eq hfit
    have hall : satAdd w.stats.records 1 = w.stats.records + 1 :=
      satAdd_eq (by unfold headerBytes at hfit; omega)
    refine { full := h.full, segments := ?_, files := ?_, bytes := ?_, records := ?_ }
    · rw [segmentsFit_append]
      refine ⟨ss, s.extend (satAdd w.stats.lastSequence 1) clock.toNat (headerBytes + payload.length),
        by simp only [DurableWal.account, hss, dropLast_concat], hinit, ?_⟩
      constructor
      · exact hs.start
      · simp only [Segment.extend, hone, length_append, length_singleton]; omega
      · change satAdd s.bytes _ = _
        rw [hbytes, hs.bytes, recordsSize_append, recordsSize_singleton, recordSize]
      · change satAdd s.records 1 = _
        rw [hrecs, hs.records, length_append, length_singleton]
      · intro hstamped
        obtain ⟨hcur, -⟩ := List.forall_mem_append.1 hstamped
        have hfirst := hs.first hcur
        simp only [Segment.extend, hfirst]
        cases cur with
        | nil => simp
        | cons b => simp [(hcur b mem_cons_self).ne']
    · have hlt := fun f hf => (bounds_of_mem_filesOf crc w.kind n init f hf).2 h.full
      have hrec : encodeRecords crc w.kind [⟨satAdd w.stats.lastSequence 1, clock.toNat, payload⟩] =
          header crc w.kind (satAdd w.stats.lastSequence 1) clock.toNat payload ++ payload := by
        simp [encodeRecords, encodeRecord]
      change (w.dir.write s.start _).files = filesOf crc w.kind n _
      rw [hs.start, write_last w.dir _ _ _ _ hfiles hlt, filesOf_append, filesOf, filesOf, ← hrec]
      simp [encodeRecords]
    · change satAdd w.stats.bytes _ = _
      rw [htot, h.bytes]
      simp only [recordsSize_append, recordsSize_singleton, recordSize]
      omega
    · change satAdd w.stats.records 1 = _
      rw [hall, h.records]
      simp only [length_append, length_singleton]
      omega

/-- rotation closes a non-empty last block -/
theorem rotate_stored (h : Stored crc w n init cur) (hcur : cur ≠ [])
    (hlast : w.stats.lastSequence + 1 = n + init.flatten.length + cur.length) (hseq : w.stats.lastSequence + 1 ≤ u64Max)
    (hok : w.rotate = (.ok (), w')) :
    Stored crc w' n (init ++ [cur]) [] ∧
      ∃ dir segments, w' = { w with dir := { w.dir with files := dir }, segments } := by
  obtain ⟨ss, s, -, -, -, -⟩ := h.current
  have hone : satAdd w.stats.lastSequence 1 = n + (init ++ [cur]).flatten.length := by
    rw [satAdd_eq hseq, hlast]; simp [Nat.add_assoc]
  unfold DurableWal.rotate at hok
  simp only at hok
  split at hok
  · simp at hok
  · simp only [Prod.mk.injEq, true_and] at hok
    subst hok
    refine ⟨{ full := ?_, segments := ?_, files := ?_, bytes := ?_, records := ?_ }, _, _, rfl⟩
    · intro g hg
      rcases List.mem_append.1 hg with hg | hg
      · exact h.full g hg
      · rwa [List.mem_singleton.1 hg]
    · rw [segmentsFit_append]
      refine ⟨w.segments, _, rfl, h.segments, ?_⟩
      constructor <;> simp [hone, recordsSize]
    · change w.dir.files ++ [(satAdd w.stats.lastSequence 1, [])] = filesOf crc w.kind n _
      rw [filesOf_append, ← h.files, hone]
      rfl
    · simp [h.bytes]
    · simp [h.records]

theorem remove_head (d : Dir) (kind : WalKind) (n : ℕ) (g : List WalRecord) (gs : List (List WalRecord))
    (hg : g ≠ []) (hd : d.files = filesOf crc kind n (g :: gs)) :
    (d.remove n).files = filesOf crc kind (n + g.length) gs := by
  have hlen : 0 < g.length := List.length_pos_iff.2 hg
  have hkeep : (filesOf crc kind (n + g.length) gs).filter (fun f => f.1 ≠ n) = filesOf crc kind (n + g.length) gs := by
    refine List.filter_eq_self.2 fun f hf => ?_
    have := (bounds_of_mem_filesOf crc kind _ gs f hf).1
    simp only [decide_eq_true_eq]
    omega
  rw [Dir.remove, hd, filesOf, filter_cons_of_neg (by simp), hkeep]

/-- compaction of a stored WAL succeeds and drops exactly a covered prefix of the closed blocks -/
theorem compactFrom_stored (init : List (List WalRecord)) (w : DurableWal) (n : ℕ) (cur : List WalRecord)
    (h : Stored crc w n init cur) :
    ∃ k w', w.compactFrom w.segments = (.ok (), w') ∧ Compacted crc w w' n init cur k := by
  induction init generalizing w n with
  | nil =>
    obtain ⟨ss, s, hss, hinit, -⟩ := h.current
    have hone : w.segments = [s] := by rw [hss, show ss = [] from hinit, nil_append]
    refine ⟨0, w, ?_, ?_⟩
    · rw [hone, DurableWal.compactFrom, ← hone]
      simp
    · exact { stored := by simpa using h, frame := ⟨_, _, _, _, rfl⟩, covered := .inl rfl, head := by simp }
  | cons g init ih =>
    obtain ⟨s, rest, hss, hs, hrest⟩ := h.segments
    have hg : g ≠ [] := h.full g mem_cons_self
    have hlen : 0 < g.length := List.length_pos_iff.2 hg
    obtain ⟨next, tail, rfl⟩ : ∃ next tail, rest = next :: tail := by
      cases rest with
      | cons next tail => exact ⟨next, tail, rfl⟩
      | nil =>
        obtain ⟨ss, t, ht, -⟩ := (segmentsFit_append _ init cur []).1 hrest
        simp at ht
    have hiff : w.removable s = true ↔ n + g.length ≤ w.stats.checkpointSequence + 1 := by
      simp only [DurableWal.removable, hs.records, hs.last, decide_eq_true_eq]
      omega
    by_cases hrem : w.removable s = true
    · set w1 : DurableWal := { w with
        dir := w.dir.remove s.start
        segments := next :: tail
        stats := { w.stats with
          bytes := w.stats.bytes - s.bytes, records := w.stats.records - s.records } } with hw1
      have h1 : Stored crc w1 (n + g.length) init cur :=
        { full := fun g hg => h.full g (mem_cons_of_mem _ hg)
          segments := hrest
          files := by
            change (w.dir.remove s.start).files = _
            rw [hs.start]
            exact remove_head w.dir w.kind n g (init ++ [cur]) hg h.files
          bytes := by
            change w.stats.bytes - s.bytes = _
            rw [h.bytes, hs.bytes, flatten_cons, append_assoc, recordsSize_append]
            omega
          records := by
            change w.stats.records - s.records = _
            rw [h.records, hs.records, flatten_cons, append_assoc, length_append]
            omega }
      obtain ⟨k, w', hk, hc⟩ := ih w1 (n + g.length) h1
      refine ⟨k + 1, w', ?_, ?_⟩
      · have hfile : w.dir.file n = some (encodeRecords crc w.kind g) := by simp [Dir.file, h.files, filesOf]
        rw [hss, DurableWal.compactFrom, if_pos hrem, hs.start, hfile]
        simpa [hw1, hs.start] using hk
      · have hsum : n + ((g :: init).take (k + 1)).flatten.length = n + g.length + (init.take k).flatten.length := by
          simp [Nat.add_assoc]
        obtain ⟨files, segments, bytes, records, rfl⟩ := hc.frame
        refine { stored := by rw [hsum]; exact hc.stored, frame := ⟨_, _, _, _, rfl⟩, covered := .inr ?_, head := ?_ }
        · rw [hsum]
          rcases hc.covered with rfl | hcov
          · simpa using hiff.1 hrem
          · exact hcov
        · intro b rest hb
          injection hb with hb
          subst hb
          exact ⟨fun _ => hiff.1 hrem, fun _ => Nat.succ_pos k⟩
    · refine ⟨0, w, ?_, ?_⟩
      · rw [hss, DurableWal.compactFrom, if_neg hrem, ← hss]
      · refine { stored := by simpa using h, frame := ⟨_, _, _, _, rfl⟩, covered := .inl rfl, head := ?_ }
        intro b rest hb
        injection hb with hb
        subst hb
        exact ⟨fun h => absurd h (lt_irrefl 0), fun h => absurd (hiff.2 h) hrem⟩

/-! ## Reading the blocks -/

/-- the time of the last record, `time` if there is none -/
def lastTime (time : ℕ) (rs : List WalRecord) : ℕ := (rs.getLast?.map WalRecord.recordedAtUnixMs).getD time

theorem chain_append (limits : WalLimits) (n time : ℕ) (rs ts : List WalRecord) :
    Chain limits n time (rs ++ ts) ↔
      Chain limits n time rs ∧ Chain limits (n + rs.length) (lastTime time rs) ts := by
  induction rs generalizing n time with
  | nil => simp [Chain, lastTime]
  | cons r rs ih =>
    have hlast : lastTime time (r :: rs) = lastTime r.recordedAtUnixMs rs := by
      cases h : rs.getLast? <;> simp [lastTime, getLast?_cons, h]
    simp only [cons_append, Chain, ih, hlast, length_cons, and_assoc, Nat.add_assoc, Nat.add_comm 1]

section

variable {kind : WalKind} {limits : WalLimits} {d : Dir} {time checkpoint : ℕ} {g rs : List WalRecord}
  {gs : List (List WalRecord)} {ss : List Segment}

theorem Readable.append {ts : List WalRecord} (h : Readable limits n time (rs ++ ts)) :
    Readable limits n time rs ∧ Readable limits (n + rs.length) (lastTime time rs) ts := by
  obtain ⟨hrs, hts⟩ := (chain_append limits n time rs ts).1 h.chain
  obtain ⟨hstamped, htail⟩ := List.forall_mem_append.1 h.stamped
  have hfits := h.fits
  rw [length_append] at hfits
  exact ⟨⟨hrs, hstamped, by omega⟩, hts, htail, by omega⟩

variable (crc) in
/-- the file of every block is found under its start -/
def Located (d : Dir) (kind : WalKind) (n : ℕ) (gs : List (List WalRecord)) : Prop :=
  ∀ pre g post, gs = pre ++ g :: post → d.file (n + pre.flatten.length) = some (encodeRecords crc kind g)

theorem Located.head (h : Located crc d kind n (g :: gs)) : d.file n = some (encodeRecords crc kind g) := by
  simpa using h [] g gs rfl

theorem Located.tail (h : Located crc d kind n (g :: gs)) : Located crc d kind (n + g.length) gs := by
  intro pre b post hgs
  have := h (g :: pre) b post (by rw [hgs, cons_append])
  rwa [flatten_cons, length_append, ← Nat.add_assoc] at this

theorem Stored.located (h : Stored crc w n init cur) : Located crc w.dir w.kind n (init ++ [cur]) := by
  intro pre g post hgs
  have hpre : ∀ b ∈ pre, b ≠ [] := by
    rcases eq_nil_or_concat post with rfl | ⟨post, c, rfl⟩
    · obtain ⟨rfl, -⟩ := append_inj' hgs rfl
      exact h.full
    · rw [concat_eq_append, ← cons_append, ← append_assoc] at hgs
      obtain ⟨rfl, -⟩ := append_inj' hgs rfl
      exact fun b hb => h.full b (mem_append_left _ hb)
  have hmiss : (filesOf crc w.kind n pre).lookup (n + pre.flatten.length) = none := by
    rw [lookup_eq_none_iff]
    intro f hf
    have := (bounds_of_mem_filesOf crc w.kind n pre f hf).2 hpre
    simp only [bne_iff_ne, ne_eq]
    omega
  rw [Dir.file, h.files, hgs, filesOf_append, List.lookup_append, hmiss, filesOf]
  simp

theorem chain_getElem? {i : ℕ} {r : WalRecord} (h : Chain limits n time rs) (hr : rs[i]? = some r) : r.sequence = n + i := by
  induction rs generalizing n time i with
  | nil => simp at hr
  | cons _ _ ih =>
    cases i with
    | zero =>
      cases hr
      exact h.1.sequence
    | succ => rw [ih h.2 hr]; omega

theorem chain_sequence (h : Chain limits n time rs) :
    ∀ r ∈ rs, n ≤ r.sequence ∧ r.sequence < n + rs.length := by
  intro r hr
  obtain ⟨i, hi⟩ := List.mem_iff_getElem?.1 hr
  have := (List.getElem?_eq_some_iff.1 hi).1
  rw [chain_getElem? h hi]
  omega

/-- a block that recovery and replay skip has nothing after the checkpoint -/
theorem skipped_filter (hc : Chain limits n time g) (hn : 0 < n) (h : g.length = 0 ∨ n + g.length - 1 ≤ checkpoint) :
    g.filter (fun r => checkpoint < r.sequence) = [] := by
  rw [filter_eq_nil_iff]
  intro r hr
  have := chain_sequence hc r hr
  have := length_pos_of_mem hr
  simp only [decide_eq_true_eq]
  omega

/-- behind a checkpoint are the records after it -/
theorem chain_filter (h : Chain limits 1 0 rs) (hle : checkpoint ≤ rs.length) :
    rs.filter (fun r => checkpoint < r.sequence) = rs.drop checkpoint := by
  have hsplit := take_append_drop checkpoint rs
  obtain ⟨htake, hdrop⟩ := (chain_append _ _ _ _ _).1 (hsplit ▸ h)
  rw [length_take, Nat.min_eq_left hle, Nat.add_comm] at hdrop
  conv_lhs => rw [← hsplit]
  rw [filter_append, skipped_filter htake Nat.one_pos (.inr (by rw [length_take]; omega)), nil_append]
  exact filter_eq_self.2 fun r hr => by simpa using (chain_sequence hdrop r hr).1

theorem pending_filter (hc : Chain limits n time g) (h : ¬ (g.length = 0 ∨ n + g.length - 1 ≤ checkpoint)) :
    g.filter (fun r => checkpoint < r.sequence) ≠ [] := by
  rcases eq_nil_or_concat g with rfl | ⟨g, r, rfl⟩
  · simp at h
  · rw [concat_eq_append] at hc h ⊢
    have hr := ((chain_append limits n time g [r]).1 hc).2.1.sequence
    simp only [length_append, length_singleton] at h
    rw [filter_append, filter_cons_of_pos (by simp only [decide_eq_true_eq]; omega)]
    simp

/-- the retention cursor is the time of the first record after the checkpoint -/
theorem oldestPendingTimestamp_blocks (d : Dir) (checkpoint : ℕ) (gs : List (List WalRecord)) (ss : List Segment)
    (n time : ℕ) (hn : 0 < n) (hs : SegmentsFit n gs ss) (hl : Located crc d kind n gs)
    (h : Readable limits n time gs.flatten) :
    oldestPendingTimestamp d kind limits checkpoint ss =
      .ok ((gs.flatten.filter (fun r => checkpoint < r.sequence)).head?.map WalRecord.recordedAtUnixMs) := by
  induction gs generalizing ss n time with
  | nil =>
    obtain rfl : ss = [] := hs
    rfl
  | cons g _ ih =>
    obtain ⟨s, rest, rfl, hfit, hrest⟩ := hs
    rw [flatten_cons] at h
    obtain ⟨hg, hgs⟩ := h.append
    rw [oldestPendingTimestamp, hfit.records, hfit.last, hfit.start, flatten_cons, filter_append]
    by_cases hskip : g.length = 0 ∨ n + g.length - 1 ≤ checkpoint
    · rw [if_pos hskip, ih rest _ _ (by omega) hrest hl.tail hgs, skipped_filter hg.chain hn hskip, nil_append]
    · rw [if_neg hskip]
      obtain ⟨r, tl, hf⟩ := exists_cons_of_ne_nil (pending_filter hg.chain hskip)
      rw [hf, cons_append, head?_cons, Option.map_some]
      by_cases hfirst : checkpoint < n
      · cases g with
        | nil => simp at hskip
        | cons b g =>
          have hb : checkpoint < b.sequence := by rw [hg.chain.1.sequence]; exact hfirst
          rw [filter_cons_of_pos (by simpa using hb)] at hf
          obtain rfl := (List.cons.inj hf).1
          rw [if_pos hfirst, hfit.first hg.stamped]
          rfl
      · have hfind := firstTimestampAfter_encode crc kind limits checkpoint g n time hg
        rw [← head?_filter, hf] at hfind
        rw [if_neg hfirst, hl.head]
        exact hfind

def payloadBytes (rs : List WalRecord) : ℕ := (rs.map fun r => r.payload.length).sum

/-- under large enough bounds one segment's records after the checkpoint are all taken -/
theorem takeRecords_all (checkpoint maxRecords maxBytes : ℕ) (rs res : List WalRecord) (bytes : ℕ)
    (hm : res.length + (rs.filter fun r => checkpoint < r.sequence).length ≤ maxRecords)
    (hb : bytes + payloadBytes (rs.filter fun r => checkpoint < r.sequence) ≤ maxBytes) :
    ∃ b, b ≤ bytes + payloadBytes (rs.filter fun r => checkpoint < r.sequence) ∧
      DurableWal.takeRecords checkpoint maxRecords maxBytes rs (res, bytes) =
        ((res ++ rs.filter (fun r => checkpoint < r.sequence), b), false) := by
  induction rs generalizing res bytes with
  | nil => exact ⟨bytes, Nat.le_add_right _ _, by simp [DurableWal.takeRecords]⟩
  | cons r _ ih =>
    rw [DurableWal.takeRecords]
    by_cases hr : r.sequence ≤ checkpoint
    · rw [filter_cons_of_neg (by simpa using hr)] at hm hb ⊢
      rw [if_pos hr]
      exact ih res bytes hm hb
    · rw [filter_cons_of_pos (by simpa using hr)] at hm hb ⊢
      simp only [length_cons, payloadBytes, map_cons, sum_cons] at hm hb
      have hsat := satAdd_le_add bytes r.payload.length
      rw [if_neg hr, if_neg (by omega)]
      obtain ⟨b, hle, heq⟩ := ih (res ++ [r]) (satAdd bytes r.payload.length)
        (by simp only [length_append, length_singleton]; omega) (by simp only [payloadBytes]; omega)
      refine ⟨b, ?_, by rw [heq, append_assoc, singleton_append]⟩
      simp only [payloadBytes, map_cons, sum_cons] at hle ⊢
      omega

theorem replaySegments_blocks (w : DurableWal) (maxRecords maxBytes : ℕ) (gs : List (List WalRecord))
    (ss : List Segment) (n time bytes : ℕ) (res : List WalRecord) (hn : 0 < n) (hs : SegmentsFit n gs ss)
    (hl : Located crc w.dir w.kind n gs) (h : Readable w.limits n time gs.flatten)
    (hm : res.length + (gs.flatten.filter fun r => w.stats.checkpointSequence < r.sequence).length ≤ maxRecords)
    (hb : bytes + payloadBytes (gs.flatten.filter fun r => w.stats.checkpointSequence < r.sequence) ≤ maxBytes) :
    w.replaySegments crc maxRecords maxBytes ss (res, bytes) =
      .ok (res ++ gs.flatten.filter fun r => w.stats.checkpointSequence < r.sequence) := by
  induction gs generalizing ss n time bytes res with
  | nil =>
    obtain rfl : ss = [] := hs
    simp [DurableWal.replaySegments]
  | cons g _ ih =>
    obtain ⟨s, rest, rfl, hfit, hrest⟩ := hs
    rw [flatten_cons] at h hm hb
    rw [filter_append] at hm hb
    simp only [length_append, payloadBytes, map_append, sum_append] at hm hb
    obtain ⟨hg, hgs⟩ := h.append
    rw [DurableWal.replaySegments, hfit.records, hfit.last, hfit.start, flatten_cons, filter_append]
    by_cases hskip : g.length = 0 ∨ n + g.length - 1 ≤ w.stats.checkpointSequence
    · rw [skipped_filter hg.chain hn hskip] at hm hb ⊢
      rw [if_pos hskip, nil_append]
      exact ih rest _ _ bytes res (by omega) hrest hl.tail hgs (by simpa using hm)
        (by simpa [payloadBytes] using hb)
    · have hread : readSegmentRecords crc w.kind w.limits s (encodeRecords crc w.kind g) = .ok g := by
        have := readRecords_encode crc w.kind w.limits g [] n time hg
        rwa [append_nil, ← hfit.records, ← hfit.start] at this
      obtain ⟨b, hble, htake⟩ := takeRecords_all w.stats.checkpointSequence maxRecords maxBytes g res bytes
        (by omega) (by simp only [payloadBytes]; omega)
      rw [if_neg hskip, hl.head]
      simp only [hread, ok_bind, htake]
      simp only [payloadBytes] at hble
      rw [← append_assoc]
      exact ih rest _ _ b _ (by omega) hrest hl.tail hgs (by simp only [length_append]; omega)
        (by simp only [payloadBytes]; omega)

/-! ### A stored WAL -/

section

variable {pre : List WalRecord} (h : Stored crc w (pre.length + 1) init cur)
  (hread : Readable w.limits 1 0 (pre ++ (init ++ [cur]).flatten)) (hcov : pre.length ≤ w.stats.checkpointSequence)

include hread hcov in
/-- nothing of the removed blocks is pending -/
theorem covered_filter : ((pre ++ (init ++ [cur]).flatten).filter fun r => w.stats.checkpointSequence < r.sequence) =
    (init ++ [cur]).flatten.filter fun r => w.stats.checkpointSequence < r.sequence := by
  rw [filter_append, skipped_filter hread.append.1.chain Nat.one_pos (.inr (by omega)), nil_append]

include h hread hcov

theorem Stored.oldest : oldestPendingTimestamp w.dir w.kind w.limits w.stats.checkpointSequence w.segments =
    .ok (((pre ++ (init ++ [cur]).flatten).filter fun r => w.stats.checkpointSequence < r.sequence).head?.map
      WalRecord.recordedAtUnixMs) := by
  rw [covered_filter hread hcov]
  exact oldestPendingTimestamp_blocks w.dir _ _ _ _ _ (Nat.succ_pos _) h.segments h.located
    (Nat.add_comm 1 pre.length ▸ hread.append.2)

/-- **Replay** gives exactly the stored records after the checkpoint, in order. -/
theorem Stored.replay {maxRecords maxBytes : ℕ} {clock : ℤ} {pending : List WalRecord}
    (hpending : pending = (pre ++ (init ++ [cur]).flatten).filter fun r => w.stats.checkpointSequence < r.sequence)
    (hretained : w.checkRetention clock = .ok ()) (hrecords : 0 < maxRecords) (hbytes : 0 < maxBytes)
    (hm : pending.length ≤ maxRecords) (hb : payloadBytes pending ≤ maxBytes) :
    w.replay crc maxRecords maxBytes clock = .ok pending := by
  rw [covered_filter hread hcov] at hpending
  rw [DurableWal.replay, hretained, ok_bind, refuse_of_not (by omega), ok_bind,
    replaySegments_blocks w maxRecords maxBytes (init ++ [cur]) w.segments (pre.length + 1) _ 0 [] (Nat.succ_pos _)
      h.segments h.located (Nat.add_comm 1 pre.length ▸ hread.append.2)
      (by rw [← hpending, length_nil, Nat.zero_add]; exact hm) (by rw [← hpending, Nat.zero_add]; exact hb),
    nil_append, ← hpending]

end

end

end MasiEdge.Wal
