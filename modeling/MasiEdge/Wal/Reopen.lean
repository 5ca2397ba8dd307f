/-
Closing a writer session and opening its directory again.

- `openWal_files`: recovery of a directory that holds consecutive record blocks from sequence one on, with positive
  times: `open` finds every record again.
- `session_refines`: a session moves an append-only log with a checkpoint as it moves the WAL.
- `reopen_faithful_iff`: the reopened WAL continues the session exactly when the session kept its first segment and no
  record was stamped with time zero.

The condition is real: `compact` removes the first segment file, and `open` insists that the first file it finds starts at
sequence one (`reopen_after_compaction_fails`).
-/
import MasiEdge.Wal.Session

namespace MasiEdge.Wal

open Codec Run List

section

variable (crc : Bytes → UInt32) {kind : WalKind} {limits : WalLimits} {d : Dir} {n time checkpoint : ℕ}
  {g dropped cur rs : List WalRecord} {gs init : List (List WalRecord)} {r : WalRecord} {calls : List Call} {w w' : DurableWal}

/-! ## Recovery of record blocks -/

/-- the descriptors recovery builds for consecutive blocks -/
def segmentsOf : ℕ → List (List WalRecord) → List Segment
  | _, [] => []
  | n, g :: gs => segmentOf n g :: segmentsOf (n + g.length) gs

theorem segmentsOf_fit (n : ℕ) (gs : List (List WalRecord)) : SegmentsFit n gs (segmentsOf n gs) := by
  induction gs generalizing n with
  | nil => rfl
  | cons _ _ ih => exact ⟨_, _, rfl, ⟨rfl, rfl, rfl, rfl, fun _ => rfl⟩, ih _⟩

/-- scanning the files of consecutive blocks recovers all of them -/
theorem openLoop_filesOf (gs : List (List WalRecord)) (st : Recovered) (hn : 0 < st.expected)
    (h : Readable limits st.expected st.lastRecordedAt gs.flatten) (hb : st.bytes + recordsSize gs.flatten ≤ u64Max)
    (hr : st.records + gs.flatten.length ≤ u64Max) :
    openLoop crc kind limits (filesOf crc kind st.expected gs) st = .ok
      { segments := st.segments ++ segmentsOf st.expected gs
        files := st.files ++ filesOf crc kind st.expected gs
        expected := st.expected + gs.flatten.length
        bytes := st.bytes + recordsSize gs.flatten
        records := st.records + gs.flatten.length
        lastRecordedAt := lastTime st.lastRecordedAt gs.flatten } := by
  induction gs generalizing st with
  | nil => simp [filesOf, openLoop, segmentsOf, recordsSize, lastTime]
  | cons g gs ih =>
    rw [flatten_cons] at h hb hr
    rw [recordsSize_append] at hb
    rw [length_append] at hr
    obtain ⟨hg, hgs⟩ := h.append
    have hfits := hg.fits
    have hscan := scanSegment_encode crc kind st.expected (filesOf crc kind (st.expected + g.length) gs).isEmpty limits g
      st.lastRecordedAt hg (by omega)
    have hclock : ¬ (0 < (segmentOf st.expected g).records ∧
        (segmentOf st.expected g).firstRecordedAt < st.lastRecordedAt) := by
      cases g with
      | nil => simp [segmentOf]
      | cons => simpa [segmentOf] using hg.chain.1.notBefore
    have hfile : (encodeRecords crc kind g).take (segmentOf st.expected g).bytes = encodeRecords crc kind g :=
      take_of_length_le (by simp [segmentOf])
    have hnext : satAdd (segmentOf st.expected g).last 1 = st.expected + g.length := by
      rw [satAdd_eq (by simp only [segmentOf]; omega)]; simp only [segmentOf]; omega
    have hbytes : satAdd st.bytes (segmentOf st.expected g).bytes = st.bytes + recordsSize g :=
      satAdd_eq (by simp only [segmentOf]; omega)
    have hrecs : satAdd st.records (segmentOf st.expected g).records = st.records + g.length :=
      satAdd_eq (by simp only [segmentOf]; omega)
    have htime : (if 0 < (segmentOf st.expected g).records then (segmentOf st.expected g).lastRecordedAt
        else st.lastRecordedAt) = lastTime st.lastRecordedAt g := by
      cases g with
      | nil => simp [segmentOf, lastTime]
      | cons => simp [segmentOf, lastTime, getLast?_cons]
    have hlast : lastTime (lastTime st.lastRecordedAt g) gs.flatten = lastTime st.lastRecordedAt (g ++ gs.flatten) := by
      cases hl : gs.flatten.getLast? <;> simp [lastTime, getLast?_append, hl]
    rw [filesOf, openLoop, refuse_of_not (by simp), ok_bind, hscan, ok_bind, refuse_of_not hclock, ok_bind, hfile,
      hnext, hbytes, hrecs, htime]
    have hrest := ih
      ⟨st.segments ++ [segmentOf st.expected g], st.files ++ [(st.expected, encodeRecords crc kind g)],
        st.expected + g.length, st.bytes + recordsSize g, st.records + g.length, lastTime st.lastRecordedAt g⟩
      (by simp only; omega) hgs (by simp only; omega) (by simp only; omega)
    refine hrest.trans ?_
    simp only [segmentsOf, flatten_cons, length_append, recordsSize_append, hlast, append_assoc,
      singleton_append, Nat.add_assoc]

variable {crc}

/-! ## Opening -/

theorem filesOf_sorted (n : ℕ) (gs : List (List WalRecord)) :
    (filesOf crc kind n gs).mergeSort (fun a b => decide (a.1 ≤ b.1)) = filesOf crc kind n gs := by
  refine mergeSort_of_pairwise ?_
  induction gs generalizing n with
  | nil => exact List.Pairwise.nil
  | cons _ gs ih =>
    refine List.Pairwise.cons (fun f hf => ?_) (ih _)
    have := (bounds_of_mem_filesOf crc kind _ gs f hf).1
    simp only [decide_eq_true_eq]
    omega

variable (crc) in
/-- the WAL has the records `rs`, in blocks, without a covered prefix of them -/
structure Serves (w : DurableWal) (limits : WalLimits) (rs : List WalRecord) (checkpoint : ℕ)
    (dropped : List WalRecord) (init : List (List WalRecord)) (cur : List WalRecord) : Prop where
  split : rs = dropped ++ (init ++ [cur]).flatten
  stored : Stored crc w (dropped.length + 1) init cur
  limits_eq : w.limits = limits
  last : w.stats.lastSequence = rs.length
  checkpoint_eq : w.stats.checkpointSequence = checkpoint
  oldest : w.oldestPending = (rs.filter fun r => checkpoint < r.sequence).head?.map WalRecord.recordedAtUnixMs
  time : w.lastRecordedAt = lastTime 0 rs
  covered : dropped.length ≤ checkpoint

/-- **Recovery.** A directory that holds consecutive blocks from sequence one on opens, and nothing after the checkpoint
is lost. -/
theorem openWal_files (hv : validateLimits limits = .ok ()) (hlock : d.locked = false)
    (hfiles : d.files = filesOf crc kind 1 (init ++ [cur])) (hfull : ∀ g ∈ init, g ≠ [])
    (hck : readCheckpoint crc kind d.checkpoint = .ok checkpoint) (hc : Chain limits 1 0 (init ++ [cur]).flatten)
    (hp : ∀ r ∈ (init ++ [cur]).flatten, 0 < r.recordedAtUnixMs) (hle : checkpoint ≤ (init ++ [cur]).flatten.length)
    (hfit : recordsSize (init ++ [cur]).flatten < u64Max)
    (hbytes : recordsSize (init ++ [cur]).flatten ≤ limits.maxBytes)
    (hrecords : (init ++ [cur]).flatten.length ≤ limits.maxRecords) :
    ∃ dropped init' w, openWal crc d kind limits = .ok w ∧
      Serves crc w limits (init ++ [cur]).flatten checkpoint dropped init' cur := by
  set rs := (init ++ [cur]).flatten with hrs
  have hlen := length_le_recordsSize rs
  have hread : Readable limits 1 0 rs := ⟨hc, hp, by omega⟩
  have hloop := @openLoop_filesOf crc kind limits (init ++ [cur]) ⟨[], [], 1, 0, 0, 0⟩ Nat.one_pos hread
    (by simp only [← hrs]; omega) (by simp only [← hrs]; omega)
  simp only [nil_append, Nat.zero_add, ← hrs] at hloop
  set w0 : DurableWal :=
    { dir := { d with files := filesOf crc kind 1 (init ++ [cur]), locked := true }, kind, limits
      segments := segmentsOf 1 (init ++ [cur])
      stats := ⟨recordsSize rs, rs.length, 1 + rs.length - 1, checkpoint⟩
      oldestPending := (rs.filter fun r => checkpoint < r.sequence).head?.map WalRecord.recordedAtUnixMs
      lastRecordedAt := lastTime 0 rs } with hw0
  have hst : Stored crc w0 1 init cur :=
    { full := hfull, segments := segmentsOf_fit _ _, files := rfl
      bytes := by simp [hw0, hrs], records := by simp [hw0, hrs] }
  obtain ⟨k, w, hk, hcomp⟩ := compactFrom_stored init w0 1 cur hst
  have hold := @Stored.oldest crc w0 init cur [] hst hread (Nat.zero_le _)
  have hne : segmentsOf 1 (init ++ [cur]) ≠ [] := by
    intro h
    have := segmentsOf_fit 1 (init ++ [cur])
    rw [h, segmentsFit_append] at this
    obtain ⟨ss, s, hss, -⟩ := this
    simp at hss
  refine ⟨(init.take k).flatten, init.drop k, w, ?_, ?_⟩
  · have hcompact : w0.compact = (.ok (), w) := hk
    have hlast : ¬ 1 + rs.length - 1 < checkpoint := by omega
    have hroom : ¬ (limits.maxBytes < recordsSize rs ∨ limits.maxRecords < rs.length) := by omega
    simp only [openWal, hv, hlock, hck, hfiles, filesOf_sorted, hloop, ok_bind, if_neg hne, refuse_of_not hlast,
      refuse_of_not hroom, Bool.false_eq_true, refuse_of_not not_false]
    simp only [nil_append, ← hrs, hw0] at hold
    simp only [hold, ok_bind]
    rw [← hw0, hcompact]
    rfl
  · obtain ⟨files, segments, bytes, records, hframe⟩ := hcomp.frame
    have hcov := hcomp.covered
    have hst' := hcomp.stored
    subst hframe
    refine { split := ?_, stored := Nat.add_comm 1 _ ▸ hst', limits_eq := rfl, last := ?_, checkpoint_eq := rfl,
             oldest := rfl, time := rfl, covered := ?_ }
    · rw [← flatten_append, ← append_assoc, take_append_drop]
    · change 1 + rs.length - 1 = _
      omega
    · change k = 0 ∨ _ ≤ checkpoint + 1 at hcov
      rcases hcov with rfl | hcov
      · simp
      · omega

/-! ## What cannot be opened -/

/-- `open` expects the first file to start at sequence one -/
theorem openWal_starts_at_one (hfiles : d.files = filesOf crc kind n (g :: gs))
    (h : openWal crc d kind limits = .ok w) :
    n = 1 ∧ ∃ s, scanSegment crc kind 1 (filesOf crc kind (n + g.length) gs).isEmpty limits (encodeRecords crc kind g) =
      .ok s := by
  simp only [openWal, hfiles, filesOf_sorted, bind_ok] at h
  obtain ⟨-, -, -, -, checkpoint, -, st, hloop, -⟩ := h
  simp only [filesOf, openLoop, bind_ok, refuse_ok, not_not] at hloop
  obtain ⟨-, hn, s, hscan, -⟩ := hloop
  exact ⟨hn, s, hscan⟩

/-- a record stamped with time zero is written, but its segment cannot be scanned -/
theorem scanSegment_time_zero {fin : Bool} {s : Segment} (hr : r.recordedAtUnixMs = 0) :
    scanSegment crc kind n fin limits (encodeRecords crc kind (r :: rs)) ≠ .ok s := by
  intro h
  have hsize := recordSize_pos r
  have hlen : (encodeRecords crc kind (r :: rs)).length = recordSize r + recordsSize rs := by simp [recordsSize]
  have hhdr : ¬ (encodeRecords crc kind (r :: rs)).length < headerBytes := by rw [hlen, recordSize]; omega
  have hne : encodeRecords crc kind (r :: rs) ≠ [] := by
    intro hnil
    rw [hnil] at hlen
    simp at hlen
    omega
  obtain ⟨fuel, hfuel⟩ : ∃ f, (encodeRecords crc kind (r :: rs)).length = f + 1 := ⟨_, (Nat.succ_pred (by omega)).symm⟩
  unfold scanSegment at h
  rw [hfuel] at h
  simp only [scanLoop, if_neg hne, if_neg hhdr, bind_ok] at h
  obtain ⟨st, ⟨-, -, t, ht, -⟩, -⟩ := h
  rw [encodeRecords_cons, encodeRecord_take, hr, headerRecordedAt, (header_numbers ..).2.1, fromBe_toBe_u64 (by simp)] at ht
  simp [refuse] at ht

/-! ## The reopened WAL continues the session -/

/-- the clock is inside the retention age: not behind the last record, and no pending record is too old -/
structure InRetention (limits : WalLimits) (rs pending : List WalRecord) (clock : ℤ) : Prop where
  nonneg : 0 ≤ clock
  fits : clock.toNat ≤ u64Max
  notBefore : lastTime 0 rs ≤ clock.toNat
  age : ∀ r ∈ pending, clock.toNat ≤ r.recordedAtUnixMs + limits.maxAgeSeconds * 1000

variable (crc) in
/-- `w'` continues the session `calls` that ended as `w` -/
structure Continues (limits : WalLimits) (calls : List Call) (w w' : DurableWal) : Prop where
  last : w'.stats.lastSequence = w.stats.lastSequence
  checkpoint : w'.stats.checkpointSequence = w.stats.checkpointSequence
  replays : ∀ pending maxRecords maxBytes clock,
    pending = (appended calls).filter (fun r => w.stats.checkpointSequence < r.sequence) →
    InRetention limits (appended calls) pending clock → 0 < maxRecords → 0 < maxBytes →
    pending.length ≤ maxRecords → payloadBytes pending ≤ maxBytes →
    w'.replay crc maxRecords maxBytes clock = .ok pending
  next : ∀ payload clock recordClock fault sequence w'',
    w'.append crc payload clock recordClock fault = (.ok sequence, w'') → sequence = w.stats.lastSequence + 1

variable (crc) in
/-- closing the WAL and opening its directory again succeeds and continues the session -/
def ReopenFaithful (kind : WalKind) (limits : WalLimits) (calls : List Call) (w : DurableWal) : Prop :=
  ∃ w', openWal crc w.close kind limits = .ok w' ∧ Continues crc limits calls w w'

theorem chain_time_le (h : Chain limits n time rs) (hr : r ∈ rs) :
    time ≤ r.recordedAtUnixMs := by
  induction rs generalizing n time with
  | nil => simp at hr
  | cons _ _ ih =>
    rcases List.mem_cons.1 hr with rfl | hr
    · exact h.1.notBefore
    · exact h.1.notBefore.trans (ih h.2 hr)

/-- the first record's time bounds all times from below -/
theorem chain_head {b : WalRecord} (h : Chain limits n time (b :: rs)) (hr : r ∈ b :: rs) :
    b.recordedAtUnixMs ≤ r.recordedAtUnixMs := by
  rcases List.mem_cons.1 hr with rfl | hr
  · exact le_refl _
  · exact chain_time_le h.2 hr

theorem checkRetention_of_inRetention {pending : List WalRecord} {clock : ℤ}
    (hv : validateLimits limits = .ok ()) (hl : w'.limits = limits) (ht : w'.lastRecordedAt = lastTime 0 rs)
    (ho : w'.oldestPending = pending.head?.map WalRecord.recordedAtUnixMs) (h : InRetention limits rs pending clock) :
    w'.checkRetention clock = .ok () := by
  have hnow : unixMs clock = .ok clock.toNat := (unixMs_ok _ _).2 ⟨h.nonneg, h.fits, rfl⟩
  have hage : limits.maxAgeSeconds * 1000 ≤ u64Max := by
    simp only [validateLimits, refuse_ok] at hv
    unfold u64Max
    omega
  rw [DurableWal.checkRetention, hnow, ok_bind, refuse_of_not (by rw [ht]; exact not_lt.2 h.notBefore), ok_bind]
  cases pending with
  | nil => simp [ho]
  | cons r =>
    have := h.age r mem_cons_self
    simp only [ho, head?_cons, Option.map_some, hl, Nat.min_eq_left hage]
    exact refuse_of_not (by omega)

theorem Serves.continues {dropped' : List WalRecord} {init' : List (List WalRecord)}
    (hr : Serves crc w' limits (appended calls) (checkpointOf calls) dropped' init' cur)
    (h : SessionInv crc kind limits calls w dropped init cur) (hv : validateLimits limits = .ok ())
    (hp : ∀ r ∈ appended calls, 0 < r.recordedAtUnixMs) (hfit : recordsSize (appended calls) < u64Max) :
    Continues crc limits calls w w' := by
  have hlen := length_le_recordsSize (appended calls)
  have hread : Readable limits 1 0 (appended calls) := ⟨h.chain, hp, by omega⟩
  rw [hr.split] at hread
  refine { last := hr.last.trans h.last.symm, checkpoint := hr.checkpoint_eq.trans h.checkpoint.symm, replays := ?_,
           next := ?_ }
  · rintro pending maxRecords maxBytes clock hpend hret h1 h2 hm hb
    rw [h.checkpoint] at hpend
    have hretention := checkRetention_of_inRetention hv hr.limits_eq hr.time (by rw [hr.oldest, hpend]) hret
    exact hr.stored.replay (hr.limits_eq ▸ hread) (by rw [hr.checkpoint_eq]; exact hr.covered)
      (by rw [hr.checkpoint_eq, ← hr.split]; exact hpend) hretention h1 h2 hm hb
  · intro payload clock recordClock fault sequence w'' happ
    rw [DurableWal.append_sequence crc happ, DurableWal.nextSequence, hr.last, h.last]
    exact satAdd_eq (by omega)

/-- behind the checkpoint is what is pending in the log -/
theorem chain_pending {l : Log Bytes} (h : Chain limits 1 0 rs) (hentries : l.entries = rs.map WalRecord.payload) :
    (rs.filter fun r => l.checkpoint < r.sequence).map (fun r => (r.sequence, r.payload)) = l.pending := by
  rw [chain_filter h (by simpa [hentries] using l.inRange), Log.pending, hentries]
  apply ext_getElem?
  intro i
  simp only [getElem?_map, getElem?_mapIdx, getElem?_drop]
  cases hr : rs[l.checkpoint + i]? with
  | none => rfl
  | some r => simp [chain_getElem? h hr, Nat.add_comm]

/-- **A session refines the abstract log.** The calls of a session move the log as they move the WAL: both have the same
last sequence and checkpoint, the records behind the checkpoint are what is pending in the log, and if no record carries
time zero the WAL replays them. -/
theorem session_refines (hs : session crc kind limits calls = .ok w) (hfit : recordsSize (appended calls) < u64Max) :
    ∃ l, logOf calls = some l ∧ w.stats.lastSequence = l.lastSequence ∧ w.stats.checkpointSequence = l.checkpoint ∧
      ((appended calls).filter fun r => l.checkpoint < r.sequence).map (fun r => (r.sequence, r.payload)) = l.pending ∧
      ((∀ r ∈ appended calls, 0 < r.recordedAtUnixMs) → Continues crc limits calls w w) := by
  obtain ⟨hv, dropped, init, cur, hinv⟩ := session_inv hs hfit.le
  obtain ⟨l, hlog, hentries, hcheckpoint⟩ := hinv.log
  refine ⟨l, hlog, ?_, hinv.checkpoint.trans hcheckpoint.symm, chain_pending hinv.chain hentries, fun hp => ?_⟩
  · rw [hinv.last, Log.lastSequence, hentries, length_map]
  · have hserves : Serves crc w limits (appended calls) (checkpointOf calls) dropped init cur :=
      { hinv with split := by simp [hinv.split], checkpoint_eq := hinv.checkpoint, oldest := hinv.oldest hp hfit }
    exact hserves.continues hinv hv hp hfit

/-- **Reopening a session.** After any session of successful appends and checkpoints, closing the WAL and opening it again
succeeds and continues the session if and only if no checkpoint covered the whole first segment once a second one existed,
and no record carries time zero. -/
theorem reopen_faithful_iff (hs : session crc kind limits calls = .ok w)
    (hfit : recordsSize (appended calls) < u64Max) :
    ReopenFaithful crc kind limits calls w ↔
      KeepsFirstSegment limits calls ∧ ∀ r ∈ appended calls, 0 < r.recordedAtUnixMs := by
  obtain ⟨hv, dropped, init, cur, hinv⟩ := session_inv hs hfit.le
  have hfiles : w.close.files = filesOf crc kind (dropped.length + 1) (init ++ [cur]) := by
    rw [← hinv.kind_eq]; exact hinv.stored.files
  constructor
  · rintro ⟨w', hopen, -⟩
    obtain ⟨g, gs, hgs⟩ := exists_cons_of_ne_nil (append_ne_nil_of_right_ne_nil init (cons_ne_nil cur []))
    rw [hgs] at hfiles
    obtain ⟨hone, s, hscan⟩ := openWal_starts_at_one hfiles hopen
    have hd : dropped = [] := List.length_eq_zero_iff.1 (by omega)
    refine ⟨hinv.keeps.1 hd, ?_⟩
    -- a time zero anywhere means time zero first, and the first record heads the first file
    intro r hr
    rw [Nat.pos_iff_ne_zero]
    intro hzero
    have hflat : appended calls = g ++ gs.flatten := by
      rw [hinv.split, hd, ← flatten_cons, ← hgs]; simp
    cases g with
    | cons =>
      have hchain := hinv.chain
      rw [hflat, cons_append] at hchain hr
      have hb := chain_head hchain hr
      exact scanSegment_time_zero (Nat.le_zero.1 (hzero ▸ hb)) hscan
    | nil =>
      cases init with
      | nil =>
        obtain ⟨rfl, rfl⟩ := List.cons.inj hgs
        rw [hflat] at hr
        simp at hr
      | cons b => exact hinv.stored.full b mem_cons_self (List.cons.inj hgs).1
  · rintro ⟨hkeep, hp⟩
    have hd := hinv.keeps.2 hkeep
    subst hd
    have hrs : (init ++ [cur]).flatten = appended calls := by rw [hinv.split]; simp
    have hck : readCheckpoint crc kind w.close.checkpoint = .ok (checkpointOf calls) := hinv.file
    obtain ⟨_, _, w', hopen, hre⟩ := openWal_files (d := w.close) hv rfl hfiles hinv.stored.full hck
      (by rw [hrs]; exact hinv.chain) (by rw [hrs]; exact hp) (by rw [hrs]; exact hinv.inRange) (by rw [hrs]; exact hfit)
      (by rw [hrs, hinv.split]; exact hinv.stored.bytes ▸ hinv.bytes_le)
      (by rw [hrs, hinv.split]; exact hinv.stored.records ▸ hinv.records_le)
    rw [hrs] at hre
    exact ⟨w', hopen, hre.continues hinv hv hp hfit⟩

end

/-! ## Both sides of the condition -/

/-- segments of two small records -/
def smallLimits : WalLimits := ⟨1000, 10, 80, 4, 60⟩

/-- three one-byte records in two segments -/
def threeRecords : List Call := [.append [1] 5 5, .append [2] 6 6, .append [3] 7 7]

/-- a checkpoint inside the first segment leaves a directory that continues the session -/
theorem reopen_inside_first_segment : ∃ w,
    session (fun _ => 0) .source smallLimits (threeRecords ++ [.checkpoint 1 8]) = .ok w ∧
      ReopenFaithful (fun _ => 0) .source smallLimits (threeRecords ++ [.checkpoint 1 8]) w := by
  have hrun : (session (fun _ => 0) .source smallLimits (threeRecords ++ [.checkpoint 1 8])).toBool = true := by
    decide +kernel
  cases hs : session (fun _ => 0) .source smallLimits (threeRecords ++ [.checkpoint 1 8]) with
  | error => simp [hs, Except.toBool] at hrun
  | ok w =>
    refine ⟨w, rfl, (reopen_faithful_iff hs (by decide)).2 ⟨?_, by decide⟩⟩
    have hpre : KeepsFirstSegment smallLimits threeRecords := by
      change Along _ ((([] ++ [_]) ++ [_]) ++ [_])
      simp only [along_snoc]
      exact ⟨⟨⟨along_nil _, trivial⟩, trivial⟩, trivial⟩
    exact (along_snoc _ _).2 ⟨hpre, fun _ _ => by decide⟩

/-- **The first segment compacted away.** Checkpointing the whole first segment while a second one exists removes its
file; the same directory never opens again. -/
theorem reopen_after_compaction_fails : ∃ w,
    session (fun _ => 0) .source smallLimits (threeRecords ++ [.checkpoint 2 8]) = .ok w ∧
      openWal (fun _ => 0) w.close .source smallLimits = .error (.walCorrupt "segment starts at 3, expected 1") ∧
      ¬ ReopenFaithful (fun _ => 0) .source smallLimits (threeRecords ++ [.checkpoint 2 8]) w := by
  have heval : (session (fun _ => 0) .source smallLimits (threeRecords ++ [.checkpoint 2 8])).map (fun w =>
      openWal (fun _ => 0) w.close .source smallLimits) = .ok (.error (.walCorrupt "segment starts at 3, expected 1")) := by
    decide +kernel
  cases hs : session (fun _ => 0) .source smallLimits (threeRecords ++ [.checkpoint 2 8]) with
  | error =>
    rw [hs] at heval
    cases heval
  | ok w =>
    rw [hs] at heval
    have hopen := Except.ok.inj heval
    refine ⟨w, rfl, hopen, ?_⟩
    rintro ⟨w', hok, -⟩
    cases hopen.symm.trans hok

end MasiEdge.Wal
