/-
A writer session: a directory is created, then records are appended and checkpoints moved, every call successful.

What the session means is said without files: `appended` is the list of records in order, numbered from one, and
`checkpointOf` the last checkpoint. `session_inv` ties the open WAL to them: its retained segments hold the appended
records except a prefix of whole segments, all covered by the checkpoint, which compaction removed. That prefix is empty
exactly when the session never checkpointed the whole first segment after leaving it (`KeepsFirstSegment`), a condition on
the calls alone. `logOf` makes the same calls on an abstract log; its entries are the payloads of the records.
-/
import MasiEdge.Base.Log
import MasiEdge.Base.Run
import MasiEdge.Wal.Layout

namespace MasiEdge.Wal

open Codec Run List

/-! ## Calls and their meaning -/

/-- a call on the open WAL; `append` reads the clock twice -/
inductive Call where
  | append (payload : Bytes) (clock recordClock : ℤ)
  | checkpoint (sequence : ℕ) (clock : ℤ)
deriving DecidableEq, Repr

/-- the records appended by `calls`, the first of which gets sequence `n` -/
def appendedFrom : ℕ → List Call → List WalRecord
  | _, [] => []
  | n, .append payload _ recordClock :: rest => ⟨n, recordClock.toNat, payload⟩ :: appendedFrom (n + 1) rest
  | n, .checkpoint _ _ :: rest => appendedFrom n rest

def appended (calls : List Call) : List WalRecord := appendedFrom 1 calls

def Call.moves (checkpoint : ℕ) : Call → ℕ
  | .append _ _ _ => checkpoint
  | .checkpoint sequence _ => sequence

def checkpointOf (calls : List Call) : ℕ := calls.foldl Call.moves 0

/-- the call on a log of payloads -/
def Call.log (l : Log Bytes) : Call → Option (Log Bytes)
  | .append payload _ _ => some (l.append payload)
  | .checkpoint sequence _ => l.moveTo sequence

def logOf (calls : List Call) : Option (Log Bytes) := calls.foldlM Call.log Log.empty

theorem appendedFrom_append (n : ℕ) (calls more : List Call) :
    appendedFrom n (calls ++ more) =
      appendedFrom n calls ++ appendedFrom (n + (appendedFrom n calls).length) more := by
  induction calls generalizing n with
  | nil => simp [appendedFrom]
  | cons c _ ih =>
    cases c with
    | append =>
      simp only [cons_append, appendedFrom, ih, length_cons, Nat.add_assoc, Nat.add_comm 1]
    | checkpoint => simp only [cons_append, appendedFrom, ih]

variable (calls : List Call)

theorem appended_append (payload : Bytes) (clock recordClock : ℤ) :
    appended (calls ++ [.append payload clock recordClock]) =
      appended calls ++ [⟨(appended calls).length + 1, recordClock.toNat, payload⟩] := by
  simp [appended, appendedFrom_append, appendedFrom, Nat.add_comm]

theorem appended_checkpoint (sequence : ℕ) (clock : ℤ) :
    appended (calls ++ [.checkpoint sequence clock]) = appended calls := by
  simp [appended, appendedFrom_append, appendedFrom]

theorem checkpointOf_snoc (c : Call) : checkpointOf (calls ++ [c]) = c.moves (checkpointOf calls) := by
  simp [checkpointOf]

theorem logOf_snoc (c : Call) : logOf (calls ++ [c]) = (logOf calls).bind fun l => c.log l := by
  simp [logOf, List.foldlM_append]

/-- how many records the first segment takes before the writer leaves it; `filled` bytes are already in it -/
def firstBlock (segmentBytes : ℕ) : ℕ → List WalRecord → ℕ
  | _, [] => 0
  | filled, r :: rs =>
    if 0 < filled ∧ segmentBytes < filled + recordSize r then 0
    else firstBlock segmentBytes (filled + recordSize r) rs + 1

/-- the step condition: an advancing checkpoint stays below the end of the first segment once a second one exists -/
def KeepsFirstAt (limits : WalLimits) (pre : List Call) : Call → Prop
  | .append _ _ _ => True
  | .checkpoint sequence _ =>
    checkpointOf pre < sequence →
      firstBlock limits.segmentBytes 0 (appended pre) < (appended pre).length →
      sequence < firstBlock limits.segmentBytes 0 (appended pre)

def KeepsFirstSegment (limits : WalLimits) (calls : List Call) : Prop := Along (KeepsFirstAt limits) calls

variable (crc : Bytes → UInt32) {kind : WalKind} {limits : WalLimits} {calls : List Call} {w w' : DurableWal}
  {rs dropped cur : List WalRecord} {init : List (List WalRecord)} {payload : Bytes} {clock recordClock : ℤ}
  {sequence reached k : ℕ}

/-- one successful call -/
def call (w : DurableWal) : Call → EdgeResult DurableWal
  | .append payload clock recordClock =>
    match w.append crc payload clock recordClock .none with
    | (.error e, _) => .error e
    | (.ok _, w) => .ok w
  | .checkpoint sequence clock =>
    match w.checkpoint crc sequence clock with
    | (.error e, _) => .error e
    | (.ok (), w) => .ok w

/-- open an empty directory, then make the calls -/
def session (kind : WalKind) (limits : WalLimits) (calls : List Call) : EdgeResult DurableWal := do
  let w ← openWal crc Dir.empty kind limits
  runM (call crc) w calls

/-! ## The first segment -/

/-- one more record goes to the first segment exactly if the segment is still open and takes it -/
theorem firstBlock_snoc (segmentBytes filled : ℕ) (rs : List WalRecord) (r : WalRecord) :
    firstBlock segmentBytes filled (rs ++ [r]) =
      if firstBlock segmentBytes filled rs < rs.length then firstBlock segmentBytes filled rs
      else if 0 < filled + recordsSize rs ∧ segmentBytes < filled + recordsSize rs + recordSize r then rs.length
      else rs.length + 1 := by
  induction rs generalizing filled with
  | nil => simp [firstBlock, recordsSize]
  | cons b rs ih =>
    rw [cons_append, firstBlock, firstBlock, ih]
    have hsize : recordsSize (b :: rs) = recordSize b + recordsSize rs := by simp [recordsSize]
    by_cases hb : 0 < filled ∧ segmentBytes < filled + recordSize b
    · simp [hb]
    · simp only [hb, if_false, length_cons, hsize, ← Nat.add_assoc]
      split_ifs <;> omega

/-! ## The session invariant -/

/-- the open WAL after the records `rs` and the checkpoint `reached`, with the blocks of `dropped` compacted away -/
structure Holds (kind : WalKind) (limits : WalLimits) (rs : List WalRecord) (reached : ℕ) (w : DurableWal)
    (dropped : List WalRecord) (init : List (List WalRecord)) (cur : List WalRecord) : Prop where
  kind_eq : w.kind = kind
  limits_eq : w.limits = limits
  split : rs = dropped ++ (init.flatten ++ cur)
  stored : Stored crc w (dropped.length + 1) init cur
  last : w.stats.lastSequence = rs.length
  checkpoint : w.stats.checkpointSequence = reached
  inRange : reached ≤ rs.length
  file : readCheckpoint crc kind w.dir.checkpoint = .ok reached
  covered : dropped.length ≤ reached
  bytes_le : w.stats.bytes ≤ limits.maxBytes
  records_le : w.stats.records ≤ limits.maxRecords
  chain : Chain limits 1 0 rs
  time : w.lastRecordedAt = lastTime 0 rs
  begun : init ≠ [] → cur ≠ []
  /-- while nothing is dropped the first block is the first segment the records fill -/
  head : dropped = [] → ∀ g rest, init ++ [cur] = g :: rest → g.length = firstBlock limits.segmentBytes 0 rs
  /-- the retention cursor is the time of the first pending record -/
  oldest : (∀ r ∈ rs, 0 < r.recordedAtUnixMs) → recordsSize rs < u64Max →
    w.oldestPending = (rs.filter fun r => reached < r.sequence).head?.map WalRecord.recordedAtUnixMs

structure SessionInv (kind : WalKind) (limits : WalLimits) (calls : List Call) (w : DurableWal)
    (dropped : List WalRecord) (init : List (List WalRecord)) (cur : List WalRecord) : Prop
    extends Holds crc kind limits (appended calls) (checkpointOf calls) w dropped init cur where
  keeps : dropped = [] ↔ KeepsFirstSegment limits calls
  log : ∃ l, logOf calls = some l ∧ l.entries = (appended calls).map WalRecord.payload ∧ l.checkpoint = checkpointOf calls

variable {crc}

theorem Holds.next (h : Holds crc kind limits rs reached w dropped init cur) :
    w.stats.lastSequence + 1 = dropped.length + 1 + init.flatten.length + cur.length := by
  rw [h.last, h.split, length_append, length_append]
  omega

theorem Holds.bytes_le_all (h : Holds crc kind limits rs reached w dropped init cur) : w.stats.bytes ≤ recordsSize rs := by
  rw [h.stored.bytes, h.split, recordsSize_append dropped]
  omega

theorem Holds.head_lt {b : List WalRecord} (h : Holds crc kind limits rs reached w dropped (b :: init) cur)
    (hd : dropped = []) : b.length < rs.length := by
  have := List.length_pos_iff.2 (h.begun (by simp))
  rw [h.split, hd]
  simp only [nil_append, flatten_cons, length_append]
  omega

/-- one more record, in the block `c` behind `init`, leaves the first block the first segment -/
theorem Holds.head_snoc {g c : List WalRecord} {rest more : List (List WalRecord)} {r : WalRecord}
    (h : Holds crc kind limits rs reached w dropped init cur) (hd : dropped = [])
    (hc : c.length = if 0 < recordsSize cur ∧ limits.segmentBytes < recordsSize cur + recordSize r then cur.length
      else cur.length + 1)
    (hg : init ++ c :: more = g :: rest) : g.length = firstBlock limits.segmentBytes 0 (rs ++ [r]) := by
  rw [firstBlock_snoc]
  cases init with
  | nil =>
    obtain rfl : cur = rs := by simpa [hd] using h.split.symm
    rw [← (cons.inj hg).1, hc, ← h.head hd cur [] rfl, if_neg (lt_irrefl cur.length), Nat.zero_add]
  | cons b init =>
    rw [← (cons.inj hg).1, ← h.head hd b (init ++ [cur]) rfl, if_pos (h.head_lt hd)]

/-- a record written behind the blocks `init'`, `cur'` of an admitted append is one more record held -/
theorem Holds.written {w1 : DurableWal} {init' : List (List WalRecord)} {cur' : List WalRecord} {r : WalRecord}
    (h : Holds crc kind limits rs reached w dropped init cur) (hr : r = ⟨sequence, recordClock.toNat, payload⟩)
    (hw : Written crc w1 w' recordClock payload sequence (dropped.length + 1) init' cur')
    (hsame : init'.flatten ++ cur' = init.flatten ++ cur)
    (hframe : ∃ files segments, w1 = { w with dir := { w.dir with files }, segments })
    (hadm : w.checkAdmission clock payload = .ok ())
    (hfit : recordsSize rs + (headerBytes + payload.length) ≤ u64Max)
    (hhead : dropped = [] → ∀ g rest, init' ++ [cur' ++ [r]] = g :: rest →
      g.length = firstBlock limits.segmentBytes 0 (rs ++ [r])) :
    Holds crc kind limits (rs ++ [r]) reached w' dropped init' (cur' ++ [r]) := by
  obtain ⟨files, segments, rfl⟩ := hframe
  subst hr
  have hseq : sequence = rs.length + 1 := by rw [← h.last]; exact hw.next
  have hret : init'.flatten ++ (cur' ++ [⟨sequence, recordClock.toNat, payload⟩]) =
      init.flatten ++ cur ++ [⟨sequence, recordClock.toNat, payload⟩] := by rw [← append_assoc, hsame]
  have hall := h.bytes_le_all
  have hcount : w.stats.records ≤ w.stats.bytes := by
    rw [h.stored.records, h.stored.bytes]; exact length_le_recordsSize _
  simp only [DurableWal.checkAdmission, bind_ok, refuse_ok, not_or, not_lt, h.limits_eq] at hadm
  obtain ⟨-, -, -, hpay, hbytes, hrecords⟩ := hadm
  rw [satAdd_eq (by omega)] at hbytes
  rw [satAdd_eq (by unfold headerBytes at hfit; omega)] at hrecords
  refine
    { kind_eq := hw.kind.trans h.kind_eq, limits_eq := hw.limits.trans h.limits_eq,
      split := by rw [hret, h.split, append_assoc], stored := hw.stored, last := ?_,
      checkpoint := hw.checkpoint.trans h.checkpoint, inRange := ?_, file := ?_, covered := h.covered, bytes_le := ?_,
      records_le := ?_, chain := ?_, time := ?_, begun := fun _ => by simp, head := hhead, oldest := ?_ }
  · rw [hw.last, hseq, length_append, length_singleton]
  · rw [length_append]
    exact h.inRange.trans (Nat.le_add_right _ _)
  · rw [hw.file]; exact h.file
  · rw [hw.stored.bytes, hret, recordsSize_append, recordsSize_singleton, ← h.stored.bytes]; exact hbytes
  · rw [hw.stored.records, hret, length_append, length_singleton, ← h.stored.records]; exact hrecords
  · rw [chain_append]
    refine ⟨h.chain, ⟨?_, ?_, hw.timeFits, hw.lengthFits, hpay⟩, trivial⟩
    · rw [hseq, Nat.add_comm]
    · rw [← h.time]; exact hw.notBefore
  · rw [hw.time]; simp [lastTime]
  · intro hstamped hfits
    obtain ⟨hstamped, -⟩ := List.forall_mem_append.1 hstamped
    rw [recordsSize_append] at hfits
    have hinRange := h.inRange
    rw [hw.oldest]
    dsimp only
    rw [h.oldest hstamped (by omega), filter_append, filter_cons_of_pos (by simp only [decide_eq_true_eq]; omega)]
    cases rs.filter fun r => reached < r.sequence <;> rfl

theorem call_append_ok (h : call crc w (.append payload clock recordClock) = .ok w') :
    ∃ sequence, w.append crc payload clock recordClock .none = (.ok sequence, w') := by
  simp only [call] at h
  split at h
  · cases h
  · rename_i happend
    cases h
    exact ⟨_, happend⟩

/-- an accepted append puts its record in the current block or in a fresh one -/
theorem Holds.append (h : Holds crc kind limits rs reached w dropped init cur)
    (hfit : recordsSize rs + (headerBytes + payload.length) ≤ u64Max)
    (happ : w.append crc payload clock recordClock .none = (.ok sequence, w')) :
    ∃ init' cur', Holds crc kind limits (rs ++ [⟨sequence, recordClock.toNat, payload⟩]) reached w' dropped init' cur' := by
  have hall := h.bytes_le_all
  have hlenall := length_le_recordsSize rs
  have hseq : w.stats.lastSequence + 1 ≤ u64Max := by rw [h.last]; unfold headerBytes at hfit; omega
  have hcurle : recordsSize cur ≤ w.stats.bytes := by rw [h.stored.bytes, recordsSize_append]; omega
  have hrot : w.mustRotate payload = true ↔
      0 < recordsSize cur ∧ limits.segmentBytes < recordsSize cur + (headerBytes + payload.length) := by
    obtain ⟨ss, s, hss, -, hs, -⟩ := h.stored.current
    have hcurrent : (w.segments.getLast?.map Segment.bytes).getD 0 = recordsSize cur := by simp [hss, hs.bytes]
    simp only [DurableWal.mustRotate, hcurrent, h.limits_eq, decide_eq_true_eq]
    rw [satAdd_eq (by omega)]
  obtain ⟨hadm, w1, hw1, hwr⟩ := DurableWal.append_ok crc happ
  by_cases hr : w.mustRotate payload = true
  · -- the current block is closed and the record opens a new one
    obtain ⟨hpos, hover⟩ := hrot.1 hr
    have hcur : cur ≠ [] := by rintro rfl; simp [recordsSize] at hpos
    rw [if_pos hr] at hw1
    obtain ⟨hst, files, segments, rfl⟩ := rotate_stored h.stored hcur h.next hseq hw1
    have hw := writeRecord_stored hst (by simpa [Nat.add_assoc] using h.next) hseq (by simp only; omega) hwr
    refine ⟨init ++ [cur], _, h.written rfl hw (by simp) ⟨files, segments, rfl⟩ hadm hfit ?_⟩
    intro hd g rest hg
    rw [append_assoc, singleton_append] at hg
    exact h.head_snoc hd (if_pos ⟨hpos, hover⟩).symm hg
  · rw [if_neg hr] at hw1
    subst hw1
    have hw := writeRecord_stored h.stored h.next hseq (by omega) hwr
    refine ⟨init, _, h.written rfl hw rfl ⟨_, _, rfl⟩ hadm hfit ?_⟩
    intro hd g rest hg
    refine h.head_snoc hd ?_ hg
    rw [length_append, length_singleton]
    exact (if_neg fun hover => hr (hrot.2 hover)).symm

/-- an accepted append extends the session and the log by one record -/
theorem SessionInv.append (h : SessionInv crc kind limits calls w dropped init cur)
    (hfit : recordsSize (appended calls) + (headerBytes + payload.length) ≤ u64Max)
    (hok : call crc w (.append payload clock recordClock) = .ok w') :
    ∃ init' cur', SessionInv crc kind limits (calls ++ [.append payload clock recordClock]) w' dropped init' cur' := by
  have happ := appended_append calls payload clock recordClock
  have hcp : checkpointOf (calls ++ [.append payload clock recordClock]) = checkpointOf calls := checkpointOf_snoc _ _
  obtain ⟨sequence, hwritten⟩ := call_append_ok hok
  obtain ⟨init', cur', hholds⟩ := h.toHolds.append hfit hwritten
  have hseq : sequence = (appended calls).length + 1 := by
    obtain ⟨-, hrecord, -⟩ := (chain_append _ _ _ _ _).1 hholds.chain
    exact hrecord.sequence.trans (Nat.add_comm _ _)
  refine ⟨init', cur', { toHolds := by rw [happ, hcp, ← hseq]; exact hholds, keeps := ?_, log := ?_ }⟩
  · rw [h.keeps, KeepsFirstSegment, KeepsFirstSegment, along_snoc]
    simp [KeepsFirstAt]
  · obtain ⟨l, hl, hentries, hcheckpoint⟩ := h.log
    refine ⟨l.append payload, by rw [logOf_snoc, hl]; rfl, ?_, ?_⟩
    · rw [Log.append_entries, hentries, happ, map_append, map_singleton]
    · rw [Log.checkpoint_append, hcheckpoint, hcp]

theorem call_checkpoint_ok (h : call crc w (.checkpoint sequence clock) = .ok w') :
    w.checkpoint crc sequence clock = (.ok (), w') := by
  simp only [call] at h
  split at h
  · cases h
  · rename_i hcheckpoint
    cases h
    exact hcheckpoint

theorem Holds.take_eq_nil (h : Holds crc kind limits rs reached w dropped init cur)
    (hk : (init.take k).flatten = []) : init.take k = [] := by
  cases hb : init.take k with
  | nil => rfl
  | cons b =>
    have hmem : b ∈ init := mem_of_mem_take (hb ▸ mem_cons_self)
    rw [hb, flatten_cons, append_eq_nil_iff] at hk
    exact absurd hk.1 (h.stored.full b hmem)

/-- a checkpoint that advances drops a covered prefix of whole blocks -/
theorem Holds.checkpointed {w1 : DurableWal} {oldest : Option ℕ} (h : Holds crc kind limits rs reached w dropped init cur)
    (hfit : recordsSize rs ≤ u64Max) (hlt : reached < sequence) (hhi : sequence ≤ rs.length)
    (hcompact : (w.moveCheckpoint crc sequence).compact = (.ok (), w1))
    (holdest : oldestPendingTimestamp w1.dir w1.kind w1.limits w1.stats.checkpointSequence w1.segments = .ok oldest) :
    ∃ k, (∀ g rest, init = g :: rest → (0 < k ↔ dropped.length + 1 + g.length ≤ sequence + 1)) ∧
      Holds crc kind limits rs sequence { w1 with oldestPending := oldest } (dropped ++ (init.take k).flatten)
        (init.drop k) cur := by
  have hmoved : Stored crc (w.moveCheckpoint crc sequence) (dropped.length + 1) init cur := { h.stored with }
  obtain ⟨k, w2, hk, hc⟩ := compactFrom_stored init _ _ cur hmoved
  obtain rfl : w2 = w1 := by
    rw [DurableWal.compact, hk] at hcompact
    exact (Prod.mk.inj hcompact).2
  refine ⟨k, hc.head, ?_⟩
  obtain ⟨files, segments, bytes, records, hframe⟩ := hc.frame
  have hst : Stored crc w2 ((dropped ++ (init.take k).flatten).length + 1) (init.drop k) cur := by
    rw [length_append, Nat.add_right_comm]; exact hc.stored
  have hle := length_le_recordsSize rs
  have hkept : init.flatten ++ cur = (init.take k).flatten ++ ((init.drop k).flatten ++ cur) := by
    rw [← append_assoc, ← flatten_append, take_append_drop]
  subst hframe
  have hcovered : (dropped ++ (init.take k).flatten).length ≤ sequence := by
    have hcov := hc.covered
    have := h.covered
    rw [length_append]
    change k = 0 ∨ _ ≤ sequence + 1 at hcov
    rcases hcov with rfl | hcov
    · simp; omega
    · omega
  refine
    { h with
      split := by rw [h.split, hkept, append_assoc]
      stored := { hst with }
      checkpoint := rfl
      inRange := hhi
      file := ?_
      covered := hcovered
      bytes_le := ?_
      records_le := ?_
      begun := fun hne => h.begun fun hnil => hne (by rw [hnil, drop_nil])
      head := ?_
      oldest := ?_ }
  · change readCheckpoint crc kind (some (encodeCheckpoint crc w.kind sequence)) = _
    rw [h.kind_eq]
    exact readCheckpoint_encode crc kind sequence (by omega)
  · refine hst.bytes.le.trans (le_trans ?_ h.bytes_le)
    rw [h.stored.bytes, hkept, recordsSize_append (init.take k).flatten]
    exact Nat.le_add_left _ _
  · refine hst.records.le.trans (le_trans ?_ h.records_le)
    rw [h.stored.records, hkept]
    exact (sublist_append_right _ _).length_le
  · intro hd
    obtain ⟨hd, hk⟩ := List.append_eq_nil_iff.1 hd
    have hinit : init.drop k = init := by
      rw [← nil_append (init.drop k), ← h.take_eq_nil hk, take_append_drop]
    rw [hinit]
    exact h.head hd
  · intro hstamped hfits
    have hsplit : rs = dropped ++ (init.take k).flatten ++ (init.drop k ++ [cur]).flatten := by
      rw [h.split, hkept]; simp
    have hread : Readable limits 1 0 rs := ⟨h.chain, hstamped, by omega⟩
    rw [hsplit] at hread
    have hcursor := hst.oldest (h.limits_eq ▸ hread) hcovered
    rw [← hsplit, holdest] at hcursor
    exact Except.ok.inj hcursor

section

variable (h : SessionInv crc kind limits calls w dropped init cur)
include h

/-- compaction after an advancing checkpoint drops nothing exactly if the calls keep the first segment -/
theorem SessionInv.dropsNone_iff (hd : dropped = []) (hlt : checkpointOf calls < sequence)
    (hhead : ∀ g rest, init = g :: rest → (0 < k ↔ dropped.length + 1 + g.length ≤ sequence + 1)) :
    (init.take k).flatten = [] ↔ KeepsFirstAt limits calls (.checkpoint sequence clock) := by
  cases init with
  | nil =>
    have hrs : appended calls = cur := by simpa [hd] using h.split
    have hfirst := h.head hd cur [] rfl
    refine iff_of_true (by simp) fun _ hopen => ?_
    rw [← hfirst, hrs] at hopen
    exact absurd hopen (lt_irrefl _)
  | cons b rest =>
    have hfirst := h.head hd b (rest ++ [cur]) rfl
    have hb := h.head_lt hd
    have hk := hhead b rest rfl
    have hnil : ((b :: rest).take k).flatten = [] ↔ k = 0 := by
      constructor
      · intro hf
        simpa using h.take_eq_nil hf
      · rintro rfl
        rfl
    rw [hnil, KeepsFirstAt, ← hfirst]
    rw [hd, length_nil] at hk
    constructor
    · rintro hk0 - -
      omega
    · intro hkeep
      omega

/-- an accepted checkpoint keeps the records and drops a covered prefix of whole blocks -/
theorem SessionInv.checkpointed (hfit : recordsSize (appended calls) ≤ u64Max)
    (hok : call crc w (.checkpoint sequence clock) = .ok w') :
    ∃ dropped' init', SessionInv crc kind limits (calls ++ [.checkpoint sequence clock]) w' dropped' init' cur := by
  have happ := appended_checkpoint calls sequence clock
  have hcp : checkpointOf (calls ++ [.checkpoint sequence clock]) = sequence := checkpointOf_snoc _ _
  have hkeep : KeepsFirstSegment limits (calls ++ [.checkpoint sequence clock]) ↔
      dropped = [] ∧ KeepsFirstAt limits calls (.checkpoint sequence clock) := by
    rw [KeepsFirstSegment, along_snoc, h.keeps]; rfl
  obtain ⟨hlo, hhi, hcase⟩ := DurableWal.checkpoint_ok crc (call_checkpoint_ok hok)
  rw [h.checkpoint] at hlo hcase
  rw [h.last] at hhi
  have hlog : ∃ l, logOf (calls ++ [.checkpoint sequence clock]) = some l ∧
      l.entries = (appended calls).map WalRecord.payload ∧ l.checkpoint = sequence := by
    obtain ⟨l, hl, hentries, hcheckpoint⟩ := h.log
    refine ⟨⟨l.entries, sequence, by rw [hentries, length_map]; exact hhi⟩, ?_, hentries, rfl⟩
    rw [logOf_snoc, hl]
    exact dif_pos ⟨by rw [hcheckpoint]; exact hlo, by rw [hentries, length_map]; exact hhi⟩
  rcases hcase with ⟨rfl, rfl⟩ | ⟨hlt, w1, oldest, hcompact, rfl, holdest⟩
  · refine ⟨dropped, init,
      { toHolds := by rw [happ, hcp]; exact h.toHolds
        keeps := by rw [hkeep]; exact ⟨fun hd => ⟨hd, fun hlt => absurd hlt (lt_irrefl _)⟩, And.left⟩
        log := by rw [happ, hcp]; exact hlog }⟩
  · obtain ⟨k, hhead, hholds⟩ := h.toHolds.checkpointed hfit hlt hhi hcompact holdest
    refine ⟨_, _,
      { toHolds := by rw [happ, hcp]; exact hholds
        keeps := by rw [hkeep, append_eq_nil_iff]; exact and_congr_right fun hd => h.dropsNone_iff hd hlt hhead
        log := by rw [happ, hcp]; exact hlog }⟩

end

theorem openWal_empty (w : DurableWal) : openWal crc Dir.empty kind limits = .ok w ↔
    validateLimits limits = .ok () ∧ w = freshWal { Dir.empty with locked := true } kind limits 0 := by
  cases hv : validateLimits limits with
  | error => simp [openWal, hv, check_ok]
  | ok =>
    have hck : readCheckpoint crc kind Dir.empty.checkpoint = .ok 0 := rfl
    simp only [openWal, hv, hck, ok_bind, openLoop, show Dir.empty.files = [] from rfl, mergeSort_nil]
    simp [refuse, Dir.empty, pure, Except.pure, eq_comm]

theorem fresh_inv (kind : WalKind) (limits : WalLimits) :
    SessionInv crc kind limits [] (freshWal { Dir.empty with locked := true } kind limits 0) [] [] [] where
  kind_eq := rfl
  limits_eq := rfl
  split := rfl
  stored :=
    { full := by simp
      segments := ⟨⟨1, 0, 0, 0, 0, 0⟩, [], rfl, ⟨rfl, rfl, rfl, rfl, fun _ => rfl⟩, rfl⟩
      files := rfl, bytes := rfl, records := rfl }
  last := rfl
  checkpoint := rfl
  inRange := le_refl _
  file := rfl
  covered := le_refl _
  bytes_le := Nat.zero_le _
  records_le := Nat.zero_le _
  chain := trivial
  time := rfl
  begun := fun h => absurd rfl h
  keeps := iff_of_true rfl (along_nil _)
  head := by
    rintro - g rest hg
    obtain rfl : [] = g := by simpa using congrArg List.head? hg
    rfl
  oldest := fun _ _ => rfl
  log := ⟨Log.empty, rfl, rfl, rfl⟩

theorem recordsSize_snoc_le (calls : List Call) (c : Call) :
    recordsSize (appended calls) ≤ recordsSize (appended (calls ++ [c])) := by
  cases c with
  | append => rw [appended_append, recordsSize_append]; omega
  | checkpoint => rw [appended_checkpoint]

/-- **The session invariant.** As long as the bytes ever written fit a `u64`, the open WAL holds what was appended. -/
theorem session_inv (h : session crc kind limits calls = .ok w) (hfit : recordsSize (appended calls) ≤ u64Max) :
    validateLimits limits = .ok () ∧ ∃ dropped init cur, SessionInv crc kind limits calls w dropped init cur := by
  obtain ⟨w0, hopen, hrun⟩ := bind_ok.1 h
  obtain ⟨hvalid, rfl⟩ := (openWal_empty w0).1 hopen
  refine ⟨hvalid, ?_⟩
  refine runM_induction (call crc) _ (fun pre t => recordsSize (appended pre) ≤ u64Max →
    ∃ dropped init cur, SessionInv crc kind limits pre t dropped init cur) (fun _ => ⟨_, _, _, fresh_inv kind limits⟩)
    ?_ calls w hrun hfit
  intro pre t c u hpre hstep hfit
  obtain ⟨dropped, init, cur, hinv⟩ := hpre ((recordsSize_snoc_le pre c).trans hfit)
  cases c with
  | append =>
    rw [appended_append, recordsSize_append, recordsSize_singleton] at hfit
    obtain ⟨init', cur', h'⟩ := hinv.append hfit hstep
    exact ⟨dropped, init', cur', h'⟩
  | checkpoint =>
    rw [appended_checkpoint] at hfit
    obtain ⟨dropped', init', h'⟩ := hinv.checkpointed hfit hstep
    exact ⟨dropped', init', cur, h'⟩

end MasiEdge.Wal
