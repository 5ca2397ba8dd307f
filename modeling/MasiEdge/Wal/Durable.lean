/-
The segmented single-writer WAL (`DurableWal` of `wal.rs`) over one directory.

The directory is explicit: segment files keyed by the sequence in their name, the checkpoint file, and the writer lock.
`DurableWal.dir` is the directory the open WAL owns; the file of the last segment is the one it appends to. A mutating
function returns its result together with the WAL it leaves behind, so a failed call keeps the effects it had before the
failing step. System time is an argument (`clock`, Unix milliseconds): `append` reads it twice, every other call once.
A write either reaches the file whole or fails (`WriteFault`) after some of its bytes did.
-/
import MasiEdge.Wal.Format

namespace MasiEdge.Wal

open Codec

/-! ## State -/

/-- one WAL directory; `locked` is the held writer lock -/
structure Dir where
  files : List (ℕ × Bytes)
  checkpoint : Option Bytes
  locked : Bool
deriving DecidableEq, Repr

def Dir.empty : Dir := ⟨[], none, false⟩

def Dir.file (d : Dir) (start : ℕ) : Option Bytes := d.files.lookup start

/-- extend the file `start` by `bytes` -/
def Dir.write (d : Dir) (start : ℕ) (bytes : Bytes) : Dir :=
  { d with files := d.files.map fun f => if f.1 = start then (f.1, f.2 ++ bytes) else f }

def Dir.create (d : Dir) (start : ℕ) : Dir := { d with files := d.files ++ [(start, [])] }

def Dir.remove (d : Dir) (start : ℕ) : Dir := { d with files := d.files.filter fun f => f.1 ≠ start }

structure WalStats where
  bytes : ℕ
  records : ℕ
  lastSequence : ℕ
  checkpointSequence : ℕ
deriving DecidableEq, Repr

structure DurableWal where
  dir : Dir
  kind : WalKind
  limits : WalLimits
  segments : List Segment
  stats : WalStats
  oldestPending : Option ℕ
  lastRecordedAt : ℕ
deriving DecidableEq, Repr

/-- how an append's write ends: whole, or with an I/O error after `n` bytes reached the file -/
inductive WriteFault where
  | none
  | torn (n : ℕ)
deriving DecidableEq, Repr

/-- system time as the WAL reads it -/
def unixMs (clock : ℤ) : EdgeResult ℕ := do
  refuse (clock < 0) (.precondition "CLOCK_INVALID" "system clock before Unix epoch")
  refuse ((u64Max : ℤ) < clock) (.precondition "CLOCK_INVALID" "Unix milliseconds exceed u64")
  return clock.toNat

theorem unixMs_ok (clock : ℤ) (t : ℕ) : unixMs clock = .ok t ↔ 0 ≤ clock ∧ clock.toNat ≤ u64Max ∧ t = clock.toNat := by
  simp only [unixMs, bind_ok, refuse_ok, exists_const, pure, Except.pure, Except.ok.injEq]
  omega

namespace DurableWal

/-! ## Queries -/

def nextSequence (w : DurableWal) : ℕ := satAdd w.stats.lastSequence 1

def checkRetention (w : DurableWal) (clock : ℤ) : EdgeResult Unit := do
  let now ← unixMs clock
  refuse (now < w.lastRecordedAt)
    (.precondition "WAL_CLOCK_UNPROVABLE" "current system time precedes the last durable WAL record")
  match w.oldestPending with
  | none => .ok ()
  | some oldest =>
    refuse (min (w.limits.maxAgeSeconds * 1000) u64Max < now - oldest)
      (.precondition "WAL_RETENTION_EXPIRED" "oldest uncheckpointed WAL record exceeds the configured age bound")

end DurableWal

/-- the retention cursor: the time of the oldest record after the checkpoint -/
def oldestPendingTimestamp (dir : Dir) (kind : WalKind) (limits : WalLimits) (checkpoint : ℕ) :
    List Segment → EdgeResult (Option ℕ)
  | [] => .ok none
  | segment :: rest =>
    if segment.records = 0 ∨ segment.last ≤ checkpoint then
      oldestPendingTimestamp dir kind limits checkpoint rest
    else if checkpoint < segment.start then .ok (some segment.firstRecordedAt)
    else
      match dir.file segment.start with
      | none => .error (.io "open WAL segment for retention cursor")
      | some file => firstTimestampAfter kind limits checkpoint segment.records file segment.start

/-- the descriptor after one more record -/
def Segment.extend (s : Segment) (sequence recordedAt size : ℕ) : Segment :=
  { s with
    last := sequence, bytes := satAdd s.bytes size, records := satAdd s.records 1,
    firstRecordedAt := if s.firstRecordedAt = 0 then recordedAt else s.firstRecordedAt,
    lastRecordedAt := recordedAt }

/-! ## Rotation and compaction -/

namespace DurableWal

def rotate (w : DurableWal) : EdgeResult Unit × DurableWal :=
  let start := satAdd w.stats.lastSequence 1
  match w.dir.file start with
  | some _ => (.error (.io "create WAL segment"), w)
  | none =>
    (.ok (), { w with
      dir := w.dir.create start
      segments := w.segments ++ [⟨start, start - 1, 0, 0, 0, 0⟩] })

/-- a segment with nothing left after the checkpoint -/
def removable (w : DurableWal) (segment : Segment) : Bool :=
  segment.records = 0 ∨ segment.last ≤ w.stats.checkpointSequence

/-- remove whole leading segments; the last one always stays -/
def compactFrom (w : DurableWal) : List Segment → EdgeResult Unit × DurableWal
  | segment :: next :: rest =>
    if w.removable segment then
      match w.dir.file segment.start with
      | none => (.error (.io "remove checkpointed WAL segment"), { w with segments := next :: rest })
      | some _ =>
        compactFrom { w with
          dir := w.dir.remove segment.start
          segments := next :: rest
          stats := { w.stats with
            bytes := w.stats.bytes - segment.bytes, records := w.stats.records - segment.records } } (next :: rest)
    else (.ok (), { w with segments := segment :: next :: rest })
  | segments => (.ok (), { w with segments })

def compact (w : DurableWal) : EdgeResult Unit × DurableWal := w.compactFrom w.segments

end DurableWal

/-! ## Opening -/

section

variable (crc : Bytes → UInt32)

/-- the loop state of `open`: what the segments scanned so far amount to, and their files after tail truncation -/
structure Recovered where
  segments : List Segment
  files : List (ℕ × Bytes)
  expected : ℕ
  bytes : ℕ
  records : ℕ
  lastRecordedAt : ℕ
deriving DecidableEq, Repr

def openLoop (kind : WalKind) (limits : WalLimits) : List (ℕ × Bytes) → Recovered → EdgeResult Recovered
  | [], st => .ok st
  | (start, file) :: rest, st => do
    refuse (start ≠ st.expected) (.walCorrupt s!"segment starts at {start}, expected {st.expected}")
    let segment ← scanSegment crc kind st.expected rest.isEmpty limits file
    refuse (0 < segment.records ∧ segment.firstRecordedAt < st.lastRecordedAt)
      (.precondition "WAL_CLOCK_UNPROVABLE" "WAL record time regressed across segment boundaries")
    openLoop kind limits rest
      { segments := st.segments ++ [segment]
        files := st.files ++ [(start, file.take segment.bytes)]
        expected := satAdd segment.last 1
        bytes := satAdd st.bytes segment.bytes
        records := satAdd st.records segment.records
        lastRecordedAt := if 0 < segment.records then segment.lastRecordedAt else st.lastRecordedAt }

/-- the WAL a scan that found no segment starts with -/
def freshWal (dir : Dir) (kind : WalKind) (limits : WalLimits) (checkpoint : ℕ) : DurableWal :=
  { dir := dir.create 1, kind, limits, segments := [⟨1, 0, 0, 0, 0, 0⟩], stats := ⟨0, 0, 0, checkpoint⟩,
    oldestPending := none, lastRecordedAt := 0 }

/-- `DurableWal::open` -/
def openWal (dir : Dir) (kind : WalKind) (limits : WalLimits) : EdgeResult DurableWal := do
  validateLimits limits
  refuse (dir.locked = true) (.precondition "WAL_WRITER_CONFLICT" "WAL already has a writer")
  let checkpoint ← readCheckpoint crc kind dir.checkpoint
  let paths := dir.files.mergeSort fun a b => decide (a.1 ≤ b.1)
  let st ← openLoop crc kind limits paths ⟨[], [], 1, 0, 0, 0⟩
  let lastSequence := st.expected - 1
  refuse (lastSequence < checkpoint)
    (.walCorrupt s!"checkpoint {checkpoint} exceeds last sequence {lastSequence}")
  refuse (limits.maxBytes < st.bytes ∨ limits.maxRecords < st.records)
    (.resourceExhausted "WAL_FULL" "recovered WAL exceeds configured limits")
  let dir := { dir with files := st.files, locked := true }
  if st.segments = [] then return freshWal dir kind limits checkpoint
  else do
    let oldestPending ← oldestPendingTimestamp dir kind limits checkpoint st.segments
    let wal : DurableWal :=
      { dir, kind, limits, segments := st.segments, stats := ⟨st.bytes, st.records, lastSequence, checkpoint⟩,
        oldestPending, lastRecordedAt := st.lastRecordedAt }
    wal.compact.1
    return wal.compact.2

end

namespace DurableWal

variable (crc : Bytes → UInt32) {w w' : DurableWal} {clock recordClock : ℤ} {sequence : ℕ} {fault : WriteFault}
  {payload : Bytes}

/-- dropping the WAL releases the writer lock -/
def close (w : DurableWal) : Dir := { w.dir with locked := false }

/-! ## Appending -/

/-- the checks of `append` before anything is written -/
def checkAdmission (w : DurableWal) (clock : ℤ) (payload : Bytes) : EdgeResult Unit := do
  w.checkRetention clock
  refuse (w.limits.maxRecordBytes < payload.length) (.resourceExhausted "WAL_RECORD_TOO_LARGE"
    s!"record is {payload.length} bytes; limit is {w.limits.maxRecordBytes}")
  refuse (w.limits.maxBytes < satAdd w.stats.bytes (headerBytes + payload.length) ∨
      w.limits.maxRecords < satAdd w.stats.records 1)
    (.resourceExhausted "WAL_FULL" "unacknowledged durable records reached the configured limit")

/-- the current segment does not take the record any more -/
def mustRotate (w : DurableWal) (payload : Bytes) : Bool :=
  let current := (w.segments.getLast?.map Segment.bytes).getD 0
  0 < current ∧ w.limits.segmentBytes < satAdd current (headerBytes + payload.length)

/-- the time of the record and its encoded header -/
def sealRecord (w : DurableWal) (clock : ℤ) (payload : Bytes) : EdgeResult (ℕ × Bytes) := do
  let recordedAt ← unixMs clock
  refuse (recordedAt < w.lastRecordedAt)
    (.precondition "WAL_CLOCK_UNPROVABLE" "system time regressed behind the last durable WAL record")
  let header ← encodeHeader crc w.kind (satAdd w.stats.lastSequence 1) recordedAt payload
  return (recordedAt, header)

/-- the bookkeeping after the record is durable -/
def account (w : DurableWal) (current : Segment) (recordedAt size : ℕ) : DurableWal :=
  let sequence := satAdd w.stats.lastSequence 1
  { w with
    segments := w.segments.dropLast ++ [current.extend sequence recordedAt size]
    stats := { w.stats with
      bytes := satAdd w.stats.bytes size, records := satAdd w.stats.records 1, lastSequence := sequence }
    oldestPending := some (w.oldestPending.getD recordedAt)
    lastRecordedAt := recordedAt }

/-- write one record to the current segment -/
def writeRecord (w : DurableWal) (clock : ℤ) (payload : Bytes) (fault : WriteFault) : EdgeResult ℕ × DurableWal :=
  match w.sealRecord crc clock payload, w.segments.getLast? with
  | .error e, _ => (.error e, w)
  | .ok _, none => (.error (.walCorrupt "current segment disappeared"), w)
  | .ok (recordedAt, header), some current =>
    let bytes := header ++ payload
    match fault with
    | .torn n =>
      (.error (.io "append and fsync WAL record"), { w with dir := w.dir.write current.start (bytes.take n) })
    | .none =>
      (.ok (satAdd w.stats.lastSequence 1),
        { w with dir := w.dir.write current.start bytes }.account current recordedAt (headerBytes + payload.length))

/-- `DurableWal::append`; the clock is read once for the retention fence and once for the record -/
def append (w : DurableWal) (payload : Bytes) (clock recordClock : ℤ) (fault : WriteFault) :
    EdgeResult ℕ × DurableWal :=
  match w.checkAdmission clock payload with
  | .error e => (.error e, w)
  | .ok () =>
    if w.mustRotate payload then
      match w.rotate with
      | (.error e, w) => (.error e, w)
      | (.ok (), w) => w.writeRecord crc recordClock payload fault
    else w.writeRecord crc recordClock payload fault

/-- a successful append passed admission, rotated if it had to, and wrote its record -/
theorem append_ok (h : w.append crc payload clock recordClock fault = (.ok sequence, w')) :
    w.checkAdmission clock payload = .ok () ∧
      ∃ w1, (if w.mustRotate payload then w.rotate = (.ok (), w1) else w1 = w) ∧
        w1.writeRecord crc recordClock payload fault = (.ok sequence, w') := by
  unfold append at h
  cases hadm : w.checkAdmission clock payload with
  | error => simp [hadm] at h
  | ok u =>
    refine ⟨rfl, ?_⟩
    simp only [hadm] at h
    by_cases hr : w.mustRotate payload = true
    · simp only [hr, if_true] at h ⊢
      cases hro : w.rotate with
      | mk r w1 =>
        cases r with
        | error => simp [hro] at h
        | ok => exact ⟨w1, rfl, by simpa [hro] using h⟩
    · simp only [hr, if_false, Bool.false_eq_true] at h ⊢
      exact ⟨w, rfl, h⟩

/-- whatever sequence an append returns is the next one -/
theorem append_sequence (h : w.append crc payload clock recordClock fault = (.ok sequence, w')) :
    sequence = w.nextSequence := by
  obtain ⟨-, w1, hw1, hwr⟩ := append_ok crc h
  have hstats : w1.stats = w.stats := by
    split_ifs at hw1 with hr
    · unfold rotate at hw1
      simp only at hw1
      split at hw1
      · simp at hw1
      · rw [← (Prod.mk.inj hw1).2]
    · rw [hw1]
  unfold writeRecord at hwr
  split at hwr
  · simp at hwr
  · simp at hwr
  · cases fault with
    | torn => simp at hwr
    | none =>
      have hseq := (Prod.mk.inj hwr).1
      rw [nextSequence, ← hstats]
      exact (Except.ok.inj hseq).symm

/-! ## Replay and checkpoint -/

/-- the inner loop of `replay` over the records of one segment: `(result, bytes)` so far, and whether a bound stopped
it -/
def takeRecords (checkpoint maxRecords maxBytes : ℕ) :
    List WalRecord → List WalRecord × ℕ → (List WalRecord × ℕ) × Bool
  | [], acc => (acc, false)
  | r :: rs, (result, bytes) =>
    if r.sequence ≤ checkpoint then takeRecords checkpoint maxRecords maxBytes rs (result, bytes)
    else if result.length = maxRecords ∨ maxBytes < satAdd bytes r.payload.length then ((result, bytes), true)
    else takeRecords checkpoint maxRecords maxBytes rs (result ++ [r], satAdd bytes r.payload.length)

def replaySegments (w : DurableWal) (maxRecords maxBytes : ℕ) :
    List Segment → List WalRecord × ℕ → EdgeResult (List WalRecord)
  | [], acc => .ok acc.1
  | segment :: rest, acc =>
    if segment.records = 0 ∨ segment.last ≤ w.stats.checkpointSequence then
      replaySegments w maxRecords maxBytes rest acc
    else
      match w.dir.file segment.start with
      | none => .error (.io "open WAL segment for replay")
      | some file => do
        let records ← readSegmentRecords crc w.kind w.limits segment file
        let (acc, full) := takeRecords w.stats.checkpointSequence maxRecords maxBytes records acc
        if full then return acc.1 else replaySegments w maxRecords maxBytes rest acc

/-- the records strictly after the checkpoint, up to the bounds -/
def replay (w : DurableWal) (maxRecords maxBytes : ℕ) (clock : ℤ) : EdgeResult (List WalRecord) := do
  w.checkRetention clock
  refuse (maxRecords = 0 ∨ maxBytes = 0)
    (.invalidArgument "replay_limit" "record and byte replay limits must be non-zero")
  w.replaySegments crc maxRecords maxBytes w.segments ([], 0)

def checkpointGuard (w : DurableWal) (sequence : ℕ) (clock : ℤ) : EdgeResult Unit := do
  w.checkRetention clock
  refuse (sequence < w.stats.checkpointSequence ∨ w.stats.lastSequence < sequence)
    (.precondition "CHECKPOINT_OUT_OF_RANGE"
      s!"checkpoint {sequence} outside [{w.stats.checkpointSequence},{w.stats.lastSequence}]")

/-- the durable part of `checkpoint`: the checkpoint file is replaced before the statistics move -/
def moveCheckpoint (w : DurableWal) (sequence : ℕ) : DurableWal :=
  { w with
    dir := { w.dir with checkpoint := some (encodeCheckpoint crc w.kind sequence) }
    stats := { w.stats with checkpointSequence := sequence } }

/-- `DurableWal::checkpoint` -/
def checkpoint (w : DurableWal) (sequence : ℕ) (clock : ℤ) : EdgeResult Unit × DurableWal :=
  match w.checkpointGuard sequence clock with
  | .error e => (.error e, w)
  | .ok () =>
    if sequence = w.stats.checkpointSequence then (.ok (), w)
    else
      match (w.moveCheckpoint crc sequence).compact with
      | (.error e, w) => (.error e, w)
      | (.ok (), w) =>
        match oldestPendingTimestamp w.dir w.kind w.limits w.stats.checkpointSequence w.segments with
        | .error e => (.error e, w)
        | .ok oldestPending => (.ok (), { w with oldestPending })

/-- a successful checkpoint is in range; it is a no-op or moves the file and compacts -/
theorem checkpoint_ok (h : w.checkpoint crc sequence clock = (.ok (), w')) :
    w.stats.checkpointSequence ≤ sequence ∧ sequence ≤ w.stats.lastSequence ∧
      ((sequence = w.stats.checkpointSequence ∧ w' = w) ∨
        (w.stats.checkpointSequence < sequence ∧ ∃ w1 oldestPending,
          (w.moveCheckpoint crc sequence).compact = (.ok (), w1) ∧ w' = { w1 with oldestPending } ∧
            oldestPendingTimestamp w1.dir w1.kind w1.limits w1.stats.checkpointSequence w1.segments = .ok oldestPending)) := by
  unfold checkpoint at h
  cases hg : w.checkpointGuard sequence clock with
  | error => simp [hg] at h
  | ok u =>
    simp only [hg] at h
    simp only [checkpointGuard, bind_ok, refuse_ok, not_or, not_lt] at hg
    obtain ⟨-, -, hlo, hhi⟩ := hg
    refine ⟨hlo, hhi, ?_⟩
    split_ifs at h with heq
    · exact .inl ⟨heq, (Prod.mk.inj h).2.symm⟩
    · refine .inr ⟨lt_of_le_of_ne hlo (Ne.symm heq), ?_⟩
      cases hc : (w.moveCheckpoint crc sequence).compact with
      | mk r w1 =>
        cases r with
        | error => simp [hc] at h
        | ok =>
          simp only [hc] at h
          split at h
          · simp at h
          · rename_i holdest
            exact ⟨w1, _, rfl, (Prod.mk.inj h).2.symm, holdest⟩

end DurableWal

end MasiEdge.Wal
