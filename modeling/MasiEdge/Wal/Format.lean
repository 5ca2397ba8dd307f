/-
The on-disk format of one WAL directory (`wal.rs`): record headers, checkpoint file and segment scan.

A record is a 36-byte header followed by its payload. The header holds the magic, the format version, the WAL kind, a
reserved byte, the sequence, the admission time, the payload length and a checksum over everything after the magic and
the payload. The checksum function is a parameter `crc`: nothing below depends on which function it is. A segment file
is a sequence of records; the sequence numbers of one segment are consecutive from the number in its file name.

- `RecordOk.validateHeader`: the header of a record that may follow is accepted.
- `scanSegment_encode`: scanning the encoding of a list of records gives back the count, length and time range.
- `readRecords_encode`: reading them back gives exactly the records.
- `readCheckpoint_encode`: the checkpoint file round-trips.
-/
import MasiEdge.Base.Codec
import MasiEdge.Error

namespace MasiEdge.Wal

open Codec List

/-! ## Kinds, limits, records -/

/-- logical durable stream; each target owns separate directories for all five -/
inductive WalKind where
  | source
  | inferenceInput
  | inferenceResult
  | effectJournal
  | routeJournal
deriving DecidableEq, Repr

def WalKind.toU8 : WalKind → UInt8
  | .source => 1
  | .inferenceInput => 2
  | .inferenceResult => 3
  | .effectJournal => 4
  | .routeJournal => 5

def WalKind.fromU8 (value : UInt8) : EdgeResult WalKind :=
  if value = 1 then .ok .source
  else if value = 2 then .ok .inferenceInput
  else if value = 3 then .ok .inferenceResult
  else if value = 4 then .ok .effectJournal
  else if value = 5 then .ok .routeJournal
  else .error (.walCorrupt s!"unknown WAL kind {value.toNat}")

theorem fromU8_toU8 (k : WalKind) : WalKind.fromU8 k.toU8 = .ok k := by cases k <;> rfl

/-- the capacity of a logical WAL -/
structure WalLimits where
  maxBytes : ℕ
  maxRecords : ℕ
  segmentBytes : ℕ
  maxRecordBytes : ℕ
  maxAgeSeconds : ℕ
deriving DecidableEq, Repr

structure WalRecord where
  sequence : ℕ
  recordedAtUnixMs : ℕ
  payload : Bytes
deriving DecidableEq, Repr

/-- "MSWAL001" -/
def magic : Bytes := [77, 83, 87, 65, 76, 48, 48, 49]

/-- "MSWCP001" -/
def checkpointMagic : Bytes := [77, 83, 87, 67, 80, 48, 48, 49]

def version : ℕ := 1

def headerBytes : ℕ := 36

def checkpointBytes : ℕ := 24

def validateLimits (limits : WalLimits) : EdgeResult Unit :=
  refuse (limits.maxBytes < limits.segmentBytes ∨ limits.maxRecords = 0 ∨ limits.maxRecordBytes = 0 ∨
      limits.maxAgeSeconds = 0 ∨ 86400 < limits.maxAgeSeconds ∨
      limits.segmentBytes < headerBytes + limits.maxRecordBytes)
    (.invalidArgument "wal_limits" "inconsistent WAL limits")

/-! ## Record headers -/

section

variable (crc : Bytes → UInt32)

/-- header bytes 8 to 32: everything the checksum covers except the payload -/
def metadata (kind : WalKind) (sequence recordedAt length : ℕ) : Bytes :=
  toBe 2 version ++ ([kind.toU8] ++ ([0] ++ (toBe 8 sequence ++ (toBe 8 recordedAt ++ toBe 4 length))))

def recordCrc (md payload : Bytes) : UInt32 := crc (md ++ payload)

def encodeHeader (kind : WalKind) (sequence recordedAt : ℕ) (payload : Bytes) : EdgeResult Bytes := do
  refuse (2 ^ 32 ≤ payload.length) (.resourceExhausted "WAL_RECORD_TOO_LARGE" "payload exceeds u32")
  let md := metadata kind sequence recordedAt payload.length
  return magic ++ (md ++ toBe 4 (recordCrc crc md payload).toNat)

def headerRecordedAt (header : Bytes) : EdgeResult ℕ := do
  refuse (fromBe (slice header 20 28) = 0) (.walCorrupt "WAL record time must be positive")
  return fromBe (slice header 20 28)

def headerLength (header : Bytes) : ℕ := fromBe (slice header 28 32)

def headerCrc (header : Bytes) : ℕ := fromBe (slice header 32 36)

def validateHeader (header : Bytes) (kind : WalKind) (expectedSequence : ℕ) (limits : WalLimits) :
    EdgeResult Unit := do
  refuse (slice header 0 8 ≠ magic) (.walCorrupt "WAL magic mismatch")
  refuse (fromBe (slice header 8 10) ≠ version)
    (.walCorrupt s!"unsupported WAL version {fromBe (slice header 8 10)}")
  let observed ← WalKind.fromU8 (header.getD 10 0)
  refuse (observed ≠ kind ∨ header.getD 11 0 ≠ 0) (.walCorrupt "WAL kind or reserved flags mismatch")
  refuse (fromBe (slice header 12 20) ≠ expectedSequence)
    (.walCorrupt s!"WAL sequence {fromBe (slice header 12 20)}, expected {expectedSequence}")
  let _ ← headerRecordedAt header
  refuse (limits.maxRecordBytes < headerLength header)
    (.walCorrupt s!"record length {headerLength header} exceeds {limits.maxRecordBytes}")

/-! ## What an encoded header reads back as -/

variable (kind : WalKind)

theorem metadata_length (sequence recordedAt length : ℕ) : (metadata kind sequence recordedAt length).length = 24 := by
  simp [metadata]

/-- the header of a record, with its parts kept apart -/
def header (kind : WalKind) (sequence recordedAt : ℕ) (payload : Bytes) : Bytes :=
  magic ++ (metadata kind sequence recordedAt payload.length ++
    toBe 4 (recordCrc crc (metadata kind sequence recordedAt payload.length) payload).toNat)

variable (sequence recordedAt : ℕ)

theorem encodeHeader_ok (payload h : Bytes) :
    encodeHeader crc kind sequence recordedAt payload = .ok h ↔
      payload.length < 2 ^ 32 ∧ h = header crc kind sequence recordedAt payload := by
  rw [eq_comm (a := h)]
  simp [encodeHeader, bind_ok, pure, Except.pure, header]

variable (payload : Bytes)

@[simp] theorem header_length : (header crc kind sequence recordedAt payload).length = headerBytes := by
  simp [header, metadata_length, magic, headerBytes]

theorem header_magic : slice (header crc kind sequence recordedAt payload) 0 8 = magic := by
  simp [slice, header, magic]

theorem header_metadata :
    slice (header crc kind sequence recordedAt payload) 8 32 =
      metadata kind sequence recordedAt payload.length :=
  slice_mid magic _ _ 8 32 rfl (by simp [metadata_length, magic])

theorem header_version : fromBe (slice (header crc kind sequence recordedAt payload) 8 10) = version := by
  simp [slice, header, magic, metadata, toBe, version, fromBe]

theorem header_kind : (header crc kind sequence recordedAt payload).getD 10 0 = kind.toU8 := by
  simp [header, magic, metadata, toBe]

theorem header_flags : (header crc kind sequence recordedAt payload).getD 11 0 = 0 := by
  simp [header, magic, metadata, toBe]

theorem header_numbers :
    slice (header crc kind sequence recordedAt payload) 12 20 = toBe 8 sequence ∧
      slice (header crc kind sequence recordedAt payload) 20 28 = toBe 8 recordedAt ∧
      slice (header crc kind sequence recordedAt payload) 28 32 = toBe 4 payload.length := by
  simp [slice, header, metadata, magic, drop_append, drop_eq_nil_of_le]

theorem headerLength_header (h : payload.length < 2 ^ 32) :
    headerLength (header crc kind sequence recordedAt payload) = payload.length := by
  rw [headerLength, (header_numbers ..).2.2]
  exact fromBe_toBe _ _ (by norm_num at h ⊢; omega)

theorem headerCrc_header :
    headerCrc (header crc kind sequence recordedAt payload) =
      (recordCrc crc (metadata kind sequence recordedAt payload.length) payload).toNat := by
  have hfield : slice (header crc kind sequence recordedAt payload) 32 36 =
      toBe 4 (recordCrc crc (metadata kind sequence recordedAt payload.length) payload).toNat := by
    simp [slice, header, magic, metadata_length]
  rw [headerCrc, hfield]
  exact fromBe_toBe _ _ (UInt32.toNat_lt _)

theorem headerRecordedAt_header (h : recordedAt ≤ u64Max) (h0 : 0 < recordedAt) :
    headerRecordedAt (header crc kind sequence recordedAt payload) = .ok recordedAt := by
  unfold headerRecordedAt
  rw [(header_numbers ..).2.1, fromBe_toBe_u64 h, refuse_of_not (by omega)]
  rfl

end

/-! ## Segment files -/

/-- in-memory description of one segment file; `start` also names the file -/
structure Segment where
  start : ℕ
  last : ℕ
  bytes : ℕ
  records : ℕ
  firstRecordedAt : ℕ
  lastRecordedAt : ℕ
deriving DecidableEq, Repr

/-- the loop state of `scan_segment` -/
structure Scan where
  offset : ℕ
  expected : ℕ
  records : ℕ
  firstRecordedAt : ℕ
  lastRecordedAt : ℕ
deriving DecidableEq, Repr

/-- the file name of the segment that starts at `start`: twenty decimal digits -/
def segmentPath (start : ℕ) : String :=
  let digits := Nat.toDigits 10 start
  "segment-" ++ String.ofList (List.replicate (20 - digits.length) '0' ++ digits) ++ ".wal"

/-- an incomplete record is a crash tail in the final segment and corruption anywhere else -/
def truncateTailOrCorrupt (start offset : ℕ) (finalSegment : Bool) (detail : String) : EdgeResult Unit :=
  refuse (finalSegment = false) (.walCorrupt s!"{detail} before final segment at {segmentPath start}:{offset}")

section

variable (crc : Bytes → UInt32)

/-- the scan loop; `rest` is the file from the current offset on. Every round consumes a whole header, so the file's
length is fuel enough. -/
def scanLoop (start : ℕ) (kind : WalKind) (finalSegment : Bool) (limits : WalLimits) :
    ℕ → Bytes → Scan → EdgeResult Scan
  | 0, _, st => .ok st
  | fuel + 1, rest, st =>
    if rest = [] then .ok st
    else if rest.length < headerBytes then do
      truncateTailOrCorrupt start st.offset finalSegment "partial header"
      return st
    else do
      let hdr := rest.take headerBytes
      validateHeader hdr kind st.expected limits
      let recordedAt ← headerRecordedAt hdr
      refuse (recordedAt < st.lastRecordedAt) (.precondition "WAL_CLOCK_UNPROVABLE"
        s!"WAL record time regressed at {segmentPath start}:{st.offset}")
      let first := if st.firstRecordedAt = 0 then recordedAt else st.firstRecordedAt
      let total := headerBytes + headerLength hdr
      if rest.length < total then do
        -- the times of the incomplete record are already taken over at this point
        truncateTailOrCorrupt start st.offset finalSegment "partial payload"
        return { st with firstRecordedAt := first, lastRecordedAt := recordedAt }
      else do
        let payload := (rest.drop headerBytes).take (headerLength hdr)
        refuse ((recordCrc crc (slice hdr 8 32) payload).toNat ≠ headerCrc hdr)
          (.walCorrupt s!"checksum mismatch at {segmentPath start}:{st.offset}")
        scanLoop start kind finalSegment limits fuel (rest.drop total)
          { offset := satAdd st.offset total, expected := satAdd st.expected 1, records := satAdd st.records 1,
            firstRecordedAt := first, lastRecordedAt := recordedAt }

/-- recover one segment; the file afterwards holds its first `bytes` bytes -/
def scanSegment (kind : WalKind) (expectedStart : ℕ) (finalSegment : Bool) (limits : WalLimits) (file : Bytes) :
    EdgeResult Segment := do
  let st ← scanLoop crc expectedStart kind finalSegment limits file.length file ⟨0, expectedStart, 0, 0, 0⟩
  return { start := expectedStart, last := st.expected - 1, bytes := st.offset, records := st.records,
           firstRecordedAt := st.firstRecordedAt, lastRecordedAt := st.lastRecordedAt }

/-- read `n` records from the front of a file, whose first has sequence `expected` -/
def readRecords (kind : WalKind) (limits : WalLimits) : ℕ → Bytes → ℕ → EdgeResult (List WalRecord)
  | 0, _, _ => .ok []
  | n + 1, rest, expected => do
    refuse (rest.length < headerBytes) (.io "read replay WAL header")
    let hdr := rest.take headerBytes
    validateHeader hdr kind expected limits
    let recordedAt ← headerRecordedAt hdr
    refuse ((rest.drop headerBytes).length < headerLength hdr) (.io "read replay WAL payload")
    let payload := (rest.drop headerBytes).take (headerLength hdr)
    refuse ((recordCrc crc (slice hdr 8 32) payload).toNat ≠ headerCrc hdr)
      (.walCorrupt s!"checksum mismatch during replay at sequence {expected}")
    let tail ← readRecords kind limits n (rest.drop (headerBytes + headerLength hdr)) (satAdd expected 1)
    return { sequence := expected, recordedAtUnixMs := recordedAt, payload } :: tail

def readSegmentRecords (kind : WalKind) (limits : WalLimits) (segment : Segment) (file : Bytes) :
    EdgeResult (List WalRecord) :=
  readRecords crc kind limits segment.records file segment.start

/-- the admission time of the first record after the checkpoint, among `n` records; payloads are skipped unread -/
def firstTimestampAfter (kind : WalKind) (limits : WalLimits) (checkpoint : ℕ) :
    ℕ → Bytes → ℕ → EdgeResult (Option ℕ)
  | 0, _, _ => .ok none
  | n + 1, rest, expected => do
    refuse (rest.length < headerBytes) (.io "read WAL retention header")
    let hdr := rest.take headerBytes
    validateHeader hdr kind expected limits
    let recordedAt ← headerRecordedAt hdr
    if checkpoint < expected then return some recordedAt
    else firstTimestampAfter kind limits checkpoint n (rest.drop (headerBytes + headerLength hdr)) (satAdd expected 1)

/-! ## The encoding of a list of records -/

def encodeRecord (kind : WalKind) (r : WalRecord) : Bytes :=
  header crc kind r.sequence r.recordedAtUnixMs r.payload ++ r.payload

def encodeRecords (kind : WalKind) (rs : List WalRecord) : Bytes := rs.flatMap (encodeRecord crc kind)

/-- the size of a record on disk -/
def recordSize (r : WalRecord) : ℕ := headerBytes + r.payload.length

def recordsSize (rs : List WalRecord) : ℕ := (rs.map recordSize).sum

/-- a record that may follow one with time `time` as sequence `start`: its time does not regress, and the limits admit
its payload -/
structure RecordOk (limits : WalLimits) (start time : ℕ) (r : WalRecord) : Prop where
  sequence : r.sequence = start
  notBefore : time ≤ r.recordedAtUnixMs
  timeFits : r.recordedAtUnixMs ≤ u64Max
  lengthFits : r.payload.length < 2 ^ 32
  admitted : r.payload.length ≤ limits.maxRecordBytes

/-- records that can stand one after another in a segment -/
def Chain (limits : WalLimits) : ℕ → ℕ → List WalRecord → Prop
  | _, _, [] => True
  | start, time, r :: rs => RecordOk limits start time r ∧ Chain limits (start + 1) r.recordedAtUnixMs rs

/-- records that recovery can read: a chain of stamped records whose sequences fit -/
structure Readable (limits : WalLimits) (start time : ℕ) (rs : List WalRecord) : Prop where
  chain : Chain limits start time rs
  stamped : ∀ r ∈ rs, 0 < r.recordedAtUnixMs
  fits : start + rs.length ≤ u64Max

theorem Readable.cons {limits : WalLimits} {start time : ℕ} {r : WalRecord} {rs : List WalRecord}
    (h : Readable limits start time (r :: rs)) : RecordOk limits start time r ∧ 0 < r.recordedAtUnixMs ∧
      start + 1 ≤ u64Max ∧ Readable limits (start + 1) r.recordedAtUnixMs rs := by
  obtain ⟨hpos, hstamped⟩ := List.forall_mem_cons.1 h.stamped
  have hfits := h.fits
  rw [length_cons] at hfits
  exact ⟨h.chain.1, hpos, by omega, h.chain.2, hstamped, by omega⟩

variable (kind : WalKind) (r : WalRecord)

@[simp] theorem encodeRecord_length : (encodeRecord crc kind r).length = recordSize r := by
  simp [encodeRecord, recordSize]

variable (rs : List WalRecord)

theorem encodeRecords_cons : encodeRecords crc kind (r :: rs) = encodeRecord crc kind r ++ encodeRecords crc kind rs := rfl

@[simp] theorem encodeRecords_length : (encodeRecords crc kind rs).length = recordsSize rs := by
  simp [encodeRecords, recordsSize, length_flatMap]

theorem recordSize_pos : 0 < recordSize r := by unfold recordSize headerBytes; omega

variable (start : ℕ) (rest : Bytes)

theorem encodeRecord_take :
    (encodeRecord crc kind r ++ rest).take headerBytes = header crc kind r.sequence r.recordedAtUnixMs r.payload := by
  exact take_left' (header_length crc kind r.sequence r.recordedAtUnixMs r.payload)

theorem encodeRecord_drop : (encodeRecord crc kind r ++ rest).drop headerBytes = r.payload ++ rest := by
  exact drop_left' (header_length crc kind r.sequence r.recordedAtUnixMs r.payload)

theorem encodeRecord_drop_all : (encodeRecord crc kind r ++ rest).drop (headerBytes + r.payload.length) = rest :=
  drop_left' (encodeRecord_length crc kind r)

/-- **A header this process wrote is accepted** for its own kind and sequence, under limits that admit its payload -/
theorem RecordOk.validateHeader {limits : WalLimits} {start time : ℕ} {r : WalRecord} (hr : RecordOk limits start time r)
    (kind : WalKind) (hp : 0 < r.recordedAtUnixMs) (hs : start ≤ u64Max) :
    validateHeader (header crc kind r.sequence r.recordedAtUnixMs r.payload) kind start limits = .ok () := by
  obtain rfl := hr.sequence
  unfold Wal.validateHeader
  rw [header_magic, header_version, header_kind, header_flags, fromU8_toU8, (header_numbers ..).1, fromBe_toBe_u64 hs,
    headerRecordedAt_header crc _ _ _ _ hr.timeFits hp, headerLength_header crc _ _ _ _ hr.lengthFits]
  simp [refuse, hr.admitted]

theorem headerBytes_le_encodeRecord : ¬ (encodeRecord crc kind r ++ rest).length < headerBytes := by
  simp only [length_append, encodeRecord_length, recordSize]
  omega

/-- what scanning one record does to the loop state -/
def Scan.push (st : Scan) (r : WalRecord) : Scan :=
  { offset := satAdd st.offset (recordSize r), expected := satAdd st.expected 1, records := satAdd st.records 1,
    firstRecordedAt := if st.firstRecordedAt = 0 then r.recordedAtUnixMs else st.firstRecordedAt,
    lastRecordedAt := r.recordedAtUnixMs }

theorem scanLoop_record (kind : WalKind) (fin : Bool) (limits : WalLimits) (fuel : ℕ) (r : WalRecord) (rest : Bytes)
    (st : Scan) (hr : RecordOk limits st.expected st.lastRecordedAt r) (hp : 0 < r.recordedAtUnixMs)
    (hs : st.expected ≤ u64Max) :
    scanLoop crc start kind fin limits (fuel + 1) (encodeRecord crc kind r ++ rest) st =
      scanLoop crc start kind fin limits fuel rest (st.push r) := by
  have hlen : (encodeRecord crc kind r ++ rest).length = recordSize r + rest.length := by simp
  have hne : encodeRecord crc kind r ++ rest ≠ [] := by
    intro h; rw [h] at hlen; have := recordSize_pos r; simp at hlen; omega
  have hwhole : ¬ (encodeRecord crc kind r ++ rest).length < headerBytes + r.payload.length := by
    rw [hlen]; unfold recordSize; omega
  rw [scanLoop, if_neg hne, if_neg (headerBytes_le_encodeRecord crc kind r rest)]
  simp only [encodeRecord_take, encodeRecord_drop, headerLength_header crc _ _ _ _ hr.lengthFits,
    headerRecordedAt_header crc _ _ _ _ hr.timeFits hp, header_metadata, headerCrc_header,
    hr.validateHeader crc kind hp hs, ok_bind,
    take_left, refuse_of_not (not_lt.2 hr.notBefore), if_neg hwhole, encodeRecord_drop_all]
  simp [refuse, Scan.push, recordSize, hr.sequence]

/-- scanning an encoded chain succeeds and pushes its records one by one -/
theorem scanLoop_chain (kind : WalKind) (fin : Bool) (limits : WalLimits) (rs : List WalRecord) (fuel : ℕ) (st : Scan)
    (h : Readable limits st.expected st.lastRecordedAt rs) (hf : rs.length ≤ fuel) :
    scanLoop crc start kind fin limits fuel (encodeRecords crc kind rs) st = .ok (rs.foldl Scan.push st) := by
  induction rs generalizing fuel st with
  | nil => cases fuel <;> simp [scanLoop, encodeRecords]
  | cons r _ ih =>
    obtain ⟨hok, hpos, hlt, htail⟩ := h.cons
    rw [length_cons] at hf
    obtain ⟨fuel, rfl⟩ : ∃ f, fuel = f + 1 := ⟨fuel - 1, by omega⟩
    have hexp : (st.push r).expected = st.expected + 1 := satAdd_eq hlt
    rw [encodeRecords_cons, scanLoop_record crc start kind fin limits fuel r _ st hok hpos (by omega)]
    exact ih fuel (st.push r) (by rw [hexp]; exact htail) (by omega)

/-- the descriptor of a segment that holds exactly `rs` -/
def segmentOf (start : ℕ) (rs : List WalRecord) : Segment :=
  { start, last := start + rs.length - 1, bytes := recordsSize rs, records := rs.length,
    firstRecordedAt := (rs.head?.map WalRecord.recordedAtUnixMs).getD 0,
    lastRecordedAt := (rs.getLast?.map WalRecord.recordedAtUnixMs).getD 0 }

theorem recordsSize_append (rs ts : List WalRecord) : recordsSize (rs ++ ts) = recordsSize rs + recordsSize ts := by
  simp [recordsSize]

@[simp] theorem recordsSize_singleton : recordsSize [r] = recordSize r := by simp [recordsSize]

theorem length_le_recordsSize : rs.length ≤ recordsSize rs := by
  induction rs with
  | nil => simp
  | cons r _ ih =>
    have := recordSize_pos r
    simp only [recordsSize, map_cons, sum_cons, length_cons] at ih ⊢
    omega

theorem foldl_push (hp : ∀ r ∈ rs, 0 < r.recordedAtUnixMs) (st : Scan) (he : st.expected + rs.length ≤ u64Max)
    (ho : st.offset + recordsSize rs ≤ u64Max) (hr : st.records + rs.length ≤ u64Max) :
    rs.foldl Scan.push st =
      { offset := st.offset + recordsSize rs, expected := st.expected + rs.length, records := st.records + rs.length,
        firstRecordedAt := if st.firstRecordedAt = 0 then (rs.head?.map WalRecord.recordedAtUnixMs).getD 0
          else st.firstRecordedAt,
        lastRecordedAt := (rs.getLast?.map WalRecord.recordedAtUnixMs).getD st.lastRecordedAt } := by
  induction rs generalizing st with
  | nil =>
    cases st
    simp [recordsSize]
  | cons r rs ih =>
    simp only [recordsSize, map_cons, sum_cons, length_cons] at he ho hr
    have e1 : satAdd st.expected 1 = st.expected + 1 := satAdd_eq (by omega)
    have e2 : satAdd st.offset (recordSize r) = st.offset + recordSize r := satAdd_eq (by omega)
    have e3 : satAdd st.records 1 = st.records + 1 := satAdd_eq (by omega)
    rw [foldl_cons, ih (fun r hr => hp r (mem_cons_of_mem _ hr)) (st.push r) (by simp only [Scan.push, e1]; omega)
      (by simp only [Scan.push, e2, recordsSize]; omega) (by simp only [Scan.push, e3]; omega)]
    have hpos := hp r mem_cons_self
    simp only [Scan.push, e1, e2, e3, Scan.mk.injEq, recordsSize, map_cons, sum_cons, length_cons,
      head?_cons, Option.map_some, Option.getD_some, getLast?_cons]
    refine ⟨by omega, by omega, by omega, ?_, ?_⟩
    · by_cases hz : st.firstRecordedAt = 0
      · simp only [hz, if_true]
        rw [if_neg (by omega)]
      · simp [hz]
    · cases hl : rs.getLast? <;> simp

/-- **Recovery of an encoded segment.** Scanning the file that holds exactly the chain `rs` gives its descriptor. -/
theorem scanSegment_encode (fin : Bool) (limits : WalLimits) (rs : List WalRecord) (time : ℕ)
    (h : Readable limits start time rs) (hb : recordsSize rs ≤ u64Max) :
    scanSegment crc kind start fin limits (encodeRecords crc kind rs) = .ok (segmentOf start rs) := by
  have hlen := length_le_recordsSize rs
  have hc0 : Chain limits start 0 rs := by
    cases rs with
    | nil => trivial
    | cons => exact ⟨{ h.chain.1 with notBefore := Nat.zero_le _ }, h.chain.2⟩
  unfold scanSegment
  rw [scanLoop_chain crc start kind fin limits rs _ ⟨0, start, 0, 0, 0⟩ { h with chain := hc0 } (by simp; omega), ok_bind,
    foldl_push rs h.stamped ⟨0, start, 0, 0, 0⟩ h.fits (by simpa using hb) (by simp; omega)]
  simp [segmentOf, pure, Except.pure]

/-- **Replay of an encoded segment** gives exactly its records, whatever follows them in the file -/
theorem readRecords_encode (limits : WalLimits) (rs : List WalRecord) (rest : Bytes) (start : ℕ) (time : ℕ)
    (h : Readable limits start time rs) :
    readRecords crc kind limits rs.length (encodeRecords crc kind rs ++ rest) start = .ok rs := by
  induction rs generalizing start time with
  | nil => rfl
  | cons r rs ih =>
    obtain ⟨hok, hpos, hlt, htail⟩ := h.cons
    have hwhole : ¬ (r.payload ++ (encodeRecords crc kind rs ++ rest)).length < r.payload.length := by
      simp only [length_append]; omega
    have hv := hok.validateHeader crc kind hpos (by omega)
    rw [hok.sequence] at hv
    rw [length_cons, encodeRecords_cons, append_assoc, readRecords]
    simp only [encodeRecord_take, encodeRecord_drop, headerLength_header crc _ _ _ _ hok.lengthFits,
      headerRecordedAt_header crc _ _ _ _ hok.timeFits hpos, header_metadata, headerCrc_header, hok.sequence,
      hv, ok_bind, take_left, refuse_of_not (headerBytes_le_encodeRecord crc kind r _), refuse_of_not hwhole, encodeRecord_drop_all,
      satAdd_eq hlt, ih _ _ htail]
    simp [refuse, pure, Except.pure, ← hok.sequence]

/-- the retention cursor of an encoded segment is the time of its first record after the checkpoint -/
theorem firstTimestampAfter_encode (limits : WalLimits) (checkpoint : ℕ) (rs : List WalRecord) (start time : ℕ)
    (h : Readable limits start time rs) :
    firstTimestampAfter kind limits checkpoint rs.length (encodeRecords crc kind rs) start =
      .ok ((rs.find? (fun r => checkpoint < r.sequence)).map WalRecord.recordedAtUnixMs) := by
  induction rs generalizing start time with
  | nil => rfl
  | cons r _ ih =>
    obtain ⟨hok, hpos, hlt, htail⟩ := h.cons
    have hv := hok.validateHeader crc kind hpos (by omega)
    rw [hok.sequence] at hv
    rw [length_cons, encodeRecords_cons, firstTimestampAfter]
    simp only [encodeRecord_take, headerLength_header crc _ _ _ _ hok.lengthFits,
      headerRecordedAt_header crc _ _ _ _ hok.timeFits hpos, hok.sequence,
      hv, ok_bind, refuse_of_not (headerBytes_le_encodeRecord crc kind r _), encodeRecord_drop_all,
      satAdd_eq hlt, ih _ _ htail]
    by_cases hlt : checkpoint < start
    · simp [hlt, hok.sequence, pure, Except.pure]
    · simp [hlt, hok.sequence]

end

/-! ## The checkpoint file -/

variable (crc : Bytes → UInt32)

/-- checkpoint bytes 8 to 20 -/
def checkpointMetadata (kind : WalKind) (sequence : ℕ) : Bytes :=
  toBe 2 version ++ ([kind.toU8] ++ ([0] ++ toBe 8 sequence))

def encodeCheckpoint (kind : WalKind) (sequence : ℕ) : Bytes :=
  let md := checkpointMetadata kind sequence
  checkpointMagic ++ (md ++ toBe 4 (crc md).toNat)

/-- the durable checkpoint of a directory; an absent file means zero -/
def readCheckpoint (kind : WalKind) : Option Bytes → EdgeResult ℕ
  | none => .ok 0
  | some file => do
    refuse (file.length < checkpointBytes) (.io "read WAL checkpoint")
    refuse (file.length ≠ checkpointBytes) (.walCorrupt "checkpoint has an invalid length")
    refuse (slice file 0 8 ≠ checkpointMagic) (.walCorrupt "checkpoint identity mismatch")
    refuse (fromBe (slice file 8 10) ≠ version) (.walCorrupt "checkpoint identity mismatch")
    let observed ← WalKind.fromU8 (file.getD 10 0)
    refuse (observed ≠ kind) (.walCorrupt "checkpoint identity mismatch")
    refuse (file.getD 11 0 ≠ 0) (.walCorrupt "checkpoint identity mismatch")
    refuse ((crc (slice file 8 20)).toNat ≠ fromBe (slice file 20 24)) (.walCorrupt "checkpoint checksum mismatch")
    return fromBe (slice file 12 20)

/-- **The checkpoint file round-trips** -/
theorem readCheckpoint_encode (kind : WalKind) (sequence : ℕ) (h : sequence ≤ u64Max) :
    readCheckpoint crc kind (some (encodeCheckpoint crc kind sequence)) = .ok sequence := by
  have hmd : (checkpointMetadata kind sequence).length = 12 := by simp [checkpointMetadata]
  have hlen : (encodeCheckpoint crc kind sequence).length = checkpointBytes := by
    simp [encodeCheckpoint, hmd, checkpointMagic, checkpointBytes]
  have hmagic : slice (encodeCheckpoint crc kind sequence) 0 8 = checkpointMagic := by
    simp [slice, encodeCheckpoint, checkpointMagic]
  have hver : fromBe (slice (encodeCheckpoint crc kind sequence) 8 10) = version := by
    simp [slice, encodeCheckpoint, checkpointMagic, checkpointMetadata, toBe, version, fromBe]
  have hkind : (encodeCheckpoint crc kind sequence).getD 10 0 = kind.toU8 := by
    simp [encodeCheckpoint, checkpointMagic, checkpointMetadata, toBe]
  have hflags : (encodeCheckpoint crc kind sequence).getD 11 0 = 0 := by
    simp [encodeCheckpoint, checkpointMagic, checkpointMetadata, toBe]
  have hbody : slice (encodeCheckpoint crc kind sequence) 8 20 = checkpointMetadata kind sequence :=
    slice_mid checkpointMagic _ _ 8 20 rfl (by simp [hmd, checkpointMagic])
  have hcrc : slice (encodeCheckpoint crc kind sequence) 20 24 = toBe 4 (crc (checkpointMetadata kind sequence)).toNat := by
    simp [slice, encodeCheckpoint, checkpointMagic, hmd]
  have hseq : slice (encodeCheckpoint crc kind sequence) 12 20 = toBe 8 sequence := by
    simp [slice, encodeCheckpoint, checkpointMagic, checkpointMetadata, drop_append, take_append]
  simp only [readCheckpoint, hlen, hmagic, hver, hkind, hflags, hbody, hcrc, hseq, fromBe_toBe_u64 h,
    fromBe_toBe 4 _ (UInt32.toNat_lt _), fromU8_toU8, ok_bind]
  simp [refuse, pure, Except.pure]

end MasiEdge.Wal
