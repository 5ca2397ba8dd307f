/-
The event-time window engine (`window.rs`).

A snapshot is validated and added to the `[start, end)` window of its export time. Windows whose end the watermark has
reached are finalized in start order: a valid one becomes a route-neutral inference record, any other is counted. The
watermark follows event time; on an idle tick it follows the wall clock. The map of open windows is a list kept in start
order. The reasons a window collects are left out: nothing reads them.

- `push_windows`: what holds of every open window and is kept by adding the snapshot still holds
  afterwards, and every emitted record is made from such a window.
- `push_atomic`: a refused push leaves the engine as it was.
-/
import MasiEdge.Delivery.Contract
import MasiEdge.Source.Live

namespace MasiEdge.Window

open Codec Delivery
open Source (Fence TelemetryCell TelemetrySnapshot SamplingEvidence DropEvidence TelemetryFlowIdentityProfile
  DataQuality snapshotStable clearReadbackStable flowIngress ipv4 i64SatSub)

/-! ## Snapshot validation -/

/-- every cell has its own index below 256 and a well-spelled selector; `indices` are those before -/
def cellsOk (indices : List ℕ) : List TelemetryCell → Bool
  | [] => true
  | cell :: rest =>
    cell.index ≤ 255 && !(indices.contains cell.index) &&
      (validateSha256 cell.selectorDigest "selector_digest").isOk && cellsOk (cell.index :: indices) rest

/-- the sampling evidence of a snapshot -/
def samplingExact (snapshot : TelemetrySnapshot) (sampling : SamplingEvidence) : Prop :=
  sampling.algorithm = "sequence-modulo" ∧ sampling.periodPackets = 1024 ∧
    sampling.expectedHints =
      satAdd sampling.eligiblePopulation (sampling.periodPackets - 1) / max sampling.periodPackets 1 ∧
    sampling.observedHints ≤ sampling.eligiblePopulation ∧ sampling.coveragePpm ≤ 1000000 ∧
    sampling.selector = "source-sequence-modulo-period" ∧ sampling.seedDigest = snapshot.sourceProfileDigest ∧
    sampling.weighting = "none-hint-only" ∧ sampling.estimationErrorPpm = 1000000 ∧
    sampling.completePopulationClaim = false
deriving Decidable

/-- the flow identity profile of a snapshot -/
def flowExact (snapshot : TelemetrySnapshot) (flow : TelemetryFlowIdentityProfile) : Prop :=
  flow.schemaVersion = "telemetry-flow-identity-profile/v1" ∧ flow.shardId = snapshot.shardId ∧
    flow.captureAdapterId = snapshot.captureAdapterId ∧ flow.endpointIdentity = snapshot.endpointIdentity ∧
    flow.direction = flowIngress ∧ flow.supportedIpVersions = [ipv4] ∧
    flow.endpointOrdering = "unidirectional-observation-order" ∧ flow.vlanIdIncluded = false ∧
    flow.tunnelIdIncluded = false ∧ flow.fragmentSemantics = "fragment-class-preserved" ∧
    flow.l4UnavailableSemantics = "port-unavailable-with-absent-ports" ∧
    flow.selectorAlgorithm = "p4-qualified-cell-selector/v1" ∧
    flow.selectorSeedDigest = snapshot.sourceProfileDigest ∧ flow.exposure = "aggregate-cell-selector-digest-only"
deriving Decidable

/-- a drop count that cannot be measured is zero, and the Edge client's own can be -/
def dropsExact (drops : DropEvidence) : Prop :=
  drops.edgeClientDropMeasurable = true ∧ (drops.p4SourceDropMeasurable = false → drops.p4SourceDrops = 0) ∧
    (drops.p4ServerDropMeasurable = false → drops.p4ServerDrops = 0) ∧
    (drops.grpcChannelDropMeasurable = false → drops.grpcChannelDrops = 0)
deriving Decidable

/-- the remaining fields of a snapshot: counts, sequences, times, identities -/
def boundsExact (snapshot : TelemetrySnapshot) (fence : Fence) : Prop :=
  snapshot.cells.length ≤ 256 ∧ snapshot.sourceSequenceStart ≤ snapshot.sourceSequenceEnd ∧
    0 < snapshot.exportTimeUnixMs ∧ snapshot.exportTimeUnixMs ≤ snapshot.ingestTimeUnixMs ∧
    snapshot.finalSnapshot = true ∧ snapshot.aggregationEndUnixMs = snapshot.exportTimeUnixMs ∧
    snapshot.watermarkUnixMs = i64SatSub snapshot.exportTimeUnixMs snapshot.allowedLatenessMs ∧
    snapshot.observationDomain = "target:" ++ snapshot.targetId ∧
    snapshot.observationPoint = "p4-ingress-pre-firewall" ∧ snapshot.shardId = snapshot.targetId ∧
    snapshot.captureAdapterId = "p4runtime-bounded-aggregate" ∧
    snapshot.endpointIdentity = s!"p4runtime-device:{snapshot.deviceId}" ∧ snapshot.applicationGeneration ≠ 0 ∧
    snapshot.applicationGeneration = fence.applicationGeneration ∧
    snapshot.eventTimeBasis = "p4-aggregate-export-time" ∧ snapshot.exportTimeUnixMs ≤ snapshot.finalizedAtUnixMs ∧
    snapshot.finalizedAtUnixMs ≤ snapshot.producedAtUnixMs ∧
    snapshot.expectedSequenceStart = snapshot.sourceSequenceStart ∧
    snapshot.expectedSequenceEnd = snapshot.sourceSequenceEnd ∧
    snapshot.observedSequenceStart = snapshot.sourceSequenceStart ∧
    snapshot.observedSequenceEnd = snapshot.sourceSequenceEnd ∧ snapshot.cellCount = 256 ∧
    snapshot.reportedNonzeroCells = snapshot.cells.length ∧
    snapshot.snapshotStrategy = "freeze-flip-read-readback-clear" ∧ snapshot.activeBankAfterFlip ≤ 1 ∧
    snapshot.activeBankAfterFlip ≠ snapshot.frozenBank ∧ snapshot.sequenceBefore = snapshot.sequenceAfter ∧
    snapshot.expectedEntries = 256 ∧ snapshot.observedEntries = 256 ∧
    snapshot.snapshotConsistency = snapshotStable ∧ snapshot.clearAdvanceCondition = clearReadbackStable ∧
    snapshot.eventTimeMinUnixMs = snapshot.aggregationStartUnixMs ∧
    snapshot.eventTimeMaxUnixMs = snapshot.aggregationEndUnixMs ∧ snapshot.packetTimeObserved = false ∧
    snapshot.packetTimeSemantics = "not-observed-by-p4-bounded-aggregate" ∧
    snapshot.monotonicQueueAgeMs ≤ snapshot.monotonicDeadlineBudgetMs ∧ snapshot.monotonicDeadlineBudgetMs ≠ 0
deriving Decidable

/-- typed and display quality agree; valid data has aggregation bounds and no gap, other data a reason -/
def qualityExact (snapshot : TelemetrySnapshot) (quality : DataQuality) : Prop :=
  quality.display = some snapshot.quality ∧
    (quality = .valid → 0 < snapshot.aggregationStartUnixMs ∧
      snapshot.aggregationStartUnixMs ≤ snapshot.aggregationEndUnixMs ∧ snapshot.gaps = []) ∧
    (quality ≠ .valid → snapshot.qualityReasons ≠ [])
deriving Decidable

def validateSnapshot (snapshot : TelemetrySnapshot) : EdgeResult Unit := do
  refuse (snapshot.schemaVersion ≠ "telemetry-p4-window/v1") (.unknownMajor snapshot.schemaVersion)
  refuse (snapshot.sourceProfile ≠ "p4-bounded-aggregate-dual-bank/v1")
    (.precondition "SOURCE_PROFILE_MISMATCH" "unexpected telemetry source profile")
  validateIdentity snapshot.targetId "target_id"
  validateIdentity snapshot.sourceRuntimeEpoch "source_runtime_epoch"
  validateSha256 snapshot.sourceProfileDigest "source_profile_digest"
  validateIdentity snapshot.telemetrySourceId "telemetry_source_id"
  validateIdentity snapshot.windowId "window_id"
  validateIdentity snapshot.role "role"
  let fence ← required snapshot.fence (.invalidArgument "telemetry_snapshot.fence" "fence is required")
  let sampling ← required snapshot.sampling (.invalidArgument "telemetry_snapshot.sampling" "sampling evidence is required")
  let flow ← required snapshot.flowIdentityProfile (.invalidArgument "telemetry_snapshot.flow_identity_profile"
    "flow identity profile is required")
  let drops ← required snapshot.drops (.invalidArgument "telemetry_snapshot.drops" "drop evidence is required")
  refuse (2 ^ 63 ≤ snapshot.allowedLatenessMs)
    (.invalidArgument "telemetry_snapshot.allowed_lateness_ms" "exceeds signed timestamp range")
  refuse (¬ (boundsExact snapshot fence ∧ flowExact snapshot flow ∧ samplingExact snapshot sampling ∧ dropsExact drops))
    (.invalidArgument "telemetry_snapshot" "cell, sequence, or timestamp bounds are invalid")
  let quality ← required (DataQuality.tryFrom snapshot.qualityCode) (.invalidArgument "telemetry_snapshot.quality_code"
    "unknown data quality")
  refuse (¬ qualityExact snapshot quality) (.precondition "SNAPSHOT_QUALITY_MISMATCH"
    "typed/display quality, aggregation bounds, or gap evidence conflict")
  refuse (cellsOk [] snapshot.cells = false)
    (.invalidArgument "telemetry_snapshot.cells" "cell indices must be unique and in [0,255]")

/-! ## The engine -/

/-- the frozen window profile, with what `WindowConfig::new` checks -/
structure WindowConfig where
  durationMs : ℕ
  allowedLatenessMs : ℕ
  idleSourceTimeoutMs : ℕ
  maxOpen : ℕ
  featureContractDigest : String
  durationPos : 0 < durationMs
  durationRange : durationMs < 2 ^ 63
  latenessRange : allowedLatenessMs < 2 ^ 63
  idlePos : 0 < idleSourceTimeoutMs
  idleRange : idleSourceTimeoutMs < 2 ^ 63
  openPos : 0 < maxOpen
  openBound : maxOpen ≤ 64
  digestOk : validateSha256 featureContractDigest "feature_contract_digest" = .ok ()

structure OpenWindow where
  startMs : ℤ
  endMs : ℤ
  sourceRuntimeEpoch : String
  targetId : String
  sourceSequenceStart : ℕ
  sourceSequenceEnd : ℕ
  latestSourceWalSequence : ℕ
  packets : ℕ
  bytes : ℕ
  nonzeroCells : ℕ
  maxCellPackets : ℕ
  maxCellBytes : ℕ
  snapshots : ℕ
  samplingCoveragePpm : ℕ
  valid : Bool
deriving DecidableEq, Repr

structure WindowAdvance where
  inferenceRecords : List InferenceRecord := []
  lateAfterFinal : ℕ := 0
  invalidFinalWindows : ℕ := 0
deriving DecidableEq, Repr

structure WindowEngine where
  maxEventTimeMs : Option ℤ
  lastIngestTimeMs : Option ℤ
  finalizedThroughMs : ℤ
  /-- in start order -/
  openWindows : List OpenWindow
  lateAfterFinal : ℕ
deriving DecidableEq, Repr

def WindowEngine.new : WindowEngine := ⟨none, none, -(2 ^ 63), [], 0⟩

/-- the start of the window that an event time falls into -/
def WindowConfig.startOf (w : WindowConfig) (eventTime : ℤ) : ℤ := eventTime / w.durationMs * w.durationMs

def WindowEngine.window (e : WindowEngine) (start : ℤ) : Option OpenWindow :=
  e.openWindows.find? fun window => window.startMs = start

/-- insert or replace by start -/
def putWindow (window : OpenWindow) : List OpenWindow → List OpenWindow
  | [] => [window]
  | x :: rest =>
    if window.startMs < x.startMs then window :: x :: rest
    else if window.startMs = x.startMs then window :: rest
    else x :: putWindow window rest

/-- a window without data yet, for its first snapshot -/
def OpenWindow.opened (w : WindowConfig) (snapshot : TelemetrySnapshot) : OpenWindow :=
  { startMs := w.startOf snapshot.exportTimeUnixMs
    endMs := w.startOf snapshot.exportTimeUnixMs + w.durationMs
    sourceRuntimeEpoch := snapshot.sourceRuntimeEpoch
    targetId := snapshot.targetId
    sourceSequenceStart := snapshot.sourceSequenceStart
    sourceSequenceEnd := snapshot.sourceSequenceEnd
    latestSourceWalSequence := snapshot.sourceWalSequence
    packets := 0, bytes := 0, nonzeroCells := 0, maxCellPackets := 0, maxCellBytes := 0, snapshots := 0
    samplingCoveragePpm := 1000000
    valid := true }

def snapshotValid (snapshot : TelemetrySnapshot) : Bool :=
  snapshot.quality = "valid" ∧ snapshot.qualityCode = DataQuality.valid.code ∧
    (snapshot.qualityReasons = [] ∨ snapshot.qualityReasons = ["NONE"])

def OpenWindow.add (window : OpenWindow) (snapshot : TelemetrySnapshot) : OpenWindow :=
  { window with
    sourceSequenceStart := min window.sourceSequenceStart snapshot.sourceSequenceStart
    sourceSequenceEnd := max window.sourceSequenceEnd snapshot.sourceSequenceEnd
    latestSourceWalSequence := max window.latestSourceWalSequence snapshot.sourceWalSequence
    packets := satAdd window.packets snapshot.aggregatePackets
    bytes := satAdd window.bytes snapshot.aggregateBytes
    nonzeroCells := satAdd window.nonzeroCells snapshot.cells.length
    maxCellPackets := snapshot.cells.foldl (fun m cell => max m cell.packets) window.maxCellPackets
    maxCellBytes := snapshot.cells.foldl (fun m cell => max m cell.bytes) window.maxCellBytes
    snapshots := satAdd window.snapshots 1
    samplingCoveragePpm :=
      min window.samplingCoveragePpm ((snapshot.sampling.map SamplingEvidence.coveragePpm).getD 0)
    valid := window.valid && snapshotValid snapshot }

section

variable (hash : Bytes → String)

/-- the fields that make a window's identity -/
def identityMaterial (window : OpenWindow) : List String :=
  [window.targetId, window.sourceRuntimeEpoch, toString window.sourceSequenceStart, toString window.sourceSequenceEnd,
    toString window.startMs, toString window.endMs]

/-- the six features, eight bytes little-endian each -/
def featureTensor (window : OpenWindow) : Bytes :=
  [window.packets, window.bytes, window.nonzeroCells, window.maxCellPackets, window.maxCellBytes,
    window.snapshots].flatMap fun value => (toBe 8 value).reverse

def toInferenceRecord (w : WindowConfig) (window : OpenWindow) (finalizedAtMs watermarkMs : ℤ) : InferenceRecord :=
  { unboundIdentity with
    inputId := "input:" ++ hash (joined (identityMaterial window))
    eventIdempotencyKey := ""
    targetId := window.targetId
    sourceRuntimeEpoch := window.sourceRuntimeEpoch
    sourceSequenceStart := window.sourceSequenceStart
    sourceSequenceEnd := window.sourceSequenceEnd
    windowStartUnixMs := window.startMs
    windowEndUnixMs := window.endMs
    finalizedAtUnixMs := finalizedAtMs
    quality := "valid"
    featureTensor := featureTensor window
    shape := [1, featureWidth]
    dtype := featureDtype
    inputDigest := sha256 hash (featureTensor window)
    sourceWalSequence := window.latestSourceWalSequence
    inputWalSequence := 0
    schemaVersion := "edge-inference-record/v1"
    featureContractDigest := w.featureContractDigest
    finalWindow := true
    watermarkUnixMs := watermarkMs
    qualityCode := DataQuality.valid.code
    windowId := "window:" ++ hash (joined ("window" :: identityMaterial window))
    qualityReasons := ["NONE"]
    samplingCoveragePpm := window.samplingCoveragePpm
    enqueuedAtUnixMs := finalizedAtMs }

/-- a window that becomes an inference record when it is finalized -/
def OpenWindow.ready (window : OpenWindow) : Bool := window.valid && 0 < window.snapshots

/-- `now` counts as the watermark's basis when the source has been idle for long enough -/
def WindowEngine.idle (w : WindowConfig) (e : WindowEngine) (now : ℤ) : Bool :=
  match e.lastIngestTimeMs with
  | none => false
  | some last => w.idleSourceTimeoutMs ≤ i64SatSub now last

def finalize (w : WindowConfig) (e : WindowEngine) (now : ℤ) (allowIdleAdvance : Bool) : WindowAdvance × WindowEngine :=
  match e.maxEventTimeMs with
  | none => ({}, e)
  | some maxEvent =>
    let basis := if allowIdleAdvance && e.idle w now then now else maxEvent
    let watermark := i64SatSub basis w.allowedLatenessMs
    let final := e.openWindows.filter fun window => window.endMs ≤ watermark
    ({ inferenceRecords :=
        (final.filter OpenWindow.ready).map fun window => toInferenceRecord hash w window now watermark
       invalidFinalWindows := (final.filter fun window => !window.ready).length },
     { e with
       finalizedThroughMs := final.foldl (fun m window => max m window.endMs) e.finalizedThroughMs
       openWindows := e.openWindows.filter fun window => !(window.endMs ≤ watermark) })

def windowLimit : EdgeError := .resourceExhausted "WINDOW_LIMIT_EXCEEDED" "maximum open event-time windows reached"

def identityDrift : EdgeError :=
  .precondition "SOURCE_IDENTITY_DRIFT" "target or source runtime epoch changed inside a window"

/-- the window a snapshot is added to: the open one of its start, or a new one -/
def WindowEngine.target (w : WindowConfig) (e : WindowEngine) (snapshot : TelemetrySnapshot) : OpenWindow :=
  (e.window (w.startOf snapshot.exportTimeUnixMs)).getD (OpenWindow.opened w snapshot)

def push (w : WindowConfig) (e : WindowEngine) (snapshot : TelemetrySnapshot) (now : ℤ) :
    EdgeResult (WindowAdvance × WindowEngine) := do
  validateSnapshot snapshot
  refuse (snapshot.allowedLatenessMs ≠ w.allowedLatenessMs) (.precondition "WINDOW_PROFILE_MISMATCH"
    "snapshot allowed lateness differs from the frozen window profile")
  let start := w.startOf snapshot.exportTimeUnixMs
  refuse (2 ^ 63 ≤ start + w.durationMs) (.invalidArgument "window_end" "timestamp overflow")
  if start + w.durationMs ≤ e.finalizedThroughMs then
    return ({ lateAfterFinal := 1 }, { e with lateAfterFinal := satAdd e.lateAfterFinal 1 })
  else do
    refuse (e.window start = none ∧ e.openWindows.length = w.maxOpen) windowLimit
    let window := e.target w snapshot
    refuse (window.targetId ≠ snapshot.targetId ∨ window.sourceRuntimeEpoch ≠ snapshot.sourceRuntimeEpoch) identityDrift
    return finalize hash w
      { e with
        openWindows := putWindow (window.add snapshot) e.openWindows
        maxEventTimeMs := some ((e.maxEventTimeMs.map fun m => max m snapshot.exportTimeUnixMs).getD
          snapshot.exportTimeUnixMs)
        lastIngestTimeMs := some now } now false

def tick (w : WindowConfig) (e : WindowEngine) (now : ℤ) : WindowAdvance × WindowEngine := finalize hash w e now true

end

/-! ## What a step of the engine does -/

theorem mem_putWindow {window x : OpenWindow} {l : List OpenWindow} (h : x ∈ putWindow window l) : x = window ∨ x ∈ l := by
  induction l with
  | nil => exact .inl (List.mem_singleton.1 h)
  | cons y _ ih =>
    rw [putWindow] at h
    split_ifs at h
    · exact List.mem_cons.1 h
    · rcases List.mem_cons.1 h with h | h
      · exact .inl h
      · exact .inr (List.mem_cons_of_mem y h)
    · rcases List.mem_cons.1 h with h | h
      · exact .inr (h ▸ List.mem_cons_self)
      · exact (ih h).imp_right (List.mem_cons_of_mem y)

/-- the window a snapshot is added to is an open one or new -/
theorem target_cases (w : WindowConfig) (e : WindowEngine) (snapshot : TelemetrySnapshot) :
    (e.target w snapshot ∈ e.openWindows ∧ (e.target w snapshot).startMs = w.startOf snapshot.exportTimeUnixMs) ∨
      e.target w snapshot = OpenWindow.opened w snapshot := by
  unfold WindowEngine.target
  cases h : e.window (w.startOf snapshot.exportTimeUnixMs) with
  | none => exact .inr rfl
  | some => exact .inl ⟨List.mem_of_find?_eq_some h, by simpa using List.find?_some h⟩

/-- finalizing only closes windows, and emits records of windows that were open -/
theorem finalize_windows (hash : Bytes → String) (w : WindowConfig) (e : WindowEngine) (now : ℤ) (idle : Bool) :
    (∀ x ∈ (finalize hash w e now idle).2.openWindows, x ∈ e.openWindows) ∧
      ∀ r ∈ (finalize hash w e now idle).1.inferenceRecords,
        ∃ x ∈ e.openWindows, ∃ moment mark, r = toInferenceRecord hash w x moment mark := by
  unfold finalize
  cases e.maxEventTimeMs with
  | none => exact ⟨fun x hx => hx, fun r hr => absurd hr List.not_mem_nil⟩
  | some =>
    refine ⟨fun x hx => (List.mem_filter.1 hx).1, fun r hr => ?_⟩
    obtain ⟨x, hx, rfl⟩ := List.mem_map.1 hr
    exact ⟨x, (List.mem_filter.1 (List.mem_filter.1 hx).1).1, _, _, rfl⟩

variable {snapshot : TelemetrySnapshot} {hash : Bytes → String} {advance : WindowAdvance} {w : WindowConfig} {now : ℤ}

/-- an accepted push is late, or adds the snapshot to its window and finalizes -/
theorem push_ok {e e' : WindowEngine} (h : push hash w e snapshot now = .ok (advance, e')) :
    (advance = { lateAfterFinal := 1 } ∧ e' = { e with lateAfterFinal := satAdd e.lateAfterFinal 1 }) ∨
      (e.finalizedThroughMs < w.startOf snapshot.exportTimeUnixMs + w.durationMs ∧
        ¬ (e.window (w.startOf snapshot.exportTimeUnixMs) = none ∧ e.openWindows.length = w.maxOpen) ∧
        ∃ maxEvent, (advance, e') = finalize hash w
          { e with
            openWindows := putWindow ((e.target w snapshot).add snapshot) e.openWindows
            maxEventTimeMs := some maxEvent
            lastIngestTimeMs := some now } now false) := by
  replace h := passed h
  replace h := passed h
  replace h := passed h
  split_ifs at h with hlate
  · cases h
    exact .inl ⟨rfl, rfl⟩
  · obtain ⟨hroom, h⟩ := refuse_then h
    replace h := passed h
    exact .inr ⟨not_le.1 hlate, hroom, _, (Except.ok.inj h).symm⟩

/-- **Push.** What holds of every open window, and of the one the snapshot is added to, holds afterwards, and of the
window behind every emitted record. -/
theorem push_windows {e e' : WindowEngine} {P : OpenWindow → Prop}
    (h : push hash w e snapshot now = .ok (advance, e')) (hold : ∀ x ∈ e.openWindows, P x)
    (hadd : P ((e.target w snapshot).add snapshot)) :
    (∀ x ∈ e'.openWindows, P x) ∧
      ∀ r ∈ advance.inferenceRecords, ∃ x, P x ∧ ∃ moment mark, r = toInferenceRecord hash w x moment mark := by
  rcases push_ok h with ⟨rfl, rfl⟩ | ⟨-, -, maxEvent, hfinal⟩
  · exact ⟨hold, fun r hr => absurd hr List.not_mem_nil⟩
  · set added : WindowEngine := { e with
      openWindows := putWindow ((e.target w snapshot).add snapshot) e.openWindows
      maxEventTimeMs := some maxEvent
      lastIngestTimeMs := some now }
    have hall : ∀ x ∈ added.openWindows, P x := by
      intro x hx
      rcases mem_putWindow hx with rfl | hx
      · exact hadd
      · exact hold x hx
    obtain ⟨hopen, hrecords⟩ := finalize_windows hash w added now false
    rw [← hfinal] at hopen hrecords
    refine ⟨fun x hx => hall x (hopen x hx), fun r hr => ?_⟩
    obtain ⟨x, hx, hr⟩ := hrecords r hr
    exact ⟨x, hall x hx, hr⟩

/-! ## Refused pushes -/

/-- `push` as it changes the engine: its answer and the engine it leaves, also when it fails -/
def pushInPlace (hash : Bytes → String) (w : WindowConfig) (e : WindowEngine) (snapshot : TelemetrySnapshot) (now : ℤ) :
    EdgeResult WindowAdvance × WindowEngine :=
  let start := w.startOf snapshot.exportTimeUnixMs
  match validateSnapshot snapshot with
  | .error err => (.error err, e)
  | .ok () =>
    if snapshot.allowedLatenessMs ≠ w.allowedLatenessMs then
      (.error (.precondition "WINDOW_PROFILE_MISMATCH"
        "snapshot allowed lateness differs from the frozen window profile"), e)
    else if 2 ^ 63 ≤ start + w.durationMs then (.error (.invalidArgument "window_end" "timestamp overflow"), e)
    else if start + w.durationMs ≤ e.finalizedThroughMs then
      (.ok { lateAfterFinal := 1 }, { e with lateAfterFinal := satAdd e.lateAfterFinal 1 })
    else if e.window start = none ∧ e.openWindows.length = w.maxOpen then (.error windowLimit, e)
    else
      let window := e.target w snapshot
      -- a new window is entered before its identity is compared
      let entered := if e.window start = none then putWindow window e.openWindows else e.openWindows
      if window.targetId ≠ snapshot.targetId ∨ window.sourceRuntimeEpoch ≠ snapshot.sourceRuntimeEpoch then
        (.error identityDrift, { e with openWindows := entered })
      else
        let (advance, engine) := finalize hash w
          { e with
            openWindows := putWindow (window.add snapshot) entered
            maxEventTimeMs := some ((e.maxEventTimeMs.map fun m => max m snapshot.exportTimeUnixMs).getD
              snapshot.exportTimeUnixMs)
            lastIngestTimeMs := some now } now false
        (.ok advance, engine)

theorem putWindow_add (x : OpenWindow) (snapshot : TelemetrySnapshot) (l : List OpenWindow) :
    putWindow (x.add snapshot) (putWindow x l) = putWindow (x.add snapshot) l := by
  have hstart : (x.add snapshot).startMs = x.startMs := rfl
  induction l with
  | nil => simp [putWindow, hstart]
  | cons =>
    simp only [putWindow, hstart]
    split_ifs <;> simp [putWindow, *]

/-- **A refused push leaves the engine as it was**, from every engine. For a snapshot that passes validation the start of its
window is computed without overflow; the other sums of `push` and `finalize` are checked or saturate. -/
theorem push_atomic (hash : Bytes → String) (w : WindowConfig) (e : WindowEngine) (snapshot : TelemetrySnapshot) (now : ℤ) :
    Atomic e (push hash w e snapshot now) (pushInPlace hash w e snapshot now) ∧
      (validateSnapshot snapshot = .ok () → snapshot.exportTimeUnixMs < 2 ^ 63 →
        0 ≤ snapshot.exportTimeUnixMs / w.durationMs ∧ snapshot.exportTimeUnixMs / w.durationMs < 2 ^ 63 ∧
          0 ≤ w.startOf snapshot.exportTimeUnixMs ∧ w.startOf snapshot.exportTimeUnixMs < 2 ^ 63) := by
  constructor
  · unfold push pushInPlace
    cases validateSnapshot snapshot with
    | error => rfl
    | ok =>
      refine .refuse fun _ => .refuse fun _ => ?_
      by_cases hlate : w.startOf snapshot.exportTimeUnixMs + w.durationMs ≤ e.finalizedThroughMs
      · rw [if_pos hlate, if_pos hlate]
        rfl
      rw [if_neg hlate, if_neg hlate]
      refine .refuse fun _ => ?_
      dsimp only
      cases hwindow : e.window (w.startOf snapshot.exportTimeUnixMs) with
      | some x =>
        exact .refuse fun _ => rfl
      | none =>
        -- a window that is new has the identity of its snapshot
        have hsame : ¬ ((e.target w snapshot).targetId ≠ snapshot.targetId ∨
            (e.target w snapshot).sourceRuntimeEpoch ≠ snapshot.sourceRuntimeEpoch) := by
          simp [WindowEngine.target, hwindow, OpenWindow.opened]
        rw [if_pos rfl, putWindow_add, refuse_of_not hsame, if_neg hsame]
        rfl
  · intro hvalid hrange
    simp only [validateSnapshot, bind_ok, refuse_ok, not_not] at hvalid
    obtain ⟨_, -, _, -, _, -, _, -, _, -, _, -, _, -, _, -, fence, -, _, -, _, -, _, -, _, -, _, ⟨hbounds, -⟩, -⟩ := hvalid
    have hpos := hbounds.2.2.1
    have hd : (0 : ℤ) < w.durationMs := by exact_mod_cast w.durationPos
    have hq : 0 ≤ snapshot.exportTimeUnixMs / w.durationMs := Int.ediv_nonneg hpos.le hd.le
    refine ⟨hq, (Int.ediv_le_self _ hpos.le).trans_lt hrange, mul_nonneg hq hd.le, ?_⟩
    exact (Int.ediv_mul_le _ hd.ne').trans_lt hrange

end MasiEdge.Window
