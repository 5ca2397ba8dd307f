/-
The source-side messages: telemetry snapshots, supplemental hints and source-WAL records.

Unsigned fields are natural numbers and signed ones integers; an enumeration that travels as an `i32` keeps its code. Fields
that no modelled function reads (the snapshot's pipeline identity, observation and reset epoch) are left out.
-/
import MasiEdge.Digest

namespace MasiEdge.Source

/-! ## Enumerations -/

inductive DataQuality where
  | unspecified
  | valid
  | partialData
  | gap
  | stale
  | invalid
  | reset
  | notCovered
  | notMeasurable
deriving DecidableEq, Repr

def DataQuality.code : DataQuality → ℤ
  | .unspecified => 0
  | .valid => 1
  | .partialData => 2
  | .gap => 3
  | .stale => 4
  | .invalid => 5
  | .reset => 6
  | .notCovered => 7
  | .notMeasurable => 8

def DataQuality.tryFrom (code : ℤ) : Option DataQuality :=
  [.unspecified, .valid, .partialData, .gap, .stale, .invalid, .reset, .notCovered, .notMeasurable].find?
    fun q => q.code = code

/-- the only consistent display spelling of a quality -/
def DataQuality.display : DataQuality → Option String
  | .unspecified => none
  | .valid => some "valid"
  | .partialData => some "partial"
  | .gap => some "gap"
  | .stale => some "stale"
  | .invalid => some "invalid"
  | .reset => some "reset"
  | .notCovered => some "not-covered"
  | .notMeasurable => some "not-measurable"

/-- `SnapshotConsistency::Stable` -/
def snapshotStable : ℤ := 1

/-- `ClearAdvanceCondition::ReadbackStable` -/
def clearReadbackStable : ℤ := 1

/-- `TelemetryFlowDirection::Ingress` -/
def flowIngress : ℤ := 1

/-- `TelemetryIpVersion::Ipv4` -/
def ipv4 : ℤ := 1

/-! ## Snapshots -/

structure Fence where
  targetControlIncarnationId : String
  targetAssignmentGeneration : ℕ
  actorRuntimeEpoch : String
  applicationGeneration : ℕ
  electionIdHigh : ℕ
  electionIdLow : ℕ
deriving DecidableEq, Repr

structure TelemetryCell where
  index : ℕ
  packets : ℕ
  bytes : ℕ
  selectorDigest : String
deriving DecidableEq, Repr

structure SourceGap where
  sourceSequenceStart : ℕ
  sourceSequenceEnd : ℕ
  reasonCode : String
deriving DecidableEq, Repr

structure SamplingEvidence where
  algorithm : String
  periodPackets : ℕ
  eligiblePopulation : ℕ
  expectedHints : ℕ
  observedHints : ℕ
  coveragePpm : ℕ
  selector : String
  seedDigest : String
  weighting : String
  estimationErrorPpm : ℕ
  completePopulationClaim : Bool
deriving DecidableEq, Repr

structure DropEvidence where
  p4SourceDrops : ℕ
  p4ServerDrops : ℕ
  grpcChannelDrops : ℕ
  edgeClientDrops : ℕ
  digestHintsObserved : ℕ
  packetInHintsObserved : ℕ
  p4SourceDropMeasurable : Bool
  p4ServerDropMeasurable : Bool
  grpcChannelDropMeasurable : Bool
  edgeClientDropMeasurable : Bool
deriving DecidableEq, Repr

structure TelemetryFlowIdentityProfile where
  schemaVersion : String
  shardId : String
  captureAdapterId : String
  endpointIdentity : String
  direction : ℤ
  supportedIpVersions : List ℤ
  endpointOrdering : String
  vlanIdIncluded : Bool
  tunnelIdIncluded : Bool
  fragmentSemantics : String
  l4UnavailableSemantics : String
  selectorAlgorithm : String
  selectorSeedDigest : String
  exposure : String
deriving DecidableEq, Repr

structure TelemetrySnapshot where
  schemaVersion : String
  sourceProfile : String
  sourceProfileDigest : String
  telemetrySourceId : String
  targetId : String
  deviceId : ℕ
  fence : Option Fence
  sourceRuntimeEpoch : String
  frozenBank : ℕ
  epoch : ℕ
  sourceSequenceStart : ℕ
  sourceSequenceEnd : ℕ
  exportTimeUnixMs : ℤ
  ingestTimeUnixMs : ℤ
  cells : List TelemetryCell
  aggregatePackets : ℕ
  aggregateBytes : ℕ
  quality : String
  qualityReasons : List String
  sourceWalSequence : ℕ
  qualityCode : ℤ
  aggregationStartUnixMs : ℤ
  aggregationEndUnixMs : ℤ
  watermarkUnixMs : ℤ
  finalSnapshot : Bool
  gaps : List SourceGap
  role : String
  observationDomain : String
  observationPoint : String
  applicationGeneration : ℕ
  windowId : String
  eventTimeBasis : String
  allowedLatenessMs : ℕ
  finalizedAtUnixMs : ℤ
  producedAtUnixMs : ℤ
  expectedSequenceStart : ℕ
  expectedSequenceEnd : ℕ
  observedSequenceStart : ℕ
  observedSequenceEnd : ℕ
  sampling : Option SamplingEvidence
  drops : Option DropEvidence
  cellCount : ℕ
  reportedNonzeroCells : ℕ
  snapshotStrategy : String
  activeBankAfterFlip : ℕ
  sequenceBefore : ℕ
  sequenceAfter : ℕ
  expectedEntries : ℕ
  observedEntries : ℕ
  snapshotConsistency : ℤ
  clearAdvanceCondition : ℤ
  shardId : String
  captureAdapterId : String
  endpointIdentity : String
  flowIdentityProfile : Option TelemetryFlowIdentityProfile
  eventTimeMinUnixMs : ℤ
  eventTimeMaxUnixMs : ℤ
  packetTimeObserved : Bool
  packetTimeSemantics : String
  monotonicQueueAgeMs : ℕ
  monotonicDeadlineBudgetMs : ℕ
deriving Repr

/-! ## Source-WAL records -/

structure SupplementalHint where
  targetId : String
  sourceRuntimeEpoch : String
  kind : ℕ
  digestId : ℕ
  listId : ℕ
  payloadDigest : String
  payloadBytes : ℕ
  receivedAtUnixMs : ℤ
deriving DecidableEq, Repr

inductive SourceWalStage where
  | unspecified
  | bankFreezeStarted
  | bankFrozen
  | snapshotDurable
  | clearCompleted
  | snapshotFinalized
  | digestHintDurable
  | digestHintAcked
  | packetHintDurable
  | sourceGapDurable
deriving DecidableEq, Repr

/-- a decoded source-WAL record; `stage` is `none` for a code the enumeration does not know -/
structure SourceWalRecord where
  schemaVersion : String := "edge-source-wal/v1"
  stage : Option SourceWalStage
  snapshot : Option TelemetrySnapshot := none
  hint : Option SupplementalHint := none
  snapshotWalSequence : ℕ := 0
  recordedAtUnixMs : ℤ := 0
  frozenBank : ℕ := 0
  newActiveBank : ℕ := 0
  previousEpoch : ℕ := 0
  newEpoch : ℕ := 0
  operationWalSequence : ℕ := 0
  sourceSequence : ℕ := 0
  counterPacketsBefore : ℕ := 0
  counterBytesBefore : ℕ := 0
  reasonCode : String := ""
  sourceRuntimeEpoch : String := ""
  newActiveStartedAtUnixMs : ℤ := 0
deriving Repr

/-- an unfinished freeze, as the actor holds it in memory -/
structure SourceRecovery where
  operationWalSequence : ℕ
  frozenBank : ℕ
  newActiveBank : ℕ
  previousEpoch : ℕ
  newEpoch : ℕ
  sourceSequence : ℕ
  counterPacketsBefore : ℕ
  counterBytesBefore : ℕ
  sourceRuntimeEpoch : String
  newActiveStartedAtUnixMs : ℤ
  frozen : Bool
  snapshot : Option TelemetrySnapshot
  snapshotWalSequence : ℕ
  cleared : Bool
deriving Repr

end MasiEdge.Source
