/-
The source side of the live actor: `poll_telemetry`, the four stages of `finish_source_recovery`, and the supplemental hints.

Every target read, target write, clock reading and WAL append is an argument, so a step says what the actor does for each
way its environment can answer. A stage that fails leaves the state as it was after the stage before it; the state after
each stage is therefore a point at which the process may stop. The order of effects inside a stage is the source's: the
in-memory operation changes only after its record is durable.
-/
import MasiEdge.Base.Log
import MasiEdge.Source.Contract

namespace MasiEdge.Source

open Codec

/-! ## Configuration and state -/

/-- what the source functions read of the configuration and the assignment -/
structure SourceConfig where
  targetId : String
  deviceId : ℕ
  role : String
  fence : Option Fence
  sourceProfileDigest : String
  allowedLatenessMs : ℕ
  p4RpcDeadlineMs : ℕ
  pendingDigestAckQueue : ℕ
deriving DecidableEq, Repr

structure SourceState where
  wal : Log SourceWalRecord
  recovery : Option SourceRecovery
  sourceSequence : ℕ
  pendingDigestAcks : List (ℕ × SupplementalHint)
  digestHintsSinceSnapshot : ℕ
  packetHintsSinceSnapshot : ℕ
  hintDropsSinceSnapshot : ℕ
  activeBankStartedMs : Option ℤ

def SourceState.empty : SourceState := ⟨Log.empty, none, 0, [], 0, 0, 0, none⟩

/-- the telemetry selector as the target reports it -/
structure Selector where
  bank : Fin 2
  epoch : Fin (2 ^ 32)
deriving DecidableEq, Repr

/-- a counter read as (packets, bytes) -/
abbrev Counter := ℕ × ℕ

abbrev Outcome := EdgeResult Unit × SourceState

/-- go on with `f` only after success -/
def Outcome.andThen (x : Outcome) (f : SourceState → Outcome) : Outcome :=
  match x with
  | (.ok (), s) => f s
  | (.error e, s) => (.error e, s)

/-- append `record`; on success continue with `keep` -/
def appendThen (s : SourceState) (record : SourceWalRecord) (io : EdgeResult Unit) (keep : SourceState → SourceState) :
    Outcome :=
  match io with
  | .error e => (.error e, s)
  | .ok () => (.ok (), keep { s with wal := s.wal.append record })

/-! ## poll_telemetry -/

def sourceRuntimeEpoch (cfg : SourceConfig) : String :=
  "source:" ++ (cfg.fence.map Fence.actorRuntimeEpoch).getD "missing"

/-- `u32` saturating successor -/
def nextEpoch (epoch : ℕ) : ℕ := min (epoch + 1) (2 ^ 32 - 1)

/-- the operation a poll starts -/
def startedRecovery (cfg : SourceConfig) (s : SourceState) (selector : Selector) (before : Counter) (now : ℤ) :
    SourceRecovery :=
  { operationWalSequence := s.wal.nextSequence
    frozenBank := selector.bank.val
    newActiveBank := 1 - selector.bank.val
    previousEpoch := selector.epoch.val
    newEpoch := nextEpoch selector.epoch.val
    sourceSequence := satAdd s.sourceSequence 1
    counterPacketsBefore := before.1
    counterBytesBefore := before.2
    sourceRuntimeEpoch := sourceRuntimeEpoch cfg
    newActiveStartedAtUnixMs := now
    frozen := false, snapshot := none, snapshotWalSequence := 0, cleared := false }

/-- the fields every stage record of an operation shares -/
def stageRecord (stage : SourceWalStage) (recovery : SourceRecovery) (reason : String) (now : ℤ) : SourceWalRecord :=
  { stage := some stage
    snapshotWalSequence := recovery.snapshotWalSequence
    recordedAtUnixMs := now
    frozenBank := recovery.frozenBank
    newActiveBank := recovery.newActiveBank
    previousEpoch := recovery.previousEpoch
    newEpoch := recovery.newEpoch
    operationWalSequence := recovery.operationWalSequence
    sourceSequence := recovery.sourceSequence
    counterPacketsBefore := recovery.counterPacketsBefore
    counterBytesBefore := recovery.counterBytesBefore
    reasonCode := reason
    sourceRuntimeEpoch := recovery.sourceRuntimeEpoch
    newActiveStartedAtUnixMs := recovery.newActiveStartedAtUnixMs }

/-- what the environment answers to one poll before it hands over to the stages -/
structure PollReplies where
  selector : EdgeResult Selector
  counter : EdgeResult Counter
  now : ℤ
  io : EdgeResult Unit

/-- `poll_telemetry` up to the durable start of the freeze; the caller has checked lease, session and watermark. The
source sequence moves before the record is durable. -/
def pollStart (cfg : SourceConfig) (s : SourceState) (env : PollReplies) : Outcome :=
  match s.recovery, env.selector, env.counter with
  | some _, _, _ => (.ok (), s)
  | none, .error e, _ => (.error e, s)
  | none, .ok _, .error e => (.error e, s)
  | none, .ok selector, .ok before =>
    let recovery := startedRecovery cfg s selector before env.now
    appendThen { s with sourceSequence := satAdd s.sourceSequence 1 }
      (stageRecord .bankFreezeStarted recovery "BANK_FREEZE_STARTED" env.now) env.io
      fun s => { s with recovery := some recovery }

/-! ## finish_source_recovery -/

/-- what the environment answers to one run through the stages -/
structure FinishReplies where
  selector : EdgeResult Selector
  selectorWrite : EdgeResult Unit
  /-- reading the selector back, and whether it is exactly the one written -/
  selectorReadback : EdgeResult Bool
  frozenCounter : EdgeResult Counter
  frozenAt : ℤ
  frozenIo : EdgeResult Unit
  cells : EdgeResult (List Counter)
  counter : EdgeResult Counter
  snapshotAt : ℤ
  snapshotIo : EdgeResult Unit
  clearWrite : EdgeResult Unit
  clearReadback : EdgeResult Counter
  clearedAt : ℤ
  clearIo : EdgeResult Unit
  finalizedAt : ℤ
  finalIo : EdgeResult Unit

/-- run `f` on the operation in flight -/
def withRecovery (s : SourceState) (f : SourceRecovery → Outcome) : Outcome :=
  match s.recovery with
  | none => (.error (.precondition "SOURCE_RECOVERY_ABSENT" "no source operation to recover"), s)
  | some recovery => f recovery

/-- the operation after the frozen bank was read -/
def SourceRecovery.froze (recovery : SourceRecovery) (counter : Counter) : SourceRecovery :=
  { recovery with counterPacketsBefore := counter.1, counterBytesBefore := counter.2, frozen := true }

/-- re-read the frozen bank's counters and make the freeze durable -/
def recordFrozen (s : SourceState) (recovery : SourceRecovery) (reason : String) (env : FinishReplies) : Outcome :=
  match env.frozenCounter with
  | .error e => (.error e, s)
  | .ok counter =>
    appendThen s (stageRecord .bankFrozen (recovery.froze counter) reason env.frozenAt) env.frozenIo
      fun s => { s with recovery := some (recovery.froze counter) }

/-- the exact readback of the selector decides, whatever the write returned -/
def checkFlip (env : FinishReplies) : EdgeResult Unit :=
  match env.selectorReadback with
  | .error e => .error (.unknownOutcome s!"telemetry selector readback unavailable:{e.reasonCode}")
  | .ok true => .ok ()
  | .ok false =>
    match env.selectorWrite with
    | .error _ => .error (.unknownOutcome "telemetry selector response lost and readback differs")
    | .ok _ => .error (.precondition "TELEMETRY_SELECTOR_MISMATCH" "telemetry selector exact readback failed")

/-- the source's `freeze_reason`: flip the selector or find it flipped; nothing to record when the freeze is durable -/
def freezeReason (recovery : SourceRecovery) (env : FinishReplies) : EdgeResult (Option String) := do
  let observed ← env.selector
  if observed.bank.val = recovery.frozenBank ∧ observed.epoch.val = recovery.previousEpoch ∧ recovery.frozen = false then do
    refuse (2 ^ 32 ≤ recovery.newEpoch) (.walCorrupt "telemetry epoch exceeds first-release u32")
    refuse (1 < recovery.newActiveBank) (.invalidArgument "telemetry_bank" "must be 0 or 1")
    checkFlip env
    return some "BANK_FROZEN"
  else if observed.bank.val = recovery.newActiveBank ∧ observed.epoch.val = recovery.newEpoch then
    return if recovery.frozen then none else some "BANK_FROZEN_RECOVERED"
  else
    .error (.precondition "TELEMETRY_SELECTOR_DRIFT" "selector is neither the durable pre-state nor frozen post-state")

/-- first stage -/
def freezeStage (s : SourceState) (env : FinishReplies) : Outcome :=
  withRecovery s fun recovery =>
    match freezeReason recovery env with
    | .error e => (.error e, s)
    | .ok none => (.ok (), s)
    | .ok (some reason) => recordFrozen s recovery reason env

/-- `i64` saturating subtraction -/
def i64SatSub (a b : ℤ) : ℤ := max (-(2 ^ 63)) (min (2 ^ 63 - 1) (a - b))

/-- hint coverage in parts per million, at most all -/
def coveragePpm (observed expected : ℕ) : ℕ :=
  if expected = 0 then 1000000 else min (observed * 1000000 / expected) 1000000

section

variable (hash : Bytes → String)

/-- the non-zero cells of a bank -/
def snapshotCells (cfg : SourceConfig) (epoch : ℕ) : ℕ → List Counter → List TelemetryCell
  | _, [] => []
  | index, (packets, bytes) :: rest =>
    if packets = 0 ∧ bytes = 0 then snapshotCells cfg epoch (index + 1) rest
    else
      { index, packets, bytes
        selectorDigest := sha256 hash
          (joined [cfg.targetId, cfg.sourceProfileDigest, toString epoch, toString index]) } ::
        snapshotCells cfg epoch (index + 1) rest

def flowProfile (cfg : SourceConfig) : TelemetryFlowIdentityProfile :=
  { schemaVersion := "telemetry-flow-identity-profile/v1"
    shardId := cfg.targetId
    captureAdapterId := "p4runtime-bounded-aggregate"
    endpointIdentity := s!"p4runtime-device:{cfg.deviceId}"
    direction := flowIngress
    supportedIpVersions := [ipv4]
    endpointOrdering := "unidirectional-observation-order"
    vlanIdIncluded := false
    tunnelIdIncluded := false
    fragmentSemantics := "fragment-class-preserved"
    l4UnavailableSemantics := "port-unavailable-with-absent-ports"
    selectorAlgorithm := "p4-qualified-cell-selector/v1"
    selectorSeedDigest := cfg.sourceProfileDigest
    exposure := "aggregate-cell-selector-digest-only" }

def samplingEvidence (cfg : SourceConfig) (packets hints : ℕ) : SamplingEvidence :=
  let expected := satAdd packets 1023 / 1024
  { algorithm := "sequence-modulo"
    periodPackets := 1024
    eligiblePopulation := packets
    expectedHints := expected
    observedHints := hints
    coveragePpm := coveragePpm hints expected
    selector := "source-sequence-modulo-period"
    seedDigest := cfg.sourceProfileDigest
    weighting := "none-hint-only"
    estimationErrorPpm := 1000000
    completePopulationClaim := false }

def dropEvidence (s : SourceState) : DropEvidence :=
  { p4SourceDrops := 0
    p4ServerDrops := 0
    grpcChannelDrops := 0
    edgeClientDrops := s.hintDropsSinceSnapshot
    digestHintsObserved := s.digestHintsSinceSnapshot
    packetInHintsObserved := s.packetHintsSinceSnapshot
    p4SourceDropMeasurable := false
    p4ServerDropMeasurable := false
    grpcChannelDropMeasurable := false
    edgeClientDropMeasurable := true }

/-- the snapshot of the frozen bank, taken at `now` with the bank's counter and cells -/
def buildSnapshot (cfg : SourceConfig) (s : SourceState) (recovery : SourceRecovery) (counter : Counter)
    (cells : List Counter) (now : ℤ) : TelemetrySnapshot :=
  let start := s.activeBankStartedMs.getD 0
  let known : Bool := 0 < start
  let nonzero := snapshotCells hash cfg recovery.previousEpoch 0 cells
  { schemaVersion := "telemetry-p4-window/v1"
    sourceProfile := "p4-bounded-aggregate-dual-bank/v1"
    sourceProfileDigest := cfg.sourceProfileDigest
    telemetrySourceId := "p4-source:" ++ cfg.targetId
    targetId := cfg.targetId
    deviceId := cfg.deviceId
    fence := cfg.fence
    sourceRuntimeEpoch := recovery.sourceRuntimeEpoch
    frozenBank := recovery.frozenBank
    epoch := recovery.previousEpoch
    sourceSequenceStart := recovery.sourceSequence
    sourceSequenceEnd := recovery.sourceSequence
    exportTimeUnixMs := now
    ingestTimeUnixMs := now
    cells := nonzero
    aggregatePackets := counter.1
    aggregateBytes := counter.2
    quality := if known then "valid" else "partial"
    qualityReasons := if known then ["NONE"] else ["SOURCE_START_UNKNOWN"]
    sourceWalSequence := s.wal.nextSequence
    qualityCode := (if known then DataQuality.valid else DataQuality.partialData).code
    aggregationStartUnixMs := start
    aggregationEndUnixMs := now
    watermarkUnixMs := i64SatSub now cfg.allowedLatenessMs
    finalSnapshot := true
    gaps := if known then [] else [⟨recovery.sourceSequence, recovery.sourceSequence, "SOURCE_START_UNKNOWN"⟩]
    role := cfg.role
    observationDomain := "target:" ++ cfg.targetId
    observationPoint := "p4-ingress-pre-firewall"
    applicationGeneration := (cfg.fence.map Fence.applicationGeneration).getD 0
    windowId := "window:" ++ hash (joined [cfg.targetId, recovery.sourceRuntimeEpoch, toString recovery.sourceSequence,
      toString start, toString now])
    eventTimeBasis := "p4-aggregate-export-time"
    allowedLatenessMs := cfg.allowedLatenessMs
    finalizedAtUnixMs := now
    producedAtUnixMs := now
    expectedSequenceStart := recovery.sourceSequence
    expectedSequenceEnd := recovery.sourceSequence
    observedSequenceStart := recovery.sourceSequence
    observedSequenceEnd := recovery.sourceSequence
    sampling := some (samplingEvidence cfg counter.1 s.digestHintsSinceSnapshot)
    drops := some (dropEvidence s)
    cellCount := 256
    reportedNonzeroCells := nonzero.length
    snapshotStrategy := "freeze-flip-read-readback-clear"
    activeBankAfterFlip := recovery.newActiveBank
    sequenceBefore := recovery.counterPacketsBefore
    sequenceAfter := counter.1
    expectedEntries := 256
    observedEntries := 256
    snapshotConsistency := snapshotStable
    clearAdvanceCondition := clearReadbackStable
    shardId := cfg.targetId
    captureAdapterId := "p4runtime-bounded-aggregate"
    endpointIdentity := s!"p4runtime-device:{cfg.deviceId}"
    flowIdentityProfile := some (flowProfile cfg)
    eventTimeMinUnixMs := start
    eventTimeMaxUnixMs := now
    packetTimeObserved := false
    packetTimeSemantics := "not-observed-by-p4-bounded-aggregate"
    monotonicQueueAgeMs := 0
    monotonicDeadlineBudgetMs := cfg.p4RpcDeadlineMs }

/-- a frozen bank is read whole, and its counter must not have moved since the freeze -/
def readFrozenBank (recovery : SourceRecovery) (env : FinishReplies) : EdgeResult (Counter × List Counter) := do
  let cells ← env.cells
  refuse (cells.length ≠ 256)
    (.precondition "SNAPSHOT_INCONSISTENT" "telemetry snapshot did not return all 256 cells")
  let counter ← env.counter
  refuse (recovery.counterPacketsBefore ≠ counter.1 ∨ recovery.counterBytesBefore ≠ counter.2)
    (.precondition "SNAPSHOT_INCONSISTENT" "frozen-bank aggregate changed during readback; retaining bank for retry")
  return (counter, cells)

/-- second stage: make the snapshot durable, unless it already is -/
def snapshotStage (cfg : SourceConfig) (s : SourceState) (env : FinishReplies) : Outcome :=
  withRecovery s fun recovery =>
    match recovery.snapshot with
    | some _ => (.ok (), s)
    | none =>
      match readFrozenBank recovery env with
      | .error e => (.error e, s)
      | .ok (counter, cells) =>
        if 2 ^ 63 ≤ cfg.allowedLatenessMs then
          (.error (.invalidArgument "allowed_lateness_ms" "exceeds signed timestamp range"), s)
        else
          let snapshot := buildSnapshot hash cfg s recovery counter cells env.snapshotAt
          let record := { stageRecord .snapshotDurable recovery "SNAPSHOT_DURABLE" env.snapshotAt with
            snapshot := some snapshot, snapshotWalSequence := s.wal.nextSequence }
          let recovery := { recovery with snapshot := some snapshot, snapshotWalSequence := s.wal.nextSequence }
          appendThen s record env.snapshotIo fun s => { s with recovery := some recovery }

end

/-- the bank counts as clear when its counter reads back zero, whatever the write returned -/
def clearTelemetryBank (env : FinishReplies) : EdgeResult Unit :=
  match env.clearReadback with
  | .error e => .error (.unknownOutcome s!"telemetry clear readback unavailable:{e.reasonCode}")
  | .ok (0, 0) => .ok ()
  | .ok _ =>
    match env.clearWrite with
    | .error _ => .error (.unknownOutcome "telemetry clear response failed and readback nonzero")
    | .ok _ => .error (.unknownOutcome "telemetry clear response returned but readback nonzero")

/-- third stage: clear the bank, unless that is already durable -/
def clearStage (s : SourceState) (env : FinishReplies) : Outcome :=
  withRecovery s fun recovery =>
    if recovery.cleared then (.ok (), s)
    else
      match clearTelemetryBank env with
      | .error e => (.error e, s)
      | .ok () =>
        let recovery := { recovery with cleared := true }
        appendThen s (stageRecord .clearCompleted recovery "CLEAR_COMPLETED" env.clearedAt) env.clearIo
          fun s => { s with recovery := some recovery }

/-- the finalized record of an operation whose snapshot is durable -/
def finalizedRecord (recovery : SourceRecovery) (snapshot : TelemetrySnapshot) (now : ℤ) : SourceWalRecord :=
  { stageRecord .snapshotFinalized recovery "SNAPSHOT_FINALIZED" now with snapshot := some snapshot }

/-- last stage: the snapshot, stamped with its final sequence, becomes durable and the operation ends -/
def finalizeStage (s : SourceState) (env : FinishReplies) : Outcome :=
  withRecovery s fun recovery =>
    match recovery.snapshot with
    | none => (.error (.walCorrupt "source recovery cleared without a durable snapshot"), s)
    | some snapshot =>
      let snapshot := { snapshot with sourceWalSequence := s.wal.nextSequence }
      appendThen s (finalizedRecord recovery snapshot env.finalizedAt) env.finalIo fun s =>
        { s with
          recovery := none
          digestHintsSinceSnapshot := 0
          packetHintsSinceSnapshot := 0
          hintDropsSinceSnapshot := 0
          activeBankStartedMs := some recovery.newActiveStartedAtUnixMs }

/-- `finish_source_recovery` up to its first `n` stages; all four make the whole function -/
def finishStages (hash : Bytes → String) (cfg : SourceConfig) (s : SourceState) (env : FinishReplies) : ℕ → Outcome
  | 0 => (.ok (), s)
  | 1 => freezeStage s env
  | 2 => (freezeStage s env).andThen fun s => snapshotStage hash cfg s env
  | 3 => ((freezeStage s env).andThen fun s => snapshotStage hash cfg s env).andThen fun s => clearStage s env
  | _ => (((freezeStage s env).andThen fun s => snapshotStage hash cfg s env).andThen fun s => clearStage s env).andThen
      fun s => finalizeStage s env

/-! ## Supplemental hints -/

/-- `persist_hint_gap` -/
def persistHintGap (cfg : SourceConfig) (s : SourceState) (kind : String) (now : ℤ) (io : EdgeResult Unit) : Outcome :=
  let record : SourceWalRecord :=
    { stage := some .sourceGapDurable
      recordedAtUnixMs := now
      reasonCode := "SUPPLEMENTAL_HINT_DROPPED:" ++ kind
      sourceRuntimeEpoch := (cfg.fence.map Fence.actorRuntimeEpoch).getD "" }
  appendThen s record io fun s => { s with hintDropsSinceSnapshot := satAdd s.hintDropsSinceSnapshot 1 }

/-- `flush_digest_acks`: acknowledge the oldest durable hint to the target, then record that -/
def flushDigestAcks (s : SourceState) (ack : EdgeResult Unit) (now : ℤ) (io : EdgeResult Unit) : Outcome :=
  match s.pendingDigestAcks with
  | [] => (.ok (), s)
  | (durableSequence, hint) :: rest =>
    match ack with
    | .error e => (.error e, s)
    | .ok () =>
      let record : SourceWalRecord :=
        { stage := some .digestHintAcked
          hint := some hint
          recordedAtUnixMs := now
          operationWalSequence := durableSequence
          reasonCode := "DIGEST_HINT_ACKED"
          sourceRuntimeEpoch := hint.sourceRuntimeEpoch }
      appendThen s record io fun s => { s with pendingDigestAcks := rest }

/-- `persist_digest_hint` before its flush; a full queue leaves a gap record instead -/
def persistDigestHint (cfg : SourceConfig) (s : SourceState) (hint : SupplementalHint) (now : ℤ) (io : EdgeResult Unit) :
    Outcome :=
  if s.pendingDigestAcks.length = cfg.pendingDigestAckQueue then
    (persistHintGap cfg s "digest-ack-queue-full" now io).andThen fun s =>
      (.error (.resourceExhausted "DIGEST_ACK_QUEUE_FULL" "durable digest acknowledgement queue is full"), s)
  else
    let record : SourceWalRecord :=
      { stage := some .digestHintDurable
        hint := some hint
        recordedAtUnixMs := now
        reasonCode := "DIGEST_HINT_DURABLE"
        sourceRuntimeEpoch := hint.sourceRuntimeEpoch }
    appendThen s record io fun t => { t with
      digestHintsSinceSnapshot := satAdd t.digestHintsSinceSnapshot 1
      pendingDigestAcks := t.pendingDigestAcks ++ [(s.wal.nextSequence, hint)] }

/-- `persist_packet_hint` -/
def persistPacketHint (s : SourceState) (payloadLength : ℕ) (hint : SupplementalHint) (now : ℤ) (io : EdgeResult Unit) :
    Outcome :=
  if 2048 < payloadLength then
    (.error (.resourceExhausted "PACKET_IN_TOO_LARGE" "supplemental PacketIn payload exceeds profile"), s)
  else
    let record : SourceWalRecord :=
      { stage := some .packetHintDurable
        hint := some hint
        recordedAtUnixMs := now
        reasonCode := "PACKET_HINT_DURABLE" }
    appendThen s record io fun s => { s with packetHintsSinceSnapshot := satAdd s.packetHintsSinceSnapshot 1 }

/-! ## The WAL is only appended to -/

/-- the source WAL of `t` continues that of `s`, and the checkpoint has not moved -/
structure Extends (s t : SourceState) : Prop where
  checkpoint : t.wal.checkpoint = s.wal.checkpoint
  entries : s.wal.entries <+: t.wal.entries

variable (s : SourceState) {snapshot : TelemetrySnapshot}

theorem Extends.refl : Extends s s := ⟨rfl, List.prefix_refl _⟩

theorem Extends.trans {s t u : SourceState} (h1 : Extends s t) (h2 : Extends t u) : Extends s u :=
  ⟨h2.checkpoint.trans h1.checkpoint, h1.entries.trans h2.entries⟩

theorem Extends.of_wal {s t : SourceState} (h : t.wal = s.wal) : Extends s t := ⟨by rw [h], by rw [h]⟩

theorem appendThen_extends {s} {record : SourceWalRecord} {io : EdgeResult Unit} {keep : SourceState → SourceState}
    (hkeep : ∀ u, (keep u).wal = u.wal) : Extends s (appendThen s record io keep).2 := by
  unfold appendThen
  cases io with
  | error => exact .refl s
  | ok =>
    refine ⟨?_, ?_⟩
    · simp only [hkeep]
      rfl
    · simp only [hkeep]
      exact List.prefix_append _ _

variable (cfg : SourceConfig)

theorem pollStart_extends (s : SourceState) (env : PollReplies) : Extends s (pollStart cfg s env).2 := by
  unfold pollStart
  cases s.recovery with
  | some => exact .refl s
  | none =>
    cases env.selector with
    | error => exact .refl s
    | ok =>
      cases env.counter with
      | error => exact .refl s
      | ok =>
        have hnumbered : Extends s { s with recovery := none, sourceSequence := satAdd s.sourceSequence 1 } := .of_wal rfl
        refine hnumbered.trans ?_
        exact appendThen_extends fun _ => rfl

theorem andThen_extends {s : SourceState} {x : Outcome} {f : SourceState → Outcome} (h : Extends s x.2)
    (hf : ∀ t, Extends t (f t).2) : Extends s (x.andThen f).2 := by
  rcases x with ⟨e | u, t⟩
  · exact h
  · exact h.trans (hf t)

variable (env : FinishReplies)

theorem freezeStage_extends : Extends s (freezeStage s env).2 := by
  unfold freezeStage withRecovery
  cases s.recovery with
  | none => exact .refl s
  | some recovery =>
    rcases h : freezeReason recovery env with e | reason
    · simp only [h]
      exact .refl s
    · cases reason with
      | none =>
        simp only [h]
        exact .refl s
      | some =>
        simp only [h, recordFrozen]
        cases env.frozenCounter with
        | error => exact .refl s
        | ok => exact appendThen_extends fun _ => rfl

variable (hash : Bytes → String)

theorem snapshotStage_extends (cfg : SourceConfig) (s : SourceState) (env : FinishReplies) :
    Extends s (snapshotStage hash cfg s env).2 := by
  unfold snapshotStage withRecovery
  cases s.recovery with
  | none => exact .refl s
  | some =>
    simp only
    split
    · exact .refl s
    · split
      · exact .refl s
      · split_ifs
        · exact .refl s
        · exact appendThen_extends fun _ => rfl

theorem clearStage_extends : Extends s (clearStage s env).2 := by
  unfold clearStage withRecovery
  cases s.recovery with
  | none => exact .refl s
  | some =>
    simp only
    split_ifs
    · exact .refl s
    · cases clearTelemetryBank env with
      | error => exact .refl s
      | ok => exact appendThen_extends fun _ => rfl

theorem finalizeStage_extends : Extends s (finalizeStage s env).2 := by
  unfold finalizeStage withRecovery
  cases s.recovery with
  | none => exact .refl s
  | some =>
    simp only
    split
    · exact .refl s
    · exact appendThen_extends fun _ => rfl

theorem finishStages_extends (cfg : SourceConfig) (s : SourceState) (env : FinishReplies) (n : ℕ) :
    Extends s (finishStages hash cfg s env n).2 := by
  have h1 := freezeStage_extends s env
  have h2 := andThen_extends h1 fun t => snapshotStage_extends hash cfg t env
  have h3 := andThen_extends h2 fun t => clearStage_extends t env
  match n with
  | 0 => exact .refl s
  | 1 => exact h1
  | 2 => exact h2
  | 3 => exact h3
  | n + 4 => exact andThen_extends h3 fun t => finalizeStage_extends t env

theorem persistHintGap_extends (s : SourceState) (kind : String) (now : ℤ) (io : EdgeResult Unit) :
    Extends s (persistHintGap cfg s kind now io).2 := appendThen_extends fun _ => rfl

theorem persistDigestHint_extends (s : SourceState) (hint : SupplementalHint) (now : ℤ) (io : EdgeResult Unit) :
    Extends s (persistDigestHint cfg s hint now io).2 := by
  unfold persistDigestHint
  split_ifs
  · exact andThen_extends (persistHintGap_extends cfg s _ now io) fun t => .refl t
  · exact appendThen_extends fun _ => rfl

theorem flushDigestAcks_extends (ack : EdgeResult Unit) (now : ℤ) (io : EdgeResult Unit) :
    Extends s (flushDigestAcks s ack now io).2 := by
  unfold flushDigestAcks
  cases s.pendingDigestAcks with
  | nil => exact .refl s
  | cons =>
    cases ack with
    | error => exact .refl s
    | ok => exact appendThen_extends fun _ => rfl

theorem persistPacketHint_extends (payloadLength : ℕ) (hint : SupplementalHint) (now : ℤ) (io : EdgeResult Unit) :
    Extends s (persistPacketHint s payloadLength hint now io).2 := by
  unfold persistPacketHint
  split_ifs
  · exact .refl s
  · exact appendThen_extends fun _ => rfl

/-! ## Finalized snapshots -/

/-- the WAL holds the snapshot in a finalized record, at the sequence it is stamped with -/
def Finalizes (wal : Log SourceWalRecord) (snapshot : TelemetrySnapshot) : Prop :=
  ∃ record, 0 < snapshot.sourceWalSequence ∧ wal.entries[snapshot.sourceWalSequence - 1]? = some record ∧
    record.stage = some .snapshotFinalized ∧ record.snapshot = some snapshot

theorem Finalizes.of_extended {wal wal' : Log SourceWalRecord} (h : Finalizes wal snapshot)
    (hext : wal.entries <+: wal'.entries) : Finalizes wal' snapshot := by
  obtain ⟨record, hpos, hget, hstage, hsnap⟩ := h
  obtain ⟨more, hmore⟩ := hext
  refine ⟨record, hpos, ?_, hstage, hsnap⟩
  rw [← hmore, List.getElem?_append_left (List.getElem?_eq_some_iff.1 hget).1]
  exact hget

theorem Finalizes.le_last {wal : Log SourceWalRecord} (h : Finalizes wal snapshot) :
    snapshot.sourceWalSequence ≤ wal.lastSequence := by
  obtain ⟨record, -, hget, -, -⟩ := h
  have hlt := (List.getElem?_eq_some_iff.1 hget).1
  rw [Log.lastSequence]
  omega

/-- a successful last stage finalizes the operation's snapshot -/
theorem finalizeStage_ok {s t : SourceState} {env : FinishReplies} (h : finalizeStage s env = (.ok (), t)) :
    ∃ recovery snapshot, s.recovery = some recovery ∧ recovery.snapshot = some snapshot ∧
      t.wal = s.wal.append (finalizedRecord recovery { snapshot with sourceWalSequence := s.wal.nextSequence }
        env.finalizedAt) := by
  unfold finalizeStage withRecovery at h
  cases hr : s.recovery with
  | none => simp [hr] at h
  | some recovery =>
    simp only [hr] at h
    cases hsnap : recovery.snapshot with
    | none => simp [hsnap] at h
    | some snapshot =>
      simp only [hsnap, appendThen] at h
      cases hio : env.finalIo with
      | error => simp [hio] at h
      | ok =>
        simp only [hio] at h
        cases h
        exact ⟨recovery, snapshot, rfl, hsnap, rfl⟩

end MasiEdge.Source
