/-
From telemetry to acknowledged results: the actor's delivery loop (`actor.rs`, `inference.rs`).

A finalized snapshot is pushed into the window engine; the records it emits are admitted to the input WAL, bound at once
when the route is active. `process_pending_inputs` binds a route-neutral head by appending a bound copy behind the queue
and checkpointing the original, or sends the bound records at the head to the pool and makes the result batch durable.
`process_pending_results` obtains the canonical acknowledgement of the head batch and then moves the source, input and
result checkpoints, in this order.

A run is a list of operations in any order. Every append and every checkpoint may fail, and a checkpoint may fail after
it moved, so a stop between any two WAL operations is an operation whose next WAL call fails, followed by `crash`. A
restart rebuilds memory from the WALs alone. `emitted` records what the window engine has emitted; nothing reads it.
-/
import MasiEdge.Route.Machine
import MasiEdge.Source.Recover
import MasiEdge.Window.Engine

namespace MasiEdge.Delivery

open Codec Route Window
open Source (SourceState SourceConfig SourceWalRecord Fence PollReplies FinishReplies SupplementalHint
  TelemetrySnapshot Rebuilt recoverRecords pollStart finishStages finalizeStage persistDigestHint flushDigestAcks
  persistPacketHint persistHintGap orCorrupt)

/-! ## Configuration and state -/

structure Limits where
  inferenceBatchRecords : ℕ
  inferenceMessageBytes : ℕ
  inferenceDeadlineMs : ℕ
  controlBatchRecords : ℕ
  controlMessageBytes : ℕ
  pendingInputIdentities : ℕ

/-- what delivery reads of the configuration, with the digest and the encodings -/
structure Config where
  source : SourceConfig
  window : WindowConfig
  route : RouteConfig
  limits : Limits
  hash : Bytes → String
  inputBytes : InferenceRecord → ℕ
  batchBytes : InferenceInputBatch → ℕ
  resultBytes : ResultWalRecord → ℕ
  resultBatchBytes : InferenceResultBatch → ℕ
  encodeAck : CanonicalAckBatch → Bytes

structure Actor where
  /-- whether a process is up; its memory means nothing otherwise -/
  running : Bool
  fence : Option Fence
  source : SourceState
  windows : WindowEngine
  input : Log InferenceRecord
  result : Log ResultWalRecord
  knownInputIds : List String
  routes : RouteActor
  /-- every record the window engine has emitted so far -/
  emitted : List InferenceRecord

def Actor.initial (cfg : Config) : Actor :=
  ⟨true, cfg.source.fence, SourceState.empty, WindowEngine.new, Log.empty, Log.empty, [], RouteActor.initial, []⟩

/-- the source configuration of the current process -/
def Config.sourceFor (cfg : Config) (s : Actor) : SourceConfig := { cfg.source with fence := s.fence }

abbrev Outcome := EdgeResult Unit × Actor

/-- the fate of a checkpoint: it can fail before or after it has moved -/
inductive CheckpointIo where
  | done
  | failed (e : EdgeError)
  | failedLate (e : EdgeError)

/-- `DurableWal::checkpoint` -/
def checkpoint {α : Type} (l : Log α) (sequence : ℕ) (io : CheckpointIo) : EdgeResult Unit × Log α :=
  match l.moveTo sequence with
  | none => (.error (.precondition "CHECKPOINT_OUT_OF_RANGE"
      s!"checkpoint {sequence} outside [{l.checkpoint},{l.lastSequence}]"), l)
  | some moved =>
    match io with
    | .done => (.ok (), moved)
    | .failed e => (.error e, l)
    | .failedLate e => (.error e, moved)

/-! ## Admission -/

structure AdmitReplies where
  now : ℤ
  /-- whether the input or the result WAL is at its watermark at the n-th record -/
  full : ℕ → Bool
  append : ℕ → EdgeResult Unit

/-- an active route is bound at once -/
def bindForRoute (cfg : Config) (s : Actor) (record : InferenceRecord) : EdgeResult InferenceRecord :=
  if s.routes.router.state = .active then
    match s.routes.router.route with
    | none => .error (.precondition "POOL_UNAVAILABLE" "active route is missing")
    | some route => bindInferenceRecord cfg.hash record route
  else .ok record

/-- the record as it is appended -/
def prepareInput (cfg : Config) (s : Actor) (record : InferenceRecord) (full : Bool) : EdgeResult InferenceRecord := do
  refuse (full = true) (.resourceExhausted "WAL_FULL" "input/result WAL reached critical watermark")
  refuse (s.knownInputIds.length = cfg.limits.pendingInputIdentities)
    (.resourceExhausted "INPUT_IDENTITY_LIMIT_EXCEEDED" "pending canonical input identity bound reached")
  let record ← bindForRoute cfg s record
  return { record with inputWalSequence := s.input.nextSequence }

def admitRecord (cfg : Config) (s : Actor) (record : InferenceRecord) (full : Bool) (io : EdgeResult Unit) : Outcome :=
  if record.inputId ∈ s.knownInputIds then (.ok (), s)
  else
    match prepareInput cfg s record full, io with
    | .error e, _ => (.error e, s)
    | .ok _, .error e => (.error e, s)
    | .ok record, .ok () =>
      (.ok (), { s with input := s.input.append record, knownInputIds := record.inputId :: s.knownInputIds })

/-- `admit_window_advance`, from its n-th record on; the first failure ends it -/
def admitWindowAdvance (cfg : Config) (env : AdmitReplies) : ℕ → Actor → List InferenceRecord → Outcome
  | _, s, [] => (.ok (), s)
  | n, s, record :: rest =>
    match admitRecord cfg s record (env.full n) (env.append n) with
    | (.error e, s) => (.error e, s)
    | (.ok (), s) => admitWindowAdvance cfg env (n + 1) s rest

/-- admit what the engine emitted on its way to `windows` -/
def admitAdvance (cfg : Config) (s : Actor) (advance : WindowAdvance) (windows : WindowEngine) (env : AdmitReplies) :
    Outcome :=
  admitWindowAdvance cfg env 0 { s with windows, emitted := s.emitted ++ advance.inferenceRecords }
    advance.inferenceRecords

def admitSnapshot (cfg : Config) (s : Actor) (snapshot : TelemetrySnapshot) (env : AdmitReplies) : Outcome :=
  match push cfg.hash cfg.window s.windows snapshot env.now with
  | .error e => (.error e, s)
  | .ok (advance, windows) => admitAdvance cfg s advance windows env

/-- the idle advance of `maintain` -/
def tickWindows (cfg : Config) (s : Actor) (env : AdmitReplies) : Outcome :=
  admitAdvance cfg s (tick cfg.hash cfg.window s.windows env.now).1 (tick cfg.hash cfg.window s.windows env.now).2 env

/-- the snapshot that the last stage of a freeze makes durable -/
def finishedSnapshot (s : SourceState) : Option TelemetrySnapshot :=
  (s.recovery.bind Source.SourceRecovery.snapshot).map fun snapshot =>
    { snapshot with sourceWalSequence := s.wal.nextSequence }

/-- `finish_source_recovery`: the four stages, then the snapshot is admitted -/
def finishSource (cfg : Config) (s : Actor) (env : FinishReplies) (admitEnv : AdmitReplies) : Outcome :=
  match finishStages cfg.hash (cfg.sourceFor s) s.source env 3 with
  | (.error e, source) => (.error e, { s with source })
  | (.ok (), source) =>
    match finalizeStage source env, finishedSnapshot source with
    | (.ok (), source), some snapshot => admitSnapshot cfg { s with source } snapshot admitEnv
    | (result, source), _ => (result, { s with source })

/-! ## process_pending_inputs -/

structure InputReplies where
  now : ℤ
  append : EdgeResult Unit
  checkpoint : CheckpointIo
  /-- what the pool finally answers, after the bounded retries -/
  response : EdgeResult InferenceResultBatch
  recordedAt : ℤ
  resultAppend : EdgeResult Unit

/-- a bound copy of the record on the current route -/
def isCopyOn (route : InferenceRoute) (first candidate : InferenceRecord) : Bool :=
  candidate.inputId = first.inputId ∧ candidate.isBound = true ∧
    candidate.modelControlIncarnationId = route.modelControlIncarnationId ∧ candidate.routeEpoch = route.routeEpoch

/-- a neutral head: append a bound copy unless one was replayed with it, then checkpoint the original -/
def bindHead (cfg : Config) (s : Actor) (head : ℕ × InferenceRecord) (rest : List (ℕ × InferenceRecord))
    (env : InputReplies) : Outcome :=
  if s.routes.router.state ≠ .active then (.ok (), s)
  else
    match s.routes.router.route with
    | none => (.error (.precondition "POOL_UNAVAILABLE" "active route is missing"), s)
    | some route =>
      let queued : EdgeResult (Log InferenceRecord) :=
        if rest.any fun x => isCopyOn route head.2 x.2 then .ok s.input
        else do
          let bound ← bindInferenceRecord cfg.hash head.2 route
          env.append
          return s.input.append { bound with inputWalSequence := s.input.nextSequence }
      match queued with
      | .error e => (.error e, s)
      | .ok input =>
        ((checkpoint input head.1 env.checkpoint).1, { s with input := (checkpoint input head.1 env.checkpoint).2 })

/-- the batch `InferenceRouter::infer` sends -/
def inferenceBatch (cfg : Config) (router : Router) (records : List InferenceRecord) (now : ℤ) (traceId : String) :
    EdgeResult InferenceInputBatch := do
  refuse (router.state ≠ .active ∧ router.state ≠ .draining)
    (.precondition "ROUTE_DRAINING" "no committed route is available for pending durable input")
  refuse (records = [] ∨ cfg.limits.inferenceBatchRecords < records.length)
    (.invalidArgument "inference_records" "batch record count outside configured bounds")
  match router.route with
  | none => .error (.precondition "POOL_UNAVAILABLE" "route missing")
  | some route => do
    validateInferenceRecords cfg.hash route [] [] records
    refuse (2 ^ 63 ≤ cfg.limits.inferenceDeadlineMs) (.invalidArgument "inference_deadline_ms" "exceeds i64")
    let batch : InferenceInputBatch :=
      { requestId := requestIdentity cfg.hash route records
        route := some route
        records
        deadlineUnixMs := min (2 ^ 63 - 1) (now + cfg.limits.inferenceDeadlineMs)
        traceId }
    refuse (cfg.limits.inferenceMessageBytes < cfg.batchBytes batch)
      (.resourceExhausted "INFERENCE_MESSAGE_TOO_LARGE" "encoded batch exceeds configured bound")
    refuse (router.client = false) (.precondition "POOL_UNAVAILABLE" "central client missing")
    return batch

/-- validation drift holds the route for good -/
def holdsRoute : EdgeError → Bool
  | .precondition code _ =>
    code ∈ ["RESULT_IDENTITY_MISMATCH", "RESULT_DIGEST_CONFLICT", "RESULT_VALUE_INVALID", "BINDING_READBACK_MISMATCH"]
  | _ => false

def infer (cfg : Config) (router : Router) (records : List InferenceRecord) (now : ℤ) (traceId : String)
    (response : EdgeResult InferenceResultBatch) : EdgeResult InferenceResultBatch × Router :=
  match inferenceBatch cfg router records now traceId with
  | .error e => (.error e, router)
  | .ok batch =>
    let answered : EdgeResult InferenceResultBatch := do
      let result ← response
      validateResultBatch cfg.hash batch result router.binding
      return result
    match answered with
    | .ok result => (.ok result, router)
    | .error e => (.error e, if holdsRoute e then { router with state := .hold } else router)

/-- the bound records at the head, up to the first of another epoch -/
def headBatch (head : InferenceRecord) (replay : List (ℕ × InferenceRecord)) : List InferenceRecord :=
  (replay.map Prod.snd).takeWhile fun record => record.isBound && record.routeEpoch = head.routeEpoch

/-- the result batch as it becomes durable at `sequence` -/
def stampResult (hash : Bytes → String) (result : InferenceResultBatch) (sequence : ℕ) : InferenceResultBatch :=
  let stamped : InferenceResultBatch := { result with
    records := result.records.map fun record : InferenceResultRecord => { record with resultWalSequence := sequence } }
  { stamped with batchDigest := canonicalResultBatchDigest hash stamped }

def batchDurable (cfg : Config) (s : Actor) (result : InferenceResultBatch) (now : ℤ) : ResultWalRecord :=
  { stage := .batchDurable
    resultBatch := some (stampResult cfg.hash result s.result.nextSequence)
    canonicalAck := none
    resultBatchWalSequence := s.result.nextSequence
    recordedAtUnixMs := now
    reasonCode := "RESULT_BATCH_DURABLE" }

def withRouter (s : Actor) (router : Router) : Actor := { s with routes := { s.routes with router } }

/-- a bound head: infer, then make the result durable -/
def inferHead (cfg : Config) (s : Actor) (records : List InferenceRecord) (env : InputReplies) : Outcome :=
  match infer cfg s.routes.router records env.now ("infer:" ++ cfg.source.targetId) env.response with
  | (.error e, router) => (.error e, withRouter s router)
  | (.ok result, router) =>
    match env.resultAppend with
    | .error e => (.error e, withRouter s router)
    | .ok () =>
      (.ok (), { s with
        routes := { s.routes with router }
        result := s.result.append (batchDurable cfg s result env.recordedAt) })

def processPendingInputs (cfg : Config) (s : Actor) (env : InputReplies) : Outcome :=
  if (s.routes.router.state ≠ .active ∧ s.routes.router.state ≠ .draining) ∨ s.result.checkpoint < s.result.lastSequence then
    (.ok (), s)
  else
    match s.input.replay cfg.inputBytes cfg.limits.inferenceBatchRecords cfg.limits.inferenceMessageBytes with
    | [] => (.ok (), s)
    | head :: rest =>
      if (head :: rest).any fun x => x.2.inputWalSequence ≠ x.1 then
        (.error (.walCorrupt "input WAL sequence fence mismatch"), s)
      else if head.2.isBound then inferHead cfg s (headBatch head.2 (head :: rest)) env
      else bindHead cfg s head rest env

/-! ## process_pending_results -/

structure ResultReplies where
  /-- what the control sink answers to the commit -/
  ack : EdgeResult CanonicalAckBatch
  ackAppend : EdgeResult Unit
  recordedAt : ℤ
  source : CheckpointIo
  input : CheckpointIo
  result : CheckpointIo

/-- the batch at the head of the result WAL -/
def durableBatch (cfg : Config) (item : ℕ × ResultWalRecord) : EdgeResult InferenceResultBatch := do
  refuse (item.2.schemaVersion ≠ "edge-result-wal/v1" ∨ item.2.stage ≠ .batchDurable ∨
      item.2.resultBatchWalSequence ≠ item.1)
    (.walCorrupt "result WAL does not start with a valid durable batch")
  let batch ← orCorrupt item.2.resultBatch "durable result stage lacks result batch"
  refuse (batch.records.any fun record => record.resultWalSequence ≠ item.1)
    (.walCorrupt "result WAL sequence fence mismatch")
  refuse (canonicalResultBatchDigest cfg.hash batch ≠ batch.batchDigest)
    (.walCorrupt "durable result batch digest mismatch")
  return batch

/-- the acknowledgement replayed behind the batch -/
def durableAck (cfg : Config) (batch : InferenceResultBatch) (batchSequence : ℕ) (item : ℕ × ResultWalRecord) :
    EdgeResult (CanonicalAckBatch × ℕ) := do
  refuse (item.2.schemaVersion ≠ "edge-result-wal/v1" ∨ item.2.stage ≠ .canonicalAckDurable ∨
      item.2.resultBatchWalSequence ≠ batchSequence ∨ item.2.resultBatch.isSome)
    (.walCorrupt "canonical ACK WAL fence mismatch")
  let ack ← orCorrupt item.2.canonicalAck "canonical ACK stage lacks ACK batch"
  validateCanonicalAcks cfg.hash cfg.encodeAck batch ack
  return (ack, item.1)

/-- `ControlSink::commit_results` -/
def commitResults (cfg : Config) (batch : InferenceResultBatch) (response : EdgeResult CanonicalAckBatch) :
    EdgeResult CanonicalAckBatch := do
  refuse (batch.records = [] ∨ cfg.limits.controlBatchRecords < batch.records.length)
    (.invalidArgument "result_records" "control batch count outside configured bounds")
  refuse (cfg.limits.controlMessageBytes < cfg.resultBatchBytes batch)
    (.resourceExhausted "CONTROL_MESSAGE_TOO_LARGE" "encoded result batch exceeds configured bound")
  let ack ← response
  validateCanonicalAcks cfg.hash cfg.encodeAck batch ack
  return ack

def ackDurable (ack : CanonicalAckBatch) (batchSequence : ℕ) (now : ℤ) : ResultWalRecord :=
  { stage := .canonicalAckDurable
    resultBatch := none
    canonicalAck := some ack
    resultBatchWalSequence := batchSequence
    recordedAtUnixMs := now
    reasonCode := "POSTGRESQL_EVENT_COMMIT_ACK_DURABLE" }

/-- the acknowledgement and its sequence: the durable one, or one obtained now and made durable -/
def obtainAck (cfg : Config) (s : Actor) (batch : InferenceResultBatch) (batchSequence : ℕ)
    (replayed : Option (ℕ × ResultWalRecord)) (env : ResultReplies) :
    EdgeResult (CanonicalAckBatch × ℕ) × Log ResultWalRecord :=
  match replayed with
  | some item => (durableAck cfg batch batchSequence item, s.result)
  | none =>
    match commitResults cfg batch env.ack, env.ackAppend with
    | .error e, _ => (.error e, s.result)
    | .ok _, .error e => (.error e, s.result)
    | .ok ack, .ok () =>
      (.ok (ack, s.result.nextSequence), s.result.append (ackDurable ack batchSequence env.recordedAt))

/-- the largest of the sequences, 0 for none -/
def maxOf : List ℕ → ℕ
  | [] => 0
  | sequence :: rest => max sequence (maxOf rest)

def sourceCheckpoint (batch : InferenceResultBatch) : ℕ := maxOf (batch.records.map InferenceResultRecord.sourceWalSequence)

def inputCheckpoint (batch : InferenceResultBatch) : ℕ := maxOf (batch.records.map InferenceResultRecord.inputWalSequence)

/-- an unacknowledged digest hint at or before the sequence -/
def ackPendingAt (s : Actor) (sequence : ℕ) : Bool :=
  match s.source.pendingDigestAcks with
  | [] => false
  | front :: _ => front.1 ≤ sequence

/-- the three checkpoints behind an acknowledged batch -/
def settle (s : Actor) (batch : InferenceResultBatch) (ackSequence : ℕ) (env : ResultReplies) : Outcome :=
  match checkpoint s.source.wal (sourceCheckpoint batch) env.source with
  | (.error e, wal) => (.error e, { s with source := { s.source with wal } })
  | (.ok (), wal) =>
    match checkpoint s.input (inputCheckpoint batch) env.input with
    | (.error e, input) => (.error e, { s with source := { s.source with wal }, input })
    | (.ok (), input) =>
      match checkpoint s.result ackSequence env.result with
      | (.error e, result) => (.error e, { s with source := { s.source with wal }, input, result })
      | (.ok (), result) =>
        (.ok (), { s with
          source := { s.source with wal }
          input, result
          knownInputIds := s.knownInputIds.filter fun id => id ∉ batch.records.map InferenceResultRecord.inputId })

def processPendingResults (cfg : Config) (s : Actor) (env : ResultReplies) : Outcome :=
  match s.result.replay cfg.resultBytes 2 (cfg.limits.controlMessageBytes * 2) with
  | [] => (.ok (), s)
  | item :: rest =>
    match durableBatch cfg item with
    | .error e => (.error e, s)
    | .ok batch =>
      match obtainAck cfg s batch item.1 rest.head? env with
      | (.error e, result) => (.error e, { s with result })
      | (.ok (ack, ackSequence), result) =>
        if canonicalAckBatchDigest cfg.hash cfg.encodeAck ack ≠ ack.ackBatchDigest then
          (.error (.walCorrupt "durable canonical ACK digest mismatch"), { s with result })
        else if ackPendingAt s (sourceCheckpoint batch) then
          (.error (.precondition "SOURCE_ACK_PENDING"
            "digest ACK must finish before source checkpoint crosses its record"), { s with result })
        else settle { s with result } batch ackSequence env

/-! ## Restart -/

/-- the pending input ids of a restarted process -/
def recoverKnown (cfg : Config) : List String → List (ℕ × InferenceRecord) → EdgeResult (List String)
  | known, [] => .ok known
  | known, item :: rest => do
    refuse (item.2.inputWalSequence ≠ item.1) (.walCorrupt "input WAL sequence fence mismatch during recovery")
    refuse (item.2.inputId ∉ known ∧ known.length = cfg.limits.pendingInputIdentities)
      (.resourceExhausted "INPUT_IDENTITY_LIMIT_EXCEEDED" "recovered pending input identities exceed the memory bound")
    recoverKnown cfg (if item.2.inputId ∈ known then known else item.2.inputId :: known) rest

/-- admit the finalized snapshots again, from the n-th on -/
def admitAgain (cfg : Config) (env : ℕ → AdmitReplies) : ℕ → Actor → List TelemetrySnapshot → Outcome
  | _, s, [] => (.ok (), s)
  | n, s, snapshot :: rest =>
    match admitSnapshot cfg s snapshot (env n) with
    | (.error e, s) => (.error e, s)
    | (.ok (), s) => admitAgain cfg env (n + 1) s rest

def recoverSourceState (cfg : Config) (s : Actor) (env : ℕ → AdmitReplies) : Outcome :=
  match recoverKnown cfg [] s.input.pending, recoverRecords cfg.source s.source.wal.pending with
  | .error e, _ => (.error e, s)
  | .ok _, .error e => (.error e, s)
  | .ok knownInputIds, .ok st =>
    admitAgain cfg env 0 { s with knownInputIds, source := st.resume s.source.wal } st.finalized

/-- a new process before it recovers: only the WALs are left -/
def Actor.fresh (s : Actor) (fence : Option Fence) : Actor :=
  { s with
    running := false
    fence
    windows := WindowEngine.new
    knownInputIds := []
    routes := { RouteActor.initial with journal := s.routes.journal } }

/-- a process that cannot recover does not come up; what it appended until then stays -/
def restarted (cfg : Config) (s : Actor) (fence : Option Fence) (env : ℕ → AdmitReplies) : Actor :=
  match recoverSourceState cfg (s.fresh fence) env with
  | (.error _, t) => t
  | (.ok (), t) =>
    match recoverRouteJournal t.routes.journal.pending with
    | .error _ => t
    | .ok routeRecovery => { t with running := true, routes := { t.routes with routeRecovery } }

/-! ## Operations -/

/-- `has_route_bound_pending_inputs` -/
def hasRouteBoundPendingInputs : List (ℕ × InferenceRecord) → EdgeResult Bool
  | [] => .ok false
  | item :: rest => do
    refuse (item.2.inputWalSequence ≠ item.1) (.walCorrupt "input WAL sequence fence mismatch")
    if item.2.isBound then return true else hasRouteBoundPendingInputs rest

/-- what a route command learns from the WALs -/
def drainReplies (s : Actor) : Command → Command
  | .commit request env => .commit request { env with
      resultsPending := s.result.checkpoint < s.result.lastSequence
      inputsBound := hasRouteBoundPendingInputs s.input.pending }
  | command => command

/-- `finish_route_recovery`; a pool that does not answer leaves a reset router, prepared again but not committed -/
def recoverRoute (cfg : Config) (s : Actor) (pool : InferenceRoute → EdgeResult BindingReadback) : Actor :=
  match s.routes.routeRecovery with
  | none => s
  | some record =>
    match finishRouteRecovery cfg.route pool s.routes record with
    | .error _ => withRouter s { Router.new with state := .draining }
    | .ok routes => { s with routes }

inductive Op where
  | poll (env : PollReplies)
  /-- with `stop`, the process ends after that many stages -/
  | finish (env : FinishReplies) (admitEnv : AdmitReplies) (stop : Option ℕ)
  | digestHint (hint : SupplementalHint) (now : ℤ) (io : EdgeResult Unit)
  | flushAcks (ack : EdgeResult Unit) (now : ℤ) (io : EdgeResult Unit)
  | packetHint (payloadLength : ℕ) (hint : SupplementalHint) (now : ℤ) (io : EdgeResult Unit)
  | hintGap (kind : String) (now : ℤ) (io : EdgeResult Unit)
  | tick (env : AdmitReplies)
  | inputs (env : InputReplies)
  | results (env : ResultReplies)
  | route (command : Command)
  | recoverRoute (pool : InferenceRoute → EdgeResult BindingReadback)
  | crash
  | restart (fence : Option Fence) (env : ℕ → AdmitReplies)

def Op.isRestart : Op → Bool
  | .restart _ _ => true
  | _ => false

def perform (cfg : Config) (s : Actor) : Op → Actor
  | .poll env => { s with source := (pollStart (cfg.sourceFor s) s.source env).2 }
  | .finish env admitEnv none => (finishSource cfg s env admitEnv).2
  | .finish env _ (some n) =>
    { s with source := (finishStages cfg.hash (cfg.sourceFor s) s.source env n).2, running := false }
  | .digestHint hint now io => { s with source := (persistDigestHint (cfg.sourceFor s) s.source hint now io).2 }
  | .flushAcks ack now io => { s with source := (flushDigestAcks s.source ack now io).2 }
  | .packetHint payloadLength hint now io => { s with source := (persistPacketHint s.source payloadLength hint now io).2 }
  | .hintGap kind now io => { s with source := (persistHintGap (cfg.sourceFor s) s.source kind now io).2 }
  | .tick env => (tickWindows cfg s env).2
  | .inputs env => (processPendingInputs cfg s env).2
  | .results env => (processPendingResults cfg s env).2
  | .route command => { s with routes := (execute cfg.route s.routes (drainReplies s command)).2 }
  | .recoverRoute pool => recoverRoute cfg s pool
  | .crash => { s with running := false }
  | .restart fence env => restarted cfg s fence env

/-- only a restart does anything while no process is up -/
def step (cfg : Config) (s : Actor) (op : Op) : Actor :=
  if s.running = true ∨ op.isRestart = true then perform cfg s op else s

def run (cfg : Config) (ops : List Op) : Actor := ops.foldl (step cfg) (Actor.initial cfg)

theorem run_snoc (cfg : Config) (ops : List Op) (op : Op) : run cfg (ops ++ [op]) = step cfg (run cfg ops) op := by
  simp [run]

end MasiEdge.Delivery
