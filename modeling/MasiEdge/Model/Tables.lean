/-
The tables of the model manager and the transactions of a rollout.

A shard is bound to one generation of a pool and one model revision, and remembers the pair before it. `Rollout` and
`ReconcileOperation` are long calls: between their transactions they wait for the deployment adapter and for Edge. Here is
each transaction by itself, as a function of the tables; the calls are put together from them in `Model.Machine`.

A row is changed by key, so an `UPDATE` is a query of the row, the conditions of its `WHERE`, and a `Table.modify`. The
bodies of the readbacks are stored as JSON and read again; that round trip is the identity here.

* `casSwapBinding_ok`: what a swap finds and what it leaves.
-/
import MasiEdge.Control.Governance
import MasiEdge.Target.Assignment

namespace MasiEdge.Model

open Codec Control

/-! ## Rows -/

inductive QualificationStatus where
  | qualified
  | unqualified
  | hold
  | revoked
deriving DecidableEq, Repr

def QualificationStatus.text : QualificationStatus → String
  | .qualified => "qualified"
  | .unqualified => "unqualified"
  | .hold => "hold"
  | .revoked => "revoked"

inductive PoolGenerationStatus where
  | warming
  | active
  | draining
  | retired
  | quarantined
deriving DecidableEq, Repr

inductive ResumeState where
  | current
  | resumePending
  | unavailable
deriving DecidableEq, Repr

inductive OperationKind where
  | rollout
  | rollback
  | recovery
  | pitrRecovery
deriving DecidableEq, Repr

def OperationKind.text : OperationKind → String
  | .rollout => "rollout"
  | .rollback => "rollback"
  | .recovery => "recovery"
  | .pitrRecovery => "pitr-recovery"

inductive OperationStatus where
  | planned
  | staging
  | warming
  | routeWithdrawing
  | casCommitting
  | handshakePending
  | applied
  | resumePending
  | failed
  | aborted
deriving DecidableEq, Repr

def OperationStatus.text : OperationStatus → String
  | .planned => "planned"
  | .staging => "staging"
  | .warming => "warming"
  | .routeWithdrawing => "route-withdrawing"
  | .casCommitting => "cas-committing"
  | .handshakePending => "handshake-pending"
  | .applied => "applied"
  | .resumePending => "resume_pending"
  | .failed => "failed"
  | .aborted => "aborted"

/-- a row of `model_revisions` -/
structure ModelRevision where
  modelRevisionId : String
  modelRevisionDigest : String
  modelBundleDigest : String
  featureContractDigest : String
  labelContractDigest : String
  outputAdapterDigest : String
  qualificationStatus : QualificationStatus
  readerRuntimeProfile : String
  scope : String
deriving DecidableEq, Repr

/-- a row of `logical_pools` -/
structure LogicalPool where
  logicalPoolId : String
  currentGeneration : ℤ
  availabilityProfile : String
  runtimeProfile : String
deriving DecidableEq, Repr

/-- the digests that identify a pool generation -/
structure PoolDigests where
  startupEnvelope : String
  poolObservation : String
  binding : String
  modelRevision : String
  modelBundle : String
  featureContract : String
  labelContract : String
  outputAdapter : String
  wireProfile : String
  runtimeProfile : String
  optimizationProfile : String
deriving DecidableEq, Repr

/-- the primary key of `pool_generations` and of the current observations -/
structure PoolKey where
  logicalPoolId : String
  modelControlIncarnationId : String
  poolGeneration : ℤ
deriving DecidableEq, Repr

/-- a row of `pool_generations` -/
structure PoolGeneration where
  key : PoolKey
  modelRevisionId : String
  digests : PoolDigests
  status : PoolGenerationStatus
  minReadyReplicas : ℤ
  capacityQualified : Bool
deriving DecidableEq, Repr

/-- the pair a shard was bound to before; its columns are null together -/
structure Previous where
  generation : ℤ
  bindingGeneration : ℤ
  revisionId : String
deriving DecidableEq, Repr

/-- a row of `shard_bindings` -/
structure ShardBinding where
  shardId : String
  logicalPoolId : String
  modelControlIncarnationId : String
  currentGeneration : ℤ
  currentBindingGeneration : ℤ
  currentRevisionId : String
  previous : Option Previous
  routeEpoch : ℤ
  resumeState : ResumeState
  loaded : Bool
  ready : Bool
  casDigest : String
  scope : String
deriving DecidableEq, Repr

/-- a row of `model_rollout_operations` -/
structure RolloutOperation where
  operationId : String
  shardId : String
  logicalPoolId : String
  targetGeneration : ℤ
  previousGeneration : ℤ
  operationKind : OperationKind
  status : OperationStatus
  actorRef : String
  reasonCode : String
  traceId : String
  requestDigest : String
  modelControlIncarnationId : String
  scope : String
  targetRevisionId : String
  edgeWorkloadRef : String
deriving DecidableEq, Repr

structure WorkerIdentity where
  workerId : String
  workerDigest : String
deriving DecidableEq, Repr

/-- what Central reports of a started pool -/
structure Readback where
  key : PoolKey
  bindingGeneration : ℤ
  operationId : String
  digests : PoolDigests
  wireProfile : String
  runtimeProfile : String
  availabilityProfile : String
  readyReplicas : ℤ
  readbackAttemptId : String
  observedAtUnixMs : ℤ
  endpoint : String
  tlsServerName : String
  tlsIdentityRef : String
  eligibleWorkers : List WorkerIdentity
  loaded : Bool
deriving DecidableEq, Repr

structure CapacityResult where
  logicalPoolId : String
  poolGeneration : ℤ
  qualified : Bool
  minReadyMet : Bool
  failureDomain : String
  reasonCode : String
deriving DecidableEq, Repr

/-- a row of `model_pool_observation_events` -/
structure ObservationEvent where
  observationId : String
  recordDigest : String
  readback : Readback
  capacity : CapacityResult
deriving DecidableEq, Repr

/-- a row of `model_pool_observations_current` -/
structure CurrentObservation where
  key : PoolKey
  observationId : String
  recordDigest : String
  poolObservationDigest : String
  observedAtUnixMs : ℤ
  scope : String
deriving DecidableEq, Repr

/-- the one row of `model_control_state` -/
structure ControlState where
  activeIncarnationId : Option String
  writerEnabled : Bool
deriving DecidableEq, Repr

inductive GroupStatus where
  | planned
  | rolling
  | rollingMixed
  | completed
  | failed
  | failedMixed
deriving DecidableEq, Repr

inductive ChildStatus where
  | planned
  | running
  | applied
  | resumePending
  | failed
  | blocked
deriving DecidableEq, Repr

def ChildStatus.text : ChildStatus → String
  | .planned => "planned"
  | .running => "running"
  | .applied => "applied"
  | .resumePending => "resume_pending"
  | .failed => "failed"
  | .blocked => "blocked"

structure RolloutRequest where
  operationId : String
  shardId : String
  logicalPoolId : String
  targetGeneration : ℤ
  targetRevisionId : String
  kind : OperationKind
  actorRef : String
  reasonCode : String
  traceId : String
  scope : String
  wireProfile : String
  wireProfileDigest : String
  runtimeProfileDigest : String
  optimizationProfileDigest : String
  availabilityProfile : String
  minReadyReplicas : ℤ
  modelControlIncarnationId : String
  edgeWorkloadRef : String
deriving DecidableEq, Repr

/-- a row of `model_rollout_groups` -/
structure RolloutGroup where
  groupId : String
  requestDigest : String
  orderedShards : List String
  template : RolloutRequest
  status : GroupStatus
  nextIndex : ℕ
  reasonCode : String
deriving DecidableEq, Repr

/-- a row of `model_rollout_group_shards` -/
structure GroupShard where
  groupId : String
  shardIndex : ℕ
  shardId : String
  operationId : String
  status : ChildStatus
  currentGeneration : Option ℤ
  routeEpoch : Option ℤ
  reasonCode : String
deriving DecidableEq, Repr

structure Db where
  revisions : List ModelRevision
  pools : List LogicalPool
  poolGenerations : List PoolGeneration
  bindings : List ShardBinding
  operations : List RolloutOperation
  observationEvents : List ObservationEvent
  observations : List CurrentObservation
  control : ControlState
  assignments : List Target.AssignmentRow
  groups : List RolloutGroup
  groupShards : List GroupShard
deriving DecidableEq, Repr

def Db.revision? (db : Db) (id : String) : Option ModelRevision :=
  Table.lookup ModelRevision.modelRevisionId db.revisions id

def Db.pool? (db : Db) (id : String) : Option LogicalPool := Table.lookup LogicalPool.logicalPoolId db.pools id

def Db.poolGeneration? (db : Db) (key : PoolKey) : Option PoolGeneration :=
  Table.lookup PoolGeneration.key db.poolGenerations key

def Db.binding? (db : Db) (shardId : String) : Option ShardBinding := Table.lookup ShardBinding.shardId db.bindings shardId

def Db.operation? (db : Db) (id : String) : Option RolloutOperation :=
  Table.lookup RolloutOperation.operationId db.operations id

def Db.observation? (db : Db) (key : PoolKey) : Option CurrentObservation :=
  Table.lookup CurrentObservation.key db.observations key

def Db.group? (db : Db) (id : String) : Option RolloutGroup := Table.lookup RolloutGroup.groupId db.groups id

/-- the shards of a group, in the order of their index -/
def Db.shardsOf (db : Db) (groupId : String) : List GroupShard := db.groupShards.filter fun c => decide (c.groupId = groupId)

def Db.observationEvent? (db : Db) (id : String) : Option ObservationEvent :=
  Table.lookup ObservationEvent.observationId db.observationEvents id

/-- the writer is open for the incarnation -/
def ControlState.Writes (control : ControlState) (incarnationId : String) : Prop :=
  control.writerEnabled = true ∧ control.activeIncarnationId = some incarnationId
deriving Decidable

/-! ## Requests -/

def RolloutRequest.poolKey (req : RolloutRequest) : PoolKey :=
  ⟨req.logicalPoolId, req.modelControlIncarnationId, req.targetGeneration⟩

/-- what `url.Parse` gives -/
structure Url where
  scheme : String
  host : String
  user : Bool
  fragment : String
deriving DecidableEq, Repr

/-- what the manager gets from the standard library -/
structure Services where
  hash : Bytes → String
  readbackJson : Readback → String
  capacityJson : CapacityResult → String
  templateJson : RolloutRequest → String
  parseUrl : String → Option Url

def digestOf (sv : Services) (s : String) : String := sha256 sv.hash (asBytes s)

/-- `^sha256:[0-9a-f]{64}$` -/
def isDigest (s : String) : Bool :=
  (asBytes s).length == 71 && (asBytes s).take 7 == asBytes "sha256:" && ((asBytes s).drop 7).all isHexLower

/-- the checks of `Rollout` on its arguments -/
def checkRequest (req : RolloutRequest) : GoResult Unit := do
  reject (req.kind ≠ .rollout ∧ req.kind ≠ .rollback)
    ("model: unsupported kind \"" ++ req.kind.text ++ "\" (use Rollout; recovery is reconcile-driven)")
  reject (req.kind = .rollout ∧ req.targetGeneration < 1) "model: target_generation >= 1 required"
  reject (req.operationId = "" ∨ req.shardId = "" ∨ req.logicalPoolId = "" ∨ req.scope = "" ∨
      req.modelControlIncarnationId = "" ∨ req.wireProfile ≠ "inference-central-grpc-batch/v1" ∨
      isDigest req.wireProfileDigest = false ∨ isDigest req.runtimeProfileDigest = false ∨
      isDigest req.optimizationProfileDigest = false)
    "model: operation/shard/pool/scope and exact wire/runtime profiles required"
  reject (req.minReadyReplicas < 1) "model: min_ready_replicas >=1 required"

/-- `currentEdgeWorkload`: the workload of the newest assignment that is alive -/
def currentEdgeWorkload (now : ℤ) (shardId : String) (db : Db) : GoResult String := do
  let alive := db.assignments.filter fun r =>
    decide (r.targetId = shardId ∧ r.revokedAtUnixMs = none ∧ now < r.expiresAtUnixMs)
  let newest := alive.find? fun r => alive.all fun x => decide (x.assignmentGeneration ≤ r.assignmentGeneration)
  let row ← wrap "model: resolve current Edge assignment: " (queryRow newest)
  reject (row.edgeWorkloadRef = "" ∨ 128 < (asBytes row.edgeWorkloadRef).length)
    "model: assigned Edge workload identity malformed"
  return row.edgeWorkloadRef

/-- the request with the workload it is frozen to -/
def freezeWorkload (now : ℤ) (req : RolloutRequest) (db : Db) : GoResult RolloutRequest := do
  checkRequest req
  let workload ← currentEdgeWorkload now req.shardId db
  reject (req.edgeWorkloadRef ≠ "" ∧ req.edgeWorkloadRef ≠ workload)
    "model: caller Edge workload differs from current assignment"
  return { req with edgeWorkloadRef := workload }

/-! ## Loading -/

/-- the first query of `loadRevisionAndBinding` -/
def loadRevision (req : RolloutRequest) (db : Db) : GoResult ModelRevision :=
  match db.revision? req.targetRevisionId with
  | none => .error ("model: revision " ++ req.targetRevisionId ++ " not found")
  | some rev => do
    reject (rev.qualificationStatus ≠ .qualified)
      ("model: revision " ++ req.targetRevisionId ++ " qualification is " ++ rev.qualificationStatus.text ++
        " (must be qualified)")
    return rev

/-- the second query, and what is compared with it -/
def loadBinding (req : RolloutRequest) (rev : ModelRevision) (db : Db) : GoResult ShardBinding :=
  match (db.binding? req.shardId).filter fun b => db.control.Writes b.modelControlIncarnationId with
  | none => .error ("model: shard binding " ++ req.shardId ++ " not found (bootstrap required)")
  | some b => do
    reject (rev.scope ≠ req.scope) "model: revision scope mismatch"
    reject (b.logicalPoolId ≠ req.logicalPoolId)
      ("model: shard " ++ req.shardId ++ " belongs to pool " ++ b.logicalPoolId ++ " not " ++ req.logicalPoolId)
    reject (b.scope ≠ req.scope) "model: shard scope mismatch"
    reject (b.modelControlIncarnationId ≠ req.modelControlIncarnationId) "model: model-control incarnation fence mismatch"
    return b

/-- the third query -/
def checkPoolProfiles (req : RolloutRequest) (rev : ModelRevision) (db : Db) : GoResult Unit := do
  let pool ← wrap "model: load pool runtime: " (queryRow (db.pool? req.logicalPoolId))
  reject (rev.readerRuntimeProfile ≠ pool.runtimeProfile)
    ("model: revision runtime " ++ rev.readerRuntimeProfile ++ " != pool runtime " ++ pool.runtimeProfile ++
      " (new generation with matching profile required)")
  reject (pool.availabilityProfile ≠ req.availabilityProfile) "model: availability profile mismatch"

/-- a rollback goes to the exact pair before -/
def rollbackTarget (req : RolloutRequest) (binding : ShardBinding) : GoResult ℤ :=
  match binding.previous with
  | none => .error "model: rollback must target the exact previous revision"
  | some p => do
    reject (p.revisionId = "" ∨ req.targetRevisionId ≠ p.revisionId) "model: rollback must target the exact previous revision"
    reject (p.generation < 1) "model: rollback has no exact previous generation"
    return p.generation

/-- the generation of a rollback is derived from the binding; that of a rollout may not go back -/
def resolveTarget (req : RolloutRequest) (binding : ShardBinding) : GoResult RolloutRequest :=
  match req.kind with
  | .rollback => do
    let generation ← rollbackTarget req binding
    return { req with targetGeneration := generation }
  | .rollout => do
    reject (req.targetGeneration < binding.currentGeneration) "model: rollout generation must advance monotonically"
    reject (req.targetGeneration = binding.currentGeneration ∧ req.targetRevisionId ≠ binding.currentRevisionId)
      "model: same pool generation cannot change model identity"
    return req
  | _ => return req

/-- the rollout names what the shard is bound to already -/
def AlreadyCurrent (req : RolloutRequest) (binding : ShardBinding) : Prop :=
  req.kind = .rollout ∧ req.targetGeneration = binding.currentGeneration ∧ req.targetRevisionId = binding.currentRevisionId
deriving Decidable

/-! ## Operations -/

def rolloutRequestDigest (sv : Services) (req : RolloutRequest) (incarnationId : String) : String :=
  digestOf sv ("|".intercalate
    [req.operationId, req.shardId, req.logicalPoolId, toString req.targetGeneration, req.targetRevisionId, req.kind.text,
     incarnationId, req.scope, req.wireProfileDigest, req.runtimeProfileDigest ++ "|" ++ req.optimizationProfileDigest,
     toString req.minReadyReplicas, req.modelControlIncarnationId, req.edgeWorkloadRef])

/-- the operation a call appends for the binding it has loaded -/
def newOperation (sv : Services) (req : RolloutRequest) (binding : ShardBinding) : RolloutOperation :=
  { operationId := req.operationId, shardId := req.shardId, logicalPoolId := req.logicalPoolId
    targetGeneration := req.targetGeneration, previousGeneration := binding.currentGeneration
    operationKind := req.kind, status := .planned, actorRef := req.actorRef, reasonCode := req.reasonCode
    traceId := req.traceId, requestDigest := rolloutRequestDigest sv req binding.modelControlIncarnationId
    modelControlIncarnationId := binding.modelControlIncarnationId, scope := req.scope
    targetRevisionId := req.targetRevisionId, edgeWorkloadRef := req.edgeWorkloadRef }

def appendOperation (op : RolloutOperation) (db : Db) : GoResult Db :=
  wrap "model: append operation: " <|
    match db.operation? op.operationId with
    | none => .ok { db with operations := db.operations ++ [op] }
    | some existing => do
      reject (existing.requestDigest ≠ op.requestDigest) "model: operation idempotency digest conflict"
      .error "model: operation already exists; resume/reconcile original identity"

def RolloutOperation.settle (status : OperationStatus) (reasonCode : String) (op : RolloutOperation) : RolloutOperation :=
  { op with status, reasonCode }

/-- `setOperationStatus`, and `finishOperation` but for its time -/
def setOperationStatus (operationId : String) (status : OperationStatus) (reasonCode : String) (db : Db) : GoResult Db := do
  reject (db.operation? operationId = none) ("model: operation " ++ operationId ++ " not found")
  return { db with
    operations := Table.modify RolloutOperation.operationId db.operations operationId (·.settle status reasonCode) }

/-! ## Pool generations -/

/-- the pool as a call holds it -/
structure Pool where
  row : PoolGeneration
  operationId : String
  scope : String
  bindingGeneration : ℤ
  wireProfile : String
  runtimeProfile : String
  availabilityProfile : String
deriving DecidableEq, Repr

def poolGenerationOperationId (sv : Services) (req : RolloutRequest) : String :=
  "mpool-" ++ shortId sv.hash ("|".intercalate
    [req.modelControlIncarnationId, req.logicalPoolId, toString req.targetGeneration, req.targetRevisionId])

def envelopeString (sv : Services) (req : RolloutRequest) (rev : ModelRevision) : String :=
  "|".intercalate
    ["envelope", req.modelControlIncarnationId, poolGenerationOperationId sv req, req.logicalPoolId,
     toString req.targetGeneration, rev.modelRevisionDigest, req.wireProfileDigest, rev.readerRuntimeProfile,
     req.runtimeProfileDigest, req.optimizationProfileDigest, req.availabilityProfile]

def poolDigests (sv : Services) (req : RolloutRequest) (rev : ModelRevision) : PoolDigests :=
  { startupEnvelope := digestOf sv (envelopeString sv req rev)
    poolObservation := digestOf sv ("|".intercalate
      ["observation", req.logicalPoolId, toString req.targetGeneration, rev.modelRevisionDigest, req.runtimeProfileDigest,
       req.optimizationProfileDigest])
    binding := digestOf sv ("|".intercalate
      ["pool-binding", req.logicalPoolId, toString req.targetGeneration, rev.modelRevisionDigest, req.wireProfileDigest,
       req.runtimeProfileDigest, req.optimizationProfileDigest])
    modelRevision := rev.modelRevisionDigest, modelBundle := rev.modelBundleDigest
    featureContract := rev.featureContractDigest, labelContract := rev.labelContractDigest
    outputAdapter := rev.outputAdapterDigest, wireProfile := req.wireProfileDigest
    runtimeProfile := req.runtimeProfileDigest, optimizationProfile := req.optimizationProfileDigest }

def newPoolGeneration (sv : Services) (req : RolloutRequest) (rev : ModelRevision) : PoolGeneration :=
  { key := req.poolKey, modelRevisionId := req.targetRevisionId, digests := poolDigests sv req rev, status := .warming
    minReadyReplicas := req.minReadyReplicas, capacityQualified := false }

def newPool (sv : Services) (req : RolloutRequest) (rev : ModelRevision) (proposedBindingGeneration : ℤ)
    (row : PoolGeneration) : Pool :=
  { row, operationId := poolGenerationOperationId sv req, scope := req.scope, bindingGeneration := proposedBindingGeneration
    wireProfile := req.wireProfile, runtimeProfile := rev.readerRuntimeProfile
    availabilityProfile := req.availabilityProfile }

/-- an existing row must have the same identity; its status and qualification are kept -/
def upsertPoolGeneration (sv : Services) (req : RolloutRequest) (rev : ModelRevision) (proposedBindingGeneration : ℤ)
    (db : Db) : GoResult (Db × Pool) :=
  wrap "model: upsert pool generation: " <|
    let row := newPoolGeneration sv req rev
    match db.poolGeneration? row.key with
    | none => do
      -- the column is an `INTEGER`
      reject (2 ^ 31 ≤ row.minReadyReplicas) "min_ready_replicas is out of range"
      return ({ db with poolGenerations := db.poolGenerations ++ [row] }, newPool sv req rev proposedBindingGeneration row)
    | some existing => do
      reject (existing.modelRevisionId ≠ row.modelRevisionId ∨ existing.digests ≠ row.digests ∨
          existing.minReadyReplicas ≠ row.minReadyReplicas)
        "model: immutable pool generation identity conflict"
      return (db, newPool sv req rev proposedBindingGeneration existing)

/-! ## Observations -/

def workerBefore (a b : WorkerIdentity) : Prop := a.workerId ≤ b.workerId
deriving Decidable

def sortedWorkers (workers : List WorkerIdentity) : List WorkerIdentity := workers.insertionSort workerBefore

def validatePoolReadback (sv : Services) (readback : Readback) (minReadyReplicas : ℤ) : GoResult Unit := do
  match sv.parseUrl readback.endpoint with
  | none => .error "model: readback endpoint must be an absolute credential-free HTTPS URL"
  | some url =>
    reject (url.scheme ≠ "https" ∨ url.host = "" ∨ url.user = true ∨ url.fragment ≠ "")
      "model: readback endpoint must be an absolute credential-free HTTPS URL"
  reject (readback.tlsServerName = "" ∨ 253 < (asBytes readback.tlsServerName).length ∨ readback.tlsIdentityRef = "" ∨
      128 < (asBytes readback.tlsIdentityRef).length ∨ readback.readbackAttemptId = "" ∨
      128 < (asBytes readback.readbackAttemptId).length ∨ readback.observedAtUnixMs < 1)
    "model: readback route/TLS/attempt identity missing or unbounded"
  reject ((readback.eligibleWorkers.length : ℤ) < minReadyReplicas ∨ 256 < readback.eligibleWorkers.length ∨
      readback.readyReplicas ≠ readback.eligibleWorkers.length)
    "model: readback eligible worker vector does not match ready replicas"
  reject ((∃ w ∈ readback.eligibleWorkers, w.workerId = "" ∨ 128 < (asBytes w.workerId).length ∨
      isDigest w.workerDigest = false) ∨ ¬ (readback.eligibleWorkers.map (·.workerId)).Nodup)
    "model: readback eligible worker identity malformed or duplicated"

/-- the observation of an exact pool generation that is in use, if there is one -/
def loadReusablePoolObservation (pool : Pool) (db : Db) : Option (String × Readback × CapacityResult) :=
  match db.observation? pool.row.key, db.poolGeneration? pool.row.key with
  | some c, some pg =>
    if c.scope = pool.scope ∧ c.poolObservationDigest = pool.row.digests.poolObservation ∧ pg.capacityQualified = true ∧
        (pg.status = .active ∨ pg.status = .draining) ∧ pg.modelRevisionId = pool.row.modelRevisionId ∧
        pg.digests = { pool.row.digests with poolObservation := pg.digests.poolObservation } then
      (db.observationEvent? c.observationId).map fun e => (c.observationId, e.readback, e.capacity)
    else none
  | _, _ => none

def observationRecordDigest (sv : Services) (req : RolloutRequest) (readback : Readback) (capacity : CapacityResult) : String :=
  digestOf sv ("pool-observation-record|" ++ sv.readbackJson readback ++ "|" ++ sv.capacityJson capacity ++ "|" ++
    req.scope ++ "|" ++ req.traceId)

def observationIdOf (sv : Services) (req : RolloutRequest) (readback : Readback) : String :=
  "mpo-" ++ shortId sv.hash (req.operationId ++ ":" ++ req.logicalPoolId ++ ":" ++ toString req.targetGeneration ++ ":" ++
    readback.readbackAttemptId)

/-- the event is appended once -/
def appendObservation (event : ObservationEvent) (db : Db) : GoResult Db :=
  match db.observationEvent? event.observationId with
  | none => .ok { db with observationEvents := db.observationEvents ++ [event] }
  | some existing => do
    reject (existing.recordDigest ≠ event.recordDigest) "model: pool observation identity conflict"
    return db

/-- the row order of the compare-and-set on the current observation -/
def CurrentObservation.NotAfter (a b : CurrentObservation) : Prop :=
  a.observedAtUnixMs < b.observedAtUnixMs ∨ (a.observedAtUnixMs = b.observedAtUnixMs ∧ a.observationId ≤ b.observationId)
deriving Decidable

def advanceObservation (row : CurrentObservation) (db : Db) : GoResult Db :=
  match db.observation? row.key with
  | none => .ok { db with observations := db.observations ++ [row] }
  | some existing =>
    if existing.NotAfter row then
      .ok { db with observations := Table.modify CurrentObservation.key db.observations row.key fun _ => row }
    else do
      reject (existing.observationId ≠ row.observationId) "model: newer pool observation already current"
      return db

def PoolGenerationStatus.Available (status : PoolGenerationStatus) : Prop :=
  status = .warming ∨ status = .active ∨ status = .draining
deriving Decidable

def PoolGeneration.qualify (row : PoolGeneration) : PoolGeneration := { row with capacityQualified := true }

def qualifyPool (key : PoolKey) (db : Db) : GoResult Db := do
  reject (¬ ∃ pg ∈ db.poolGeneration? key, pg.status.Available) "model: observed pool generation missing"
  return { db with poolGenerations := Table.modify PoolGeneration.key db.poolGenerations key PoolGeneration.qualify }

def recordPoolObservation (sv : Services) (now : ℤ) (req : RolloutRequest) (pool : Pool) (readback : Readback)
    (capacity : CapacityResult) (db : Db) : GoResult (Db × String) := do
  reject (readback.observedAtUnixMs < now - 300000 ∨ now + 60000 < readback.observedAtUnixMs)
    "model: pool readback freshness outside bounded window"
  let readback := { readback with eligibleWorkers := sortedWorkers readback.eligibleWorkers }
  let observationId := observationIdOf sv req readback
  let recordDigest := observationRecordDigest sv req readback capacity
  wrap "model: persist pool observation: " do
    let db ← appendObservation ⟨observationId, recordDigest, readback, capacity⟩ db
    let db ← advanceObservation
      ⟨pool.row.key, observationId, recordDigest, readback.digests.poolObservation, readback.observedAtUnixMs, req.scope⟩ db
    let db ← qualifyPool pool.row.key db
    return (db, observationId)

/-! ## The binding -/

/-- `ShouldRaiseRouteEpoch` -/
def shouldRaiseRouteEpoch (currentGen targetGen : ℤ) (currentRev targetRev : String) : Bool :=
  decide (targetGen ≠ currentGen ∨ currentRev ≠ targetRev)

def computeCasDigest (sv : Services) (operationId shardId : String) (targetGen : ℤ) (targetRev : String) : String :=
  digestOf sv ("|".intercalate [operationId, shardId, toString targetGen, targetRev])

/-- the next route epoch of a binding that goes to the target -/
def ShardBinding.nextEpoch (b : ShardBinding) (req : RolloutRequest) : ℤ :=
  if shouldRaiseRouteEpoch b.currentGeneration req.targetGeneration b.currentRevisionId req.targetRevisionId then
    b.routeEpoch + 1
  else b.routeEpoch

/-- the binding after a swap -/
def ShardBinding.swap (b : ShardBinding) (req : RolloutRequest) (casDigest : String) : ShardBinding :=
  { b with
    currentGeneration := req.targetGeneration
    currentBindingGeneration := b.currentBindingGeneration + 1
    currentRevisionId := req.targetRevisionId
    previous := some ⟨b.currentGeneration, b.currentBindingGeneration, b.currentRevisionId⟩
    routeEpoch := b.nextEpoch req
    resumeState := .current, loaded := true, ready := true, casDigest }

/-- what the swap compares of the binding it was given -/
def ShardBinding.SameFence (b old : ShardBinding) : Prop :=
  b.currentBindingGeneration = old.currentBindingGeneration ∧ b.currentRevisionId = old.currentRevisionId ∧
    b.currentGeneration = old.currentGeneration ∧ b.routeEpoch = old.routeEpoch ∧
    b.modelControlIncarnationId = old.modelControlIncarnationId
deriving Decidable

def PoolGeneration.activate (row : PoolGeneration) : PoolGeneration := { row with status := .active, capacityQualified := true }

def PoolGeneration.drain (row : PoolGeneration) : PoolGeneration :=
  if row.status = .active then { row with status := .draining } else row

/-- a shard of the pool is bound to the generation -/
def Db.InUse (db : Db) (key : PoolKey) : Prop :=
  ∃ b ∈ db.bindings, b.logicalPoolId = key.logicalPoolId ∧ b.modelControlIncarnationId = key.modelControlIncarnationId ∧
    b.currentGeneration = key.poolGeneration
deriving Decidable

/-- the generation that was left drains unless another shard is bound to it -/
def drainPrevious (key : PoolKey) (db : Db) : Db :=
  if db.InUse key then db
  else { db with poolGenerations := Table.modify PoolGeneration.key db.poolGenerations key PoolGeneration.drain }

def LogicalPool.at (generation : ℤ) (pool : LogicalPool) : LogicalPool := { pool with currentGeneration := generation }

/-- the pool follows once all its shards have -/
def followPool (logicalPoolId : String) (generation : ℤ) (db : Db) : Db :=
  if ∃ b ∈ db.bindings, b.logicalPoolId = logicalPoolId ∧ b.currentGeneration ≠ generation then db
  else { db with pools := Table.modify LogicalPool.logicalPoolId db.pools logicalPoolId (LogicalPool.at generation) }

/-- the writes of a swap, over the binding as it is in the table -/
def writeSwap (req : RolloutRequest) (b : ShardBinding) (casDigest : String) (db : Db) : Db :=
  let db := { db with bindings := Table.modify ShardBinding.shardId db.bindings req.shardId (·.swap req casDigest) }
  let db := { db with
    poolGenerations := Table.modify PoolGeneration.key db.poolGenerations req.poolKey PoolGeneration.activate }
  let db := if b.currentGeneration ≠ req.targetGeneration then
      drainPrevious ⟨req.logicalPoolId, req.modelControlIncarnationId, b.currentGeneration⟩ db
    else db
  followPool req.logicalPoolId req.targetGeneration db

/-- the foreign keys and the checks of `shard_bindings` on the row the swap writes -/
def checkBindingConstraints (req : RolloutRequest) (b : ShardBinding) (db : Db) : GoResult Unit := do
  -- an `int64` that overflows is negative, and the columns are checked to be positive
  reject (2 ^ 63 ≤ b.currentBindingGeneration + 1 ∨ 2 ^ 63 ≤ b.nextEpoch req) "violates check constraint"
  reject (¬ ∃ pg ∈ db.poolGeneration? ⟨b.logicalPoolId, b.modelControlIncarnationId, req.targetGeneration⟩,
      pg.modelRevisionId = req.targetRevisionId)
    "violates foreign key constraint \"shard_current_exact_revision_fk_v21\""

def casSwapBinding (sv : Services) (req : RolloutRequest) (old : ShardBinding) (observationId poolObservationDigest : String)
    (db : Db) : GoResult (Db × ShardBinding) :=
  wrap "model: cas swap binding: " do
    let observed ← wrap "model: load current pool observation: " (queryRow (db.observation? req.poolKey))
    reject (observed.observationId ≠ observationId ∨ observed.poolObservationDigest ≠ poolObservationDigest)
      "model: pool observation fence mismatch"
    let b ← queryRow ((db.binding? req.shardId).filter fun b =>
      b.scope = req.scope ∧ db.control.Writes b.modelControlIncarnationId)
    reject (¬ b.SameFence old ∨ b.modelControlIncarnationId ≠ req.modelControlIncarnationId)
      ("model: CAS conflict on shard " ++ req.shardId ++ " (binding advanced)")
    checkBindingConstraints req b db
    reject (db.poolGeneration? req.poolKey = none) "model: target pool generation missing"
    let casDigest := computeCasDigest sv req.operationId req.shardId req.targetGeneration req.targetRevisionId
    return (writeSwap req b casDigest db, b.swap req casDigest)

/-- the row an `UPDATE` of the resume state addresses -/
def ShardBinding.Addressed (b : ShardBinding) (req : RolloutRequest) (binding : ShardBinding) : Prop :=
  b.scope = req.scope ∧ b.modelControlIncarnationId = binding.modelControlIncarnationId ∧
    b.currentBindingGeneration = binding.currentBindingGeneration ∧ b.currentGeneration = binding.currentGeneration ∧
    b.routeEpoch = binding.routeEpoch
deriving Decidable

def ShardBinding.markResumePending (b : ShardBinding) : ShardBinding := { b with resumeState := .resumePending }

def ShardBinding.markUnavailable (b : ShardBinding) : ShardBinding :=
  { b with resumeState := .unavailable, loaded := false, ready := false }

def ShardBinding.markCurrent (b : ShardBinding) : ShardBinding :=
  { b with resumeState := .current, loaded := true, ready := true }

/-- `markResumePending` -/
def markResumePending (req : RolloutRequest) (binding : ShardBinding) (db : Db) : GoResult Db := do
  reject (¬ ∃ b ∈ db.binding? req.shardId, b.Addressed req binding) "model: mark resume_pending CAS conflict"
  return { db with
    bindings := Table.modify ShardBinding.shardId db.bindings req.shardId ShardBinding.markResumePending }

/-- `markUnavailable` -/
def markUnavailable (req : RolloutRequest) (binding : ShardBinding) (db : Db) : GoResult Db := do
  reject (¬ ∃ b ∈ db.binding? req.shardId, b.Addressed req binding) "model: mark unavailable shard missing"
  return { db with
    bindings := Table.modify ShardBinding.shardId db.bindings req.shardId ShardBinding.markUnavailable }

/-- the update of the resume state at the end of `ReconcileOperation` -/
def projectCurrent (req : RolloutRequest) (binding : ShardBinding) (db : Db) : GoResult Db := do
  reject (¬ ∃ b ∈ db.binding? req.shardId, b.modelControlIncarnationId = req.modelControlIncarnationId ∧
      b.currentGeneration = req.targetGeneration ∧ b.currentBindingGeneration = binding.currentBindingGeneration ∧
      b.routeEpoch = binding.routeEpoch)
    "model: recovery resume projection CAS conflict"
  return { db with bindings := Table.modify ShardBinding.shardId db.bindings req.shardId ShardBinding.markCurrent }

/-! ## Groups -/

structure RolloutGroupRequest where
  groupId : String
  orderedShards : List String
  template : RolloutRequest
deriving DecidableEq, Repr

/-- what of the template is the same for every shard -/
def RolloutRequest.shared (req : RolloutRequest) : RolloutRequest :=
  { req with operationId := "", shardId := "", edgeWorkloadRef := "" }

def groupOperationId (sv : Services) (groupId shardId : String) : String := "mro-" ++ shortId sv.hash (groupId ++ "|" ++ shardId)

/-- the text `%v` gives for a slice of strings -/
def sliceText (xs : List String) : String := "[" ++ " ".intercalate xs ++ "]"

def rolloutGroupDigest (sv : Services) (req : RolloutGroupRequest) : String :=
  digestOf sv ("|".intercalate
    [req.groupId, sv.templateJson req.template.shared, sliceText req.orderedShards,
     sliceText (req.orderedShards.insertionSort (· ≤ ·))])

def checkGroup (req : RolloutGroupRequest) : GoResult Unit := do
  reject (req.groupId = "" ∨ 128 < (asBytes req.groupId).length ∨ req.orderedShards = [] ∨ 256 < req.orderedShards.length)
    "model: rollout group identity/shard count out of bounds"
  reject (∃ shard ∈ req.orderedShards, shard = "" ∨ 128 < (asBytes shard).length)
    "model: rollout group shard identity malformed"
  reject (¬ req.orderedShards.Nodup) "model: rollout group shard duplicated"
  reject (req.template.logicalPoolId = "" ∨ req.template.targetRevisionId = "" ∨
      req.template.modelControlIncarnationId = "" ∨ req.template.scope = "" ∨
      (req.template.kind ≠ .rollout ∧ req.template.kind ≠ .rollback) ∨
      (req.template.kind = .rollout ∧ req.template.targetGeneration < 1) ∨
      (req.template.kind = .rollback ∧ req.template.targetGeneration < 0))
    "model: rollout group template malformed"

def newChild (sv : Services) (groupId : String) (index : ℕ) (shardId : String) : GroupShard :=
  ⟨groupId, index, shardId, groupOperationId sv groupId shardId, .planned, none, none, "PLANNED"⟩

def newChildren (sv : Services) (req : RolloutGroupRequest) : List GroupShard :=
  req.orderedShards.mapIdx (newChild sv req.groupId)

def newGroup (sv : Services) (req : RolloutGroupRequest) : RolloutGroup :=
  { groupId := req.groupId, requestDigest := rolloutGroupDigest sv req, orderedShards := req.orderedShards
    template := req.template.shared, status := .planned, nextIndex := 0, reasonCode := "PLANNED" }

/-- the shards of the vector that are bound as the template says -/
def eligibleShards (req : RolloutGroupRequest) (db : Db) : List ShardBinding :=
  db.bindings.filter fun b => decide (b.shardId ∈ req.orderedShards ∧ b.logicalPoolId = req.template.logicalPoolId ∧
    b.modelControlIncarnationId = req.template.modelControlIncarnationId ∧ b.scope = req.template.scope)

/-- the transaction of `CreateRolloutGroup` -/
def createRolloutGroup (sv : Services) (req : RolloutGroupRequest) (db : Db) : GoResult Db := do
  checkGroup req
  wrap "model: create rollout group: " do
    reject ((eligibleShards req db).length ≠ req.orderedShards.length) "model: rollout group shard vector drift/mismatch"
    match db.group? req.groupId with
    | some existing => do
      reject (existing.requestDigest ≠ rolloutGroupDigest sv req) "model: rollout group idempotency conflict"
      return db
    | none => do
      -- the template of a rollback may name generation zero, the column may not
      reject (req.template.targetGeneration < 1) "violates check constraint"
      reject (db.revision? req.template.targetRevisionId = none) "violates foreign key constraint"
      reject (¬ ((db.groupShards ++ newChildren sv req).map (·.operationId)).Nodup) "violates unique constraint"
      return { db with
        groups := db.groups ++ [newGroup sv req], groupShards := db.groupShards ++ newChildren sv req }

/-- change the child at an index of a group, if it has the status -/
def changeChild (groupId : String) (index : ℕ) (status : ChildStatus) (f : GroupShard → GroupShard) (db : Db) : Db :=
  { db with groupShards := db.groupShards.map fun c =>
      if c.groupId = groupId ∧ c.shardIndex = index ∧ c.status = status then f c else c }

def GroupShard.start (c : GroupShard) : GroupShard := { c with status := .running, reasonCode := "RUNNING" }

/-- the first update of a round; how many rows it changed is not looked at -/
def startChild (groupId : String) (index : ℕ) (db : Db) : Db := changeChild groupId index .planned GroupShard.start db

def RolloutGroup.roll (g : RolloutGroup) : RolloutGroup :=
  { g with status := if g.nextIndex = 0 then .rolling else .rollingMixed, reasonCode := "ROLLING" }

/-- the second update of a round -/
def rollGroup (groupId : String) (db : Db) : Db :=
  { db with groups := Table.modify RolloutGroup.groupId db.groups groupId RolloutGroup.roll }

def nullablePositive (value : ℤ) : Option ℤ := if value < 1 then none else some value

def GroupShard.finish (status : ChildStatus) (reasonCode : String) (generation routeEpoch : ℤ) (c : GroupShard) : GroupShard :=
  { c with status, reasonCode, currentGeneration := nullablePositive generation, routeEpoch := nullablePositive routeEpoch }

def RolloutGroup.advance (index count : ℕ) (g : RolloutGroup) : RolloutGroup :=
  if g.nextIndex = index then
    { g with
      nextIndex := index + 1, status := if index + 1 = count then .completed else .rollingMixed
      reasonCode := if index + 1 = count then "COMPLETED" else "ROLLING_MIXED" }
  else g

def RolloutGroup.fail (index : ℕ) (reasonCode : String) (g : RolloutGroup) : RolloutGroup :=
  { g with status := if 0 < index then .failedMixed else .failed, reasonCode }

def GroupShard.block (groupId : String) (index : ℕ) (c : GroupShard) : GroupShard :=
  if c.groupId = groupId ∧ index < c.shardIndex ∧ c.status = .planned then
    { c with status := .blocked, reasonCode := "BLOCKED_BY_PRIOR_FAILURE" }
  else c

def finishGroupChild (groupId : String) (index : ℕ) (status : ChildStatus) (reasonCode : String)
    (generation routeEpoch : ℤ) (db : Db) : GoResult Db := do
  reject (¬ ∃ c ∈ db.groupShards, c.groupId = groupId ∧ c.shardIndex = index ∧ c.status = .running)
    "model: rollout group child finalize CAS conflict"
  let db := changeChild groupId index .running (GroupShard.finish status reasonCode generation routeEpoch) db
  if status = .applied then
    return { db with
      groups := Table.modify RolloutGroup.groupId db.groups groupId
        (RolloutGroup.advance index (db.shardsOf groupId).length) }
  else
    return { db with
      groupShards := db.groupShards.map (GroupShard.block groupId index)
      groups := Table.modify RolloutGroup.groupId db.groups groupId (RolloutGroup.fail index reasonCode) }

/-! ## What a write to the bindings does -/

variable {sv : Services} {db db' : Db} {req : RolloutRequest} {binding old : ShardBinding}

theorem binding?_modify (db : Db) {f : ShardBinding → ShardBinding} (hf : ∀ b, (f b).shardId = b.shardId) (shardId s : String) :
    Table.lookup ShardBinding.shardId (Table.modify ShardBinding.shardId db.bindings shardId f) s =
      if s = shardId then (db.binding? shardId).map f else db.binding? s := by
  apply Table.lookup_modify
  intro r hr
  rw [hf, hr]

/-- what a swap finds in the tables -/
structure Swappable (db : Db) (req : RolloutRequest) (old b : ShardBinding) : Prop where
  found : db.binding? req.shardId = some b
  scope : b.scope = req.scope
  writes : db.control.Writes b.modelControlIncarnationId
  fence : b.SameFence old
  incarnation : b.modelControlIncarnationId = req.modelControlIncarnationId
  exact : ∃ pg, db.poolGeneration? ⟨b.logicalPoolId, b.modelControlIncarnationId, req.targetGeneration⟩ = some pg ∧
    pg.modelRevisionId = req.targetRevisionId

theorem casSwapBinding_ok {observationId poolObservationDigest : String} {out : ShardBinding}
    (h : casSwapBinding sv req old observationId poolObservationDigest db = .ok (db', out)) :
    ∃ b casDigest, Swappable db req old b ∧ db' = writeSwap req b casDigest db ∧ out = b.swap req casDigest := by
  obtain ⟨observed, -, h⟩ := bind_ok.1 (wrap_ok.1 h)
  replace h := passed h
  obtain ⟨b, hb, h⟩ := bind_ok.1 h
  obtain ⟨_, hfence, h⟩ := bind_ok.1 h
  obtain ⟨_, hconstraints, h⟩ := bind_ok.1 h
  replace h := passed h
  cases h
  obtain ⟨hfound, hrow⟩ := Option.filter_eq_some_iff.1 (queryRow_ok.1 hb)
  obtain ⟨hscope, hwrites⟩ := of_decide_eq_true hrow
  have hfence := reject_ok.1 hfence
  push Not at hfence
  obtain ⟨_, -, hexact⟩ := bind_ok.1 hconstraints
  refine ⟨b, _, ⟨hfound, hscope, hwrites, hfence.1, hfence.2, ?_⟩, rfl, rfl⟩
  simpa using hexact

theorem drainPrevious_frame (key : PoolKey) (db : Db) :
    drainPrevious key db = { db with poolGenerations := (drainPrevious key db).poolGenerations } := by
  unfold drainPrevious
  split <;> rfl

theorem followPool_frame (logicalPoolId : String) (generation : ℤ) (db : Db) :
    followPool logicalPoolId generation db = { db with pools := (followPool logicalPoolId generation db).pools } := by
  unfold followPool
  split <;> rfl

/-- a swap changes the one binding -/
theorem writeSwap_bindings (req : RolloutRequest) (b : ShardBinding) (casDigest : String) (db : Db) :
    (writeSwap req b casDigest db).bindings =
      Table.modify ShardBinding.shardId db.bindings req.shardId (·.swap req casDigest) := by
  unfold writeSwap
  split
  · rw [followPool_frame, drainPrevious_frame]
  · rw [followPool_frame]

end MasiEdge.Model
