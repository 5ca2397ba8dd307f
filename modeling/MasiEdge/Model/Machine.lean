/-
`Rollout`, `ReconcileOperation` and `AdvanceRolloutGroup` as processes.

A call is a tree of commands, in the order of the source: each command is one transaction, one statement outside of a
transaction, or one call to the deployment adapter or to Edge. So any number of calls can be interleaved, and each can be
stopped between any two commands. What comes from outside is the environment of a command: the clock, the reply of an
adapter, and the fate of a statement, which may fail, and may be executed without its answer reaching the caller.

Beside the tables the store keeps two lists that the source does not have: the swaps of bindings that were committed, and
what Edge has answered. They are only written.
-/
import MasiEdge.Base.Process
import MasiEdge.Model.Tables

namespace MasiEdge.Model

open Control Process

/-! ## Messages -/

structure RoutePrepare where
  shardId : String
  currentModelControlIncarnationId : String
  currentRouteEpoch : ℤ
  proposedRouteEpoch : ℤ
  traceId : String
  edgeWorkloadRef : String
deriving DecidableEq, Repr

structure InferenceRoute where
  shardId : String
  key : PoolKey
  bindingGeneration : ℤ
  routeEpoch : ℤ
  digests : PoolDigests
  wireProfile : String
  runtimeProfile : String
  endpoint : String
  tlsServerName : String
  tlsIdentityRef : String
  operationId : String
  scope : String
  expectedBindingGeneration : ℤ
  proposedBindingGeneration : ℤ
  currentBindingGeneration : ℤ
  edgeWorkloadRef : String
deriving DecidableEq, Repr

structure CommittedBindingHandshake where
  operationId : String
  scope : String
  shardId : String
  routeEpoch : ℤ
  key : PoolKey
  expectedBindingGeneration : ℤ
  proposedBindingGeneration : ℤ
  currentBindingGeneration : ℤ
  startupEnvelopeDigest : String
  poolObservationDigest : String
  bindingDigest : String
  edgeWorkloadRef : String
deriving DecidableEq, Repr

structure RouteReadback where
  shardId : String
  state : String
  routeEpoch : ℤ
  pendingInputs : ℤ
  pendingResults : ℤ
  bindingDigest : String
deriving DecidableEq, Repr

inductive EdgeCall where
  | prepare (p : RoutePrepare)
  | commit (route : InferenceRoute)
  | resume (hs : CommittedBindingHandshake)
deriving DecidableEq, Repr

structure RolloutOutcome where
  operationId : String
  shardId : String
  status : OperationStatus
  routeEpoch : ℤ
  newGeneration : ℤ
  resumeState : ResumeState
  reasonCode : String
deriving DecidableEq, Repr

/-- what a call of `Rollout` or `ReconcileOperation` returns -/
structure Result where
  outcome : Option RolloutOutcome
  error : Option String
deriving DecidableEq, Repr

def refused (e : String) : Result := ⟨none, some e⟩

/-! ## Commands -/

inductive Cmd where
  | freezeWorkload (req : RolloutRequest)
  | loadRevision (req : RolloutRequest)
  | loadBinding (req : RolloutRequest) (rev : ModelRevision)
  | checkPoolProfiles (req : RolloutRequest) (rev : ModelRevision)
  | appendOperation (op : RolloutOperation)
  | setStatus (operationId : String) (status : OperationStatus) (reasonCode : String)
  | upsertPool (req : RolloutRequest) (rev : ModelRevision) (proposedBindingGeneration : ℤ)
  | loadReusable (pool : Pool)
  | recordObservation (req : RolloutRequest) (pool : Pool) (readback : Readback) (capacity : CapacityResult)
  | casSwap (req : RolloutRequest) (old : ShardBinding) (observationId poolObservationDigest : String)
  | markUnavailable (req : RolloutRequest) (binding : ShardBinding)
  | markResumePending (req : RolloutRequest) (binding : ShardBinding)
  | projectCurrent (req : RolloutRequest) (binding : ShardBinding)
  | loadOperation (operationId : String)
  | loadAppliedBinding (shardId modelControlIncarnationId : String)
  | loadRecoveryPool (req : RolloutRequest)
  | loadRecoveryObservation (req : RolloutRequest) (pool : Pool)
  | loadShardBinding (shardId : String)
  | stagePool (pool : Pool)
  | startReplicas (pool : Pool)
  | warmupAndCapacity (pool : Pool)
  | edge (call : EdgeCall)
  | loadGroup (groupId : String)
  | loadGroupShards (groupId : String)
  | startChild (groupId : String) (index : ℕ)
  | rollGroup (groupId : String)
  | finishGroupChild (groupId : String) (index : ℕ) (status : ChildStatus) (reasonCode : String)
      (generation routeEpoch : ℤ)

/-- what a command answers when it does not fail -/
def Cmd.Val : Cmd → Type
  | .freezeWorkload _ => RolloutRequest
  | .loadRevision _ => ModelRevision
  | .loadBinding _ _ => ShardBinding
  | .upsertPool _ _ _ => Pool
  | .loadReusable _ => Option (String × Readback × CapacityResult)
  | .recordObservation _ _ _ _ => String
  | .casSwap _ _ _ _ => ShardBinding
  | .loadOperation _ => RolloutOperation
  | .loadAppliedBinding _ _ => ShardBinding
  | .loadRecoveryPool _ => Pool
  | .loadRecoveryObservation _ _ => String × Readback
  | .loadShardBinding _ => ShardBinding
  | .startReplicas _ => Readback
  | .warmupAndCapacity _ => CapacityResult
  | .edge _ => RouteReadback
  | .loadGroup _ => RolloutGroup
  | .loadGroupShards _ => List GroupShard
  | _ => Unit

def commands : Signature := ⟨Cmd, fun c => GoResult c.Val⟩

abbrev Program := Proc commands Result

/-- a command whose error is handled at once -/
def attempt {α : Type} (c : Cmd) (onError : String → Proc commands α) (k : c.Val → Proc commands α) : Proc commands α :=
  .ask c fun
    | .ok a => k a
    | .error e => onError e

/-- a command whose error is not looked at -/
def ignore {α : Type} (c : Cmd) (k : Proc commands α) : Proc commands α := .ask c fun _ => k

/-! ## Rollout -/

/-- what a call holds once it has loaded the revision and the binding -/
structure Frame where
  req : RolloutRequest
  rev : ModelRevision
  binding : ShardBinding
deriving DecidableEq, Repr

/-- an outcome that still reports the binding that was loaded -/
def Frame.outcome (f : Frame) (status : OperationStatus) (resumeState : ResumeState) (reasonCode : String) : RolloutOutcome :=
  { operationId := f.req.operationId, shardId := f.req.shardId, status, routeEpoch := f.binding.routeEpoch
    newGeneration := f.binding.currentGeneration, resumeState, reasonCode }

/-- an outcome that reports the target -/
def Frame.swapped (f : Frame) (newBinding : ShardBinding) (status : OperationStatus) (resumeState : ResumeState)
    (reasonCode : String) : RolloutOutcome :=
  { operationId := f.req.operationId, shardId := f.req.shardId, status, routeEpoch := newBinding.routeEpoch
    newGeneration := f.req.targetGeneration, resumeState, reasonCode }

/-- `fail`: before the route is touched -/
def Frame.fail (f : Frame) (reason : String) (cause : Option String) : Program :=
  ignore (.setStatus f.req.operationId .failed reason) <|
    .done ⟨f.outcome .failed f.binding.resumeState reason, cause.map fun e => "model: " ++ reason ++ ": " ++ e⟩

/-- the route may be withdrawn and the binding is not swapped -/
def Frame.withdrawn (f : Frame) (reason : String) (cause : Option String) : Program :=
  ignore (.markUnavailable f.req f.binding) <|
    ignore (.setStatus f.req.operationId .resumePending reason) <|
      .done ⟨f.outcome .resumePending .unavailable reason, cause⟩

def handshakeOf (req : RolloutRequest) (pool : Pool) (newBinding : ShardBinding) : CommittedBindingHandshake :=
  { operationId := req.operationId, scope := req.scope, shardId := req.shardId, routeEpoch := newBinding.routeEpoch
    key := req.poolKey, expectedBindingGeneration := newBinding.currentBindingGeneration - 1
    proposedBindingGeneration := newBinding.currentBindingGeneration
    currentBindingGeneration := newBinding.currentBindingGeneration
    startupEnvelopeDigest := pool.row.digests.startupEnvelope
    poolObservationDigest := pool.row.digests.poolObservation, bindingDigest := pool.row.digests.binding
    edgeWorkloadRef := req.edgeWorkloadRef }

/-- Edge is active on the route that was asked for -/
def RouteReadback.Resumed (r : RouteReadback) (req : RolloutRequest) (pool : Pool) (newBinding : ShardBinding) : Prop :=
  r.shardId = req.shardId ∧ r.routeEpoch = newBinding.routeEpoch ∧ r.state = "active" ∧
    r.bindingDigest = pool.row.digests.binding
deriving Decidable

/-- Edge has installed the route and has nothing pending -/
def RouteReadback.Committed (r : RouteReadback) (req : RolloutRequest) (pool : Pool) (proposedRouteEpoch : ℤ) : Prop :=
  r.shardId = req.shardId ∧ r.routeEpoch = proposedRouteEpoch ∧ r.state = "ready" ∧
    r.bindingDigest = pool.row.digests.binding ∧ r.pendingInputs = 0 ∧ r.pendingResults = 0
deriving Decidable

/-- Edge drains the route -/
def RouteReadback.Prepared (r : RouteReadback) (req : RolloutRequest) (proposedRouteEpoch : ℤ) : Prop :=
  r.shardId = req.shardId ∧ r.routeEpoch = proposedRouteEpoch ∧ r.state = "draining"
deriving Decidable

/-- the handshake was not confirmed: the new binding is kept -/
def Frame.unconfirmed (f : Frame) (newBinding : ShardBinding) (reason : String) (cause : Option String) : Program :=
  ignore (.markResumePending f.req newBinding) <|
    ignore (.setStatus f.req.operationId .resumePending "HANDSHAKE_NOT_CONFIRMED") <|
      .done ⟨f.swapped newBinding .resumePending .resumePending reason, cause⟩

/-- after the swap -/
def Frame.handshake (f : Frame) (pool : Pool) (newBinding : ShardBinding) : Program :=
  attempt (.setStatus f.req.operationId .handshakePending "HANDSHAKE_PENDING")
    (fun e => ignore (.markResumePending f.req newBinding) <|
      .done ⟨f.swapped newBinding .resumePending .resumePending "STATUS_RECORD_ERROR", some e⟩) fun _ =>
  attempt (.edge (.resume (handshakeOf f.req pool newBinding)))
    (fun e => f.unconfirmed newBinding "HANDSHAKE_ERROR" (some e)) fun (resumed : RouteReadback) =>
  if resumed.Resumed f.req pool newBinding then
    attempt (.setStatus f.req.operationId .applied "APPLIED") (fun e => .done (refused e)) fun _ =>
    .done ⟨f.swapped newBinding .applied .current "APPLIED", none⟩
  else f.unconfirmed newBinding "HANDSHAKE_NOT_CONFIRMED" none

/-- the route of the rollout, over the binding that was loaded -/
def Frame.route (f : Frame) (pool : Pool) (readback : Readback) : InferenceRoute :=
  { shardId := f.req.shardId
    key := ⟨f.req.logicalPoolId, f.binding.modelControlIncarnationId, f.req.targetGeneration⟩
    bindingGeneration := f.binding.currentBindingGeneration + 1, routeEpoch := f.binding.nextEpoch f.req
    digests :=
      { startupEnvelope := pool.row.digests.startupEnvelope, poolObservation := pool.row.digests.poolObservation
        binding := pool.row.digests.binding, modelRevision := f.rev.modelRevisionDigest
        modelBundle := f.rev.modelBundleDigest, featureContract := f.rev.featureContractDigest
        labelContract := f.rev.labelContractDigest, outputAdapter := f.rev.outputAdapterDigest
        wireProfile := f.req.wireProfileDigest, runtimeProfile := f.req.runtimeProfileDigest
        optimizationProfile := f.req.optimizationProfileDigest }
    wireProfile := f.req.wireProfile, runtimeProfile := f.rev.readerRuntimeProfile, endpoint := readback.endpoint
    tlsServerName := readback.tlsServerName, tlsIdentityRef := readback.tlsIdentityRef
    operationId := f.req.operationId, scope := f.req.scope
    expectedBindingGeneration := f.binding.currentBindingGeneration
    proposedBindingGeneration := f.binding.currentBindingGeneration + 1
    currentBindingGeneration := f.binding.currentBindingGeneration + 1, edgeWorkloadRef := f.req.edgeWorkloadRef }

def Frame.prepare (f : Frame) : RoutePrepare :=
  { shardId := f.req.shardId, currentModelControlIncarnationId := f.binding.modelControlIncarnationId
    currentRouteEpoch := f.binding.routeEpoch, proposedRouteEpoch := f.binding.nextEpoch f.req
    traceId := f.req.traceId, edgeWorkloadRef := f.req.edgeWorkloadRef }

/-- the swap and what follows it -/
def Frame.commit (f : Frame) (pool : Pool) (observationId : String) : Program :=
  attempt (.setStatus f.req.operationId .casCommitting "CAS_COMMITTING")
    (fun e => f.withdrawn "OPERATION_STATUS_ERROR_AFTER_DRAIN" (some e)) fun _ =>
  attempt (.casSwap f.req f.binding observationId pool.row.digests.poolObservation)
    (fun e => f.withdrawn "CAS_SWAP_ERROR_AFTER_DRAIN" (some e)) fun newBinding =>
  f.handshake pool newBinding

/-- withdraw the old route and install the new one -/
def Frame.moveRoute (f : Frame) (pool : Pool) (readback : Readback) (observationId : String) : Program :=
  attempt (.setStatus f.req.operationId .routeWithdrawing "ROUTE_WITHDRAWING")
    (fun e => f.fail "OPERATION_STATUS_ERROR" (some e)) fun _ =>
  attempt (.edge (.prepare f.prepare)) (fun e => f.withdrawn "ROUTE_WITHDRAW_UNKNOWN" (some e))
    fun (prepared : RouteReadback) =>
  if ¬ prepared.Prepared f.req (f.binding.nextEpoch f.req) then
    f.withdrawn "ROUTE_PREPARE_READBACK_MISMATCH" none
  else
  attempt (.edge (.commit (f.route pool readback))) (fun e => f.withdrawn "ROUTE_COMMIT_UNKNOWN" (some e))
    fun (committed : RouteReadback) =>
  if ¬ committed.Committed f.req pool (f.binding.nextEpoch f.req) then
    f.withdrawn "ROUTE_COMMIT_READBACK_MISMATCH" none
  else f.commit pool observationId

/-- what a pool readback has to repeat; a reused one may come from another operation -/
def Readback.Loads (readback : Readback) (req : RolloutRequest) (pool : Pool) (reused : Bool) : Prop :=
  readback.loaded = true ∧ readback.key.logicalPoolId = pool.row.key.logicalPoolId ∧
    readback.key.poolGeneration = pool.row.key.poolGeneration ∧
    readback.digests.modelRevision = pool.row.digests.modelRevision ∧
    (reused = true ∨ (readback.bindingGeneration = pool.bindingGeneration ∧
      readback.key.modelControlIncarnationId = pool.row.key.modelControlIncarnationId ∧
      readback.operationId = pool.operationId)) ∧
    readback.digests.modelBundle = pool.row.digests.modelBundle ∧
    readback.digests.featureContract = pool.row.digests.featureContract ∧
    readback.digests.labelContract = pool.row.digests.labelContract ∧
    readback.digests.outputAdapter = pool.row.digests.outputAdapter ∧
    readback.digests.wireProfile = pool.row.digests.wireProfile ∧
    readback.digests.runtimeProfile = pool.row.digests.runtimeProfile ∧
    readback.digests.optimizationProfile = pool.row.digests.optimizationProfile ∧
    readback.wireProfile = pool.wireProfile ∧ readback.runtimeProfile = pool.runtimeProfile ∧
    readback.availabilityProfile = req.availabilityProfile ∧ req.minReadyReplicas ≤ readback.readyReplicas
deriving Decidable

/-- the checks on a started pool; the error is the reason code -/
def checkReadback (sv : Services) (req : RolloutRequest) (pool : Pool) (reused : Bool) (readback : Readback)
    (capacity : CapacityResult) : GoResult Unit := do
  reject (¬ readback.Loads req pool reused) "READBACK_NOT_LOADED"
  reject (readback.digests.startupEnvelope ≠ pool.row.digests.startupEnvelope ∨
      readback.digests.poolObservation ≠ pool.row.digests.poolObservation ∨
      readback.digests.binding ≠ pool.row.digests.binding)
    "READBACK_DIGEST_MISMATCH"
  (validatePoolReadback sv readback req.minReadyReplicas).mapError fun _ => "READBACK_ROUTE_IDENTITY_MISSING"
  reject (capacity.qualified = false ∨ capacity.minReadyMet = false ∨ capacity.logicalPoolId ≠ pool.row.key.logicalPoolId ∨
      capacity.poolGeneration ≠ pool.row.key.poolGeneration)
    "CAPACITY_NOT_QUALIFIED"

/-- start the pool through the deployment adapter -/
def Frame.deploy (sv : Services) (f : Frame) (pool : Pool) : Program :=
  attempt (.stagePool pool) (fun e => f.fail "STAGE_ERROR" (some e)) fun _ =>
  attempt (.setStatus f.req.operationId .warming "WARMING") (fun e => f.fail "OPERATION_STATUS_ERROR" (some e)) fun _ =>
  attempt (.startReplicas pool) (fun e => f.fail "START_REPLICAS_ERROR" (some e)) fun readback =>
  attempt (.warmupAndCapacity pool) (fun e => f.fail "WARMUP_CAPACITY_ERROR" (some e)) fun capacity =>
  match checkReadback sv f.req pool false readback capacity with
  | .error reason => f.fail reason none
  | .ok _ =>
    attempt (.recordObservation f.req pool readback capacity)
      (fun e => f.fail "OBSERVATION_PERSIST_ERROR" (some e)) fun observationId =>
    f.moveRoute pool readback observationId

/-- a pool generation that is in use is not started again -/
def Frame.reuse (sv : Services) (f : Frame) (pool : Pool) (observationId : String) (readback : Readback)
    (capacity : CapacityResult) : Program :=
  match checkReadback sv f.req pool true readback capacity with
  | .error reason => f.fail reason none
  | .ok _ => f.moveRoute pool readback observationId

/-- the rollout once its target is known -/
def Frame.execute (sv : Services) (f : Frame) : Program :=
  attempt (.appendOperation (newOperation sv f.req f.binding)) (fun e => .done (refused e)) fun _ =>
  attempt (.upsertPool f.req f.rev (f.binding.currentBindingGeneration + 1))
    (fun e => f.fail "POOL_GENERATION_ERROR" (some e)) fun pool =>
  attempt (.setStatus f.req.operationId .staging "STAGED") (fun e => f.fail "OPERATION_STATUS_ERROR" (some e)) fun _ =>
  attempt (.loadReusable pool) (fun e => f.fail "POOL_OBSERVATION_LOAD_ERROR" (some e)) fun reusable =>
  match reusable with
  | some (observationId, readback, capacity) => f.reuse sv pool observationId readback capacity
  | none => f.deploy sv pool

/-- after the three queries of `loadRevisionAndBinding` -/
def Frame.start (sv : Services) (f : Frame) : Program :=
  match resolveTarget f.req f.binding with
  | .error e => .done (refused e)
  | .ok req =>
    if AlreadyCurrent req f.binding then
      .done ⟨some (f.outcome .applied .current "ALREADY_CURRENT"), none⟩
    else { f with req }.execute sv

def rollout (sv : Services) (req : RolloutRequest) : Program :=
  attempt (.freezeWorkload req) (fun e => .done (refused e)) fun req =>
  attempt (.loadRevision req) (fun e => .done (refused e)) fun rev =>
  attempt (.loadBinding req rev) (fun e => .done (refused e)) fun binding =>
  attempt (.checkPoolProfiles req rev) (fun e => .done (refused e)) fun _ =>
  Frame.start sv ⟨req, rev, binding⟩

/-! ## ReconcileOperation -/

/-- what is read of an operation; the other fields of the request stay empty -/
def RolloutOperation.request (op : RolloutOperation) : RolloutRequest :=
  { operationId := op.operationId, shardId := op.shardId, logicalPoolId := op.logicalPoolId
    targetGeneration := op.targetGeneration, targetRevisionId := op.targetRevisionId, kind := op.operationKind
    actorRef := "", reasonCode := "", traceId := op.traceId, scope := op.scope, wireProfile := ""
    wireProfileDigest := "", runtimeProfileDigest := "", optimizationProfileDigest := "", availabilityProfile := ""
    minReadyReplicas := 0, modelControlIncarnationId := op.modelControlIncarnationId
    edgeWorkloadRef := op.edgeWorkloadRef }

def recoveryOutcome (req : RolloutRequest) (status : OperationStatus) (binding : ShardBinding) (resumeState : ResumeState)
    (reasonCode : String) : RolloutOutcome :=
  { operationId := req.operationId, shardId := req.shardId, status, routeEpoch := binding.routeEpoch
    newGeneration := binding.currentGeneration, resumeState, reasonCode }

/-- the route of a recovery, over the binding as it is now -/
def recoveryRoute (req : RolloutRequest) (pool : Pool) (readback : Readback) (binding : ShardBinding) : InferenceRoute :=
  { shardId := req.shardId, key := req.poolKey, bindingGeneration := binding.currentBindingGeneration + 1
    routeEpoch := binding.routeEpoch + 1, digests := pool.row.digests, wireProfile := pool.wireProfile
    runtimeProfile := pool.runtimeProfile, endpoint := readback.endpoint, tlsServerName := readback.tlsServerName
    tlsIdentityRef := readback.tlsIdentityRef, operationId := req.operationId, scope := req.scope
    expectedBindingGeneration := binding.currentBindingGeneration
    proposedBindingGeneration := binding.currentBindingGeneration + 1
    currentBindingGeneration := binding.currentBindingGeneration + 1, edgeWorkloadRef := req.edgeWorkloadRef }

def recoverUnconfirmed (req : RolloutRequest) (newBinding : ShardBinding) (cause : Option String) : Program :=
  ignore (.markResumePending req newBinding) <|
    .done ⟨recoveryOutcome req .resumePending newBinding .resumePending "RECOVERY_RESUME_UNCONFIRMED", cause⟩

/-- the handshake is repeated, and only then the operation is applied -/
def recoverResume (req : RolloutRequest) (pool : Pool) (newBinding : ShardBinding) : Program :=
  attempt (.edge (.resume (handshakeOf req pool newBinding))) (fun e => recoverUnconfirmed req newBinding (some e))
    fun (resumed : RouteReadback) =>
  if resumed.Resumed req pool newBinding then
    attempt (.projectCurrent req newBinding)
      (fun _ => .done (refused "model: recovery resume projection CAS conflict")) fun _ =>
    attempt (.setStatus req.operationId .applied "RECOVERED_APPLIED") (fun e => .done (refused e)) fun _ =>
    .done ⟨some { recoveryOutcome req .applied newBinding .current "RECOVERED_APPLIED" with
      newGeneration := req.targetGeneration }, none⟩
  else recoverUnconfirmed req newBinding none

/-- before the swap only `CommitRoute` is repeated -/
def recoverCommit (req : RolloutRequest) (pool : Pool) (readback : Readback) (observationId : String)
    (binding : ShardBinding) : Program :=
  attempt (.edge (.commit (recoveryRoute req pool readback binding)))
    (fun e => .done ⟨recoveryOutcome req .resumePending binding .unavailable "ROUTE_COMMIT_STILL_UNCONFIRMED", some e⟩)
    fun (committed : RouteReadback) =>
  if ¬ committed.Committed req pool (binding.routeEpoch + 1) then
    .done (refused "model: recovery route commit readback mismatch")
  else
  attempt (.casSwap req binding observationId pool.row.digests.poolObservation)
    (fun e => .done ⟨recoveryOutcome req .resumePending binding .unavailable "CAS_STILL_UNCONFIRMED", some e⟩)
    fun newBinding =>
  recoverResume req pool newBinding

def recoverBinding (req : RolloutRequest) (pool : Pool) (readback : Readback) (observationId : String)
    (binding : ShardBinding) : Program :=
  if binding.modelControlIncarnationId ≠ req.modelControlIncarnationId ∨ binding.scope ≠ req.scope ∨
      binding.logicalPoolId ≠ req.logicalPoolId then
    .done (refused "model: recovery binding fence mismatch")
  else if binding.currentGeneration ≠ req.targetGeneration ∨ binding.currentRevisionId ≠ req.targetRevisionId then
    recoverCommit req pool readback observationId binding
  else recoverResume req pool binding

/-- an operation that is resume_pending -/
def recoverPending (req : RolloutRequest) : Program :=
  if req.edgeWorkloadRef = "" then .done (refused "model: recovery operation lacks frozen Edge workload")
  else
  attempt (.loadRecoveryPool req) (fun e => .done (refused e)) fun pool =>
  attempt (.loadRecoveryObservation req pool) (fun e => .done (refused e)) fun (observationId, readback) =>
  attempt (.loadShardBinding req.shardId) (fun e => .done (refused e)) fun binding =>
  recoverBinding req pool readback observationId binding

def reconcileOperation (operationId : String) : Program :=
  attempt (.loadOperation operationId) (fun e => .done (refused ("model: load recovery operation: " ++ e)))
    fun (op : RolloutOperation) =>
  if op.status = .applied then
    attempt (.loadAppliedBinding op.shardId op.modelControlIncarnationId) (fun e => .done (refused e))
      fun (binding : ShardBinding) =>
    .done ⟨some (recoveryOutcome op.request .applied binding binding.resumeState "ALREADY_APPLIED"), none⟩
  else if op.status ≠ .resumePending then
    .done (refused ("model: operation " ++ operationId ++ " is " ++ op.status.text ++ ", not resume_pending"))
  else recoverPending op.request

/-! ## AdvanceRolloutGroup -/

/-- what the child of a round becomes -/
def childStatus (result : Result) : ChildStatus :=
  match result.outcome with
  | none => .failed
  | some o =>
    match o.status with
    | .applied => .applied
    | .resumePending => .resumePending
    | _ => .failed

def childReason (result : Result) : String := (result.outcome.map (·.reasonCode)).getD "ROLLOUT_ERROR"

def childGeneration (result : Result) : ℤ := (result.outcome.map (·.newGeneration)).getD 0

def childEpoch (result : Result) : ℤ := (result.outcome.map (·.routeEpoch)).getD 0

def GroupStatus.Ended (status : GroupStatus) : Prop := status = .completed ∨ status = .failed ∨ status = .failedMixed
deriving Decidable

/-- the request of a child -/
def childRequest (template : RolloutRequest) (child : GroupShard) : RolloutRequest :=
  { template with operationId := child.operationId, shardId := child.shardId }

/-- one round after the other; a round that does not apply its child is the last -/
def advanceRounds (sv : Services) (groupId : String) (template : RolloutRequest) : ℕ → Program
  | 0 => .done ⟨none, none⟩
  | rounds + 1 =>
    attempt (.loadGroup groupId) (fun e => .done (refused e)) fun (group : RolloutGroup) =>
    attempt (.loadGroupShards groupId) (fun e => .done (refused e)) fun (shards : List GroupShard) =>
    if group.status.Ended then .done ⟨none, none⟩
    else
      match shards[group.nextIndex]? with
      | none => .done (refused "model: rollout group cursor exceeds vector")
      | some child =>
        if child.status ≠ .planned then
          .done (refused ("model: rollout group child " ++ child.shardId ++ " in unexpected state " ++ child.status.text))
        else
        attempt (.startChild groupId group.nextIndex) (fun e => .done (refused e)) fun _ =>
        attempt (.rollGroup groupId) (fun e => .done (refused e)) fun _ =>
        (rollout sv (childRequest template child)).bind fun result =>
        attempt (.finishGroupChild groupId group.nextIndex (childStatus result) (childReason result)
            (childGeneration result) (childEpoch result)) (fun e => .done (refused e)) fun _ =>
        if childStatus result ≠ .applied then .done ⟨none, result.error⟩
        else advanceRounds sv groupId template rounds

/-- a group has at most 256 shards, and a round leaves its child in another state than planned -/
def advanceRolloutGroup (sv : Services) (groupId : String) : Program :=
  attempt (.loadGroup groupId) (fun e => .done (refused e)) fun (group : RolloutGroup) =>
  advanceRounds sv groupId group.template 257

/-! ## What a command does -/

/-- what becomes of a statement: it fails, or it is executed, and then its answer may be lost -/
inductive Fate where
  | answered
  | failed
  | unanswered
deriving DecidableEq, Repr

/-- what a command gets from outside -/
structure Env where
  now : ℤ
  fate : Fate
  staged : GoResult Unit
  replicas : GoResult Readback
  capacity : GoResult CapacityResult
  edge : GoResult RouteReadback

/-- a swap that was committed, with the binding before and after it -/
structure Swap where
  operationId : String
  kind : OperationKind
  before : ShardBinding
  after : ShardBinding
deriving DecidableEq, Repr

structure Store where
  db : Db
  swaps : List Swap
  answers : List (EdgeCall × RouteReadback)
deriving DecidableEq, Repr

/-- a transaction, and what is noted of it -/
def transact {α : Type} (fate : Fate) (tx : Db → GoResult (Db × α)) (note : Db → α → Store → Store) (s : Store) :
    GoResult α × Store :=
  match fate, tx s.db with
  | .failed, _ => (.error "connection lost", s)
  | _, .error e => (.error e, s)
  | .answered, .ok (db, a) => (.ok a, note s.db a { s with db })
  | .unanswered, .ok (db, a) => (.error "connection lost", note s.db a { s with db })

/-- a transaction without an answer -/
def execute (fate : Fate) (tx : Db → GoResult Db) (s : Store) : GoResult Unit × Store :=
  transact fate (fun db => do return (← tx db, ())) (fun _ _ s => s) s

/-- a query -/
def query {α : Type} (fate : Fate) (q : Db → GoResult α) (s : Store) : GoResult α × Store :=
  transact fate (fun db => do return (db, ← q db)) (fun _ _ s => s) s

/-- the swap is noted with the binding that was in the table -/
def noteSwap (req : RolloutRequest) (db : Db) (after : ShardBinding) (s : Store) : Store :=
  match db.binding? req.shardId with
  | none => s
  | some before => { s with swaps := s.swaps ++ [⟨req.operationId, req.kind, before, after⟩] }

def noteAnswer (call : EdgeCall) (reply : GoResult RouteReadback) (s : Store) : Store :=
  match reply with
  | .ok r => { s with answers := s.answers ++ [(call, r)] }
  | .error _ => s

/-- the first query of `loadRecoveryPool` -/
def loadRecoveryPool (req : RolloutRequest) (db : Db) : GoResult Pool := do
  let row ← queryRow ((db.poolGeneration? req.poolKey).filter fun pg => pg.modelRevisionId = req.targetRevisionId)
  let pool ← queryRow (db.pool? req.logicalPoolId)
  reject (row.capacityQualified = false ∨ ¬ row.status.Available) "model: recovery pool is not qualified/available"
  return { row, operationId := req.operationId, scope := req.scope, bindingGeneration := 0
           wireProfile := "inference-central-grpc-batch/v1", runtimeProfile := pool.runtimeProfile
           availabilityProfile := pool.availabilityProfile }

/-- the second query of `loadRecoveryPool` -/
def loadRecoveryObservation (sv : Services) (req : RolloutRequest) (pool : Pool) (db : Db) : GoResult (String × Readback) := do
  let c ← queryRow ((db.observation? req.poolKey).filter fun c =>
    c.poolObservationDigest = pool.row.digests.poolObservation ∧ c.scope = req.scope)
  let e ← queryRow (db.observationEvent? c.observationId)
  validatePoolReadback sv e.readback pool.row.minReadyReplicas
  return (c.observationId, e.readback)

def Cmd.act (sv : Services) (e : Env) : (c : Cmd) → Store → GoResult c.Val × Store
  | .freezeWorkload req => query e.fate (Model.freezeWorkload e.now req)
  | .loadRevision req => query e.fate (Model.loadRevision req)
  | .loadBinding req rev => query e.fate (Model.loadBinding req rev)
  | .checkPoolProfiles req rev => query e.fate (Model.checkPoolProfiles req rev)
  | .appendOperation op => Model.execute e.fate (Model.appendOperation op)
  | .setStatus operationId status reasonCode => Model.execute e.fate (setOperationStatus operationId status reasonCode)
  | .upsertPool req rev g => transact e.fate (upsertPoolGeneration sv req rev g) fun _ _ s => s
  | .loadReusable pool => query e.fate fun db => .ok (loadReusablePoolObservation pool db)
  | .recordObservation req pool readback capacity =>
    transact e.fate (recordPoolObservation sv e.now req pool readback capacity) fun _ _ s => s
  | .casSwap req old observationId digest => transact e.fate (casSwapBinding sv req old observationId digest) (noteSwap req)
  | .markUnavailable req binding => Model.execute e.fate (Model.markUnavailable req binding)
  | .markResumePending req binding => Model.execute e.fate (Model.markResumePending req binding)
  | .projectCurrent req binding => Model.execute e.fate (Model.projectCurrent req binding)
  | .loadOperation operationId => query e.fate fun db => queryRow (db.operation? operationId)
  | .loadAppliedBinding shardId incarnationId => query e.fate fun db =>
      queryRow ((db.binding? shardId).filter fun b => b.modelControlIncarnationId = incarnationId)
  | .loadRecoveryPool req => query e.fate (Model.loadRecoveryPool req)
  | .loadRecoveryObservation req pool => query e.fate (Model.loadRecoveryObservation sv req pool)
  | .loadShardBinding shardId => query e.fate fun db => queryRow (db.binding? shardId)
  | .stagePool _ => fun s => (e.staged, s)
  | .startReplicas _ => fun s => (e.replicas, s)
  | .warmupAndCapacity _ => fun s => (e.capacity, s)
  | .edge call => fun s => (e.edge, noteAnswer call e.edge s)
  | .loadGroup groupId => query e.fate fun db => queryRow (db.group? groupId)
  | .loadGroupShards groupId => query e.fate fun db => .ok (db.shardsOf groupId)
  | .startChild groupId index => Model.execute e.fate fun db => .ok (Model.startChild groupId index db)
  | .rollGroup groupId => Model.execute e.fate fun db => .ok (Model.rollGroup groupId db)
  | .finishGroupChild groupId index status reasonCode generation routeEpoch =>
    Model.execute e.fate (Model.finishGroupChild groupId index status reasonCode generation routeEpoch)

/-! ## The system -/

inductive Job where
  | rollout (req : RolloutRequest)
  | reconcile (operationId : String)
  | advance (groupId : String)
deriving DecidableEq, Repr

def Job.body (sv : Services) : Job → Program
  | .rollout req => Model.rollout sv req
  | .reconcile operationId => reconcileOperation operationId
  | .advance groupId => advanceRolloutGroup sv groupId

/-- what the other services of the control core do to these tables -/
inductive Admin where
  | register (rev : ModelRevision)
  | revoke (modelRevisionId : String)
  | rotate (replaced incarnationId : String)
  | enableWriter (incarnationId : String)
  | assign (rows : List Target.AssignmentRow)
  | createGroup (req : RolloutGroupRequest)

/-- `RegisterRevision`: an existing identity or digest is never overwritten -/
def registerRevision (rev : ModelRevision) (db : Db) : Db :=
  if ∃ r ∈ db.revisions, r.modelRevisionId = rev.modelRevisionId ∨ r.modelRevisionDigest = rev.modelRevisionDigest then db
  else { db with revisions := db.revisions ++ [rev] }

def ModelRevision.revoke (rev : ModelRevision) : ModelRevision := { rev with qualificationStatus := .revoked }

/-- `Revoke` -/
def revokeRevision (modelRevisionId : String) (db : Db) : Db :=
  { db with revisions := Table.modify ModelRevision.modelRevisionId db.revisions modelRevisionId ModelRevision.revoke }

/-- `RotateIncarnation`: the writer is closed until the shards are validated again -/
def rotateIncarnation (replaced incarnationId : String) (db : Db) : Db :=
  if replaced ≠ "" ∧ db.control.activeIncarnationId ≠ some replaced then db
  else { db with control := ⟨some incarnationId, false⟩ }

/-- `EnableWriter` -/
def enableWriter (incarnationId : String) (db : Db) : Db :=
  if db.control.activeIncarnationId = some incarnationId ∧ (∀ b ∈ db.bindings,
      b.modelControlIncarnationId = incarnationId ∧ b.resumeState = .current) then
    { db with control := { db.control with writerEnabled := true } }
  else db

def Admin.exec (sv : Services) : Admin → Db → Db
  | .register rev, db => registerRevision rev db
  | .revoke modelRevisionId, db => revokeRevision modelRevisionId db
  | .rotate replaced incarnationId, db => rotateIncarnation replaced incarnationId db
  | .enableWriter incarnationId, db => Model.enableWriter incarnationId db
  | .assign rows, db => { db with assignments := rows }
  | .createGroup req, db =>
    match createRolloutGroup sv req db with
    | .ok db' => db'
    | .error _ => db

def manager (sv : Services) : System commands Store Env Job Admin Result where
  act := Cmd.act sv
  body := Job.body sv
  outside x s := { s with db := x.exec sv s.db }

abbrev ModelWorld := World commands Store Job Result

abbrev Event := Op Env Job Admin

/-- a run from tables that are already there -/
def runFrom (sv : Services) (db : Db) (ops : List Event) : ModelWorld := Process.run (manager sv) ⟨db, [], []⟩ ops

end MasiEdge.Model
