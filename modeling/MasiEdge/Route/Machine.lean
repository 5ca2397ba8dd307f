/-
The route of a target: `InferenceRouter`, the route commands of the actor, and the recovery of the route journal.

A command runs the router first and journals afterwards, except `resume`, which journals first. The journal keeps the
last record only: each append is followed by a checkpoint over everything before it. What a command gets from outside
(the pool's readback, whether the WALs are drained, the clock, the fate of the append and of the checkpoint) is an argument.
-/
import MasiEdge.Base.Log
import MasiEdge.Base.Run
import MasiEdge.Route.Contract

namespace MasiEdge.Route

/-! ## InferenceRouter -/

inductive RouteState where
  | withdrawn
  | draining
  | ready
  | active
  | hold
deriving DecidableEq, Repr

/-- what routing reads of the configuration and the assignment -/
structure RouteConfig where
  targetId : String
  featureProfileDigest : String
  /-- the credential of the P4 session, when it uses TLS, and that of the control sink -/
  p4IdentityRef : Option String
  controlIdentityRef : String
  /-- the local credential registry: identity and server name -/
  identities : List (String × String)
  inferenceMessageBytes : ℕ
  /-- encoded size of the binding readback request for a route -/
  bindingRequestBytes : InferenceRoute → ℕ

structure Router where
  route : Option InferenceRoute
  binding : Option BindingReadback
  /-- a connected client -/
  client : Bool
  state : RouteState
  inFlight : ℕ
deriving DecidableEq, Repr

def Router.new : Router := ⟨none, none, false, .withdrawn, 0⟩

def Router.prepare (router : Router) (currentIncarnation : String) (currentRouteEpoch proposedRouteEpoch : ℕ) :
    EdgeResult Router := do
  refuse (proposedRouteEpoch ≤ currentRouteEpoch)
    (.precondition "ROUTE_FENCE_MISMATCH" "proposed route epoch must strictly increase")
  match router.route with
  | some route =>
    refuse (route.modelControlIncarnationId ≠ currentIncarnation ∨ route.routeEpoch ≠ currentRouteEpoch)
      (.precondition "ROUTE_FENCE_MISMATCH" "prepare does not match current route incarnation/epoch")
  | none =>
    refuse (currentRouteEpoch ≠ 0) (.precondition "ROUTE_FENCE_MISMATCH" "non-zero current epoch without a route")
  return { router with state := .draining }

/-- a wire credential must be registered under the same server name -/
def contractTls (cfg : RouteConfig) (value : TlsClientIdentity) : EdgeResult Unit := do
  validateIdentity value.identityRef "tls.identity_ref"
  match cfg.identities.lookup value.identityRef with
  | none =>
    .error (.precondition "TLS_IDENTITY_UNKNOWN" "credential identity_ref is absent from the local registry")
  | some serverName =>
    refuse (serverName ≠ value.serverName)
      (.tlsIdentityMismatch "wire server_name differs from the registered credential SAN")

/-- connect to the pool and check its readback; `readback` is what connection and call return -/
def readBinding (cfg : RouteConfig) (route : InferenceRoute) (readback : EdgeResult BindingReadback) :
    EdgeResult BindingReadback := do
  match route.tls with
  | none => .error (.invalidArgument "route.tls" "mTLS is required")
  | some tls => do
    contractTls cfg tls
    refuse (cfg.inferenceMessageBytes < cfg.bindingRequestBytes route)
      (.resourceExhausted "INFERENCE_MESSAGE_TOO_LARGE" "encoded binding readback request exceeds configured bound")
    let binding ← readback
    validateBinding route binding
    return binding

/-- the route epoch must advance over a previous route -/
def checkAdvance (previous : Option InferenceRoute) (route : InferenceRoute) : EdgeResult Unit :=
  match previous with
  | none => .ok ()
  | some previous =>
    refuse (route.routeEpoch ≤ previous.routeEpoch) (.precondition "ROUTE_FENCE_MISMATCH" "route epoch did not advance")

def Router.commit (cfg : RouteConfig) (router : Router) (route : InferenceRoute) (readback : EdgeResult BindingReadback) :
    EdgeResult Router :=
  if router.state = .ready ∧ router.route = some route ∧ router.binding.isSome ∧ router.client = true then .ok router
  else do
    refuse (router.state ≠ .draining)
      (.precondition "ROUTE_DRAIN_REQUIRED" "route must be prepared and drained before commit")
    validateRoute route
    checkAdvance router.route route
    let binding ← readBinding cfg route readback
    return { router with route := some route, binding := some binding, client := true, state := .ready }

/-- the committed-binding request against the current route -/
def Router.checkRequest (router : Router) (request : ResumeRouteRequest) : EdgeResult Unit :=
  match router.route with
  | none => .error (.precondition "ROUTE_NOT_READY" "route missing")
  | some route => validateCommittedBindingRequest route request

def Router.validateResume (router : Router) (request : ResumeRouteRequest) : EdgeResult Unit := do
  refuse (router.state ≠ .ready)
    (.precondition "ROUTE_NOT_READY" "route cannot resume before exact binding readback")
  router.checkRequest request

def Router.resume (router : Router) (request : ResumeRouteRequest) : EdgeResult Router :=
  if router.state = .active then do
    router.checkRequest request
    return router
  else do
    router.validateResume request
    return { router with state := .active }

def Router.resetForRecovery (router : Router) : EdgeResult Router := do
  refuse (router.inFlight ≠ 0)
    (.precondition "ROUTE_DRAINING" "cannot reset route transport with an in-flight request")
  return { router with route := none, binding := none, client := false, state := .withdrawn }

/-! ## The actor's route state -/

structure RouteActor where
  router : Router
  committedResume : Option ResumeRouteRequest
  journal : Log RouteWalRecord
  routeRecovery : Option RouteWalRecord
deriving DecidableEq

def RouteActor.initial : RouteActor := ⟨Router.new, none, Log.empty, none⟩

abbrev Outcome := EdgeResult Unit × RouteActor

/-- the clock, and the fate of the journal append and of the checkpoint behind it -/
structure JournalReplies where
  now : ℕ
  append : EdgeResult Unit
  checkpoint : EdgeResult Unit

/-- `append_route_stage`: append, then checkpoint everything before -/
def appendRouteStage (a : RouteActor) (stage : RouteWalStage) (route : Option InferenceRoute) (proposedRouteEpoch : ℕ)
    (reasonCode traceId : String) (handshake : Option ResumeRouteRequest) (env : JournalReplies) : Outcome :=
  if proposedRouteEpoch = 0 then
    (.error (.invalidArgument "proposed_route_epoch" "route journal epoch must be positive"), a)
  else
    let record : RouteWalRecord :=
      { stage, route, proposedRouteEpoch, recordedAtUnixMs := env.now, reasonCode, traceId
        committedBindingHandshake := handshake }
    match env.append with
    | .error e => (.error e, a)
    | .ok () =>
      let previous := a.journal.lastSequence
      let appended := { a with journal := a.journal.append record }
      if a.journal.checkpoint < previous then
        match env.checkpoint, appended.journal.moveTo previous with
        | .ok (), some journal => (.ok (), { a with journal })
        | .ok (), none => (.error (.precondition "CHECKPOINT_OUT_OF_RANGE" "checkpoint outside the journal"), appended)
        | .error e, _ => (.error e, appended)
      else (.ok (), appended)

/-! ## Commands -/

/-- the guards every route command starts with -/
def checkShard (cfg : RouteConfig) (a : RouteActor) (shardId before : String) : EdgeResult Unit := do
  refuse (shardId ≠ cfg.targetId)
    (.precondition "ROUTE_FENCE_MISMATCH" "route shard must equal target-scoped actor")
  refuse (a.routeRecovery.isSome)
    (.precondition "ROUTE_RECOVERY_PENDING" s!"durable route recovery must converge before {before}")

def prepareRoute (cfg : RouteConfig) (a : RouteActor) (request : PrepareRouteRequest) (env : JournalReplies) : Outcome :=
  let prepared : EdgeResult Router := do
    refuse (request.schemaVersion ≠ "inference-route-prepare/v1") (.unknownMajor request.schemaVersion)
    checkShard cfg a request.shardId "a new route operation"
    a.router.prepare request.currentModelControlIncarnationId request.currentRouteEpoch request.proposedRouteEpoch
  match prepared with
  | .error e => (.error e, a)
  | .ok router =>
    appendRouteStage { a with router } .prepared a.router.route request.proposedRouteEpoch "ROUTE_PREPARED" request.traceId
      a.committedResume env

structure CommitReplies where
  resultsPending : Bool
  /-- whether the input WAL holds records bound to the old route -/
  inputsBound : EdgeResult Bool
  readback : EdgeResult BindingReadback
  journal : JournalReplies

def checkDrained (a : RouteActor) (env : CommitReplies) : EdgeResult Unit := do
  let drained : EdgeResult Bool :=
    if a.router.inFlight ≠ 0 ∨ env.resultsPending = true then .ok false else env.inputsBound.map not
  refuse ((← drained) = false)
    (.precondition "ROUTE_DRAINING" "in-flight RPC, route-bound input WAL, or result WAL is not drained")

/-- P4, inference and control must use distinct credentials -/
def checkIdentityReuse (cfg : RouteConfig) (route : InferenceRoute) : EdgeResult Unit :=
  match cfg.p4IdentityRef, route.tls with
  | some p4, some tls =>
    refuse (p4 = tls.identityRef ∨ tls.identityRef = cfg.controlIdentityRef)
      (.precondition "TLS_IDENTITY_REUSE" "P4, inference, and control identities must be distinct")
  | _, _ => .ok ()

def commitRoute (cfg : RouteConfig) (a : RouteActor) (request : CommitRouteRequest) (env : CommitReplies) : Outcome :=
  match request.route with
  | none => (.error (.invalidArgument "route" "route is required"), a)
  | some route =>
    let committed : EdgeResult Router := do
      checkShard cfg a route.shardId "route commit"
      checkDrained a env
      checkIdentityReuse cfg route
      refuse (route.featureContractDigest ≠ cfg.featureProfileDigest)
        (.precondition "FEATURE_CONTRACT_MISMATCH" "route feature digest differs from the Edge frozen feature profile")
      a.router.commit cfg route env.readback
    match committed with
    | .error e => (.error e, a)
    | .ok router =>
      match appendRouteStage { a with router } .bindingReady (some route) route.routeEpoch "BINDING_READBACK_EXACT"
          request.traceId none env.journal with
      | (.error e, a) => (.error e, a)
      | (.ok (), a) => (.ok (), { a with committedResume := none })

/-- an active route answers a repeated request, whatever its trace -/
def repeatResume (a : RouteActor) (request : ResumeRouteRequest) : EdgeResult Unit :=
  match a.committedResume with
  | none =>
    .error (.precondition "ROUTE_RECOVERY_MISSING" "active route lacks its durable committed-binding handshake")
  | some committed => do
    refuse (¬ sameCommittedBindingRequest committed request)
      (.precondition "ROUTE_FENCE_MISMATCH" "duplicate committed-binding operation changed its durable request tuple")
    let _ ← a.router.resume request

/-- a first resume: journaled before the router turns active -/
def firstResume (a : RouteActor) (request : ResumeRouteRequest) (env : JournalReplies) : Outcome :=
  let ready : EdgeResult InferenceRoute := do
    a.router.validateResume request
    refuse (request.deadlineUnixMs ≤ env.now)
      (.deadline "committed binding handshake expired before durable admission")
    match a.router.route with
    | none => .error (.precondition "ROUTE_NOT_READY" "route missing before resume")
    | some route => return route
  match ready with
  | .error e => (.error e, a)
  | .ok route =>
    match appendRouteStage a .canonicalActive (some route) request.routeEpoch "GO_CANONICAL_BINDING_COMMITTED"
        request.traceId (some request) env with
    | (.error e, a) => (.error e, a)
    | (.ok (), a) =>
      match a.router.resume request with
      | .error e => (.error e, a)
      | .ok router => (.ok (), { a with router, committedResume := some request })

def resumeRoute (cfg : RouteConfig) (a : RouteActor) (request : ResumeRouteRequest) (env : JournalReplies) : Outcome :=
  let checked : EdgeResult Unit := do
    refuse (request.schemaVersion ≠ "inference-committed-binding/v1") (.unknownMajor request.schemaVersion)
    checkShard cfg a request.shardId "route resume"
  match checked with
  | .error e => (.error e, a)
  | .ok () => if a.router.state = .active then (repeatResume a request, a) else firstResume a request env

inductive Command where
  | prepare (request : PrepareRouteRequest) (env : JournalReplies)
  | commit (request : CommitRouteRequest) (env : CommitReplies)
  | resume (request : ResumeRouteRequest) (env : JournalReplies)

def execute (cfg : RouteConfig) (a : RouteActor) : Command → Outcome
  | .prepare request env => prepareRoute cfg a request env
  | .commit request env => commitRoute cfg a request env
  | .resume request env => resumeRoute cfg a request env

/-- a command that must succeed -/
def succeed (cfg : RouteConfig) (a : RouteActor) (command : Command) : EdgeResult RouteActor :=
  match execute cfg a command with
  | (.ok (), a) => .ok a
  | (.error e, _) => .error e

/-- a run of successful commands from a fresh target -/
def run (cfg : RouteConfig) (commands : List Command) : EdgeResult RouteActor :=
  Run.runM (succeed cfg) RouteActor.initial commands

/-! ## Recovery -/

/-- `recover_route_journal`: the last record decides -/
def recoverRouteJournal (items : List (ℕ × RouteWalRecord)) : EdgeResult (Option RouteWalRecord) :=
  match items.getLast? with
  | none => .ok none
  | some item => do
    validateRouteWalRecord item.2
    return some item.2

/-- prepare, commit and, with a handshake, resume from a reset router -/
def restoreRouteBinding (cfg : RouteConfig) (pool : InferenceRoute → EdgeResult BindingReadback) (router : Router)
    (route : InferenceRoute) (handshake : Option ResumeRouteRequest) : EdgeResult (Router × Option ResumeRouteRequest) := do
  let router ← router.prepare "" 0 route.routeEpoch
  let router ← router.commit cfg route (pool route)
  match handshake with
  | none => return (router, none)
  | some handshake => return (← router.resume handshake, some handshake)

/-- replay one journaled stage on a reset router; `pool` answers the binding readbacks -/
def replayStage (cfg : RouteConfig) (pool : InferenceRoute → EdgeResult BindingReadback) (router : Router)
    (record : RouteWalRecord) : EdgeResult (Router × Option ResumeRouteRequest) :=
  match record.stage, record.route, record.committedBindingHandshake with
  | .prepared, some previous, handshake => do
    let (router, committed) ← restoreRouteBinding cfg pool router previous handshake
    return (← router.prepare previous.modelControlIncarnationId previous.routeEpoch record.proposedRouteEpoch, committed)
  | .prepared, none, _ => do return (← router.prepare "" 0 record.proposedRouteEpoch, none)
  | .bindingReady, some route, _ => restoreRouteBinding cfg pool router route none
  | .bindingReady, none, _ => .error (.walCorrupt "binding-ready route journal lacks route")
  | .canonicalActive, none, _ => .error (.walCorrupt "canonical-active route journal lacks route")
  | .canonicalActive, some _, none =>
    .error (.walCorrupt "canonical-active route journal lacks committed-binding handshake")
  | .canonicalActive, some route, some handshake => restoreRouteBinding cfg pool router route (some handshake)
  | .unspecified, _, _ => .error (.walCorrupt "unspecified route WAL stage")

/-- `finish_route_recovery` -/
def finishRouteRecovery (cfg : RouteConfig) (pool : InferenceRoute → EdgeResult BindingReadback) (a : RouteActor)
    (record : RouteWalRecord) : EdgeResult RouteActor := do
  let router ← a.router.resetForRecovery
  let (router, committedResume) ← replayStage cfg pool router record
  return { a with router, committedResume, routeRecovery := none }

end MasiEdge.Route
