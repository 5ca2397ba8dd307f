/-
The target actor around its lease: commands, maintenance ticks, stream events and the clock.

The actor owns the source side (`Source.SourceState`) and the effect side (`Effect.EffectState`) and decides when each may
run. Its own state is the lease deadline, the `ActorState`, the P4 session and two timers. `maintain` is the source's
sequence of stages, one definition each. Instants are milliseconds of one monotonic clock; a stage that reads the clock
again later in the same tick reads it `delay` milliseconds after the tick began; the reconnect timer counts from its beginning.

Routing, result delivery, windows and rule observations change none of this state but `reason_code`; what they leave there is
an argument of the tick.
-/
import MasiEdge.Effect.Journal
import MasiEdge.Source.Live

namespace MasiEdge.Actor

open Codec
open Source (Fence SourceConfig SourceState SourceRecovery SupplementalHint PollReplies FinishReplies)
open Effect (Firewall EffectState EffectIntent Io)

/-! ## State -/

inductive ActorState where
  | connecting
  | readOnly
  | primary
  | draining
  | revoked
  | hold
deriving DecidableEq, Repr

/-- the flags of a P4Runtime session; the stream task changes `primary` on its own -/
structure Session where
  primary : Bool
  pipelineExact : Bool
deriving DecidableEq, Repr

/-- what does not change while the actor lives -/
structure Context where
  hash : Bytes → String
  source : SourceConfig
  firewall : Firewall
  leaseId : String
  telemetryPollIntervalMs : ℕ

structure TargetActor where
  clock : ℕ
  leaseDeadline : ℕ
  state : ActorState
  reasonCode : String
  session : Option Session
  reconnectAfter : ℕ
  telemetryDue : ℕ
  source : SourceState
  /-- with the retention hold, the assignment, and whether the process runs -/
  effect : EffectState

/-- `lease_valid`, read `delay` after the step began -/
def TargetActor.leaseValid (a : TargetActor) (delay : ℕ) : Prop := a.clock + delay < a.leaseDeadline ∧ a.state ≠ .revoked
deriving Decidable

/-- the part of `require_write_ready` after the retention hold and the recovered effect -/
def linkReady (a : TargetActor) : EdgeResult Unit := do
  refuse (¬ a.leaseValid 0) (.precondition "LEASE_EXPIRED" "target lease expired")
  match a.session with
  | none => .error (.precondition "NOT_PRIMARY" "P4 session missing")
  | some session => do
    refuse (a.state ≠ .primary ∨ session.primary = false)
      (.precondition "NOT_PRIMARY" "target actor is not current primary")
    refuse (session.pipelineExact = false) (.precondition "PIPELINE_DRIFT" "pipeline identity is not exact")

/-- `verify_target_fence` for a request that names the lease -/
def verifyTargetFence (ctx : Context) (a : TargetActor) (targetId : String) (fence : Option Fence) (leaseId : String) :
    EdgeResult Unit := do
  refuse (targetId ≠ a.effect.assignment.targetId)
    (.precondition "TARGET_FENCE_MISMATCH" "request target differs from actor target")
  refuse (fence ≠ a.effect.assignment.fence)
    (.precondition "ASSIGNMENT_STALE" "request fence differs from actor assignment")
  refuse (leaseId ≠ ctx.leaseId) (.precondition "LEASE_ID_MISMATCH" "lease identity differs from assignment")

/-- forget the preflight tokens that `keep` rejects -/
def TargetActor.dropPreflights (ctx : Context) (a : TargetActor) (keep : String → Bool) : TargetActor :=
  { a with effect := Effect.step ctx.firewall a.effect (.dropPreflights keep) }

/-! ## Lease commands -/

structure RenewTargetRequest where
  schemaVersion : String
  targetId : String
  fence : Option Fence
  leaseId : String
  expiresAtUnixMs : ℤ
deriving DecidableEq, Repr

/-- the checks of `renew`; the result is the remaining lease -/
def checkRenew (ctx : Context) (a : TargetActor) (request : RenewTargetRequest) (now : ℤ) : EdgeResult ℕ := do
  refuse (request.schemaVersion ≠ "target-lease-renew/v1") (.unknownMajor request.schemaVersion)
  refuse (a.effect.hold = true)
    (.precondition "WAL_RETENTION_EXPIRED" "target remains held until stale WAL is explicitly recovered")
  verifyTargetFence ctx a request.targetId request.fence request.leaseId
  refuse (request.expiresAtUnixMs ≤ now) (.precondition "LEASE_EXPIRED" "renewal expiry is not in the future")
  let remaining := (request.expiresAtUnixMs - now).toNat
  refuse (300000 < remaining) (.invalidArgument "expires_at_unix_ms" "renewal exceeds 300 second lease bound")
  return remaining

/-- a renewal makes a primary session's actor primary again; it does not look at the state it leaves -/
def renew (ctx : Context) (a : TargetActor) (request : RenewTargetRequest) (now : ℤ) : TargetActor :=
  match checkRenew ctx a request now with
  | .error _ => a
  | .ok remaining =>
    let a := { a with leaseDeadline := a.clock + remaining }
    if a.session.any Session.primary then { a with state := .primary, reasonCode := "PRIMARY" } else a

structure RevokeTargetRequest where
  schemaVersion : String
  targetId : String
  fence : Option Fence
  leaseId : String
  reasonCode : String
deriving DecidableEq, Repr

def checkRevoke (ctx : Context) (a : TargetActor) (request : RevokeTargetRequest) : EdgeResult Unit := do
  refuse (request.schemaVersion ≠ "target-revoke/v1") (.unknownMajor request.schemaVersion)
  verifyTargetFence ctx a request.targetId request.fence request.leaseId

/-- the session is closed, not kept read-only -/
def revoke (ctx : Context) (a : TargetActor) (request : RevokeTargetRequest) : TargetActor :=
  match checkRevoke ctx a request with
  | .error _ => a
  | .ok () =>
    { a with leaseDeadline := a.clock, state := .revoked, reasonCode := request.reasonCode, session := none }.dropPreflights
      ctx fun _ => false

/-! ## Effect commands -/

/-- `preflight`; past its guards it re-verifies the pipeline, and `verified` is what the comparison found, if it was made -/
def preflight (ctx : Context) (a : TargetActor) (intent : EffectIntent) (env : Effect.PreflightReplies)
    (verified : Option Bool) : TargetActor :=
  let env := { env with link := linkReady a }
  let reached := Effect.requireWriteReady a.effect env.link = .ok () ∧
    Effect.verifyIntentFence ctx.firewall a.effect intent env.now = .ok () ∧ a.effect.pending = none
  { a with
    effect := Effect.step ctx.firewall a.effect (.preflight intent env)
    session := if reached then
        a.session.map fun session => { session with pipelineExact := verified.getD session.pipelineExact }
      else a.session }

def execute (ctx : Context) (a : TargetActor) (intent : EffectIntent) (token : String) (env : Effect.ExecuteReplies) :
    TargetActor :=
  { a with effect := Effect.step ctx.firewall a.effect (.execute intent token { env with link := linkReady a }) }

/-! ## Stream events -/

inductive StreamEvent where
  | arbitration (granted : Bool)
  /-- a digest with the fate of its append, of its target acknowledgement and of the acknowledgement's append -/
  | digest (hint : SupplementalHint) (now : ℤ) (io ack : EdgeResult Unit) (ackAt : ℤ) (ackIo : EdgeResult Unit)
  | packet (payloadLength : ℕ) (hint : SupplementalHint) (now : ℤ) (io : EdgeResult Unit)
  | error
  | hintDropped (kind : String) (now : ℤ) (io : EdgeResult Unit)
  | closed

/-- lose the session -/
def TargetActor.disconnect (a : TargetActor) (state : ActorState) (reason : String) : TargetActor :=
  { a with session := none, state, reasonCode := reason, reconnectAfter := a.clock + 1000 }

/-- keep what a source step left, and its reason when it failed -/
def TargetActor.afterSource (a : TargetActor) (x : Source.Outcome) : TargetActor :=
  match x with
  | (.ok (), source) => { a with source }
  | (.error e, source) => { a with source, reasonCode := e.reasonCode }

/-- one event; the flag says that the drain loop goes on -/
def handleEvent (ctx : Context) (a : TargetActor) : StreamEvent → TargetActor × Bool
  | .arbitration true => (a, true)
  | .arbitration false => (a.disconnect .readOnly "NOT_PRIMARY", false)
  | .digest hint now io ack ackAt ackIo =>
    let x := (Source.persistDigestHint ctx.source a.source hint now io).andThen fun s =>
      Source.flushDigestAcks s ack ackAt ackIo
    (a.afterSource x, x.1.isOk)
  | .packet payloadLength hint now io =>
    let x := Source.persistPacketHint a.source payloadLength hint now io
    (a.afterSource x, x.1.isOk)
  | .error => (a.disconnect .hold "P4_STREAM_ERROR", false)
  | .hintDropped kind now io =>
    let x := Source.persistHintGap ctx.source a.source kind now io
    (if x.1.isOk then { a.afterSource x with reasonCode := "SUPPLEMENTAL_HINT_DROPPED" } else a.afterSource x, x.1.isOk)
  | .closed => (a.disconnect .hold "P4_STREAM_CLOSED", false)

/-- `drain_stream_events` over at most `n` queued events, while there is a session -/
def drainStreamEvents (ctx : Context) : ℕ → TargetActor → List StreamEvent → TargetActor
  | 0, a, _ => a
  | _, a, [] => a
  | n + 1, a, event :: rest =>
    if a.session.isNone then a
    else
      match handleEvent ctx a event with
      | (a, true) => drainStreamEvents ctx n a rest
      | (a, false) => a

/-! ## maintain -/

structure MaintainReplies where
  retention : EdgeResult Unit
  events : List StreamEvent
  connectDelay : ℕ
  connect : EdgeResult Session
  reconcile : Effect.ReconcileReplies
  finish : FinishReplies
  /-- how the finalized snapshot is admitted into the windows -/
  admitted : EdgeResult Unit
  ack : EdgeResult Unit
  ackAt : ℤ
  ackIo : EdgeResult Unit
  /-- the preflight tokens that have not expired -/
  keep : String → Bool
  /-- the reason left by route recovery, delivery and windows -/
  background : Option String
  pollDelay : ℕ
  atWatermark : Bool
  poll : PollReplies
  pollFinish : FinishReplies
  pollAdmitted : EdgeResult Unit
  /-- the reason left by the rule observations -/
  observation : Option String

/-- a WAL record past its retention age holds the target for good -/
def holdExpiredRetention (ctx : Context) (a : TargetActor) (retention : EdgeResult Unit) : TargetActor :=
  match a.effect.hold, retention with
  | false, .error e =>
    { a with
      effect := Effect.step ctx.firewall a.effect .retentionExpired
      state := .hold, reasonCode := e.reasonCode, session := none }
  | _, _ => a

/-- an expired lease makes the actor read-only; the session stays open -/
def expireLease (ctx : Context) (a : TargetActor) : TargetActor :=
  if a.leaseDeadline ≤ a.clock ∧ a.state ≠ .revoked then
    { a with state := .readOnly, reasonCode := "LEASE_EXPIRED" }.dropPreflights ctx fun _ => false
  else a

def reconnect (a : TargetActor) (delay : ℕ) (connect : EdgeResult Session) : TargetActor :=
  if a.session.isNone ∧ a.reconnectAfter ≤ a.clock ∧ a.leaseValid delay then
    match connect with
    | .ok session =>
      { a with session := some session, state := .primary, reasonCode := "PRIMARY", reconnectAfter := a.clock + 1000 }
    | .error e =>
      { a with state := .hold, reasonCode := s!"{e.reasonCode}:reconnect", reconnectAfter := a.clock + 1000 }
  else a

/-- exact readback of a recovered effect: reads only -/
def reconcileEffect (ctx : Context) (a : TargetActor) (env : Effect.ReconcileReplies) : TargetActor :=
  if a.session.isSome ∧ a.effect.recovered.isSome then
    let next := { a with effect := Effect.step ctx.firewall a.effect (.reconcile env) }
    match (Effect.reconcileRecoveredEffect ctx.firewall a.effect env).1 with
    | .ok () => next
    | .error e => { next with state := .hold, reasonCode := s!"{e.reasonCode}:effect-recovery" }
  else a

/-- `finish_source_recovery` with the admission of its snapshot -/
def finishSourceRecovery (ctx : Context) (s : SourceState) (env : FinishReplies) (admitted : EdgeResult Unit) : Source.Outcome :=
  (Source.finishStages ctx.hash ctx.source s env 4).andThen fun s => (admitted, s)

/-- complete a pending source operation. Session and operation are all that is asked for: no lease, no state. -/
def completeSource (ctx : Context) (a : TargetActor) (env : FinishReplies) (admitted : EdgeResult Unit) : TargetActor :=
  if a.session.isSome ∧ a.source.recovery.isSome then
    match finishSourceRecovery ctx a.source env admitted with
    | (.ok (), source) =>
      if a.state = .hold ∧ a.reasonCode.endsWith ":source-recovery" then
        { a with source, state := .primary, reasonCode := "PRIMARY" }
      else { a with source }
    | (.error e, source) => { a with source, state := .hold, reasonCode := s!"{e.reasonCode}:source-recovery" }
  else a

/-- token sweep, digest acknowledgements, and the work that only leaves a reason -/
def housekeep (ctx : Context) (a : TargetActor) (env : MaintainReplies) : TargetActor :=
  let ack : EdgeResult Unit :=
    if a.session.isNone then .error (.actorUnavailable "P4 session missing") else env.ack
  let a := (a.dropPreflights ctx env.keep).afterSource (Source.flushDigestAcks a.source ack env.ackAt env.ackIo)
  { a with reasonCode := env.background.getD a.reasonCode }

/-- the guard of `poll_telemetry` -/
def mayPoll (a : TargetActor) (env : MaintainReplies) : Prop :=
  a.telemetryDue ≤ a.clock ∧ a.leaseValid env.pollDelay ∧ a.state = .primary ∧ a.session.isSome ∧
    a.source.recovery = none ∧ env.atWatermark = false
deriving Decidable

def pollTelemetry (ctx : Context) (a : TargetActor) (env : MaintainReplies) : TargetActor :=
  let polled : TargetActor :=
    if mayPoll a env then
      a.afterSource ((Source.pollStart ctx.source a.source env.poll).andThen fun s =>
        finishSourceRecovery ctx s env.pollFinish env.pollAdmitted)
    else a
  { polled with
    telemetryDue := if a.telemetryDue ≤ a.clock then a.clock + ctx.telemetryPollIntervalMs else a.telemetryDue
    reasonCode := env.observation.getD polled.reasonCode }

/-- the tick up to the source operation -/
def beforeCompletion (ctx : Context) (a : TargetActor) (env : MaintainReplies) : TargetActor :=
  reconcileEffect ctx
    (reconnect (drainStreamEvents ctx 256 (expireLease ctx a) env.events) env.connectDelay env.connect) env.reconcile

/-- the tick up to the poll -/
def beforePoll (ctx : Context) (a : TargetActor) (env : MaintainReplies) : TargetActor :=
  housekeep ctx (completeSource ctx (beforeCompletion ctx a env) env.finish env.admitted) env

/-- one tick; the process may stop in the journal append of a reconciliation -/
def maintain (ctx : Context) (a : TargetActor) (env : MaintainReplies) : TargetActor :=
  let a := holdExpiredRetention ctx a env.retention
  if a.effect.hold then a
  else if (beforeCompletion ctx a env).effect.alive then pollTelemetry ctx (beforePoll ctx a env) env
  else beforeCompletion ctx a env

/-! ## Where a step calls `P4Session::write` -/

/-- the selector is still the durable pre-state of an operation that is not frozen: it is flipped -/
def flipsSelector (recovery : SourceRecovery) (env : FinishReplies) : Prop :=
  ∃ observed, env.selector = .ok observed ∧ observed.bank.val = recovery.frozenBank ∧
    observed.epoch.val = recovery.previousEpoch ∧ recovery.frozen = false ∧ recovery.newEpoch < 2 ^ 32 ∧
    recovery.newActiveBank ≤ 1

/-- the snapshot is durable and the bank is not recorded as clear: it is cleared -/
def clearsBank (ctx : Context) (s : SourceState) (env : FinishReplies) : Prop :=
  ∃ t recovery, Source.finishStages ctx.hash ctx.source s env 2 = (.ok (), t) ∧ t.recovery = some recovery ∧
    recovery.cleared = false

def finishWrites (ctx : Context) (s : SourceState) (env : FinishReplies) : Prop :=
  ∃ recovery, s.recovery = some recovery ∧ (flipsSelector recovery env ∨ clearsBank ctx s env)

/-- completion of a pending operation writes -/
def completionWrites (ctx : Context) (a : TargetActor) (env : FinishReplies) : Prop :=
  a.session.isSome ∧ finishWrites ctx a.source env

/-- a poll writes -/
def pollWrites (ctx : Context) (a : TargetActor) (env : MaintainReplies) : Prop :=
  mayPoll a env ∧ ∃ s, Source.pollStart ctx.source a.source env.poll = (.ok (), s) ∧ finishWrites ctx s env.pollFinish

def maintainWrites (ctx : Context) (a : TargetActor) (env : MaintainReplies) : Prop :=
  let a := holdExpiredRetention ctx a env.retention
  a.effect.hold = false ∧ (beforeCompletion ctx a env).effect.alive = true ∧
    (completionWrites ctx (beforeCompletion ctx a env) env.finish ∨ pollWrites ctx (beforePoll ctx a env) env)

/-! ## Steps and runs -/

inductive Op where
  | advance (ms : ℕ)
  /-- the stream task sees an arbitration update -/
  | arbitrated (primary : Bool)
  | renew (request : RenewTargetRequest) (now : ℤ)
  | revoke (request : RevokeTargetRequest)
  | preflight (intent : EffectIntent) (env : Effect.PreflightReplies) (verified : Option Bool)
  | execute (intent : EffectIntent) (token : String) (env : Effect.ExecuteReplies)
  | acknowledge (request : Effect.AcknowledgeEffectRequest) (io : Io)
  /-- prepare, commit and resume of a route, and the observation rules: nothing of this state -/
  | route
  | maintain (env : MaintainReplies)
  | shutdown

def step (ctx : Context) (a : TargetActor) (op : Op) : TargetActor :=
  if a.effect.alive = false then a
  else
    match op with
    | .advance ms => { a with clock := a.clock + ms }
    | .arbitrated primary => { a with session := a.session.map fun session => { session with primary } }
    | .renew request now => renew ctx a request now
    | .revoke request => revoke ctx a request
    | .preflight intent env verified => preflight ctx a intent env verified
    | .execute intent token env => execute ctx a intent token env
    | .acknowledge request io => { a with effect := Effect.step ctx.firewall a.effect (.acknowledge request io) }
    | .route => a
    | .maintain env => maintain ctx a env
    | .shutdown =>
      { a with state := .revoked, session := none, effect := Effect.step ctx.firewall a.effect .crash }

/-- the step calls `P4Session::write` -/
def writes (ctx : Context) (a : TargetActor) : Op → Prop
  | .execute intent token env =>
    a.effect.alive = true ∧ Effect.issuesWrites ctx.firewall a.effect intent token { env with link := linkReady a }
  | .maintain env => a.effect.alive = true ∧ maintainWrites ctx a env
  | _ => False

/-! ## spawn -/

/-- what `spawn` finds: the lease it was given, the clock once the connection was tried, and the recovered logs -/
structure SpawnReplies where
  leaseDeadline : ℕ
  clock : ℕ
  retention : Option String
  connect : EdgeResult Session
  source : SourceState
  effect : EffectState
  reconcile : Effect.ReconcileReplies
  finish : FinishReplies
  admitted : EdgeResult Unit

/-- connected, or held, with the logs recovered -/
def connected (env : SpawnReplies) : TargetActor :=
  let start (session : Option Session) (state : ActorState) (reason : String) (hold : Bool) : TargetActor :=
    { clock := env.clock, leaseDeadline := env.leaseDeadline, state, reasonCode := reason, session
      reconnectAfter := env.clock + 1000, telemetryDue := env.clock, source := env.source
      effect := { env.effect with hold, alive := true } }
  match env.retention with
  | some reason => start none .hold reason true
  | none =>
    match env.connect with
    | .ok session => start (some session) .primary "PRIMARY" false
    | .error e => start none .hold s!"{e.reasonCode}:initial-connect" false

/-- the actor that `spawn` hands to its task: recovered effect and source operation are completed first -/
def spawn (ctx : Context) (env : SpawnReplies) : TargetActor :=
  let a := reconcileEffect ctx (connected env) env.reconcile
  if a.effect.alive then completeSource ctx a env.finish env.admitted else a

/-- completing the source operation during `spawn` calls `P4Session::write` -/
def spawnWrites (ctx : Context) (env : SpawnReplies) : Prop :=
  let a := reconcileEffect ctx (connected env) env.reconcile
  a.effect.alive = true ∧ completionWrites ctx a env.finish

def run (ctx : Context) (env : SpawnReplies) (ops : List Op) : TargetActor := ops.foldl (step ctx) (spawn ctx env)

theorem run_snoc (ctx : Context) (env : SpawnReplies) (ops : List Op) (op : Op) :
    run ctx env (ops ++ [op]) = step ctx (run ctx env ops) op := by
  simp [run]

end MasiEdge.Actor
