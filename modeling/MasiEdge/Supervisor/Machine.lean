/-
The target supervisor: assignments, the durable fence ledger and the actors (`supervisor.rs`).

`assign` runs in three parts, and calls for other targets run between them. The first validates the assignment and, under
the state lock, takes the target and its endpoint/device tuple. The second consumes the fence: it checks the assignment
against the ledger and writes the ledger back, under a lock of its own. The third closes the target's old actor and spawns
the new one. A part that fails gives the tuple back. A call in progress is a `Flight`; the caller may go away between two
parts, and the process may stop at any time.

The file behind the ledger is replaced atomically, so a write leaves the old or the new ledger whatever happens. A reader
gets back what was written or fails; its schema version and size bound are only other ways to fail. Replies carry the
fields of `TargetReply`. `accepted` and `ownerBefore` record history; nothing reads them.
-/
import Mathlib.Data.List.AList
import MasiEdge.Actor.Machine
import MasiEdge.Route.Contract

namespace MasiEdge.Supervisor

open Codec
open Source (Fence)
open Route (validateAll)
open Actor (ActorState TargetActor SpawnReplies)

/-! ## Assignments -/

structure TlsClientIdentity where
  serverName : String
  identityRef : String
deriving DecidableEq, Repr

structure PipelineIdentity where
  p4runtimeApiVersion : String
  p4infoDigest : String
  deviceConfigDigest : String
  profileDigest : String
  cookie : ℕ
  /-- raw enumeration values -/
  supportedWriteAtomicity : List ℤ
deriving DecidableEq, Repr

structure TargetAssignment where
  schemaVersion : String
  targetId : String
  deviceId : ℕ
  role : String
  p4runtimeEndpoint : String
  p4runtimeTls : Option TlsClientIdentity
  fence : Option Fence
  leaseId : String
  issuedAtUnixMs : ℤ
  expiresAtUnixMs : ℤ
  electionFloor : ℕ
  electionCeiling : ℕ
  expectedPipeline : Option PipelineIdentity
  observationEpoch : ℕ
  resetEpoch : ℕ
  traceId : String
deriving DecidableEq, Repr

/-- what the supervisor reads of the configuration, with the digest and the encoding -/
structure EdgeConfig where
  /-- the server name registered for each identity reference -/
  clientIdentities : List (String × String)
  controlSinkIdentityRef : String
  serverIdentityRef : String
  maxTargets : ℕ
  hash : Bytes → String
  encode : TargetAssignment → Bytes
  /-- what every actor is configured with -/
  actor : Actor.Context

/-- the endpoint/device tuple -/
def TargetAssignment.endpointKey (a : TargetAssignment) : String × ℕ := (a.p4runtimeEndpoint, a.deviceId)

def TargetAssignment.generation (a : TargetAssignment) : ℕ := (a.fence.map Fence.targetAssignmentGeneration).getD 0

def TargetAssignment.incarnation (a : TargetAssignment) : String := (a.fence.map Fence.targetControlIncarnationId).getD ""

/-- `P4_WRITE_ATOMICITY_CONTINUE_ON_ERROR` -/
def continueOnError : ℤ := 1

/-- two's complement -/
def wrapI64 (x : ℤ) : ℤ := (x + 2 ^ 63) % 2 ^ 64 - 2 ^ 63

def validateTls (cfg : EdgeConfig) (tls : TlsClientIdentity) : EdgeResult Unit := do
  validateIdentity tls.identityRef "p4runtime_tls.identity_ref"
  match cfg.clientIdentities.lookup tls.identityRef with
  | none => .error (.precondition "TLS_IDENTITY_UNKNOWN" "P4 credential identity_ref is absent from the local registry")
  | some serverName => do
    refuse (serverName ≠ tls.serverName)
      (.tlsIdentityMismatch "P4 server_name differs from registered credential SAN")
    refuse (tls.identityRef = cfg.controlSinkIdentityRef ∨ tls.identityRef = cfg.serverIdentityRef)
      (.precondition "TLS_IDENTITY_REUSE" "P4 identity must be distinct from Edge server and Go sink")

def validatePipeline (pipeline : PipelineIdentity) : EdgeResult Unit := do
  refuse (pipeline.p4runtimeApiVersion ≠ "1.4.1" ∨ pipeline.cookie = 0 ∨
      pipeline.supportedWriteAtomicity ≠ [continueOnError])
    (.precondition "CAPABILITY_DRIFT" "target capability version/cookie/atomicity differs from first-release profile")
  validateAll validateSha256
    [("p4info_digest", pipeline.p4infoDigest), ("device_config_digest", pipeline.deviceConfigDigest),
     ("profile_digest", pipeline.profileDigest)]

/-- an election range of at most 1,000,001 ids with the fence's id in it -/
def electionOk (a : TargetAssignment) (fence : Fence) : Prop :=
  0 < a.electionFloor ∧ a.electionFloor ≤ a.electionCeiling ∧ a.electionCeiling - a.electionFloor ≤ 1000000 ∧
    a.electionFloor ≤ fence.electionIdLow ∧ fence.electionIdLow ≤ a.electionCeiling
deriving Decidable

def validateAssignment (cfg : EdgeConfig) (a : TargetAssignment) : EdgeResult Unit := do
  refuse (a.schemaVersion ≠ "target-assignment/v1") (.unknownMajor a.schemaVersion)
  validateAll validateIdentity
    [("target_id", a.targetId), ("role", a.role), ("lease_id", a.leaseId), ("trace_id", a.traceId)]
  refuse (64 < (asBytes a.role).length) (.invalidArgument "role" "role exceeds 64 bytes")
  let fence ← required a.fence (.invalidArgument "assignment.fence" "fence is required")
  validateIdentity fence.targetControlIncarnationId "target_control_incarnation_id"
  refuse (fence.targetAssignmentGeneration = 0 ∨ fence.applicationGeneration = 0 ∨ fence.electionIdHigh ≠ 0)
    (.invalidArgument "assignment.fence" "generation must be positive and first-release election high must be zero")
  refuse (¬ electionOk a fence)
    (.precondition "ELECTION_OUT_OF_RANGE" "election ID/range is invalid or wider than 1,000,001 IDs")
  let pipeline ← required a.expectedPipeline (.invalidArgument "expected_pipeline" "pipeline identity is required")
  validatePipeline pipeline
  refuse (a.observationEpoch = 0 ∨ a.resetEpoch = 0)
    (.invalidArgument "observation_epoch" "observation and reset epochs must be positive")
  let tls ← required a.p4runtimeTls (.invalidArgument "p4runtime_tls" "mTLS identity required")
  validateTls cfg tls
  refuse ((asBytes a.p4runtimeEndpoint).take 8 ≠ asBytes "https://")
    (.precondition "ENDPOINT_NOT_ALLOWED" "P4Runtime endpoint must use https")
  -- a release build wraps the difference of the two timestamps
  refuse (a.expiresAtUnixMs ≤ a.issuedAtUnixMs ∨ 300000 < wrapI64 (a.expiresAtUnixMs - a.issuedAtUnixMs))
    (.invalidArgument "assignment.lease" "lease interval must be positive and no greater than 300 seconds")

/-- everything but the lease times, the trace and the actor's epoch -/
def assignmentRecoveryDigest (cfg : EdgeConfig) (a : TargetAssignment) : String :=
  sha256 cfg.hash (cfg.encode
    { a with
      issuedAtUnixMs := 0, expiresAtUnixMs := 0, traceId := ""
      fence := a.fence.map fun fence => { fence with actorRuntimeEpoch := "" } })

/-! ## The ledger -/

structure TargetFenceLedger where
  currentIncarnation : String := ""
  retiredIncarnations : List String := []
  maxAssignmentGeneration : ℕ := 0
  maxElectionCeiling : ℕ := 0
  lastElectionFloor : ℕ := 0
  lastLeaseId : String := ""
  lastAssignmentDigest : String := ""
deriving DecidableEq, Repr

abbrev AssignmentLedger := AList fun _ : String => TargetFenceLedger

/-- the entry of a target, the default one if it has none -/
def entryOf (ledger : AssignmentLedger) (targetId : String) : TargetFenceLedger := (ledger.lookup targetId).getD {}

/-- the assignment repeats the last grant of the target -/
def exactRecovery (target : TargetFenceLedger) (fence : Fence) (a : TargetAssignment) (digest : String) : Prop :=
  (target.currentIncarnation = "" ∨ target.currentIncarnation = fence.targetControlIncarnationId) ∧
    fence.targetAssignmentGeneration = target.maxAssignmentGeneration ∧ a.electionFloor = target.lastElectionFloor ∧
    a.electionCeiling = target.maxElectionCeiling ∧ a.leaseId = target.lastLeaseId ∧
    digest = target.lastAssignmentDigest
deriving Decidable

/-- another incarnation has the target now -/
def TargetFenceLedger.replacedBy (target : TargetFenceLedger) (incarnation : String) : Prop :=
  target.currentIncarnation ≠ "" ∧ target.currentIncarnation ≠ incarnation
deriving Decidable

def stale (detail : String) : EdgeError := .precondition "ASSIGNMENT_STALE" detail

/-- the entry after the assignment, if it is an exact recovery or strictly newer -/
def consumeFence (target : TargetFenceLedger) (fence : Fence) (a : TargetAssignment) (digest : String) :
    EdgeResult TargetFenceLedger := do
  refuse (fence.targetControlIncarnationId ∈ target.retiredIncarnations)
    (stale "retired target-control incarnation cannot reappear")
  if exactRecovery target fence a digest then return target
  else do
    refuse (target.replacedBy fence.targetControlIncarnationId ∧
        fence.targetAssignmentGeneration ≤ target.maxAssignmentGeneration)
      (stale "new target-control incarnation requires a higher assignment generation")
    refuse (fence.targetAssignmentGeneration ≤ target.maxAssignmentGeneration)
      (stale "assignment generation is not strictly increasing and is not exact recovery")
    refuse (a.electionFloor ≤ target.maxElectionCeiling)
      (.precondition "ELECTION_OUT_OF_RANGE" "new election floor is not above the entire previous range")
    .ok
      { currentIncarnation := fence.targetControlIncarnationId
        retiredIncarnations :=
          if target.replacedBy fence.targetControlIncarnationId then
            target.currentIncarnation :: target.retiredIncarnations
          else target.retiredIncarnations
        maxAssignmentGeneration := fence.targetAssignmentGeneration
        lastElectionFloor := a.electionFloor
        maxElectionCeiling := a.electionCeiling
        lastLeaseId := a.leaseId
        lastAssignmentDigest := digest }

/-- the ledger that `consume_assignment_fence` writes -/
def candidate (cfg : EdgeConfig) (ledger : AssignmentLedger) (a : TargetAssignment) : EdgeResult AssignmentLedger := do
  let fence ← required a.fence (.invalidArgument "assignment.fence" "fence required")
  let target ← consumeFence (entryOf ledger a.targetId) fence a (assignmentRecoveryDigest cfg a)
  return ledger.insert a.targetId target

/-! ## State -/

structure TargetStatus where
  targetId : String
  actorState : ActorState
  fence : Option Fence
  reasonCode : String
deriving DecidableEq, Repr

structure TargetReply where
  targetId : String
  state : ActorState
  actorRuntimeEpoch : String
  reasonCode : String
  traceId : String
deriving DecidableEq, Repr

def replyFromStatus (status : TargetStatus) (traceId : String) : TargetReply :=
  ⟨status.targetId, status.actorState, (status.fence.map Fence.actorRuntimeEpoch).getD "", status.reasonCode, traceId⟩

/-- an actor as the supervisor sees it; `status` is what the actor has last published -/
structure ActorHandle where
  ctx : Actor.Context
  actor : TargetActor
  status : TargetStatus

def ActorHandle.publish (h : ActorHandle) : ActorHandle :=
  { h with status :=
      ⟨h.actor.effect.assignment.targetId, h.actor.state, h.actor.effect.assignment.fence, h.actor.reasonCode⟩ }

def ActorHandle.shutdown (h : ActorHandle) : ActorHandle :=
  { h with actor := Actor.step h.ctx h.actor .shutdown }.publish

/-- the actor that `spawn` builds for an assignment -/
def spawnActor (cfg : EdgeConfig) (a : TargetAssignment) (env : SpawnReplies) : ActorHandle :=
  let ctx : Actor.Context := { cfg.actor with
    source := { cfg.actor.source with targetId := a.targetId, deviceId := a.deviceId, role := a.role, fence := a.fence }
    leaseId := a.leaseId }
  let env := { env with effect := { env.effect with assignment := ⟨a.targetId, a.fence⟩ } }
  ActorHandle.publish ⟨ctx, Actor.spawn ctx env, ⟨a.targetId, .connecting, a.fence, "CONNECTING"⟩⟩

/-- an `assign` call in progress -/
structure Flight where
  /-- with the actor's new epoch -/
  assignment : TargetAssignment
  /-- the ledger has accepted it -/
  fenced : Bool
  /-- who owned the tuple when the call took it -/
  ownerBefore : Option String

structure SupervisorState where
  /-- whether a process is up; its memory means nothing otherwise -/
  running : Bool
  actors : AList fun _ : String => ActorHandle
  assignments : AList fun _ : String => TargetAssignment
  endpointOwners : AList fun _ : String × ℕ => String
  pendingTargets : List String
  ledger : AssignmentLedger
  acceptingAssignments : Bool
  flights : List Flight
  /-- the ledger's file -/
  disk : AssignmentLedger
  /-- every assignment that `consume_assignment_fence` has accepted, in order -/
  accepted : List TargetAssignment

/-- a data directory without a ledger, and no process -/
def SupervisorState.initial : SupervisorState := ⟨false, ∅, ∅, ∅, [], ∅, false, [], ∅, []⟩

/-- `TargetSupervisor::open` on a ledger that can be read -/
def SupervisorState.opened (s : SupervisorState) : SupervisorState :=
  { s with
    running := true, actors := ∅, assignments := ∅, endpointOwners := ∅, pendingTargets := [], ledger := s.disk
    acceptingAssignments := true, flights := [] }

/-! ## assign -/

/-- an assignment of the target is known: the same grant is answered with the actor's status, any other has to wait until
the actor is revoked or read-only -/
def checkExisting (s : SupervisorState) (a : TargetAssignment) : EdgeResult (Option TargetReply) :=
  match s.assignments.lookup a.targetId with
  | none => .ok none
  | some existing =>
    if a.generation = existing.generation ∧ existing.leaseId = a.leaseId then
      match s.actors.lookup a.targetId with
      | none => .error (.precondition "TARGET_ALREADY_ASSIGNED" "idempotent assignment has no live actor")
      | some handle => .ok (some (replyFromStatus handle.status a.traceId))
    else
      match (s.actors.lookup a.targetId).map fun handle : ActorHandle => handle.status.actorState with
      | some ActorState.revoked => .ok none
      | some ActorState.readOnly => .ok none
      | _ => .error (.precondition "TARGET_ALREADY_ASSIGNED" "old actor must be revoked or lease-expired before handoff")

/-- the checks under the state lock -/
def admission (cfg : EdgeConfig) (s : SupervisorState) (a : TargetAssignment) : EdgeResult (Option TargetReply) := do
  validateAssignment cfg a
  refuse (s.acceptingAssignments = false)
    (.precondition "ASSIGNMENT_LEDGER_UNAVAILABLE" "supervisor stopped assignments after a durable-ledger failure")
  refuse (a.targetId ∈ s.pendingTargets)
    (.precondition "TARGET_ALREADY_ASSIGNED" "target assignment is already in progress")
  let replay ← checkExisting s a
  if replay.isSome then return replay
  else do
    refuse (cfg.maxTargets ≤ s.actors.entries.length + s.pendingTargets.length ∧ (s.actors.lookup a.targetId).isNone)
      (.resourceExhausted "TARGET_LIMIT_EXCEEDED" "active plus pending targets reached the implementation bound")
    refuse ((s.endpointOwners.lookup a.endpointKey).any fun owner => owner ≠ a.targetId)
      (.precondition "ASSIGNMENT_CONFLICT" "endpoint/device tuple already belongs to another target")
    return none

/-- the first part: take the target and its tuple -/
def beginAssign (cfg : EdgeConfig) (s : SupervisorState) (a : TargetAssignment) (epoch : String) :
    EdgeResult (Option TargetReply) × SupervisorState :=
  match admission cfg s a with
  | .error e => (.error e, s)
  | .ok (some reply) => (.ok (some reply), s)
  | .ok none =>
    (.ok none, { s with
      pendingTargets := a.targetId :: s.pendingTargets
      endpointOwners := s.endpointOwners.insert a.endpointKey a.targetId
      flights :=
        ⟨{ a with fence := a.fence.map fun fence => { fence with actorRuntimeEpoch := epoch } }, false,
          s.endpointOwners.lookup a.endpointKey⟩ :: s.flights })

def SupervisorState.flight (s : SupervisorState) (targetId : String) : Option Flight :=
  s.flights.find? fun f => f.assignment.targetId = targetId

def SupervisorState.landed (s : SupervisorState) (targetId : String) : SupervisorState :=
  { s with flights := s.flights.filter fun f => f.assignment.targetId ≠ targetId }

/-- the end of a failed call: the target and its tuple are given back -/
def SupervisorState.giveBack (s : SupervisorState) (a : TargetAssignment) : SupervisorState :=
  { s.landed a.targetId with
    pendingTargets := s.pendingTargets.filter (· ≠ a.targetId)
    endpointOwners := s.endpointOwners.erase a.endpointKey }

/-- the fate of a ledger write -/
inductive LedgerIo where
  | done
  /-- before the file is replaced -/
  | failed (e : EdgeError)
  /-- after it is replaced, when the directory is synced -/
  | failedLate (e : EdgeError)
  /-- replaced, but the call is dropped before the ledger in memory is -/
  | dropped

/-- the second part: `consume_assignment_fence` -/
def consumeAssignmentFence (cfg : EdgeConfig) (s : SupervisorState) (f : Flight) (io : LedgerIo) : SupervisorState :=
  match candidate cfg s.ledger f.assignment, io with
  | .error _, _ => s.giveBack f.assignment
  | .ok _, .failed _ => { s with acceptingAssignments := false }.giveBack f.assignment
  | .ok ledger, .failedLate _ => { s with acceptingAssignments := false, disk := ledger }.giveBack f.assignment
  | .ok ledger, .dropped => { s with disk := ledger }.landed f.assignment.targetId
  | .ok ledger, .done =>
    { s.landed f.assignment.targetId with
      ledger, disk := ledger
      accepted := s.accepted ++ [f.assignment]
      flights := { f with fenced := true } :: (s.landed f.assignment.targetId).flights }

/-- the old actor is closed before the new one starts -/
def SupervisorState.closePrior (s : SupervisorState) (targetId : String) : SupervisorState :=
  match s.actors.lookup targetId with
  | none => s
  | some prior => { s with actors := s.actors.insert targetId prior.shutdown }

/-- the third part -/
def finishAssign (cfg : EdgeConfig) (s : SupervisorState) (f : Flight) (reply : EdgeResult SpawnReplies) :
    EdgeResult TargetReply × SupervisorState :=
  let a := f.assignment
  let s := s.closePrior a.targetId
  match reply with
  | .error e => (.error e, s.giveBack a)
  | .ok env =>
    let handle := spawnActor cfg a env
    (.ok (replyFromStatus handle.status a.traceId),
      { s.landed a.targetId with
        pendingTargets := s.pendingTargets.filter (· ≠ a.targetId)
        actors := s.actors.insert a.targetId handle
        assignments := s.assignments.insert a.targetId a })

/-! ## Operations -/

inductive Op where
  /-- a process opens the data directory, or fails to -/
  | start (read : EdgeResult Unit)
  | stop
  | assign (a : TargetAssignment) (epoch : String)
  | fence (targetId : String) (io : LedgerIo)
  | spawn (targetId : String) (reply : EdgeResult SpawnReplies)
  /-- the caller of an `assign` goes away -/
  | abandon (targetId : String)
  /-- a command or a tick of one actor; a command publishes the status, a tick only sometimes -/
  | actor (targetId : String) (op : Actor.Op) (publish : Bool)
  /-- no more assignments; the actors are stopped one by one -/
  | shutdown

def Op.isStart : Op → Bool
  | .start _ => true
  | _ => false

def perform (cfg : EdgeConfig) (s : SupervisorState) : Op → SupervisorState
  | .start read => if read.isOk then s.opened else s
  | .stop => { s with running := false }
  | .assign a epoch => (beginAssign cfg s a epoch).2
  | .fence targetId io =>
    match s.flight targetId with
    | none => s
    | some f => if f.fenced then s else consumeAssignmentFence cfg s f io
  | .spawn targetId reply =>
    match s.flight targetId with
    | none => s
    | some f => if f.fenced then (finishAssign cfg s f reply).2 else s
  | .abandon targetId => s.landed targetId
  | .actor targetId op publish =>
    match s.actors.lookup targetId with
    | none => s
    | some handle =>
      let next := { handle with actor := Actor.step handle.ctx handle.actor op }
      { s with actors := s.actors.insert targetId (if publish then next.publish else next) }
  | .shutdown => { s with acceptingAssignments := false }

/-- one process at a time holds the directory: only `start` does anything while none is up, and nothing while one is -/
def step (cfg : EdgeConfig) (s : SupervisorState) (op : Op) : SupervisorState :=
  if s.running = !op.isStart then perform cfg s op else s

def run (cfg : EdgeConfig) (ops : List Op) : SupervisorState := ops.foldl (step cfg) SupervisorState.initial

/-! ## Flights -/

variable {s : SupervisorState} {a : TargetAssignment} {cfg : EdgeConfig} {targetId : String} {f : Flight}

theorem flight_mem (h : s.flight targetId = some f) : f ∈ s.flights := List.mem_of_find?_eq_some h

theorem mem_landed :
    f ∈ (s.landed targetId).flights ↔ f ∈ s.flights ∧ f.assignment.targetId ≠ targetId := by
  simp [SupervisorState.landed]

/-- closing the old actor changes the actors only -/
theorem closePrior_eq (s : SupervisorState) (targetId : String) : ∃ actors, s.closePrior targetId = { s with actors } := by
  unfold SupervisorState.closePrior
  cases s.actors.lookup targetId with
  | none => exact ⟨s.actors, rfl⟩
  | some => exact ⟨_, rfl⟩

/-! ## What is known of an accepted assignment -/

/-- what the ledger relies on -/
structure WellFormed (a : TargetAssignment) : Prop where
  fence : a.fence.isSome = true
  incarnation : a.incarnation ≠ ""
  generation : 0 < a.generation
  range : a.electionFloor ≤ a.electionCeiling

theorem validateAssignment_ok (h : validateAssignment cfg a = .ok ()) :
    WellFormed a := by
  replace h := passed h
  replace h := passed h
  replace h := passed h
  obtain ⟨fence, hfence, h⟩ := bind_ok.1 h
  obtain ⟨_, hincarnation, h⟩ := bind_ok.1 h
  obtain ⟨hgeneration, h⟩ := refuse_then h
  obtain ⟨hrange, -⟩ := refuse_then h
  have hsome := required_ok hfence
  have helection := not_not.1 hrange
  have hpositive := (not_or.1 hgeneration).1
  refine ⟨by rw [hsome]; rfl, ?_, ?_, helection.2.1⟩
  · obtain ⟨hlength, -⟩ := refuse_then hincarnation
    rw [TargetAssignment.incarnation, hsome]
    exact (not_or.1 hlength).1
  · rw [TargetAssignment.generation, hsome]
    exact Nat.pos_of_ne_zero hpositive

/-- an admitted call passed validation, and its tuple was free or the target's own -/
theorem admission_begin (h : admission cfg s a = .ok none) :
    WellFormed a ∧ a.targetId ∉ s.pendingTargets ∧
      (s.endpointOwners.lookup a.endpointKey = none ∨ s.endpointOwners.lookup a.endpointKey = some a.targetId) := by
  obtain ⟨_, hvalid, h⟩ := bind_ok.1 h
  replace h := passed h
  obtain ⟨hpending, h⟩ := refuse_then h
  obtain ⟨replay, -, h⟩ := bind_ok.1 h
  refine ⟨validateAssignment_ok hvalid, hpending, ?_⟩
  split_ifs at h with hreplay
  · cases h
    cases hreplay
  · replace h := passed h
    obtain ⟨_, howner, -⟩ := bind_ok.1 h
    cases hlookup : s.endpointOwners.lookup a.endpointKey with
    | none => exact .inl rfl
    | some =>
      rw [hlookup] at howner
      right
      by_contra hne
      exact refuse_ok.1 howner (by simpa using fun heq => hne (congrArg some heq))

end MasiEdge.Supervisor
