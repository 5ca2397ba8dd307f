/-
Fleet operations of the control core (`target/fleet.go`): a frozen set of targets in ordered waves, one child intent for
each target, and a parent nobody claims.

An operation is created in the transaction that appends its decision. The children of the first wave have open gates; the
gate of a later wave opens when the wave before it has ended (`advanceWaveGate`), under a manual gate only with a decision
on the completed vector of children (`authorizeManualGate`). The states of the child intents are projected into the child
rows (`projectFleet`), and from these the state of the operation.

A request may carry child statuses of its own: the creation keeps them.

* `ChildStatus.allowed_of_terminal`: a child that has ended keeps its status.
-/
import MasiEdge.Control.Intents

namespace MasiEdge.Control

open Codec Firewall

/-! ## Requests -/

/-- a child of a request; it may come with a status and a reason -/
structure ChildRequest where
  targetId : String
  intentId : String
  waveIndex : ℕ
  status : Option ChildStatus
  reasonCode : String
  intent : Intent
deriving DecidableEq, Repr

/-- `FleetOperation`, as a caller gives it -/
structure FleetRequest where
  fleetOperationId : String
  targetSetDigest : String
  waveCount : ℕ
  waves : List Wave
  parentIntent : Intent
  childIntents : List ChildRequest
  scope : String
deriving DecidableEq, Repr

def fleetTargetSetDigest (hash : Bytes → String) (ids : List String) : String :=
  sha256 hash (asBytes (",".intercalate (sortStrings ids)))

def allTargets (waves : List Wave) : List String := waves.flatMap Wave.targetIds

/-- the loop over the waves; `seen` are the targets of the earlier ones -/
def validateWaves : ℕ → List String → List Wave → GoResult Unit
  | _, _, [] => .ok ()
  | index, seen, w :: rest => do
    let name := "fleet: wave " ++ toString index
    reject (w.waveIndex ≠ index) (name ++ " index mismatch")
    reject (w.parallelLimit < 1) (name ++ " parallel_limit >= 1 required")
    reject (w.targetIds = []) (name ++ " needs >= 1 target")
    reject (w.targetIds.length < w.parallelLimit) (name ++ " parallel_limit exceeds target count")
    reject ("" ∈ w.targetIds) (name ++ " has empty target")
    reject (¬ (seen ++ w.targetIds).Nodup) "fleet: target appears in multiple waves"
    validateWaves (index + 1) (seen ++ w.targetIds) rest

/-- the loop over the children -/
def validateChildren (waves : List Wave) : List String → List ChildRequest → GoResult Unit
  | _, [] => .ok ()
  | seen, c :: rest => do
    reject (waves.findIdx? (fun w => decide (c.targetId ∈ w.targetIds)) ≠ some c.waveIndex ∨ c.intentId = "")
      "fleet: child target/wave/intent identity mismatch"
    reject (c.intentId ∈ seen) "fleet: duplicate child intent id"
    validateChildren waves (c.intentId :: seen) rest

def validateFleetOperation (hash : Bytes → String) (fo : FleetRequest) : GoResult Unit := do
  reject (fo.fleetOperationId = "") "fleet: fleet_operation_id required"
  reject (fo.waveCount < 1 ∨ 64 < fo.waveCount) "fleet: wave_count must be 1..64"
  reject (fo.waves.length ≠ fo.waveCount) "fleet: wave_count must equal len(waves)"
  validateWaves 0 [] fo.waves
  reject (1024 < fo.childIntents.length) "fleet: too many child intents (max 1024)"
  if fo.childIntents = [] then return () else
    reject (fo.childIntents.length ≠ (allTargets fo.waves).length)
      "fleet: child intent vector must exactly match frozen target set"
    validateChildren fo.waves [] fo.childIntents
    reject (fleetTargetSetDigest hash (allTargets fo.waves) ≠ fo.targetSetDigest)
      "fleet: target_set_digest does not match exact wave membership"

/-- `prepareFleetOperation`: the checks, and the gates of the waves -/
def prepareFleetOperation (hash : Bytes → String) (approver : Actor) (fo : FleetRequest) : GoResult FleetRequest := do
  validateFleetOperation hash fo
  reject (approver.validate ≠ .ok () ∨ fo.scope = "") "fleet: actor and scope required"
  reject (fo.childIntents = []) "fleet: operation must contain one exact child intent per target"
  return { fo with waves := fo.waves.map fun w => { w with gateOpen := decide (w.waveIndex = 0) } }

/-! ## Digests -/

/-- the order of the two texts -/
def planBefore (a b : ℕ × String) : Prop := a.1 < b.1 ∨ (a.1 = b.1 ∧ a.2 ≤ b.2)
deriving Decidable

def computeFleetOperationDigest (sv : Services) (fo : FleetRequest) (children : List (ChildRequest × Intent))
    (authorizationDigest : String) : String :=
  let planned := (children.map fun c => (⟨c.1.targetId, c.1.intentId, c.1.waveIndex, c.2.effectDigest, c.2.fence⟩ : PlannedChild))
  let sorted := planned.insertionSort fun a b => planBefore (a.waveIndex, a.targetId) (b.waveIndex, b.targetId)
  sha256 sv.profile.hash (asBytes ("|".intercalate
    [fo.fleetOperationId, fo.targetSetDigest, fo.scope, authorizationDigest, sv.planText fo.waves sorted]))

def completedVectorDigest (sv : Services) (entries : List VectorEntry) : String :=
  sha256 sv.profile.hash (asBytes (sv.vectorText (entries.insertionSort fun a b =>
    planBefore (a.waveIndex, a.targetId) (b.waveIndex, b.targetId))))

def Db.childrenOf (db : Db) (fleetOperationId : String) : List FleetChildRow :=
  db.fleetChildren.filter fun c => decide (c.fleetOperationId = fleetOperationId)

def Db.waveOf (db : Db) (fleetOperationId : String) (waveIndex : ℕ) : List FleetChildRow :=
  (db.childrenOf fleetOperationId).filter fun c => decide (c.waveIndex = waveIndex)

/-- a child as `loadCompletedVectorTx` reads it -/
def FleetChildRow.entry (c : FleetChildRow) : VectorEntry :=
  ⟨c.targetId, c.childIntentId, c.waveIndex, c.progress.status, c.progress.reasonCode, c.effectDigest⟩

/-- a child as the projection reads it: its query has no effect digest -/
def FleetChildRow.shownEntry (c : FleetChildRow) : VectorEntry := { c.entry with effectDigest := "" }

/-! ## Creation -/

def fleetDeadline (p : ProposalRow) (d : DecisionRow) : ℤ :=
  if p.proposal.expiresAtUnixMs < d.expiresAtUnixMs then p.proposal.expiresAtUnixMs else d.expiresAtUnixMs

/-- the part of `bindFleetDecision` that parent and children share -/
def bindFleetDecision (p : ProposalRow) (d : DecisionRow) (fleetOperationId : String) (intent : Intent) : Intent :=
  { intent with
    proposalId := p.proposalId, decisionId := d.decisionId, authorizationDigest := d.decisionDigest
    effectKind := p.proposal.effectKind, riskLevel := d.riskLevel, actor := d.actor, fleetOperationId }

def defaultAtomicity (name : String) : String := if name = "" then "CONTINUE_ON_ERROR" else name

def fleetParent (hash : Bytes → String) (p : ProposalRow) (d : DecisionRow) (fo : FleetRequest) (operationDigest : String) :
    Intent :=
  { bindFleetDecision p d fo.fleetOperationId fo.parentIntent with
    effectIntentId := "fparent-" ++ shortId hash fo.fleetOperationId
    operationId := if fo.parentIntent.operationId = "" then "fop-" ++ shortId hash fo.fleetOperationId
      else fo.parentIntent.operationId
    isFleetParent := true, targetId := "fleet:" ++ fo.fleetOperationId, deadlineUnixMs := fleetDeadline p d
    effectDigest := operationDigest, requiredWriteAtomicity := defaultAtomicity fo.parentIntent.requiredWriteAtomicity }

/-- a child before its payload -/
def fleetChild (p : ProposalRow) (d : DecisionRow) (fo : FleetRequest) (c : ChildRequest) : Intent :=
  { bindFleetDecision p d fo.fleetOperationId c.intent with
    effectIntentId := c.intentId, targetId := c.targetId
    deadlineUnixMs := if c.intent.deadlineUnixMs < 1 ∨ fleetDeadline p d < c.intent.deadlineUnixMs then fleetDeadline p d
      else c.intent.deadlineUnixMs }

/-- a child with its canonical payload; `capture` answers for the capture tables -/
def loadFleetChild (sv : Services) (db : Db) (p : ProposalRow) (d : DecisionRow) (fo : FleetRequest)
    (capture : String → GoResult String) (c : ChildRequest) : GoResult (ChildRequest × Intent) := do
  let intent ← loadEffectPayload sv db p.proposal.policyDigest fo.scope (fleetChild p d fo c) (capture c.intentId)
  reject (intent.effectDigest = "") "fleet: canonical child effect digest unavailable"
  return (c, intent)

/-- a child effect binds its payload -/
def checkFleetPayload (sv : Services) (intent : Intent) : GoResult Unit := do
  validateEffectPayload intent.payload
  reject (effectDigestOf sv intent ≠ intent.effectDigest) "fleet: child effect digest does not bind payload"

/-- `insertFleetIntent`: a plain insert -/
def insertFleetIntent (sv : Services) (now : ℤ) (intent : Intent) (gateOpen : Bool) (db : Db) : GoResult Db := do
  reject (intent.proposalId = "" ∨ intent.decisionId = "" ∨ intent.operationId = "" ∨ intent.effectDigest = "" ∨
      intent.authorizationDigest = "" ∨ intent.deadlineUnixMs ≤ now)
    "fleet: incomplete or expired governance intent"
  intent.actor.validate
  validateFence intent.fence
  (if intent.isFleetParent = true ∨ intent.effectKind = .boundedCapture then .ok () else checkFleetPayload sv intent)
  let (p, _) ← queryRow ((db.authorization intent.proposalId intent.decisionId).filter fun x => decide (x.2.approved = true ∧
      now < x.1.proposal.expiresAtUnixMs ∧ now < x.2.expiresAtUnixMs ∧ x.2.decisionDigest = intent.authorizationDigest ∧
      x.1.proposal.effectKind = intent.effectKind ∧ x.1.proposal.riskLevel = intent.riskLevel ∧
      x.2.actor = intent.actor ∧ (intent.isFleetParent = true ∨ intent.targetId ∈ x.1.proposal.targetIds)))
  let row := newIntent intent p.proposalDigest (some intent.fleetOperationId) gateOpen 0
  reject (∃ other ∈ db.intents, intentConflict row other) "duplicate key value violates unique constraint"
  return { db with intents := db.intents ++ [row] }

/-- the row of a child; its status is the caller's, if there is one -/
def childRow (fleetOperationId : String) (c : ChildRequest) (intent : Intent) : FleetChildRow :=
  { fleetOperationId, targetId := c.targetId, effectDigest := intent.effectDigest, childIntentId := c.intentId
    waveIndex := c.waveIndex
    progress := ⟨c.status.getD .pending, if c.reasonCode = "" then "PENDING" else c.reasonCode, decide (c.waveIndex = 0)⟩ }

/-- the unique keys of the child table -/
def childConflict (row other : FleetChildRow) : Prop :=
  other.childIntentId = row.childIntentId ∨
    (other.fleetOperationId = row.fleetOperationId ∧ other.targetId = row.targetId ∧ other.effectDigest = row.effectDigest)
deriving Decidable

def insertFleetChild (sv : Services) (now : ℤ) (fleetOperationId : String) (db : Db) (child : ChildRequest × Intent) :
    GoResult Db := do
  let (c, input) := child
  let intent := { input with
    isFleetParent := false, requiredWriteAtomicity := defaultAtomicity input.requiredWriteAtomicity }
  let db ← insertFleetIntent sv now intent (decide (c.waveIndex = 0)) db
  let row := childRow fleetOperationId c intent
  reject ((∃ other ∈ db.fleetChildren, childConflict row other) ∨ ¬ ∃ t ∈ db.inventory.targets, t.targetId = row.targetId)
    "insert violates a constraint of fleet_child_intents"
  return { db with fleetChildren := db.fleetChildren ++ [row] }

/-- the row of an operation -/
def fleetRow (sv : Services) (parentIntentId : String) (fo : FleetRequest) (children : List (ChildRequest × Intent))
    (operationDigest : String) : FleetRow :=
  { fleetOperationId := fo.fleetOperationId, targetSetDigest := fo.targetSetDigest, waves := fo.waves, parentIntentId
    aggregateStatus := .planned, scope := fo.scope, operationDigest
    completedVectorDigest := completedVectorDigest sv
      (children.map fun c => (childRow fo.fleetOperationId c.1 c.2).entry) }

def insertFleetOperation (sv : Services) (now : ℤ) (parent : Intent) (row : FleetRow)
    (children : List (ChildRequest × Intent)) (db : Db) : GoResult Db := do
  let db ← insertFleetIntent sv now parent false db
  reject ((db.fleet? row.fleetOperationId).isSome = true) "duplicate key value violates unique constraint"
  let db := { db with fleets := db.fleets ++ [row] }
  children.foldlM (insertFleetChild sv now row.fleetOperationId) db

/-- the operation that is there is the one that was asked for -/
def recallFleetOperation (row : FleetRow) (decisionId : String) (db : Db) : GoResult Db := do
  let stored ← queryRow (db.fleet? row.fleetOperationId)
  let parent ← queryRow (db.intent? stored.parentIntentId)
  reject (stored.targetSetDigest ≠ row.targetSetDigest ∨ stored.parentIntentId ≠ row.parentIntentId ∨
      parent.intent.decisionId ≠ decisionId ∨ stored.operationDigest ≠ row.operationDigest)
    "fleet: existing Decision has no identical atomic fleet vector"
  return db

/-- the callback of `CreateApprovedFleetOperation`, for a prepared request -/
def createApprovedFleetOperation (sv : Services) (now : ℤ) (fo : FleetRequest) (capture : String → GoResult String)
    (d : DecisionRow) (inserted : Bool) (db : Db) : GoResult Db := do
  reject (d.approved = false) "fleet: canonical decision is not approval"
  let p ← queryRow (db.proposal? d.proposalId)
  reject (p.proposal.scope ≠ fo.scope ∨ p.proposal.riskLevel ≠ d.riskLevel ∨ p.proposal.targetSetDigest ≠ fo.targetSetDigest ∨
      fleetTargetSetDigest sv.profile.hash p.proposal.targetIds ≠ fo.targetSetDigest ∨
      fleetTargetSetDigest sv.profile.hash (allTargets fo.waves) ≠ fo.targetSetDigest)
    "fleet: proposal scope/risk/target vector mismatch"
  let children ← fo.childIntents.mapM (loadFleetChild sv db p d fo capture)
  let operationDigest := computeFleetOperationDigest sv fo children d.decisionDigest
  let parent := fleetParent sv.profile.hash p d fo operationDigest
  let row := fleetRow sv parent.effectIntentId fo children operationDigest
  if inserted = true then insertFleetOperation sv now parent row children db
  else recallFleetOperation row d.decisionId db

/-- the request `CreateApprovedRollback` makes: the waves of the original in reverse order -/
def rollbackRequest (hash : Bytes → String) (originalId proposalId : String) (rollback : FleetRequest) (db : Db) :
    GoResult FleetRequest := do
  let original ← queryRow (db.fleet? originalId)
  let scope := if rollback.scope = "" then original.scope else rollback.scope
  reject (scope ≠ original.scope) "fleet: rollback scope differs from original"
  let waves := original.waves.reverse.mapIdx fun index w => { w with waveIndex := index, gateOpen := false }
  reject (rollback.childIntents = []) "fleet: rollback requires exact previous per-target child intents"
  let children ← rollback.childIntents.mapM fun c =>
    match waves.findIdx? fun w => decide (c.targetId ∈ w.targetIds) with
    | some index => (.ok { c with waveIndex := index } : GoResult ChildRequest)
    | none => .error "fleet: rollback child outside original target set"
  return { rollback with
    fleetOperationId := if rollback.fleetOperationId = "" then "fo-rollback-" ++ shortId hash (originalId ++ proposalId)
      else rollback.fleetOperationId
    targetSetDigest := original.targetSetDigest, waveCount := waves.length, waves, childIntents := children, scope }

/-! ## Gates -/

def ChildStatus.isTerminal : ChildStatus → Bool
  | .applied => true
  | .failed => true
  | .skipped => true
  | .blocked => true
  | .hold => true
  | _ => false

/-- the callback of `AuthorizeManualGate`; it does not ask whether the decision it recalls is an approval -/
def authorizeManualGate (sv : Services) (fleetOperationId : String) (currentWave nextWave : ℕ) (provided : String)
    (d : DecisionRow) (db : Db) : GoResult Db := do
  reject (nextWave ≠ currentWave + 1 ∨ provided = "") "fleet: malformed manual gate authorization"
  let fo ← queryRow (db.fleet? fleetOperationId)
  let p ← queryRow (db.proposal? d.proposalId)
  reject (p.proposal.effectKind.text ≠ "fleet-operation" ∨ p.proposal.policyDigest ≠ provided)
    "fleet: manual gate proposal does not bind completed vector"
  reject (p.proposal.scope ≠ fo.scope ∨ p.proposal.targetSetDigest ≠ fo.targetSetDigest)
    "fleet: manual gate scope/target drift"
  let actual := completedVectorDigest sv ((db.childrenOf fleetOperationId).map FleetChildRow.entry)
  reject (actual ≠ provided) "fleet: completed vector changed before Decision"
  let row : GateDecisionRow := ⟨fleetOperationId, currentWave, nextWave, actual, d.proposalId, d.decisionId⟩
  match db.gateDecisions.find? fun g => decide (g.fleetOperationId = fleetOperationId ∧ g.currentWave = currentWave ∧
      g.nextWave = nextWave) with
  | some stored =>
    reject (stored ≠ row) "fleet: manual gate Decision identity conflict"
    return db
  | none =>
    reject ((∃ g ∈ db.gateDecisions, g.decisionId = d.decisionId) ∨ 63 < nextWave)
      "insert violates a constraint of fleet_wave_gate_decisions"
    return { db with gateDecisions := db.gateDecisions ++ [row] }

/-- a decision on exactly this gate and this vector, approved and current -/
def ManuallyAuthorized (db : Db) (now : ℤ) (fleetOperationId : String) (currentWave nextWave : ℕ) (vectorDigest : String) :
    Prop :=
  ∃ g ∈ db.gateDecisions, (g.fleetOperationId = fleetOperationId ∧ g.currentWave = currentWave ∧ g.nextWave = nextWave ∧
    g.completedVectorDigest = vectorDigest) ∧
    ∃ d ∈ db.decisions, (d.decisionId = g.decisionId ∧ d.approved = true ∧ now < d.expiresAtUnixMs) ∧
      ∃ p ∈ db.proposals, p.proposalId = g.proposalId ∧ now < p.proposal.expiresAtUnixMs
deriving Decidable

/-- the intent of a child of the next wave is still authorized -/
def nextChildValid (db : Db) (now : ℤ) (scope : String) (c : FleetChildRow) : Bool :=
  (db.intent? c.childIntentId).any fun row => decide (now < row.intent.deadlineUnixMs) &&
    ((db.decision? row.intent.decisionId).any fun d => decide (d.approved = true ∧ now < d.expiresAtUnixMs)) &&
    (db.proposal? row.intent.proposalId).any fun p => decide (now < p.proposal.expiresAtUnixMs ∧ p.proposal.scope = scope)

/-- the intent belongs to a child of the wave -/
def InWave (db : Db) (fleetOperationId : String) (waveIndex : ℕ) (intentId : String) : Prop :=
  ∃ c ∈ db.waveOf fleetOperationId waveIndex, c.childIntentId = intentId
deriving Decidable

/-- an update of the changing part of the children -/
def Db.mapChildren (db : Db) (f : FleetChildRow → Progress) : Db :=
  { db with fleetChildren := db.fleetChildren.map fun c => { c with progress := f c } }

/-- an update of one operation -/
def Db.setFleet (db : Db) (fleetOperationId : String) (f : FleetRow → FleetRow) : Db :=
  { db with fleets := Table.modify FleetRow.fleetOperationId db.fleets fleetOperationId f }

/-- open the gates of a wave, in the plan, in its children and in their intents -/
def openWave (db : Db) (fleetOperationId : String) (waveIndex : ℕ) : Db :=
  let plan := db.setFleet fleetOperationId fun fo =>
    { fo with waves := fo.waves.modify waveIndex fun w => { w with gateOpen := true } }
  let children := plan.mapChildren fun c =>
    if c.fleetOperationId = fleetOperationId ∧ c.waveIndex = waveIndex then { c.progress with gateOpen := true }
    else c.progress
  children.mapClaims fun row =>
    if InWave db fleetOperationId waveIndex row.intentId then { row.claim with gateOpen := true } else row.claim

/-- `AdvanceWaveGate` -/
def advanceWaveGate (sv : Services) (now : ℤ) (fleetOperationId : String) (currentWave nextWave : ℕ) (db : Db) :
    GoResult Db := do
  reject (nextWave ≠ currentWave + 1) "fleet: next wave must be current+1"
  let current := db.waveOf fleetOperationId currentWave
  reject (current = []) "fleet: current wave has no children"
  reject (∃ c ∈ current, c.progress.status.isTerminal = false)
    "fleet: current wave not fully terminal (unknown/reconciling/pending present)"
  let fo ← queryRow (db.fleet? fleetOperationId)
  reject (fo.waves.length ≤ nextWave) "fleet: next wave index out of range"
  reject (fleetTargetSetDigest sv.profile.hash (allTargets fo.waves) ≠ fo.targetSetDigest)
    "fleet: frozen target-set digest drift"
  let policy := fo.waves[currentWave]?.map Wave.failurePolicy
  reject (policy = some .failFast ∧ ∃ c ∈ current, c.progress.status ≠ .applied)
    "fleet: fail-fast wave has non-applied child; next gate remains closed"
  reject (policy = some .manualGate ∧ ¬ ManuallyAuthorized db now fleetOperationId currentWave nextWave
      (completedVectorDigest sv ((db.childrenOf fleetOperationId).map FleetChildRow.entry)))
    "fleet: manual gate lacks exact completed-vector Decision"
  let next := db.waveOf fleetOperationId nextWave
  reject (next = [] ∨ ∃ c ∈ next, nextChildValid db now fo.scope c = false)
    "fleet: next wave authorization/deadline revalidation failed"
  reject (fo.waves[nextWave]?.map Wave.gateOpen = some true) "fleet: next wave gate already open"
  return openWave db fleetOperationId nextWave

/-! ## Projection -/

def waveFailurePolicy (waves : List Wave) (waveIndex : ℕ) : Option FailurePolicy := waves[waveIndex]?.map Wave.failurePolicy

/-- a child that stops a fail-fast wave -/
def ChildStatus.stops : ChildStatus → Bool
  | .failed => true
  | .hold => true
  | .blocked => true
  | _ => false

def projectAggregate (children : List FleetChildRow) (waves : List Wave) : AggregateStatus :=
  let status := fun (c : FleetChildRow) => c.progress.status
  if children = [] then .planned
  else if ∃ c ∈ children, status c = .unknown ∨ status c = .reconciling then .reconciling
  else if ∀ c ∈ children, status c = .applied then .applied
  else if ∃ c ∈ children, status c = .failed ∨
      ((status c).stops = true ∧ waveFailurePolicy waves c.waveIndex = some .failFast) then .failed
  else if ∃ c ∈ children, status c = .pending ∨ status c = .claimed ∨ status c = .executing then .running
  else .partialDone

def allowedChildTransition (current next : ChildStatus) : Bool :=
  current == next ||
    match current with
    | .pending => next == .claimed || next == .hold || next == .blocked || next == .skipped
    | .claimed => next == .executing || next == .applied || next == .hold || next == .unknown || next == .reconciling ||
        next == .failed
    | .executing => next == .applied || next == .hold || next == .unknown || next == .reconciling || next == .failed
    | .unknown => next == .reconciling || next == .applied || next == .hold || next == .failed
    | .reconciling => next == .applied || next == .hold || next == .failed
    | _ => false

/-- the status of a child whose intent is in the state; `none` for a state that is not projected -/
def fleetChildStatus (state : ClaimState) (outcome : Option AttemptStatus) : GoResult (Option ChildStatus) :=
  match state with
  | .claimed => .ok (some .claimed)
  | .unknown => .ok (some .unknown)
  | .finalized =>
    match outcome with
    | some .applied => .ok (some .applied)
    | some .reconciling => .ok (some .reconciling)
    | _ => .error "fleet: finalized intent has invalid outcome"
  | .hold => .ok (some .hold)
  | .blocked => .ok (some .blocked)
  | .unclaimed => .ok none

/-- a child of a later wave that has not begun -/
def FleetChildRow.Unstarted (c : FleetChildRow) (fleetOperationId : String) (waveIndex : ℕ) : Prop :=
  c.fleetOperationId = fleetOperationId ∧ waveIndex < c.waveIndex ∧ c.progress.status = .pending
deriving Decidable

/-- fail-fast: block what has not begun, the intents that nobody claimed and all of the children -/
def blockLaterWaves (db : Db) (fleetOperationId : String) (waveIndex : ℕ) : Db :=
  let claims := db.mapClaims fun row =>
    if (∃ c ∈ db.fleetChildren, c.childIntentId = row.intentId ∧ c.Unstarted fleetOperationId waveIndex) ∧
        row.claim.state = some .unclaimed then
      { row.claim with state := some .blocked, gateOpen := false }
    else row.claim
  claims.mapChildren fun c =>
    if c.Unstarted fleetOperationId waveIndex then ⟨.blocked, "FAIL_FAST_BLOCKED", false⟩ else c.progress

/-- write the status of one child -/
def setChildStatus (db : Db) (childIntentId : String) (status : ChildStatus) (reasonCode : String) : Db :=
  db.mapChildren fun c =>
    if c.childIntentId = childIntentId then { c.progress with status, reasonCode } else c.progress

/-- derive the operation from its children -/
def refreshFleet (sv : Services) (db : Db) (fleetOperationId : String) : Db :=
  db.setFleet fleetOperationId fun fo =>
    { fo with
      aggregateStatus := projectAggregate (db.childrenOf fleetOperationId) fo.waves
      completedVectorDigest := completedVectorDigest sv ((db.childrenOf fleetOperationId).map FleetChildRow.shownEntry) }

/-- `ProjectIntentState` of the fleet coordinator; a transition that is not allowed is left out -/
def projectFleet (sv : Services) (intentId : String) (state : ClaimState) (outcome : Option AttemptStatus)
    (reasonCode : String) (db : Db) : GoResult Db := do
  match ← fleetChildStatus state outcome with
  | none => return db
  | some status =>
    match db.child? intentId with
    | none => return db
    | some child =>
      if allowedChildTransition child.progress.status status = false then return db
      else do
        let projected := setChildStatus db intentId status reasonCode
        let fo ← queryRow (db.fleet? child.fleetOperationId)
        let stopped :=
          if waveFailurePolicy fo.waves child.waveIndex = some .failFast ∧ status.stops = true then
            blockLaterWaves projected child.fleetOperationId child.waveIndex
          else projected
        return refreshFleet sv stopped child.fleetOperationId

/-! ## What a projection keeps -/

theorem ChildStatus.allowed_of_terminal {current next : ChildStatus} (hterminal : current.isTerminal = true)
    (h : allowedChildTransition current next = true) : next = current := by
  revert hterminal h
  cases current <;> cases next <;> decide

end MasiEdge.Control
