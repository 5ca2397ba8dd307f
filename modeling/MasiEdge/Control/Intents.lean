/-
How an effect intent gets into the ledger of the control core (`governance/intent.go`, `firewall/overlay.go`,
`firewall/revision.go`, `firewall/activation.go`): ordinary intents, the two intents of a response overlay, and the
activation that opens the gate of a baseline change.

An intent has a body, which never changes, and a claim, which does. What a transaction cannot see in these tables is an
argument: the answer of the capture tables, and the clock.

* `intent?_mapClaims`: a change of claims keeps every body;
* `authorization_some`: a proposal joined with a decision on it.
-/
import MasiEdge.Control.Governance

namespace MasiEdge.Control

open Codec Firewall

/-- a child in the plan of a fleet operation -/
structure PlannedChild where
  targetId : String
  intentId : String
  waveIndex : ℕ
  effectDigest : String
  fence : Fence
deriving DecidableEq, Repr

/-- a child in the vector a manual gate is authorized for -/
structure VectorEntry where
  targetId : String
  intentId : String
  waveIndex : ℕ
  status : ChildStatus
  reasonCode : String
  effectDigest : String
deriving DecidableEq, Repr

/-- what the services compute with -/
structure Services where
  profile : Profile
  rfc3339 : String → Option ℤ
  /-- what a JSON object gives back for a number -/
  number : ℤ → ℤ
  /-- the stored evidence references as text -/
  evidenceText : List String → String
  json : AppliedRuleReadback → String
  /-- the JSON texts of a fleet operation: its plan, and its child vector -/
  planText : List Wave → List PlannedChild → String
  vectorText : List VectorEntry → String

/-! ## Facts about a target -/

def Inventory.isActive (inv : Inventory) (targetId : String) : Bool :=
  inv.targets.any fun t => decide (t.targetId = targetId ∧ t.active = true)

/-- the assignment with the highest generation -/
def Inventory.newestAssignment (inv : Inventory) (targetId : String) : Option AssignmentRow :=
  inv.assignments.find? fun a => decide (a.targetId = targetId ∧
    ∀ x ∈ inv.assignments, x.targetId = targetId → x.assignmentGeneration ≤ a.assignmentGeneration)

def Inventory.capability? (inv : Inventory) (targetId : String) : Option CapabilityRow :=
  inv.capabilities.find? fun c => decide (c.targetId = targetId)

def AssignmentRow.Matches (a : AssignmentRow) (f : Fence) (now : ℤ) : Prop :=
  a.assignmentGeneration = f.targetAssignmentGeneration ∧ a.incarnationId = f.targetControlIncarnationId ∧
    a.actorRuntimeEpoch = f.actorRuntimeEpoch ∧ a.applicationGeneration = f.applicationGeneration ∧
    a.revoked = false ∧ now < a.expiresAtUnixMs
deriving Decidable

def CapabilityRow.Matches (c : CapabilityRow) (f : Fence) (now : ℤ) : Prop :=
  c.assignmentGeneration = f.targetAssignmentGeneration ∧ c.targetControlIncarnationId = f.targetControlIncarnationId ∧
    c.actorRuntimeEpoch = f.actorRuntimeEpoch ∧ c.applicationGeneration = f.applicationGeneration ∧
    c.p4InfoDigest = f.p4InfoDigest ∧ c.pipelineDigest = f.pipelineDigest ∧ c.capacityDigest = f.capacityDigest ∧
    c.capacityAvailable = true ∧ now < c.expiresAtUnixMs
deriving Decidable

/-- the target's newest assignment fits the fence, and `also` what else a query asks of it -/
def Inventory.assigned (inv : Inventory) (targetId : String) (f : Fence) (now : ℤ) (also : AssignmentRow → Bool) : Bool :=
  inv.isActive targetId && (inv.newestAssignment targetId).any fun a => decide (a.Matches f now) && also a

def Inventory.capable (inv : Inventory) (targetId : String) (f : Fence) (now : ℤ) : Bool :=
  (inv.capability? targetId).any fun c => decide (c.Matches f now)

/-! ## Authorization -/

/-- a proposal joined with a decision on it -/
def Db.authorization (db : Db) (proposalId decisionId : String) : Option (ProposalRow × DecisionRow) :=
  match db.proposal? proposalId, db.decision? decisionId with
  | some p, some d => if d.proposalId = proposalId then some (p, d) else none
  | _, _ => none

theorem authorization_some {db : Db} {proposalId decisionId : String} {p : ProposalRow} {d : DecisionRow} :
    db.authorization proposalId decisionId = some (p, d) ↔
      db.proposal? proposalId = some p ∧ db.decision? decisionId = some d ∧ d.proposalId = proposalId := by
  unfold Db.authorization
  cases db.proposal? proposalId with
  | none => simp
  | some =>
    cases db.decision? decisionId with
    | none => simp
    | some =>
      simp only [Option.some.injEq]
      constructor
      · intro h
        split at h
        · rename_i hd
          cases h
          exact ⟨rfl, rfl, hd⟩
        · cases h
      · rintro ⟨rfl, rfl, hd⟩
        rw [if_pos hd]

/-! ## Writing the ledger -/

/-- an update of the claims -/
def Db.mapClaims (db : Db) (f : IntentRow → Claim) : Db :=
  { db with intents := db.intents.map fun row => { row with claim := f row } }

/-- an update of one claim -/
def Db.setClaim (db : Db) (intentId : String) (f : Claim → Claim) : Db :=
  db.mapClaims fun row => if row.intentId = intentId then f row.claim else row.claim

theorem intent?_mapClaims (db : Db) (f : IntentRow → Claim) (intentId : String) :
    (db.mapClaims f).intent? intentId = (db.intent? intentId).map fun row => { row with claim := f row } := by
  have hkey : ∀ row : IntentRow, IntentRow.intentId { row with claim := f row } = row.intentId := fun _ => rfl
  exact Table.lookup_map hkey db.intents intentId

theorem intent?_setClaim (db : Db) (intentId : String) (f : Claim → Claim) (other : String) :
    (db.setClaim intentId f).intent? other =
      (db.intent? other).map fun row => if other = intentId then { row with claim := f row.claim } else row := by
  rw [Db.setClaim, intent?_mapClaims]
  cases h : db.intent? other with
  | none => rfl
  | some row =>
    have hid : row.intentId = other := Table.lookup_key h
    by_cases ho : other = intentId <;> simp [hid, ho]

/-- the unique keys of the ledger -/
def intentConflict (row other : IntentRow) : Prop :=
  other.intentId = row.intentId ∨
    (row.intent.isFleetParent = false ∧ other.intent.isFleetParent = false ∧
      (other.intent.operationId = row.intent.operationId ∨
        (row.fleetOperationId.isSome = true ∧ other.fleetOperationId = row.fleetOperationId ∧
          other.intent.targetId = row.intent.targetId ∧ other.intent.effectDigest = row.intent.effectDigest)))
deriving Decidable

/-- a new row: nobody has claimed it -/
def newIntent (intent : Intent) (proposalDigest : String) (fleetOperationId : Option String) (gateOpen : Bool)
    (notBeforeUnixMs : ℤ) : IntentRow :=
  ⟨intent, proposalDigest, fleetOperationId, notBeforeUnixMs,
    ⟨if intent.isFleetParent then none else some .unclaimed, none, none, gateOpen⟩⟩

/-- `INSERT … ON CONFLICT DO NOTHING`, and what the caller asks of the row that was there -/
def insertOrRecall (row : IntentRow) (same : IntentRow → Prop) [DecidablePred same] (conflict : String) (db : Db) :
    GoResult Db := do
  if ∃ other ∈ db.intents, intentConflict row other then
    let stored ← queryRow (db.intents.find? fun other => other.intent.operationId == row.intent.operationId)
    reject (¬ same stored) conflict
    return db
  else return { db with intents := db.intents ++ [row] }

/-! ## Payloads -/

/-- `ComputeEffectDigest`; a rule revision outside int64 cannot be decoded -/
def effectDigestOf (sv : Services) (intent : Intent) : String :=
  if ∀ rule ∈ intent.payload.overlayRules, rule.ruleRevision < 2 ^ 63 then
    computeEffectDigest sv.profile sv.rfc3339 intent
  else ""

/-- the digest does not bind the fleet operation -/
theorem effectDigestOf_fleet (sv : Services) (intent : Intent) (fleetOperationId : String) :
    effectDigestOf sv { intent with fleetOperationId } = effectDigestOf sv intent := by
  have h : toEdgeEffectIntent sv.profile sv.rfc3339 { intent with fleetOperationId } =
      toEdgeEffectIntent sv.profile sv.rfc3339 intent := rfl
  simp only [effectDigestOf, computeEffectDigest, h]

def capturePayload (policyDigest : String) : EffectPayload :=
  { schemaVersion := "p4-effect-payload/v1", operation := .unsupported, policyRevisionDigest := policyDigest
    defaultAction := "", baselineRules := [], overlayRules := [], rulesSize := 4 }

/-- the baseline payload of a stored revision -/
def storedRevisionPayload (sv : Services) (db : Db) (policyDigest targetId scope : String) : GoResult EffectPayload := do
  let row ← wrap "governance: exact firewall revision unavailable: " (queryRow (db.revisions.find? fun r =>
    decide (r.revisionDigest = policyDigest ∧ r.revision.targetId = targetId ∧ r.revision.scope = scope)))
  let payload :=
    { revisionPayload sv.profile.hash row.revision row.rulesSize with policyRevisionDigest := policyDigest }
  validateEffectPayload payload
  return payload

/-- the overlay payload of the newest stored overlay; it is a delete for the intent the overlay names -/
def storedOverlayPayload (sv : Services) (db : Db) (policyDigest targetId scope intentId : String) :
    GoResult EffectPayload := do
  let row ← wrap "governance: exact overlay rule unavailable: " (queryRow (db.overlays.reverse.find? fun o =>
    decide (o.targetId = targetId ∧ o.scope = scope ∧ o.rule.canonicalRuleDigest = policyDigest ∧ o.deleted = false)))
  let operation := if row.deleteIntentId = intentId then Operation.overlayDelete else .overlayUpsert
  let payload :=
    { overlayPayload sv.number row.rule row.expiresAtUnixMs operation row.rulesSize with
      policyRevisionDigest := policyDigest }
  validateEffectPayload payload
  return payload

/-- `loadEffectPayloadTx`, with the effect digest of the intent that gets the payload; `capture` is the digest of a
capture the capture tables allow -/
def loadEffectPayload (sv : Services) (db : Db) (policyDigest scope : String) (intent : Intent)
    (capture : GoResult String) : GoResult Intent := do
  match intent.effectKind with
  | .firewallBaselineActivate | .firewallRollback =>
    let payload ← storedRevisionPayload sv db policyDigest intent.targetId scope
    return { intent with payload, effectDigest := effectDigestOf sv { intent with payload } }
  | .firewallOverlay =>
    let payload ← storedOverlayPayload sv db policyDigest intent.targetId scope intent.effectIntentId
    return { intent with payload, effectDigest := effectDigestOf sv { intent with payload } }
  | .boundedCapture =>
    let effectDigest ← capture
    return { intent with payload := capturePayload policyDigest, effectDigest }
  | .other name _ => .error ("governance: effect kind " ++ name ++ " is not a P4 effect intent")

/-! ## Ordinary intents -/

structure PreflightToken where
  proposalDigest : String
  targetId : String
  targetSetDigest : String
  fence : Fence
  policyDigest : String
  evidenceDigest : String
  issuedAtUnixMs : ℤ
  expiresAtUnixMs : ℤ
  traceId : String
deriving DecidableEq, Repr

def PreflightToken.Valid (token : PreflightToken) (now : ℤ) : Prop := token.issuedAtUnixMs ≤ now ∧ now < token.expiresAtUnixMs
deriving Decidable

/-- the transaction of `IntentService.Create` -/
def createIntentTx (sv : Services) (now : ℤ) (token : PreflightToken) (input : Intent) (capture : GoResult String) (db : Db) :
    GoResult Db := do
  let (p, d) ← queryRow ((db.authorization input.proposalId input.decisionId).filter fun x => x.1.supersededBy.isNone)
  reject (d.approved = false ∨ p.proposal.expiresAtUnixMs ≤ now ∨ d.expiresAtUnixMs ≤ now ∨
      p.proposal.expiresAtUnixMs < input.deadlineUnixMs ∨ d.expiresAtUnixMs < input.deadlineUnixMs)
    "governance: authorization/deadline stale"
  reject (p.proposalDigest ≠ token.proposalDigest ∨ p.proposal.targetSetDigest ≠ token.targetSetDigest ∨
      p.proposal.policyDigest ≠ token.policyDigest ∨
      token.evidenceDigest ≠ sha256 sv.profile.hash (asBytes (sv.evidenceText p.proposal.evidenceRefs)) ∨
      input.targetId ≠ token.targetId ∨ input.fence ≠ token.fence ∨ input.effectKind ≠ p.proposal.effectKind ∨
      input.riskLevel ≠ p.proposal.riskLevel ∨ input.authorizationDigest ≠ d.decisionDigest ∨ input.actor ≠ d.actor ∨
      input.traceId ≠ token.traceId)
    "governance: intent/preflight/decision fence mismatch"
  reject (input.targetId ∉ p.proposal.targetIds) "governance: intent target outside frozen set"
  let intent ← loadEffectPayload sv db p.proposal.policyDigest p.proposal.scope input capture
  reject (input.effectDigest ≠ "" ∧ input.effectDigest ≠ intent.effectDigest)
    "governance: caller effect digest does not bind canonical payload"
  reject ((db.inventory.assigned intent.targetId intent.fence now (fun _ => true) &&
      db.inventory.capable intent.targetId intent.fence now) = false)
    "governance: target/assignment/capability drifted"
  -- a baseline change waits for its activation
  let row := newIntent { intent with fleetOperationId := "" } p.proposalDigest none (decide (¬ intent.effectKind.IsBaseline)) 0
  insertOrRecall row (fun stored => stored.intent.effectDigest = row.intent.effectDigest)
    "governance: operation digest conflict" db

/-- `IntentService.Create` -/
def createIntent (sv : Services) (now : ℤ) (proposalId decisionId : String) (token : PreflightToken) (input : Intent)
    (capture : GoResult String) (db : Db) : GoResult Db := do
  reject (proposalId = "" ∨ decisionId = "" ∨ input.effectIntentId = "" ∨ input.operationId = "" ∨ input.targetId = "" ∨
      input.isFleetParent = true ∨ ¬ token.Valid now)
    "governance: malformed/expired intent or preflight token"
  reject (input.requiredWriteAtomicity ≠ "CONTINUE_ON_ERROR" ∧ input.requiredWriteAtomicity ≠ "DATAPLANE_ATOMIC")
    "governance: invalid write atomicity"
  validateFence input.fence
  reject (validSha256 input.authorizationDigest = false) "governance: malformed authorization digest"
  reject (input.deadlineUnixMs ≤ now) "governance: intent deadline expired"
  input.actor.validate
  wrap "governance: create intent: " (createIntentTx sv now token { input with proposalId, decisionId } capture db)

/-! ## Overlays -/

def insertOverlayIntent (intent : Intent) (notBefore : ℤ) (db : Db) : GoResult Db := do
  let p ← queryRow (db.proposal? intent.proposalId)
  insertOrRecall (newIntent { intent with fleetOperationId := "" } p.proposalDigest none true notBefore)
    (fun stored => stored.intentId = intent.effectIntentId ∧ stored.intent.effectDigest = intent.effectDigest)
    "firewall: overlay intent immutable identity conflict" db

/-- the row an overlay gets -/
def overlayRow (ov : Overlay) (rulesSize : ℕ) : OverlayRow :=
  { overlayRuleId := ov.overlayRuleId, targetId := ov.targetId, rule := ov.rule, rulesSize
    expiresAtUnixMs := ov.expiresAtUnixMs, deleted := false, upsertIntentId := ov.upsertIntent.effectIntentId
    deleteIntentId := ov.deleteIntent.effectIntentId, operationId := ov.operationId, scope := ov.scope }

/-- `INSERT … ON CONFLICT (overlay_rule_id) DO NOTHING`; the intent ids are unique keys, too -/
def insertOverlay (row : OverlayRow) (db : Db) : GoResult Db := do
  match db.overlays.find? fun o => o.overlayRuleId == row.overlayRuleId with
  | some stored =>
    reject (stored.targetId ≠ row.targetId ∨ stored.rule.canonicalRuleDigest ≠ row.rule.canonicalRuleDigest ∨
        stored.upsertIntentId ≠ row.upsertIntentId ∨ stored.deleteIntentId ≠ row.deleteIntentId)
      "firewall: overlay immutable identity conflict"
    return db
  | none =>
    reject (∃ o ∈ db.overlays, o.upsertIntentId = row.upsertIntentId ∨ o.deleteIntentId = row.deleteIntentId)
      "duplicate key value violates unique constraint"
    return { db with overlays := db.overlays ++ [row] }

/-- the transaction of `OverlayService.Create` -/
def createOverlayTx (now : ℤ) (ov : Overlay) (upsert delete : Intent) (rulesSize : ℕ) (db : Db) : GoResult Db := do
  let (p, d) ← queryRow ((db.authorization upsert.proposalId upsert.decisionId).filter fun x =>
    decide (x.2.approved = true ∧ x.1.proposal.effectKind = .firewallOverlay ∧ ov.targetId ∈ x.1.proposal.targetIds))
  reject (p.proposal.scope ≠ ov.scope ∨ p.proposal.policyDigest ≠ ov.rule.canonicalRuleDigest ∨
      p.proposal.riskLevel ≠ upsert.riskLevel ∨ d.decisionDigest ≠ upsert.authorizationDigest ∨ d.actor ≠ ov.actor ∨
      p.proposal.expiresAtUnixMs ≤ now ∨ d.expiresAtUnixMs ≤ now ∨ upsert.deadlineUnixMs ≤ now ∨
      p.proposal.expiresAtUnixMs < upsert.deadlineUnixMs ∨ d.expiresAtUnixMs < upsert.deadlineUnixMs)
    "firewall: overlay governance authorization stale/mismatched"
  reject ((db.inventory.assigned ov.targetId upsert.fence now (fun a =>
      decide (a.edgeWorkloadRef = upsert.fence.edgeWorkloadRef ∧ a.electionFloor = upsert.fence.electionIdLow)) &&
      db.inventory.capable ov.targetId upsert.fence now) = false)
    "firewall: overlay target/assignment/capability drifted"
  let db ← insertOverlayIntent upsert 0 db
  let db ← insertOverlayIntent delete ov.expiresAtUnixMs db
  insertOverlay (overlayRow ov rulesSize) db

/-- `OverlayService.Create` -/
def createOverlay (sv : Services) (now : ℤ) (ov : Overlay) (rulesSize : ℕ) (db : Db) : GoResult Db := do
  let (upsert, delete) ← prepareOverlay sv.profile sv.rfc3339 sv.number now ov rulesSize
  wrap "firewall: create overlay: " (createOverlayTx now ov upsert delete rulesSize db)

/-- `ExpireOverlays` and `MarkDeleted`: the overlay of a finalized delete intent is deleted -/
def markDeleted (overlayRuleId : String) (db : Db) : GoResult Db := do
  let row ← queryRow (db.overlays.find? fun o => o.overlayRuleId == overlayRuleId)
  reject (((db.intent? row.deleteIntentId).bind fun i => i.claim.state) ≠ some .finalized)
    "firewall: delete intent not finalized or overlay absent"
  return { db with overlays := Table.modify OverlayRow.overlayRuleId db.overlays overlayRuleId fun o =>
    { o with deleted := true } }

/-! ## Revisions and activations -/

/-- `RevisionService.Create`; a row that is there stays -/
def createRevision (hash : Bytes → String) (rev : Revision) (rulesSize : ℕ) (db : Db) : GoResult Db := do
  validateRevision hash rev
  let row : RevisionRow := ⟨rev, computeRevisionDigest hash rev, rulesSize⟩
  match db.revisions.find? fun r => decide (r.revision.revisionId = rev.revisionId ∨
      (r.revision.targetId = rev.targetId ∧ r.revisionDigest = row.revisionDigest)) with
  | some stored =>
    reject (stored.revision.revisionId ≠ rev.revisionId ∨ stored.revision.targetId ≠ rev.targetId ∨
        stored.revision.defaultAction ≠ rev.defaultAction ∨ stored.revision.scope ≠ rev.scope ∨
        canonicalRuleOrder stored.revision.rules ≠ canonicalRuleOrder rev.rules)
      "firewall: immutable revision identity conflict"
    return db
  | none => return { db with revisions := db.revisions ++ [row] }

/-- an activation that is under way -/
def ActivationRow.IsOpen (a : ActivationRow) : Prop := a.result = .prepared ∨ a.result = .reconciling
deriving Decidable

/-- the intent an activation opens the gate of -/
def activationIntent (db : Db) (targetId revisionId operationId : String) : Option IntentRow :=
  db.intents.find? fun i => decide (i.intent.operationId = operationId ∧ i.intent.targetId = targetId ∧
    i.intent.effectKind.IsBaseline) && (db.proposal? i.intent.proposalId).any fun p =>
      db.revisions.any fun r => decide (r.revision.revisionId = revisionId ∧ r.revisionDigest = p.proposal.policyDigest)

/-- the binding a target without a row has -/
def unbound : Binding :=
  ⟨0, none, 0, "sha256:0000000000000000000000000000000000000000000000000000000000000000"⟩

/-- what the selector of the target is bound to now -/
def Db.bindingOf (db : Db) (targetId : String) : Binding := ((db.binding? targetId).map BindingRow.binding).getD unbound

/-- `INSERT … ON CONFLICT (operation_id) DO NOTHING`; the revision is one of the target, which has one open activation -/
def insertActivation (row : ActivationRow) (db : Db) : GoResult Db := do
  match db.activation? row.operationId with
  | some _ => return db
  | none =>
    reject (¬ ∃ r ∈ db.revisions, r.revision.revisionId = row.desiredRevisionId ∧ r.revision.targetId = row.targetId)
      "insert or update violates foreign key constraint"
    reject (∃ a ∈ db.activations, a.targetId = row.targetId ∧ a.IsOpen) "duplicate key value violates unique constraint"
    return { db with activations := db.activations ++ [row] }

/-- `ActivationService.Activate` -/
def activate (targetId desiredRevisionId operationId : String) (db : Db) : GoResult Db := do
  reject (targetId = "" ∨ desiredRevisionId = "" ∨ operationId = "") "firewall: activation identity/service malformed"
  match activationIntent db targetId desiredRevisionId operationId with
  | none => .error "firewall: exact authorized effect intent unavailable"
  | some row => do
    reject (row.claim.state ≠ some .unclaimed) "firewall: activation intent is stale, drifted, or already claimed"
    let expected := db.bindingOf targetId
    let db ← insertActivation ⟨operationId, targetId, desiredRevisionId, .prepared, expected⟩ db
    let stored ← queryRow (db.activation? operationId)
    reject (stored.targetId ≠ targetId ∨ stored.desiredRevisionId ≠ desiredRevisionId ∨ stored.expected ≠ expected)
      "firewall: activation operation identity conflict"
    return db.setClaim row.intentId fun claim => { claim with gateOpen := true }

end MasiEdge.Control
