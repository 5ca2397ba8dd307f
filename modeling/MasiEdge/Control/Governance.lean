/-
The governance tables of the control core (`security/authz.go`, `governance/proposal.go`, `governance/decision.go`): effect
proposals, the authorization decisions on them, and the maker-checker rules in between.

A transaction is a function from the tables to the tables or an error, and an error leaves them as they were. Deciding has
two parts, as in the source: the proposal is loaded and judged before the transaction that appends the decision, so other
transactions may come in between. A decision row also keeps the role mapping it was judged under, which the source keeps
only by its digest. The clock is read once per call.

* `canApprove_maker_checker`: what an approval of an R2 or R3 proposal proves;
* `authorizeScope_exact`: what a scope check proves, and for which requests;
* `decideProposal_ok`: what a decision that may be appended has.
-/
import MasiEdge.Base.Table
import MasiEdge.Control.Policy
import MasiEdge.Control.Readback

namespace MasiEdge.Control

open Codec Firewall

/-! ## Names -/

def RiskLevel.text : RiskLevel → String
  | .r0 => "R0"
  | .r1 => "R1"
  | .r2 => "R2"
  | .r3 => "R3"

def EffectKind.text : EffectKind → String
  | .firewallBaselineActivate => "firewall-baseline-activate"
  | .firewallOverlay => "firewall-overlay"
  | .firewallRollback => "firewall-rollback"
  | .boundedCapture => "bounded-capture"
  | .other name _ => name

/-- a change of the firewall baseline -/
def EffectKind.IsBaseline (kind : EffectKind) : Prop := kind = .firewallBaselineActivate ∨ kind = .firewallRollback
deriving Decidable

/-- `AuthzContextLevel`; `unset` is the empty one -/
inductive AuthzLevel where
  | operator
  | scopedOperator
  | platformAdmin
  | analyst
  | auditor
  | unset
deriving DecidableEq, Repr

def AuthzLevel.text : AuthzLevel → String
  | .operator => "operator"
  | .scopedOperator => "scoped-operator"
  | .platformAdmin => "platform-admin"
  | .analyst => "analyst"
  | .auditor => "auditor"
  | .unset => ""

def AuthzLevel.IsOperator (level : AuthzLevel) : Prop := level = .operator ∨ level = .scopedOperator
deriving Decidable

inductive StepUpType where
  | none
  | webAuthn
  | passkey
  | hardwareKey
deriving DecidableEq, Repr

def StepUpType.text : StepUpType → String
  | .none => "none"
  | .webAuthn => "webauthn-fido2"
  | .passkey => "passkey"
  | .hardwareKey => "hardware-key"

def StepUpType.isPhishingResistant : StepUpType → Bool
  | .none => false
  | _ => true

structure AuthzContext where
  stepUpType : StepUpType
  stepUpAgeMs : ℤ
  phishingResistant : Bool
  roleMappingDigest : String
  level : AuthzLevel
deriving DecidableEq, Repr

/-- `R2StepUpFresh`: phishing-resistant and at most five minutes old -/
def AuthzContext.StepUpFresh (ctx : AuthzContext) : Prop :=
  ctx.phishingResistant = true ∧ ctx.stepUpType.isPhishingResistant = true ∧ 0 ≤ ctx.stepUpAgeMs ∧ ctx.stepUpAgeMs ≤ 300000
deriving Decidable

/-! ## Role mappings -/

structure Scope where
  scopeId : String
  targetSetDigest : String
  effectKinds : List EffectKind
  levels : List AuthzLevel
deriving DecidableEq, Repr

structure RoleScopeMapping where
  digest : String
  /-- scopes by actor reference -/
  actorScopes : List (String × List Scope)
deriving DecidableEq, Repr

def authorize (hash : Bytes → String) (m : RoleScopeMapping) (actor : Actor) (level : AuthzLevel) : GoResult (List Scope) := do
  let all := (m.actorScopes.lookup (actor.ref hash)).getD []
  reject (all = []) ("security: " ++ level.text ++ " denied for " ++ actor.ref hash ++ " (default-deny)")
  let scopes := all.filter fun scope => decide (level ∈ scope.levels)
  reject (scopes = []) ("security: " ++ level.text ++ " denied for " ++ actor.ref hash ++ " (no matching role grant)")
  return scopes

/-- the scope covers the request; an empty target-set digest asks for none -/
def Scope.Covers (scope : Scope) (scopeId : String) (kind : EffectKind) (targetSetDigest : String) : Prop :=
  scope.scopeId = scopeId ∧ (targetSetDigest = "" ∨ scope.targetSetDigest = targetSetDigest) ∧
    (kind.text = "" ∨ kind ∈ scope.effectKinds)
deriving Decidable

def authorizeScope (hash : Bytes → String) (m : RoleScopeMapping) (actor : Actor) (level : AuthzLevel) (scopeId : String)
    (kind : EffectKind) (targetSetDigest : String) : GoResult Scope := do
  let scopes ← authorize hash m actor level
  match scopes.find? fun scope => decide (scope.Covers scopeId kind targetSetDigest) with
  | some scope => return scope
  | none => .error ("security: " ++ level.text ++ " denied for exact scope " ++ scopeId.quote)

def canApprove (risk : RiskLevel) (proposer : Actor) (proposerLevel : AuthzLevel) (approver : Actor) (ctx : AuthzContext) :
    GoResult Unit :=
  match risk with
  | .r0 => reject (¬ ctx.level.IsOperator) "security: R0 mutation approver must be operator/scoped-operator"
  | .r1 => do
    reject (proposer ≠ approver) "security: R1 allows same-Operator proposer/approver only"
    reject (¬ ctx.level.IsOperator) "security: R1 approver must be operator/scoped-operator"
    reject (¬ proposerLevel.IsOperator) "security: R1 proposer must be operator/scoped-operator"
  | .r2 => do
    reject (proposer = approver) "security: R2 self-approval rejected (proposer != approver)"
    reject (¬ ctx.StepUpFresh) "security: R2 requires fresh phishing-resistant step-up <=5min"
    reject (¬ ctx.level.IsOperator) "security: R2 approver must be operator/scoped-operator"
  | .r3 => do
    reject (proposerLevel ≠ .platformAdmin) "security: R3 maker must be platform-admin"
    reject (proposer = approver) "security: R3 self-approval rejected (maker != checker)"
    reject (¬ ctx.StepUpFresh) "security: R3 checker requires fresh phishing-resistant step-up"
    reject (¬ ctx.level.IsOperator) "security: R3 checker must be operator/scoped-operator"

/-! ## Tables -/

structure Proposal where
  proposalId : String
  actor : Actor
  actorLevel : AuthzLevel
  scope : String
  riskLevel : RiskLevel
  effectKind : EffectKind
  targetSetDigest : String
  targetIds : List String
  policyDigest : String
  evidenceRefs : List String
  expiresAtUnixMs : ℤ
  note : String
  traceId : String
  idempotencyKey : String
deriving DecidableEq, Repr

structure ProposalRow where
  proposal : Proposal
  proposalDigest : String
  supersededBy : Option String
deriving DecidableEq, Repr

def ProposalRow.proposalId (row : ProposalRow) : String := row.proposal.proposalId

structure DecisionRow where
  decisionId : String
  proposalId : String
  proposalDigest : String
  actor : Actor
  riskLevel : RiskLevel
  approved : Bool
  authz : AuthzContext
  decisionDigest : String
  reasonCode : String
  expiresAtUnixMs : ℤ
  traceId : String
  /-- the mapping whose digest `authz` has -/
  mapping : RoleScopeMapping
deriving DecidableEq, Repr

inductive AttemptStatus where
  | applied
  | hold
  | unknown
  | reconciling
deriving DecidableEq, Repr

inductive ClaimState where
  | unclaimed
  | claimed
  | unknown
  | hold
  | blocked
  | finalized
deriving DecidableEq, Repr

/-- what changes about an intent -/
structure Claim where
  /-- NULL for a fleet parent -/
  state : Option ClaimState
  leaseId : Option String
  expiresAtUnixMs : Option ℤ
  gateOpen : Bool
deriving DecidableEq, Repr

structure IntentRow where
  intent : Intent
  proposalDigest : String
  /-- NULL outside a fleet operation -/
  fleetOperationId : Option String
  notBeforeUnixMs : ℤ
  claim : Claim
deriving DecidableEq, Repr

def IntentRow.intentId (row : IntentRow) : String := row.intent.effectIntentId

/-- one attempt to bring the effect of an intent about -/
structure AttemptRow where
  intentId : String
  attemptNumber : ℕ
  status : AttemptStatus
  readbackDigest : String
  expectedEntries : ℕ
  observedEntries : ℕ
  mismatchedEntries : ℕ
  /-- NULL when nothing was executed -/
  activeBank : Option ℕ
deriving DecidableEq, Repr

inductive AckState where
  | pending
  | acked
  | exhausted
deriving DecidableEq, Repr

structure AckRow where
  operationId : String
  effectIntentId : String
  resultDigest : String
  committedAtUnixMs : ℤ
  state : AckState
  attempts : ℕ
  nextAttemptAtUnixMs : ℤ
deriving DecidableEq, Repr

inductive FailurePolicy where
  | failFast
  | continueIsolated
  | manualGate
deriving DecidableEq, Repr

structure Wave where
  waveIndex : ℕ
  targetIds : List String
  parallelLimit : ℕ
  failurePolicy : FailurePolicy
  gateOpen : Bool
deriving DecidableEq, Repr

inductive AggregateStatus where
  | planned
  | running
  | partialDone
  | reconciling
  | applied
  | failed
deriving DecidableEq, Repr

structure FleetRow where
  fleetOperationId : String
  targetSetDigest : String
  waves : List Wave
  parentIntentId : String
  aggregateStatus : AggregateStatus
  scope : String
  operationDigest : String
  completedVectorDigest : String
deriving DecidableEq, Repr

inductive ChildStatus where
  | pending
  | claimed
  | executing
  | applied
  | hold
  | unknown
  | reconciling
  | failed
  | skipped
  | blocked
deriving DecidableEq, Repr

/-- what changes about a child -/
structure Progress where
  status : ChildStatus
  reasonCode : String
  gateOpen : Bool
deriving DecidableEq, Repr

structure FleetChildRow where
  fleetOperationId : String
  targetId : String
  effectDigest : String
  childIntentId : String
  waveIndex : ℕ
  progress : Progress
deriving DecidableEq, Repr

/-- the authorization of one manual gate -/
structure GateDecisionRow where
  fleetOperationId : String
  currentWave : ℕ
  nextWave : ℕ
  completedVectorDigest : String
  proposalId : String
  decisionId : String
deriving DecidableEq, Repr

structure OverlayRow where
  overlayRuleId : String
  targetId : String
  rule : PolicyOverlayRule
  /-- bytes of the rule in an intent's payload -/
  rulesSize : ℕ
  expiresAtUnixMs : ℤ
  deleted : Bool
  upsertIntentId : String
  deleteIntentId : String
  operationId : String
  scope : String
deriving DecidableEq, Repr

structure RevisionRow where
  revision : Revision
  revisionDigest : String
  rulesSize : ℕ
deriving DecidableEq, Repr

inductive ActivationResult where
  | prepared
  | reconciling
  | applied
  | hold
deriving DecidableEq, Repr

/-- what the selector of a target is bound to -/
structure Binding where
  version : ℕ
  currentRevisionId : Option String
  activeBank : ℕ
  casDigest : String
deriving DecidableEq, Repr

structure BindingRow where
  targetId : String
  binding : Binding
deriving DecidableEq, Repr

structure ActivationRow where
  operationId : String
  targetId : String
  desiredRevisionId : String
  result : ActivationResult
  /-- the binding when the activation was prepared -/
  expected : Binding
deriving DecidableEq, Repr

structure TargetRow where
  targetId : String
  /-- `status = 'active'` -/
  active : Bool
deriving DecidableEq, Repr

/-- with the two checks of the table -/
structure AssignmentRow where
  targetId : String
  assignmentGeneration : ℤ
  incarnationId : String
  edgeWorkloadRef : String
  actorRuntimeEpoch : String
  applicationGeneration : ℤ
  electionFloor : ℤ
  electionCeiling : ℤ
  expiresAtUnixMs : ℤ
  revoked : Bool
  floor_pos : 1 ≤ electionFloor
  election_range : electionFloor ≤ electionCeiling
deriving DecidableEq, Repr

structure CapabilityRow where
  targetId : String
  targetControlIncarnationId : String
  assignmentGeneration : ℤ
  actorRuntimeEpoch : String
  applicationGeneration : ℤ
  p4InfoDigest : String
  pipelineDigest : String
  capacityDigest : String
  capacityAvailable : Bool
  expiresAtUnixMs : ℤ
deriving DecidableEq, Repr

/-- what is known of the targets; other services write it -/
structure Inventory where
  targets : List TargetRow
  assignments : List AssignmentRow
  capabilities : List CapabilityRow
deriving DecidableEq, Repr

structure Db where
  proposals : List ProposalRow
  decisions : List DecisionRow
  intents : List IntentRow
  attempts : List AttemptRow
  acks : List AckRow
  fleets : List FleetRow
  fleetChildren : List FleetChildRow
  gateDecisions : List GateDecisionRow
  overlays : List OverlayRow
  revisions : List RevisionRow
  bindings : List BindingRow
  activations : List ActivationRow
  inventory : Inventory
deriving DecidableEq, Repr

def Db.empty : Db := ⟨[], [], [], [], [], [], [], [], [], [], [], [], ⟨[], [], []⟩⟩

def Db.proposal? (db : Db) (proposalId : String) : Option ProposalRow :=
  Table.lookup ProposalRow.proposalId db.proposals proposalId

def Db.decision? (db : Db) (decisionId : String) : Option DecisionRow :=
  Table.lookup DecisionRow.decisionId db.decisions decisionId

def Db.intent? (db : Db) (intentId : String) : Option IntentRow := Table.lookup IntentRow.intentId db.intents intentId

def Db.fleet? (db : Db) (fleetOperationId : String) : Option FleetRow :=
  Table.lookup FleetRow.fleetOperationId db.fleets fleetOperationId

def Db.child? (db : Db) (childIntentId : String) : Option FleetChildRow :=
  Table.lookup FleetChildRow.childIntentId db.fleetChildren childIntentId

def Db.activation? (db : Db) (operationId : String) : Option ActivationRow :=
  Table.lookup ActivationRow.operationId db.activations operationId

def Db.binding? (db : Db) (targetId : String) : Option BindingRow := Table.lookup BindingRow.targetId db.bindings targetId

def Db.ack? (db : Db) (operationId : String) : Option AckRow := Table.lookup AckRow.operationId db.acks operationId

/-- a query of one row -/
def queryRow {α : Type} (x : Option α) : GoResult α :=
  match x with
  | some a => .ok a
  | none => .error "no rows in result set"

@[simp] theorem queryRow_ok {α : Type} {x : Option α} {a : α} : queryRow x = .ok a ↔ x = some a := by
  cases x <;> simp [queryRow]

/-! ## Proposals -/

/-- an upper-case letter, or one of the other characters of a reason code -/
def isReasonByte (first : Bool) (byte : UInt8) : Bool :=
  let b := byte.toNat
  (65 ≤ b && b ≤ 90) || (!first && ((48 ≤ b && b ≤ 57) || b == 95))

/-- `^[A-Z][A-Z0-9_]{0,63}$` -/
def isReasonCode (code : String) : Bool :=
  match asBytes code with
  | [] => false
  | b :: rest => isReasonByte true b && rest.length ≤ 63 && rest.all (isReasonByte false)

/-- identities that are empty, too long or repeated -/
def malformedIds (limit : ℕ) (ids : List String) : Prop :=
  (∃ id ∈ ids, id = "" ∨ limit < (asBytes id).length) ∨ ¬ ids.Nodup
deriving Decidable

def validateProposal (now : ℤ) (p : Proposal) : GoResult Unit := do
  reject (p.proposalId = "" ∨ p.scope = "" ∨ p.idempotencyKey = "" ∨ 128 < (asBytes p.idempotencyKey).length)
    "governance: proposal_id and scope required"
  reject (p.riskLevel = .r0 ∧ (p.effectKind ≠ .boundedCapture ∨ ¬ p.actorLevel.IsOperator ∨ p.targetIds.length ≠ 1))
    "governance: R0 governance is limited to single-target Operator bounded capture"
  wrap "governance: actor: " p.actor.validate
  reject (p.actorLevel ≠ .analyst ∧ p.actorLevel ≠ .operator ∧ p.actorLevel ≠ .scopedOperator ∧ p.actorLevel ≠ .platformAdmin)
    ("governance: invalid proposer authorization level " ++ p.actorLevel.text.quote)
  reject (p.targetIds = [] ∨ 128 < p.targetIds.length) "governance: target_ids must contain 1..128 identities"
  reject (malformedIds 128 p.targetIds) "governance: target_ids malformed or duplicated"
  reject (p.expiresAtUnixMs ≤ now) "governance: proposal expiry must be in the future"
  reject (2048 < (asBytes p.note).length) "governance: note exceeds 2 KiB"
  reject (128 < p.evidenceRefs.length) "governance: too many evidence_refs"
  reject (malformedIds 256 p.evidenceRefs) "governance: evidence_refs malformed or duplicated"

/-- `sort.Strings` -/
def sortStrings (ids : List String) : List String := ids.insertionSort (· ≤ ·)

def computeProposalDigest (hash : Bytes → String) (p : Proposal) : String :=
  sha256 hash (asBytes ("|".intercalate
    [p.actor.ref hash, p.actorLevel.text, p.scope, p.riskLevel.text, p.effectKind.text, p.targetSetDigest, p.policyDigest,
     p.note, toString p.expiresAtUnixMs] ++
    String.join ((sortStrings p.targetIds).map ("|target:" ++ ·)) ++ String.join ((sortStrings p.evidenceRefs).map ("|" ++ ·))))

/-- the row `Create` would insert -/
def proposalRow (hash : Bytes → String) (p : Proposal) : ProposalRow :=
  let sorted := { p with targetIds := sortStrings p.targetIds, evidenceRefs := sortStrings p.evidenceRefs }
  ⟨sorted, computeProposalDigest hash sorted, none⟩

/-- the three unique keys of the table -/
def proposalConflict (hash : Bytes → String) (row other : ProposalRow) : Prop :=
  other.proposalId = row.proposalId ∨ other.proposalDigest = row.proposalDigest ∨
    (other.proposal.actor.ref hash = row.proposal.actor.ref hash ∧
      other.proposal.idempotencyKey = row.proposal.idempotencyKey)
deriving Decidable

/-- `ProposalService.Create` -/
def createProposal (hash : Bytes → String) (now : ℤ) (p : Proposal) (db : Db) : GoResult Db := do
  validateProposal now p
  let row := proposalRow hash p
  if ∃ other ∈ db.proposals, proposalConflict hash row other then
    let existing ← wrap "governance: proposal conflict: " (queryRow (db.proposals.find? fun other =>
      other.proposal.actor.ref hash == p.actor.ref hash && other.proposal.idempotencyKey == p.idempotencyKey))
    reject (existing.proposalDigest ≠ row.proposalDigest)
      "governance: idempotency key reused with different proposal digest"
    return db
  else return { db with proposals := db.proposals ++ [row] }

/-- a proposal that is not superseded -/
def openProposal (db : Db) (proposalId : String) : Option ProposalRow :=
  (db.proposal? proposalId).filter fun row => row.supersededBy.isNone

/-- `fmt.Sprint` of a list of strings -/
def sprint (ids : List String) : String := "[" ++ " ".intercalate ids ++ "]"

/-- `ProposalService.Supersede` -/
def supersede (oldId replacementId : String) (actor : Actor) (reasonCode : String) (db : Db) : GoResult Db := do
  reject (oldId = "" ∨ replacementId = "" ∨ oldId = replacementId ∨ isReasonCode reasonCode = false)
    "governance: supersede identity/reason malformed"
  actor.validate
  let old ← queryRow (openProposal db oldId)
  let replacement ← queryRow (openProposal db replacementId)
  reject (old.proposal.scope ≠ replacement.proposal.scope ∨ old.proposal.effectKind ≠ replacement.proposal.effectKind ∨
      old.proposal.targetSetDigest ≠ replacement.proposal.targetSetDigest ∨
      sprint old.proposal.targetIds ≠ sprint replacement.proposal.targetIds)
    "governance: replacement scope/effect/target set differs"
  reject ((∃ d ∈ db.decisions, d.proposalId = oldId) ∨ ∃ i ∈ db.intents, i.intent.proposalId = oldId)
    "governance: decided/intent-backed proposal cannot be superseded"
  -- one proposal replaces at most one other
  reject (∃ other ∈ db.proposals, other.supersededBy = some replacementId) "governance: supersede CAS conflict"
  return { db with
    proposals := Table.modify ProposalRow.proposalId db.proposals oldId fun row =>
      { row with supersededBy := some replacementId } }

/-! ## Decisions -/

def computeDecisionDigest (hash : Bytes → String) (proposalDigest : String) (approver : Actor) (decision reasonCode : String)
    (authz : AuthzContext) : String :=
  sha256 hash (asBytes ("|".intercalate
    [proposalDigest, approver.ref hash, decision, reasonCode, authz.stepUpType.text, toString authz.stepUpAgeMs,
     toString authz.phishingResistant]))

/-- the first 16 bytes of the hash -/
def shortId (hash : Bytes → String) (s : String) : String := String.ofList ((hash (asBytes s)).toList.take 32)

/-- the levels a scope check tries -/
def triedLevels (level : AuthzLevel) : List AuthzLevel := if level = .unset then [.operator, .scopedOperator] else [level]

/-- the part of `decide` before its transaction: the decision it is going to append -/
def decideProposal (hash : Bytes → String) (mapping : Option RoleScopeMapping) (now : ℤ) (proposalId : String)
    (approver : Actor) (authz : AuthzContext) (approved : Bool) (reasonCode : String) (db : Db) : GoResult DecisionRow := do
  wrap "governance: approver: " approver.validate
  reject (isReasonCode reasonCode = false) "governance: controlled reason_code required"
  match openProposal db proposalId with
  | none => .error ("governance: proposal " ++ proposalId ++ " not found")
  | some row => do
    let p := row.proposal
    wrap "governance: persisted proposer invalid: " p.actor.validate
    reject (p.expiresAtUnixMs < now) "governance: proposal expired (HOLD, zero Edge RPC)"
    match mapping with
    | none => .error "governance: authorization mapping unavailable (default-deny)"
    | some m =>
      match (triedLevels authz.level).find? fun level =>
        (authorizeScope hash m approver level p.scope p.effectKind p.targetSetDigest).toBool with
      | none => .error "governance: exact decision scope denied"
      | some level => do
        let authz := { authz with level, roleMappingDigest := m.digest }
        reject (approved = false ∧ ¬ level.IsOperator) "governance: reject requires operator/scoped-operator"
        -- a reject needs no maker-checker
        (if approved = true then
          wrap "governance: maker-checker: " (canApprove p.riskLevel p.actor p.actorLevel approver authz) else .ok ())
        let decision := if approved then "approve" else "reject"
        return { decisionId := "dec-" ++ shortId hash (p.proposalId ++ ":" ++ approver.ref hash ++ ":" ++ decision)
                 proposalId := p.proposalId, proposalDigest := row.proposalDigest, actor := approver
                 riskLevel := p.riskLevel, approved, authz
                 decisionDigest := computeDecisionDigest hash row.proposalDigest approver decision reasonCode authz
                 reasonCode, expiresAtUnixMs := now + 900000, traceId := p.traceId, mapping := m }

/-- the transaction of `decide`, up to its callback: the first decision on a proposal stays. The canonical decision, and
whether it is this one -/
def appendDecision (d : DecisionRow) (db : Db) : GoResult (DecisionRow × Bool × Db) :=
  match db.decisions.find? fun existing => decide (existing.proposalId = d.proposalId) with
  | some existing => do
    wrap "governance: persisted decision actor invalid: " existing.actor.validate
    return (existing, false, db)
  | none => do
    reject ((db.decision? d.decisionId).isSome = true) "governance: append decision transaction: duplicate key"
    return (d, true, { db with decisions := db.decisions ++ [d] })

/-! ## What the checks prove -/

/-- **Maker-checker.** An approved R2 or R3 proposal has another actor as its checker, with a fresh step-up; an R3
proposal has a platform administrator as its maker. -/
theorem canApprove_maker_checker {risk : RiskLevel} {proposer approver : Actor} {proposerLevel : AuthzLevel}
    {ctx : AuthzContext} (h : canApprove risk proposer proposerLevel approver ctx = .ok ()) :
    ctx.level.IsOperator ∧ (risk = .r2 ∨ risk = .r3 → approver ≠ proposer ∧ ctx.StepUpFresh) ∧
      (risk = .r3 → proposerLevel = .platformAdmin) := by
  cases risk with
  | r0 =>
    have hlevel := not_not.1 (reject_ok.1 h)
    exact ⟨hlevel, by simp, by simp⟩
  | r1 =>
    replace h := passed h
    obtain ⟨hlevel, -⟩ := reject_then h
    exact ⟨not_not.1 hlevel, by simp, by simp⟩
  | r2 =>
    obtain ⟨_, hself, h⟩ := bind_ok.1 h
    obtain ⟨_, hfresh, hlevel⟩ := bind_ok.1 h
    exact ⟨not_not.1 (reject_ok.1 hlevel), fun _ => ⟨fun e => reject_ok.1 hself e.symm, not_not.1 (reject_ok.1 hfresh)⟩,
      by simp⟩
  | r3 =>
    obtain ⟨hmaker, h⟩ := reject_then h
    obtain ⟨_, hself, h⟩ := bind_ok.1 h
    obtain ⟨_, hfresh, hlevel⟩ := bind_ok.1 h
    exact ⟨not_not.1 (reject_ok.1 hlevel), fun _ => ⟨fun e => reject_ok.1 hself e.symm, not_not.1 (reject_ok.1 hfresh)⟩,
      fun _ => not_not.1 hmaker⟩

/-- the actor holds a scope at the level that is exactly the one asked for -/
def Granted (hash : Bytes → String) (m : RoleScopeMapping) (actor : Actor) (level : AuthzLevel) (scopeId : String)
    (kind : EffectKind) (targetSetDigest : String) : Prop :=
  ∃ scopes, m.actorScopes.lookup (actor.ref hash) = some scopes ∧
    ∃ scope ∈ scopes, level ∈ scope.levels ∧ scope.scopeId = scopeId ∧ kind ∈ scope.effectKinds ∧
      scope.targetSetDigest = targetSetDigest

variable {hash : Bytes → String} {m : RoleScopeMapping} {level : AuthzLevel} {actor : Actor} {scope : Scope}

/-- the scopes of an authorized actor are its own, at that level -/
theorem authorize_mem {scopes : List Scope}
    (h : authorize hash m actor level = .ok scopes) (hscope : scope ∈ scopes) :
    ∃ all, m.actorScopes.lookup (actor.ref hash) = some all ∧ scope ∈ all ∧ level ∈ scope.levels := by
  replace h := passed h
  replace h := passed h
  cases h
  obtain ⟨hmem, hlevel⟩ := List.mem_filter.1 hscope
  cases hall : m.actorScopes.lookup (actor.ref hash) with
  | none => simp [hall] at hmem
  | some all =>
    rw [hall] at hmem
    exact ⟨all, rfl, hmem, of_decide_eq_true hlevel⟩

/-- **A scope check is exact** for a request that names its effect kind and its target set. -/
theorem authorizeScope_exact {scopeId : String}
    {kind : EffectKind} {targetSetDigest : String}
    (h : authorizeScope hash m actor level scopeId kind targetSetDigest = .ok scope) (hkind : kind.text ≠ "")
    (htargets : targetSetDigest ≠ "") : Granted hash m actor level scopeId kind targetSetDigest := by
  obtain ⟨scopes, hscopes, h⟩ := bind_ok.1 h
  cases hfind : scopes.find? fun scope => decide (scope.Covers scopeId kind targetSetDigest) with
  | none =>
    rw [hfind] at h
    cases h
  | some found =>
    have hcovers : found.Covers scopeId kind targetSetDigest := by simpa using List.find?_some hfind
    obtain ⟨all, hall, hmem, hlevel⟩ := authorize_mem hscopes (List.mem_of_find?_eq_some hfind)
    exact ⟨all, hall, found, hmem, hlevel, hcovers.1, hcovers.2.2.resolve_left hkind, hcovers.2.1.resolve_left htargets⟩

/-- what a decision has that was judged against a proposal -/
structure Judged (hash : Bytes → String) (row : ProposalRow) (d : DecisionRow) : Prop where
  proposalId : d.proposalId = row.proposalId
  proposalDigest : d.proposalDigest = row.proposalDigest
  authorized : ∃ scope, authorizeScope hash d.mapping d.actor d.authz.level row.proposal.scope row.proposal.effectKind
    row.proposal.targetSetDigest = .ok scope
  approved : d.approved = true →
    canApprove row.proposal.riskLevel row.proposal.actor row.proposal.actorLevel d.actor d.authz = .ok ()

theorem decideProposal_ok {mapping : Option RoleScopeMapping} {now : ℤ} {proposalId : String} {approver : Actor}
    {authz : AuthzContext} {approved : Bool} {reasonCode : String} {db : Db} {d : DecisionRow}
    (h : decideProposal hash mapping now proposalId approver authz approved reasonCode db = .ok d) :
    ∃ row, db.proposal? proposalId = some row ∧ Judged hash row d := by
  replace h := passed h
  replace h := passed h
  cases hrow : openProposal db proposalId with
  | none =>
    rw [hrow] at h
    cases h
  | some row =>
    rw [hrow] at h
    replace h := passed h
    replace h := passed h
    cases mapping with
    | none => cases h
    | some m =>
      dsimp only at h
      split at h
      · cases h
      · rename_i level hlevel
        replace h := passed h
        obtain ⟨_, happrove, h⟩ := bind_ok.1 h
        cases h
        refine ⟨row, (Option.filter_eq_some_iff.1 hrow).1, rfl, rfl, ?_, ?_⟩
        · have hok := List.find?_some hlevel
          cases hscope : authorizeScope hash m approver level row.proposal.scope row.proposal.effectKind
            row.proposal.targetSetDigest with
          | error => simp [hscope, Except.toBool] at hok
          | ok scope => exact ⟨scope, rfl⟩
        · intro happroved
          rw [if_pos happroved] at happrove
          exact wrap_ok.1 happrove

end MasiEdge.Control
