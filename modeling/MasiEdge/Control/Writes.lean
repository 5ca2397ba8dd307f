/-
What the transactions of the control core write.

Every transaction is a sequence of writes, and every write comes with what its transaction has checked before it (`Write`).
This is said once for every transaction; an invariant of the tables is then kept by a run as soon as every kind of write
keeps it. A run may be restricted by a `Permit`: which proposals and fleet requests come in, when a decision may be
appended, and which intents a transaction may settle.

* `Settling`: how a transaction settles an intent, and what it reports to the projections;
* `Write`: the writes; `Writes`: any number of them.
-/
import Mathlib.Logic.Relation
import MasiEdge.Control.Dispatch

namespace MasiEdge.Control

/-! ## Writes -/

/-- what a run is restricted to -/
structure Permit where
  proposal : Proposal → Prop
  decision : Db → DecisionRow → Prop
  fleet : FleetRequest → Prop
  /-- an intent that is settled, and the state that is reported -/
  settle : Db → IntentRow → ClaimState → Prop
  /-- a claim that the shutdown of its owner fences -/
  shutdown : Db → IntentRow → Prop
  /-- a stored intent that a new overlay recalls as its delete intent -/
  recalled : IntentRow → Prop

/-- no restriction -/
def Permit.any : Permit :=
  ⟨fun _ => True, fun _ _ => True, fun _ => True, fun _ _ _ => True, fun _ _ => True, fun _ => True⟩

/-- the state of a verdict is the one that is projected, and fits the status of its attempt -/
def Verdict.Consistent (v : Verdict) : Prop :=
  v.projectedState = v.state ∧ (v.state = .finalized ∧ v.status = .applied ∨ v.state = .hold ∧ v.status = .hold ∨
    v.state = .unknown ∧ (v.status = .unknown ∨ v.status = .reconciling))

/-- a transaction settles an intent: the new claim, the attempt, and the state and outcome it reports -/
inductive Settling (row : IntentRow) : (Claim → Claim) → Option AttemptRow → ClaimState → Option AttemptStatus → Prop
  | holdBack (found : row.claim.state = some .unclaimed) :
      Settling row (fun claim => { claim with state := some .hold }) none .hold (some .hold)
  | fence (found : row.claim.state = some .claimed) : Settling row Claim.fence none .unknown (some .unknown)
  | verdict (found : row.claim.leaseId ≠ none ∨ row.claim.state = some .unknown) (v : Verdict) (consistent : v.Consistent)
      (a : AttemptRow) (of : a.intentId = row.intentId ∧ a.status = v.status) :
      Settling row (fun claim => { claim with state := some v.state }) (some a) v.state (some v.status)
  | project (found : row.claim.leaseId ≠ none) : Settling row id none .claimed none

/-- a change of a claim that reports nothing -/
inductive Quiet (perm : Permit) (db : Db) (row : IntentRow) : Claim → Prop
  | same : Quiet perm db row row.claim
  | openGate : Quiet perm db row { row.claim with gateOpen := true }
  | renew (expires : ℤ) : Quiet perm db row { row.claim with expiresAtUnixMs := some expires }
  | take (found : row.claim.state = some .unclaimed) (gate : gateOpen db row) (leaseId : String) (expires : ℤ) :
      Quiet perm db row (row.claim.take leaseId expires)
  | shutdown (found : row.claim.state = some .claimed) (permitted : perm.shutdown db row) : Quiet perm db row row.claim.fence

/-- the decision and the proposal that stand behind an intent -/
structure Authorizes (p : ProposalRow) (d : DecisionRow) (row : IntentRow) : Prop where
  proposalId : p.proposalId = row.intent.proposalId
  decisionId : d.decisionId = row.intent.decisionId
  joined : d.proposalId = p.proposalId
  approved : d.approved = true
  digest : d.decisionDigest = row.intent.authorizationDigest
  kind : p.proposal.effectKind = row.intent.effectKind
  risk : p.proposal.riskLevel = row.intent.riskLevel
  actor : d.actor = row.intent.actor
  proposalDigest : p.proposalDigest = row.proposalDigest
  policy : row.intent.isFleetParent = false → row.intent.payload.policyRevisionDigest = p.proposal.policyDigest
  target : row.intent.isFleetParent = false → row.intent.targetId ∈ p.proposal.targetIds

/-- what stands behind the body of an intent; none of it goes away -/
structure Backed (sv : Services) (db : Db) (row : IntentRow) : Prop where
  authorized : ∃ p ∈ db.proposals, ∃ d ∈ db.decisions, Authorizes p d row
  fenced : validateFence row.intent.fence = .ok ()
  stored : row.intent.isFleetParent = false → checkStored sv row.intent = .ok ()
  revision : row.intent.isFleetParent = false → row.intent.effectKind.IsBaseline →
    ∃ r ∈ db.revisions, r.revisionDigest = row.intent.payload.policyRevisionDigest ∧ r.revision.targetId = row.intent.targetId
  /-- an overlay names its delete intent -/
  named : row.intent.isFleetParent = false → row.intent.payload.operation = .overlayDelete →
    ∃ o ∈ db.overlays, o.deleteIntentId = row.intentId

/-- intents that come into the ledger; `db'` is what stands behind them -/
structure Added (sv : Services) (db db' : Db) (rows : List IntentRow) : Prop where
  new : ∀ row ∈ rows, ∀ other ∈ db.intents, ¬ intentConflict row other
  apart : rows.Pairwise fun a b => ¬ intentConflict b a
  fresh : ∀ row ∈ rows, row.claim.leaseId = none ∧
    row.claim.state = if row.intent.isFleetParent then none else some .unclaimed
  backed : ∀ row ∈ rows, Backed sv db' row

/-- the delete intent of an overlay, as it is inserted -/
structure DeleteOf (p : ProposalRow) (o : OverlayRow) (row : IntentRow) : Prop where
  id : row.intentId = o.deleteIntentId
  single : row.fleetOperationId = none
  child : row.intent.isFleetParent = false
  target : row.intent.targetId = o.targetId
  kind : row.intent.effectKind = .firewallOverlay
  operation : row.intent.payload.operation = .overlayDelete
  policy : row.intent.payload.policyRevisionDigest = o.rule.canonicalRuleDigest
  notBefore : row.notBeforeUnixMs = o.expiresAtUnixMs
  gate : row.claim.gateOpen = true
  proposal : row.intent.proposalId = p.proposalId
  scope : p.proposal.scope = o.scope

/-- an activation as it is inserted, for a baseline change of its target and the revision of that change -/
structure Prepared (db : Db) (a : ActivationRow) (row : IntentRow) (p : ProposalRow) : Prop where
  new : db.activation? a.operationId = none
  result : a.result = .prepared
  expected : a.expected = db.bindingOf a.targetId
  alone : ¬ ∃ b ∈ db.activations, b.targetId = a.targetId ∧ b.IsOpen
  intent : row ∈ db.intents ∧ row.intent.operationId = a.operationId ∧ row.intent.targetId = a.targetId ∧
    row.intent.effectKind.IsBaseline
  pending : row.claim.state = some .unclaimed ∨ row.claim.leaseId ≠ none
  proposal : db.proposal? row.intent.proposalId = some p
  revision : ∃ r ∈ db.revisions, r.revision.revisionId = a.desiredRevisionId ∧ r.revisionDigest = p.proposal.policyDigest
  owner : ∃ r ∈ db.revisions, r.revision.revisionId = a.desiredRevisionId ∧ r.revision.targetId = a.targetId

/-- the children of a fleet operation that is created -/
def childRows (fleetOperationId : String) (children : List (ChildRequest × IntentRow)) : List FleetChildRow :=
  children.map fun c => childRow fleetOperationId c.1 c.2.intent

/-- a fleet operation that is created for a request -/
structure Planned (sv : Services) (db : Db) (request : FleetRequest) (children : List (ChildRequest × IntentRow))
    (fo : FleetRow) : Prop where
  new : db.fleet? fo.fleetOperationId = none
  waves : fo.waves = request.waves
  aggregate : fo.aggregateStatus = .planned
  requests : children.map Prod.fst = request.childIntents
  rows : ∀ c ∈ children, c.2.intentId = c.1.intentId ∧ c.2.intent.targetId = c.1.targetId ∧
    c.2.fleetOperationId = some fo.fleetOperationId ∧ c.2.intent.isFleetParent = false ∧ c.2.intent.effectDigest ≠ "" ∧
    c.2.notBeforeUnixMs = 0
  vector : fo.completedVectorDigest =
    completedVectorDigest sv ((childRows fo.fleetOperationId children).map FleetChildRow.entry)

inductive Write (sv : Services) (perm : Permit) (db : Db) : Db → Prop
  | proposal (now : ℤ) (p : Proposal) (valid : validateProposal now p = .ok ()) (permitted : perm.proposal p)
      (new : ∀ other ∈ db.proposals, ¬ proposalConflict sv.profile.hash (proposalRow sv.profile.hash p) other) :
      Write sv perm db { db with proposals := db.proposals ++ [proposalRow sv.profile.hash p] }
  | supersede (oldId replacementId : String) (undecided : ∀ d ∈ db.decisions, d.proposalId ≠ oldId)
      (unused : ∀ i ∈ db.intents, i.intent.proposalId ≠ oldId) :
      Write sv perm db { db with proposals := Table.modify ProposalRow.proposalId db.proposals oldId fun row =>
        { row with supersededBy := some replacementId } }
  | decision (d : DecisionRow) (judged : ∃ row ∈ db.proposals, Judged sv.profile.hash row d)
      (first : ∀ other ∈ db.decisions, other.proposalId ≠ d.proposalId)
      (new : ∀ other ∈ db.decisions, other.decisionId ≠ d.decisionId) (permitted : perm.decision db d) :
      Write sv perm db { db with decisions := db.decisions ++ [d] }
  | intents (rows : List IntentRow) (added : Added sv db db rows) : Write sv perm db { db with intents := db.intents ++ rows }
  | overlay (rows : List IntentRow) (o : OverlayRow) (added : Added sv db { db with overlays := db.overlays ++ [o] } rows)
      (new : ∀ other ∈ db.overlays, other.overlayRuleId ≠ o.overlayRuleId ∧ other.deleteIntentId ≠ o.deleteIntentId)
      (present : o.deleted = false)
      (delete : (∃ p ∈ db.proposals, ∃ row ∈ rows, DeleteOf p o row) ∨
        ∃ row ∈ db.intents, row.intentId = o.deleteIntentId ∧ perm.recalled row) :
      Write sv perm db { db with overlays := db.overlays ++ [o], intents := db.intents ++ rows }
  | deleteOverlays (gone : OverlayRow → Bool) (finalized : ∀ o ∈ db.overlays, gone o = true →
        ∃ row ∈ db.intents, row.intentId = o.deleteIntentId ∧ row.claim.state = some .finalized) :
      Write sv perm db { db with overlays := db.overlays.map fun o => if gone o then { o with deleted := true } else o }
  | revision (row : RevisionRow) (new : ∀ r ∈ db.revisions, r.revision.revisionId ≠ row.revision.revisionId ∧
        ¬ (r.revision.targetId = row.revision.targetId ∧ r.revisionDigest = row.revisionDigest)) :
      Write sv perm db { db with revisions := db.revisions ++ [row] }
  | activation (a : ActivationRow) (row : IntentRow) (p : ProposalRow) (prepared : Prepared db a row p) :
      Write sv perm db { db with activations := db.activations ++ [a] }
  | settleActivation (operationId : String) (result : ActivationResult) (row : IntentRow) (present : row ∈ db.intents)
      (operation : row.intent.operationId = operationId)
      (state : row.claim.state = some .unknown ∧ result = .reconciling ∨ row.claim.state = some .hold ∧ result = .hold)
      (db' : Db) (set : setActivation operationId result db = .ok db') : Write sv perm db db'
  | commit (row : IntentRow) (present : row ∈ db.intents) (state : row.claim.state = some .finalized)
      (policyDigest revisionId : String) (db' : Db)
      (committed : commitBaseline row.intent policyDigest revisionId db = .ok db') : Write sv perm db db'
  | claims (f : IntentRow → Claim) (quiet : ∀ row ∈ db.intents, Quiet perm db row (f row)) :
      Write sv perm db (db.mapClaims f)
  | settle (row : IntentRow) (present : db.intent? row.intentId = some row) (f : Claim → Claim) (attempt : Option AttemptRow)
      (state : ClaimState) (outcome : Option AttemptStatus) (reasonCode : String) (db' : Db)
      (settling : Settling row f attempt state outcome) (permitted : perm.settle db row state)
      (settled : projectFleet sv row.intentId state outcome reasonCode
        { db.setClaim row.intentId f with attempts := db.attempts ++ attempt.toList } = .ok db') : Write sv perm db db'
  | acks (rows : List AckRow) : Write sv perm db { db with acks := rows }
  | fleet (request : FleetRequest) (parent : IntentRow) (children : List (ChildRequest × IntentRow)) (fo : FleetRow)
      (permitted : perm.fleet request) (isParent : parent.intent.isFleetParent = true)
      (added : Added sv db db (parent :: children.map Prod.snd)) (planned : Planned sv db request children fo) :
      Write sv perm db { db with
        intents := db.intents ++ parent :: children.map Prod.snd, fleets := db.fleets ++ [fo]
        fleetChildren := db.fleetChildren ++ childRows fo.fleetOperationId children }
  | gateDecision (g : GateDecisionRow) : Write sv perm db { db with gateDecisions := db.gateDecisions ++ [g] }
  | openWave (now : ℤ) (fleetOperationId : String) (currentWave nextWave : ℕ) (db' : Db)
      (advanced : advanceWaveGate sv now fleetOperationId currentWave nextWave db = .ok db') : Write sv perm db db'
  | inventory (inv : Inventory) : Write sv perm db { db with inventory := inv }

/-- any number of writes -/
abbrev Writes (sv : Services) (perm : Permit) : Db → Db → Prop := Relation.ReflTransGen (Write sv perm)

end MasiEdge.Control
