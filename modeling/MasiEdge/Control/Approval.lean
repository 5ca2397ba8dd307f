/-
Approvals behind the intents of the control core.

The maker-checker rule is spread over four places: a proposal declares its own risk level, a decision is judged against the
level that was declared, an intent copies it, and a claim looks only for a decision that has not expired. No place asks for
R3 because the effect is a change of the baseline. A decision is also judged in a read of its own, before the transaction
that appends it.

* `claims_checked`: every claimed baseline change passed R3 maker-checker, in every run whose proposals declare it;
* `self_approved_baseline`: one operator proposes a baseline change as R1, approves it and has it claimed;
* `decided_superseded_exclude`: no proposal is both superseded and decided or in use, in every run where a decision is
  appended only while its proposal is open;
* `superseded_and_decided`: a supersession that commits between the judgement and the append leaves both.
-/
import MasiEdge.Control.Machine
import MasiEdge.Control.Executable

namespace MasiEdge.Control

open Codec Firewall Run

variable {sv : Services} {db db' : Db} {row : IntentRow} {w : World}

/-! ## Maker-checker -/

/-- what the approval of an intent has to be -/
structure Checked (sv : Services) (p : ProposalRow) (d : DecisionRow) (row : IntentRow) : Prop where
  approved : d.approved = true
  /-- R3 maker-checker for a change of the baseline -/
  baseline : row.intent.effectKind.IsBaseline →
    d.actor ≠ p.proposal.actor ∧ p.proposal.actorLevel = .platformAdmin ∧ d.authz.level.IsOperator ∧
      Granted sv.profile.hash d.mapping d.actor d.authz.level p.proposal.scope row.intent.effectKind
        p.proposal.targetSetDigest ∧ d.authz.StepUpFresh
  r2 : row.intent.riskLevel = .r2 → d.actor ≠ p.proposal.actor

/-- every intent that was ever claimed has such an approval -/
def ClaimsChecked (sv : Services) (w : World) : Prop :=
  ∀ id ∈ w.claimed, ∃ row p d, w.db.intent? id = some row ∧
    w.db.authorization row.intent.proposalId row.intent.decisionId = some (p, d) ∧ Checked sv p d row

/-- a baseline change is declared as R3, with its target set -/
def Proposal.DeclaresR3 (p : Proposal) : Prop := p.effectKind.IsBaseline → p.riskLevel = .r3 ∧ p.targetSetDigest ≠ ""
deriving Decidable

/-- the same, of an operation that creates a proposal -/
def Op.DeclaresR3 : Op → Prop
  | .tx (.createProposal _ p) => p.DeclaresR3
  | _ => True

instance (op : Op) : Decidable op.DeclaresR3 := by
  unfold Op.DeclaresR3
  split <;> infer_instance

/-- only proposals that declare R3 come in -/
def Permit.declared : Permit := { Permit.any with proposal := Proposal.DeclaresR3 }

theorem permitted_declared {op : Op} (h : op.DeclaresR3) : Permitted sv .declared w op := by
  have hany := permitted_any sv w op
  cases op with
  | tx t =>
    cases t with
    | createProposal => exact h
    | _ => exact hany
  | _ => exact hany

theorem Write.keeps_declared (hdeclared : ∀ p ∈ db.proposals, p.proposal.DeclaresR3) (h : Write sv .declared db db') :
    ∀ p ∈ db'.proposals, p.proposal.DeclaresR3 := by
  intro p hp
  rcases h.tables.proposals with heq | ⟨_, q, -, hpermitted, -, heq⟩ | ⟨oldId, _, -, -, heq⟩
  · rw [heq] at hp
    exact hdeclared p hp
  · rw [heq] at hp
    rcases Run.mem_snoc.1 hp with hp | rfl
    · exact hdeclared p hp
    · exact hpermitted
  · rw [heq] at hp
    rcases Table.mem_modify.1 hp with ⟨hp, -⟩ | ⟨old, hold, -, rfl⟩
    · exact hdeclared p hp
    · exact hdeclared old hold

/-- the proposal and the decision of an intent, and the judgement between them -/
theorem Coherent.authorization (h : Coherent sv db) (hrow : row ∈ db.intents) :
    ∃ p d, db.authorization row.intent.proposalId row.intent.decisionId = some (p, d) ∧ p ∈ db.proposals ∧
      d ∈ db.decisions ∧ Authorizes p d row ∧ Judged sv.profile.hash p d := by
  obtain ⟨p, hp, d, hd, hauth⟩ := (h.backed row hrow).authorized
  obtain ⟨q, hq, hjudged⟩ := h.judged d hd
  obtain rfl : q = p := h.proposals q hq p hp (hjudged.proposalId.symm.trans hauth.joined)
  refine ⟨q, d, authorization_some.2 ⟨?_, ?_, ?_⟩, hp, hd, hauth, hjudged⟩
  · exact h.proposals.lookup_of_mem hp hauth.proposalId
  · exact h.decisions.lookup_of_mem hd hauth.decisionId
  · exact hauth.joined.trans hauth.proposalId

theorem EffectKind.IsBaseline.text_ne {kind : EffectKind} (h : kind.IsBaseline) : kind.text ≠ "" := by
  rcases h with rfl | rfl <;> decide

/-- an approval that was judged against a declared proposal -/
theorem Judged.checked {p : ProposalRow} {d : DecisionRow} (h : Judged sv.profile.hash p d)
    (hauth : Authorizes p d row) (hdeclared : p.proposal.DeclaresR3) : Checked sv p d row := by
  obtain ⟨hlevel, hchecker, hmaker⟩ := canApprove_maker_checker (h.approved hauth.approved)
  refine ⟨hauth.approved, fun hbaseline => ?_, fun hr2 => ?_⟩
  · have hkind : p.proposal.effectKind.IsBaseline := hauth.kind ▸ hbaseline
    obtain ⟨hr3, htargets⟩ := hdeclared hkind
    obtain ⟨hother, hfresh⟩ := hchecker (Or.inr hr3)
    obtain ⟨scope, hscope⟩ := h.authorized
    have hgranted := authorizeScope_exact hscope hkind.text_ne htargets
    rw [hauth.kind] at hgranted
    exact ⟨hother, hmaker hr3, hlevel, hgranted, hfresh⟩
  · exact (hchecker (Or.inl (hauth.risk.trans hr2))).1

/-- **R3 maker-checker.** In every run whose proposals declare their baseline changes as R3, with a target set, every intent
that is ever claimed has the approval it needs. -/
theorem claims_checked (sv : Services) (ops : List Op) (hdeclared : ∀ op ∈ ops, op.DeclaresR3) :
    ClaimsChecked sv (run sv ops) := by
  have hrun : RunPermitted sv .declared ops := by
    intro pre op post hsplit
    exact permitted_declared (hdeclared op (by simp [hsplit]))
  have hproposals : ∀ p ∈ (run sv ops).db.proposals, p.proposal.DeclaresR3 :=
    run_invariant (by simp [Db.empty]) (fun _ _ _ hinv hwrite => hwrite.keeps_declared hinv) hrun
  have hlive := run_live sv ops
  intro id hid
  obtain ⟨row, hrow, hrid, -⟩ := hlive.claimed id hid
  obtain ⟨p, d, hauthorization, hp, -, hauth, hjudged⟩ := hlive.coherent.authorization hrow
  refine ⟨row, p, d, ?_, hauthorization, hjudged.checked hauth (hproposals p hp)⟩
  exact hlive.coherent.uniqueIds.lookup_of_mem hrow hrid

/-! ## A lab -/

/-- a digest that tells the values of a run apart: a rolling sum in its first eight digits -/
def rollingHash (payload : Bytes) : String :=
  let sum := payload.foldl (fun acc byte => (acc * 257 + byte.toNat + 1) % 2 ^ 32) 0
  String.ofList ((Nat.toDigits 16 (2 ^ 32 + sum)).drop 1) ++ "00000000000000000000000000000000000000000000000000000000"

/-- the services of a lab with rolling digests -/
def labServices : Services where
  profile :=
    { flatProfile with hash := rollingHash, encodeIntent := fun edge => asBytes (edge.effectIntentId ++ "|" ++ edge.targetId) }
  rfc3339 := fun _ => some 1200000
  number := id
  evidenceText := fun refs => ",".intercalate refs
  json := AppliedRuleReadback.entityId
  planText := fun waves children => toString waves.length ++ "|" ++ ",".intercalate (children.map PlannedChild.intentId)
  vectorText := fun entries => ",".intercalate (entries.map fun e => e.intentId ++ "|" ++ e.effectDigest)

def operator : Actor := ⟨"https://idp", "operator"⟩

/-- the target set of a list of targets -/
def targetSetOf (targetIds : List String) : String := sha256 rollingHash (asBytes (",".intercalate targetIds))

/-- the operator may decide on every firewall change of these targets -/
def labMapping (targetIds : List String) : RoleScopeMapping :=
  ⟨"mapping-1", [(operator.ref rollingHash, [⟨"lab", targetSetOf targetIds,
    [.firewallBaselineActivate, .firewallOverlay, .firewallRollback], [.operator]⟩])]⟩

def strongAuthz : AuthzContext := ⟨.passkey, 0, true, "", .operator⟩

/-- the operator proposes a change at R1 -/
def labProposal (proposalId : String) (kind : EffectKind) (targetIds : List String) (policyDigest : String) : Proposal :=
  { proposalId, actor := operator, actorLevel := .operator, scope := "lab", riskLevel := .r1, effectKind := kind
    targetSetDigest := targetSetOf targetIds, targetIds, policyDigest, evidenceRefs := [], expiresAtUnixMs := 3600000
    note := "", traceId := "trace-1", idempotencyKey := proposalId }

/-- the operator judges a proposal of its own -/
def labDecide (p : Proposal) (request : Request) : Op :=
  .decide (some (labMapping p.targetIds)) 0 p.proposalId operator strongAuthz "REVIEWED" request

def labDecisionId (p : Proposal) : String :=
  "dec-" ++ shortId rollingHash (p.proposalId ++ ":" ++ operator.ref rollingHash ++ ":approve")

def labDecisionDigest (p : Proposal) : String :=
  computeDecisionDigest rollingHash (proposalRow rollingHash p).proposalDigest operator "approve" "REVIEWED" strongAuthz

/-- every target has a switch that is assigned and able -/
def labInventory (targetIds : List String) : Inventory where
  targets := targetIds.map fun targetId => ⟨targetId, true⟩
  assignments := targetIds.map fun targetId =>
    { targetId, assignmentGeneration := 1, incarnationId := leafFence.targetControlIncarnationId
      edgeWorkloadRef := leafFence.edgeWorkloadRef, actorRuntimeEpoch := leafFence.actorRuntimeEpoch, applicationGeneration := 1
      electionFloor := 1, electionCeiling := 1, expiresAtUnixMs := 3600000, revoked := false, floor_pos := le_refl 1
      election_range := le_refl 1 }
  capabilities := targetIds.map fun targetId =>
    { targetId, targetControlIncarnationId := leafFence.targetControlIncarnationId, assignmentGeneration := 1
      actorRuntimeEpoch := leafFence.actorRuntimeEpoch, applicationGeneration := 1, p4InfoDigest := leafFence.p4InfoDigest
      pipelineDigest := leafFence.pipelineDigest, capacityDigest := leafFence.capacityDigest, capacityAvailable := true
      expiresAtUnixMs := 3600000 }

def labToken (p : Proposal) (targetId : String) : PreflightToken where
  proposalDigest := (proposalRow rollingHash p).proposalDigest
  targetId := targetId
  targetSetDigest := p.targetSetDigest
  fence := leafFence
  policyDigest := p.policyDigest
  evidenceDigest := sha256 rollingHash []
  issuedAtUnixMs := 0
  expiresAtUnixMs := 30000
  traceId := "trace-1"

/-- an intent under the operator's own approval -/
def labIntent (p : Proposal) (intentId operationId targetId : String) : Intent :=
  { leafIntent .unsupported [] [] with
    effectIntentId := intentId, operationId, proposalId := p.proposalId, decisionId := labDecisionId p, targetId
    authorizationDigest := labDecisionDigest p, effectKind := p.effectKind, riskLevel := p.riskLevel, deadlineUnixMs := 600000 }

def labCreateIntent (p : Proposal) (intentId operationId targetId : String) : Op :=
  .tx (.createIntent 0 p.proposalId (labDecisionId p) (labToken p targetId) (labIntent p intentId operationId targetId)
    (.error ""))

/-- the baseline of a leaf, as a revision -/
def labRevision (revisionId targetId : String) : Revision :=
  { revisionOf [{ guardedRule with canonicalRuleDigest := computeRuleDigest rollingHash guardedRule }] with revisionId, targetId }

def revisionDigestOf (rev : Revision) : String := computeRevisionDigest rollingHash rev

/-- one call of `Dispatch` up to its claim -/
def labClaim (callId : ℕ) (intentId : String) : List Op :=
  [.load callId intentId, .validate callId true, .claim callId 0 ("lease-" ++ toString callId) 30000]

/-- a baseline change, from its proposal to its claim; the operator approves -/
def baselineChange (propose : Proposal → Proposal) : List Op :=
  let rev := labRevision "revision-1" "leaf-1"
  let p := propose (labProposal "proposal-1" .firewallBaselineActivate ["leaf-1"] (revisionDigestOf rev))
  [.tx (.observe (labInventory ["leaf-1"])), .tx (.createRevision rev 512), .tx (.createProposal 0 p),
    labDecide p (.plain true), .record 0 0, labCreateIntent p "intent-1" "operation-1" "leaf-1",
    .tx (.activate "leaf-1" "revision-1" "operation-1")] ++ labClaim 0 "intent-1"

/-- a claimed baseline change whose approver is its proposer -/
def SelfApproved (w : World) (id : String) : Prop :=
  id ∈ w.claimed ∧ ∃ row ∈ w.db.intent? id, row.intent.effectKind.IsBaseline ∧
    ∃ x ∈ w.db.authorization row.intent.proposalId row.intent.decisionId, x.2.actor = x.1.proposal.actor
deriving Decidable

theorem SelfApproved.unchecked {id : String} (h : SelfApproved w id) : ¬ ClaimsChecked sv w := by
  obtain ⟨hclaimed, row, hrow, hbaseline, ⟨p, d⟩, hauth, hself⟩ := h
  intro hchecked
  obtain ⟨row', p', d', hrow', hauth', hall⟩ := hchecked id hclaimed
  obtain rfl : row = row' := Option.some.inj (hrow.symm.trans hrow')
  cases hauth.symm.trans hauth'
  exact (hall.baseline hbaseline).1 hself

/-- **One operator is enough.** The operator's own R1 proposal of a baseline change is approved by the operator, passes the
preflight and is claimed. -/
theorem self_approved_baseline : let w := run labServices (baselineChange id)
    (∃ row ∈ w.db.intent? "intent-1", validateIntent labServices 0 row.intent false w.db = .ok ()) ∧
      ¬ ClaimsChecked labServices w := by
  have hrun : let w := run labServices (baselineChange id)
      (∃ row ∈ w.db.intent? "intent-1", validateIntent labServices 0 row.intent false w.db = .ok ()) ∧
        SelfApproved w "intent-1" := by
    decide +kernel
  exact ⟨hrun.1, hrun.2.unchecked⟩

def admin : Actor := ⟨"https://idp", "admin"⟩

/-- the same change, proposed by an administrator at R3 -/
def checkedChange : List Op :=
  baselineChange fun p => { p with actor := admin, actorLevel := .platformAdmin, riskLevel := .r3 }

/-- an administrator proposes it, the operator approves it, and it is claimed -/
theorem checked_change_claimed : (run labServices checkedChange).claimed = ["intent-1"] ∧
    ClaimsChecked labServices (run labServices checkedChange) :=
  ⟨by decide +kernel, claims_checked labServices checkedChange (by decide +kernel)⟩

/-! ## Supersession -/

/-- a superseded proposal has no decision and no intent, and no proposal has two decisions -/
structure Exclusive (db : Db) : Prop where
  undecided : ∀ p ∈ db.proposals, p.supersededBy ≠ none → ∀ d ∈ db.decisions, d.proposalId ≠ p.proposalId
  unused : ∀ p ∈ db.proposals, p.supersededBy ≠ none → ∀ row ∈ db.intents, row.intent.proposalId ≠ p.proposalId
  once : Table.Unique DecisionRow.proposalId db.decisions

/-- the proposal of a decision is open -/
def DecidesOpen (db : Db) (d : DecisionRow) : Prop := ∀ p ∈ db.proposals, p.proposalId = d.proposalId → p.supersededBy = none
deriving Decidable

/-- a decision is appended while its proposal is open -/
def RecordsOpen (w : World) : Op → Prop
  | .record index _ => ∀ x ∈ w.deciding[index]?, DecidesOpen w.db x.1
  | _ => True

instance (w : World) (op : Op) : Decidable (RecordsOpen w op) := by
  unfold RecordsOpen
  split <;> infer_instance

/-- only decisions on open proposals are appended -/
def Permit.opened : Permit := { Permit.any with decision := DecidesOpen }

theorem permitted_opened {op : Op} (h : RecordsOpen w op) : Permitted sv .opened w op := by
  have hany := permitted_any sv w op
  cases op with
  | record => exact fun d callback hget => ⟨h (d, callback) hget, fun _ _ _ => trivial⟩
  | tx t => cases t <;> exact hany
  | _ => exact hany

/-- a supersession finds no decision, and a decision finds no supersession -/
theorem Write.keeps_undecided (hinv : ∀ p ∈ db.proposals, p.supersededBy ≠ none → ∀ d ∈ db.decisions, d.proposalId ≠ p.proposalId)
    (h : Write sv .opened db db') :
    ∀ p ∈ db'.proposals, p.supersededBy ≠ none → ∀ d ∈ db'.decisions, d.proposalId ≠ p.proposalId := by
  intro p hp hsuperseded d hd
  rcases h.tables.decisions with hdecisions | ⟨new, -, -, -, hopen, hdecisions, hproposals⟩
  · rw [hdecisions] at hd
    rcases h.tables.proposals with heq | ⟨_, q, -, -, -, heq⟩ | ⟨oldId, _, hundecided, -, heq⟩
    · rw [heq] at hp
      exact hinv p hp hsuperseded d hd
    · rw [heq] at hp
      rcases Run.mem_snoc.1 hp with hp | rfl
      · exact hinv p hp hsuperseded d hd
      · exact absurd rfl hsuperseded
    · rw [heq] at hp
      rcases Table.mem_modify.1 hp with ⟨hp, -⟩ | ⟨old, -, hold, rfl⟩
      · exact hinv p hp hsuperseded d hd
      · intro hid
        exact hundecided d hd (hid.trans hold)
  · rw [hproposals] at hp
    rw [hdecisions] at hd
    rcases Run.mem_snoc.1 hd with hd | rfl
    · exact hinv p hp hsuperseded d hd
    · intro hid
      exact hsuperseded (hopen p hp hid.symm)

/-- **Decided and superseded exclude each other**, in every run that appends a decision only while its proposal is open. -/
theorem decided_superseded_exclude (sv : Services) (ops : List Op)
    (hopen : Along (fun pre op => RecordsOpen (run sv pre) op) ops) : Exclusive (run sv ops).db := by
  have hcoherent := (run_live sv ops).coherent
  have hundecided : ∀ p ∈ (run sv ops).db.proposals, p.supersededBy ≠ none →
      ∀ d ∈ (run sv ops).db.decisions, d.proposalId ≠ p.proposalId :=
    run_invariant (by simp [Db.empty]) (fun _ _ _ hinv hwrite => hwrite.keeps_undecided hinv)
      (hopen.imp fun _ _ h => permitted_opened h)
  refine ⟨hundecided, fun p hp hsuperseded row hrow hid => ?_, hcoherent.decided⟩
  -- an intent has a decision on its proposal
  obtain ⟨q, -, d, hd, hauth⟩ := (hcoherent.backed row hrow).authorized
  exact hundecided p hp hsuperseded d hd (hauth.joined.trans (hauth.proposalId.trans hid))

/-- two proposals of one overlay, and what happens to them -/
def twoProposals (ops : Proposal → Proposal → List Op) : List Op :=
  let p := labProposal "proposal-1" .firewallOverlay ["leaf-1"] "policy-1"
  let q := labProposal "proposal-2" .firewallOverlay ["leaf-1"] "policy-2"
  [.tx (.createProposal 0 p), .tx (.createProposal 0 q)] ++ ops p q

/-- the supersession commits after the judgement and before the append -/
def lateSupersede : List Op := twoProposals fun p _ =>
  [labDecide p (.plain true), .tx (.supersede "proposal-1" "proposal-2" operator "REPLACED"), .record 0 0]

/-- **Superseded and decided.** -/
theorem superseded_and_decided : ¬ Exclusive (run labServices lateSupersede).db := by
  intro h
  have hboth : ∃ p ∈ (run labServices lateSupersede).db.proposals, p.supersededBy ≠ none ∧
      ∃ d ∈ (run labServices lateSupersede).db.decisions, d.proposalId = p.proposalId := by
    decide +kernel
  obtain ⟨p, hp, hsuperseded, d, hd, hid⟩ := hboth
  exact h.undecided p hp hsuperseded d hd hid

/-- the replacement is decided -/
def earlySupersede : List Op := twoProposals fun _ q =>
  [.tx (.supersede "proposal-1" "proposal-2" operator "REPLACED"), labDecide q (.plain true), .record 0 0]

theorem early_supersede_excludes :
    (run labServices earlySupersede).db.proposals.map (fun p => p.supersededBy) = [some "proposal-2", none] ∧
      (run labServices earlySupersede).db.decisions.map (fun d => d.proposalId) = ["proposal-2"] ∧
      Exclusive (run labServices earlySupersede).db := by
  refine ⟨by decide +kernel, by decide +kernel, decided_superseded_exclude labServices earlySupersede ?_⟩
  exact along_of_decide (P := RecordsOpen) (step labServices) World.init (by decide +kernel)

end MasiEdge.Control
