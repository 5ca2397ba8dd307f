/-
Which intents `Dispatch` gets through to a claim.

`ValidateIntent` and `ClaimIntent` ask for the same things in different words. For an intent of the ledger whose target,
assignment, capability and policy are current, what is left of the two is compared here: the preflight wants a proposal of
one target that is not superseded, and the claim wants an authorization that has not run out, also for the delete of an
overlay, which the preflight lets through late.

* `claimIntent_current_iff`, `dispatches_iff`: what is left of the claim, and of both, for current facts;
* `expired_overlay_removable_iff`: the delete of an expired overlay;
* `late_delete_refused`: an overlay that outlives its decision stays;
* `fleet_child_dispatchable_iff`: the child of a fleet operation;
* `two_target_child_refused`: no child of an operation on two targets is dispatched.
-/
import MasiEdge.Control.Activation
import MasiEdge.Control.FleetOrder

namespace MasiEdge.Control

open Firewall Run

variable {sv : Services} {perm : Permit} {db db' : Db} {now leaseTtl : ℤ} {row : IntentRow} {p : ProposalRow} {d : DecisionRow}
  {capture : Bool} {leaseId : String}

/-! ## Current facts -/

/-- the target is active, and its assignment, capability and capacity equal the fence of the intent -/
@[mk_iff]
structure FactsCurrent (inv : Inventory) (now : ℤ) (intent : Intent) : Prop where
  target : ∃ t ∈ inv.targets.find? (fun t => t.targetId == intent.targetId), t.active = true
  assignment : ∃ a ∈ inv.newestAssignment intent.targetId, a.Matches intent.fence now ∧
    a.edgeWorkloadRef = intent.fence.edgeWorkloadRef ∧ a.electionFloor = intent.fence.electionIdLow
  capability : ∃ c ∈ inv.capability? intent.targetId, c.Matches intent.fence now

instance (inv : Inventory) (now : ℤ) (intent : Intent) : Decidable (FactsCurrent inv now intent) :=
  decidable_of_iff' _ (factsCurrent_iff inv now intent)

/-- the claim finds the facts of a fence that the preflight finds -/
theorem FactsCurrent.fence {intent : Intent} (h : FactsCurrent db.inventory now intent) :
    targetFenceCurrent db now intent = true ∧ db.inventory.capable intent.targetId intent.fence now = true := by
  obtain ⟨t, ht, hactive⟩ := h.target
  obtain ⟨a, ha, hmatches, -, hfloor⟩ := h.assignment
  obtain ⟨c, hc, hcapable⟩ := h.capability
  have htarget : db.inventory.isActive intent.targetId = true := by
    have hid : t.targetId = intent.targetId := by simpa using List.find?_some ht
    exact List.any_eq_true.2 ⟨t, List.mem_of_find?_eq_some ht, by simp [hid, hactive]⟩
  have hrange := a.election_range
  constructor
  · simp only [targetFenceCurrent, Inventory.assigned, htarget, Bool.true_and, Option.any_eq_true, Bool.and_eq_true,
      decide_eq_true_eq]
    exact ⟨a, ha, hmatches, by omega, by omega⟩
  · simp only [Inventory.capable, Option.any_eq_true, decide_eq_true_eq]
    exact ⟨c, hc, hcapable⟩

/-- what stands in the ledger for an intent and its authorization -/
structure Ledgered (sv : Services) (db : Db) (row : IntentRow) (p : ProposalRow) (d : DecisionRow) : Prop where
  found : db.intent? row.intentId = some row
  single : row.intent.isFleetParent = false
  authorization : db.authorization row.intent.proposalId row.intent.decisionId = some (p, d)
  authorizes : Authorizes p d row
  proposalDigest : d.proposalDigest = p.proposalDigest
  fenced : validateFence row.intent.fence = .ok ()
  stored : checkStored sv row.intent = .ok ()

theorem Coherent.ledgered (h : Coherent sv db) (hrow : row ∈ db.intents) (hsingle : row.intent.isFleetParent = false) :
    ∃ p d, Ledgered sv db row p d := by
  obtain ⟨p, d, hauthorization, -, -, hauth, hjudged⟩ := h.authorization hrow
  have hbacked := h.backed row hrow
  exact ⟨p, d, h.uniqueIds.lookup_of_mem hrow rfl, hsingle, hauthorization, hauth, hjudged.proposalDigest,
    hbacked.fenced, hbacked.stored hsingle⟩

/-- the policy of an intent is current: the row it names is there, and the overlay of a delete has expired -/
@[mk_iff]
structure PolicyCurrent (db : Db) (now : ℤ) (capture : Bool) (row : IntentRow) (p : ProposalRow) : Prop where
  exact : policyExact db p.proposal.effectKind p.proposal.policyDigest row.intent.targetId p.proposal.scope capture = .ok true
  due : row.intent.payload.operation = .overlayDelete → deleteReady now row.intent db = true

/-- the query of the preflight: one open proposal of one target -/
theorem preflightRow_eq (h : Ledgered sv db row p d) (hfacts : FactsCurrent db.inventory now row.intent)
    (hopen : p.supersededBy = none) (hone : p.proposal.targetIds = [row.intent.targetId]) :
    ∃ t a c, preflightRow db row.intent.proposalId = some (p, t, a, c) ∧ t.targetId = row.intent.targetId ∧ t.active = true ∧
      a.Matches row.intent.fence now ∧ a.edgeWorkloadRef = row.intent.fence.edgeWorkloadRef ∧
      a.electionFloor = row.intent.fence.electionIdLow ∧ c.Matches row.intent.fence now := by
  obtain ⟨t, ht, hactive⟩ := hfacts.target
  obtain ⟨a, ha, hmatches, hworkload, hfloor⟩ := hfacts.assignment
  obtain ⟨c, hc, hcapable⟩ := hfacts.capability
  have hp : openProposal db row.intent.proposalId = some p := by
    rw [openProposal, (authorization_some.1 h.authorization).1]
    simp [hopen]
  have ha' : (db.inventory.newestAssignment row.intent.targetId).filter (fun a => !a.revoked) = some a :=
    Option.filter_eq_some_iff.2 ⟨ha, by simp [hmatches.2.2.2.2.1]⟩
  refine ⟨t, a, c, ?_, by simpa using List.find?_some ht, hactive, hmatches, hworkload, hfloor, hcapable⟩
  unfold preflightRow
  rw [hp]
  dsimp only
  rw [hone]
  dsimp only
  rw [Option.mem_def.1 ht, ha', Option.mem_def.1 hc]
  rfl

/-- the token of the preflight binds what the intent binds -/
structure TokenOf (token : PreflightToken) (intent : Intent) : Prop where
  target : token.targetId = intent.targetId
  policy : token.policyDigest = intent.payload.policyRevisionDigest
  incarnation : token.fence.targetControlIncarnationId = intent.fence.targetControlIncarnationId
  generation : token.fence.targetAssignmentGeneration = intent.fence.targetAssignmentGeneration
  workload : token.fence.edgeWorkloadRef = intent.fence.edgeWorkloadRef
  epoch : token.fence.actorRuntimeEpoch = intent.fence.actorRuntimeEpoch
  application : token.fence.applicationGeneration = intent.fence.applicationGeneration
  p4Info : token.fence.p4InfoDigest = intent.fence.p4InfoDigest
  pipeline : token.fence.pipelineDigest = intent.fence.pipelineDigest
  capacity : token.fence.capacityDigest = intent.fence.capacityDigest
  election : token.fence.electionIdLow = intent.fence.electionIdLow

section

variable (h : Ledgered sv db row p d)
include h

theorem preflight_ok {allowExpired : Bool}
    (hfacts : FactsCurrent db.inventory now row.intent)
    (hexact : policyExact db p.proposal.effectKind p.proposal.policyDigest row.intent.targetId p.proposal.scope capture = .ok true)
    (htimes : allowExpired = true ∨ now < p.proposal.expiresAtUnixMs) (hopen : p.supersededBy = none)
    (hone : p.proposal.targetIds = [row.intent.targetId]) :
    ∃ token, preflight sv now row.intent.proposalId allowExpired capture db = .ok token ∧ TokenOf token row.intent := by
  obtain ⟨t, a, c, hquery, htarget, hactive, hassigned, hworkload, hfloor, hcapable⟩ := preflightRow_eq h hfacts hopen hone
  obtain ⟨hgeneration, hincarnation, hepoch, happlication, -, hexpires⟩ := hassigned
  obtain ⟨-, -, hcepoch, -, hp4info, hpipeline, hcapacity, havailable, hcexpires⟩ := hcapable
  have hfence := reject_ok.1 h.fenced
  push Not at hfence
  have hepochNe := hfence.2.2.2.2.2.1
  unfold preflight
  rw [hquery]
  refine ⟨_, bind_ok.2 ⟨(), reject_of_not ?_, bind_ok.2 ⟨true, ?_, bind_ok.2 ⟨(), reject_of_not (by simp), rfl⟩⟩⟩, ?_⟩
  · rw [hepoch, hcepoch]
    push Not
    refine ⟨fun hlate => htimes.resolve_left (by simp [hlate]), by simp [hactive], hexpires, hcexpires, by simp [havailable],
      hepochNe, rfl, a.floor_pos⟩
  · rw [htarget]
    exact hexact
  · exact
      { target := htarget, policy := (h.authorizes.policy h.single).symm, incarnation := hincarnation
        generation := hgeneration, workload := hworkload, epoch := hepoch, application := happlication, p4Info := hp4info
        pipeline := hpipeline, capacity := hcapacity
        election := by
          dsimp only
          omega }

/-- the preflight lets an intent of an open proposal of one target through -/
theorem validateIntent_accepts (hfacts : FactsCurrent db.inventory now row.intent)
    (hpolicy : PolicyCurrent db now capture row p) (hdeadline : now < row.intent.deadlineUnixMs)
    (htimes : row.intent.payload.operation = .overlayDelete ∨ (now < d.expiresAtUnixMs ∧ now < p.proposal.expiresAtUnixMs))
    (hopen : p.supersededBy = none) (hone : p.proposal.targetIds = [row.intent.targetId]) :
    validateIntent sv now row.intent capture db = .ok () := by
  have hauth := h.authorizes
  have hallow : decide (row.intent.payload.operation = .overlayDelete) = true ∨ now < p.proposal.expiresAtUnixMs :=
    htimes.imp decide_eq_true And.right
  obtain ⟨token, hpreflight, htoken⟩ := preflight_ok h hfacts hpolicy.exact hallow hopen hone
  refine bind_ok.2 ⟨(), reject_of_not ?_, bind_ok.2 ⟨token, hpreflight, bind_ok.2 ⟨(), reject_of_not ?_,
    bind_ok.2 ⟨(), reject_of_not ?_, reject_of_not ?_⟩⟩⟩⟩
  · simp [h.single, hdeadline]
  · push Not
    exact ⟨htoken.target, htoken.policy, htoken.incarnation, htoken.generation, htoken.workload, htoken.epoch,
      htoken.application, htoken.p4Info, htoken.pipeline, htoken.capacity, htoken.election⟩
  · have hexact : authorizationExact now row.intent (decide (row.intent.payload.operation = .overlayDelete)) db = true := by
      unfold authorizationExact
      rw [h.authorization, Option.any_some, decide_eq_true_eq, decide_eq_true_eq]
      exact ⟨hauth.approved, hauth.digest, hauth.kind, hauth.risk, hauth.actor, htimes⟩
    simp [hexact]
  · rintro ⟨hdelete, hlate⟩
    rw [hpolicy.due (by simpa using hdelete)] at hlate
    cases hlate

/-- an intent the preflight lets through has an open proposal of one target -/
theorem validateIntent_single
    (hvalid : validateIntent sv now row.intent capture db = .ok ()) :
    p.supersededBy = none ∧ p.proposal.targetIds = [row.intent.targetId] := by
  replace hvalid := passed hvalid
  obtain ⟨token, hpreflight, -⟩ := bind_ok.1 hvalid
  unfold preflight at hpreflight
  split at hpreflight
  · cases hpreflight
  · rename_i q t a c hquery
    unfold preflightRow at hquery
    split at hquery
    · cases hquery
    · rename_i q' hopen
      obtain ⟨hq', hnone⟩ := Option.filter_eq_some_iff.1 hopen
      obtain rfl : p = q' := Option.some.inj ((authorization_some.1 h.authorization).1.symm.trans hq')
      refine ⟨by simpa using hnone, ?_⟩
      split at hquery
      · rename_i targetId hids
        have htarget := h.authorizes.target h.single
        rw [hids, List.mem_singleton] at htarget
        rw [hids, htarget]
      · cases hquery

/-- **What is left of the claim when the facts are current.** -/
theorem claimIntent_current_iff
    (hfacts : FactsCurrent db.inventory now row.intent) (hdeadline : now < row.intent.deadlineUnixMs)
    (hnotBefore : row.notBeforeUnixMs ≤ now) :
    (∃ db', claimIntent now row.intentId .unclaimed row.intent.effectDigest leaseId leaseTtl db = .ok (.claimed, db')) ↔
      row.claim.state = some .unclaimed ∧ now < d.expiresAtUnixMs ∧ now < p.proposal.expiresAtUnixMs ∧ gateOpen db row := by
  obtain ⟨hfence, hcapable⟩ := hfacts.fence
  have hauth := h.authorizes
  unfold claimIntent
  rw [h.found]
  dsimp only
  rw [h.authorization]
  cases hstate : row.claim.state with
  | none => simp
  | some state =>
    dsimp only
    rw [if_neg (by simp [h.single])]
    by_cases hcurrent : authorizationCurrent now p d
    · rw [if_neg (by simp [hcurrent, hdeadline]), if_neg (by omega)]
      obtain ⟨-, hd, hp, -⟩ := hcurrent
      by_cases hgate : gateOpen db row
      · rw [if_neg (by simp [hgate, hfence, hcapable])]
        by_cases hunclaimed : state = .unclaimed
        · simp [hunclaimed, hd, hp, hgate]
        · simp [hunclaimed]
      · rw [if_pos (Or.inl hgate)]
        simp [hgate]
    · rw [if_pos (Or.inr hcurrent)]
      have hexpired : ¬ (now < d.expiresAtUnixMs ∧ now < p.proposal.expiresAtUnixMs) := fun htimes =>
        hcurrent ⟨hauth.approved, htimes.1, htimes.2, h.proposalDigest⟩
      simp only [Except.ok.injEq, Prod.mk.injEq, reduceCtorEq, false_and, exists_false, false_iff]
      exact fun hall => hexpired ⟨hall.2.1, hall.2.2.1⟩

end

/-- `Dispatch` of an intent at one moment, up to its claim -/
def Dispatches (sv : Services) (now : ℤ) (capture : Bool) (leaseId : String) (leaseTtl : ℤ) (intentId : String) (db : Db) :
    Prop :=
  ∃ intent, loadIntent sv db intentId = .ok intent ∧ validateIntent sv now intent capture db = .ok () ∧
    ∃ db', claimIntent now intentId .unclaimed intent.effectDigest leaseId leaseTtl db = .ok (.claimed, db')

/-- **What is left of `Dispatch` when the facts are current.** -/
theorem dispatches_iff (h : Ledgered sv db row p d)
    (hfacts : FactsCurrent db.inventory now row.intent) (hpolicy : PolicyCurrent db now capture row p)
    (hdeadline : now < row.intent.deadlineUnixMs) (hnotBefore : row.notBeforeUnixMs ≤ now)
    (htimes : row.intent.payload.operation = .overlayDelete ∨ (now < d.expiresAtUnixMs ∧ now < p.proposal.expiresAtUnixMs)) :
    Dispatches sv now capture leaseId leaseTtl row.intentId db ↔
      (p.supersededBy = none ∧ p.proposal.targetIds = [row.intent.targetId]) ∧
        row.claim.state = some .unclaimed ∧ now < d.expiresAtUnixMs ∧ now < p.proposal.expiresAtUnixMs ∧ gateOpen db row := by
  have hload : loadIntent sv db row.intentId = .ok row.intent := by
    unfold loadIntent
    rw [h.found]
    exact bind_ok.2 ⟨(), reject_of_not (by simp [h.single]), bind_ok.2 ⟨(), h.stored, rfl⟩⟩
  have hvalidates : validateIntent sv now row.intent capture db = .ok () ↔
      p.supersededBy = none ∧ p.proposal.targetIds = [row.intent.targetId] :=
    ⟨validateIntent_single h, fun hproposal => validateIntent_accepts h hfacts hpolicy hdeadline htimes hproposal.1 hproposal.2⟩
  rw [← hvalidates, ← claimIntent_current_iff h hfacts hdeadline hnotBefore]
  constructor
  · rintro ⟨intent, hintent, hvalid, hclaim⟩
    cases hload.symm.trans hintent
    exact ⟨hvalid, hclaim⟩
  · rintro ⟨hvalid, hclaim⟩
    exact ⟨row.intent, hload, hvalid, hclaim⟩

/-! ## Expired overlays -/

/-- the delete intent of an overlay; its gate is open as long as nobody has taken it -/
structure Scheduled (p : ProposalRow) (o : OverlayRow) (row : IntentRow) : Prop where
  inserted : ∃ claim, DeleteOf p o { row with claim }
  gate : row.claim.state = some .unclaimed → row.claim.gateOpen = true

/-- every overlay has its delete intent -/
def OverlaysScheduled (db : Db) : Prop := ∀ o ∈ db.overlays, ∃ p ∈ db.proposals, ∃ row ∈ db.intents, Scheduled p o row

/-- the schedule of an overlay stays -/
theorem Write.keeps_schedule (h : Write sv perm db db') (hcoherent : Coherent sv db) {o o' : OverlayRow}
    (ho : o' = o ∨ o' = { o with deleted := true }) (hdb : ∃ p ∈ db.proposals, ∃ row ∈ db.intents, Scheduled p o row) :
    ∃ p ∈ db'.proposals, ∃ row ∈ db'.intents, Scheduled p o' row := by
  obtain ⟨p, hp, row, hrow, ⟨claim, hinserted⟩, hgate⟩ := hdb
  obtain ⟨p', hp', hproposal, -⟩ := h.keeps_proposal hp
  obtain ⟨f, rows, hintents, hmoves, -⟩ := h.intents_cases hcoherent.uniqueIds
  have hmem : { row with claim := f row } ∈ db'.intents := by
    rw [hintents]
    exact List.mem_append_left _ (List.mem_map_of_mem hrow)
  refine ⟨p', hp', _, hmem, ⟨claim, ?_⟩, fun hstate => ?_⟩
  · have hp'id : p'.proposalId = p.proposalId := by rw [ProposalRow.proposalId, hproposal, ProposalRow.proposalId]
    rcases ho with rfl | rfl
    · exact { hinserted with proposal := hinserted.proposal.trans hp'id.symm, scope := hproposal ▸ hinserted.scope }
    · exact
        { hinserted with
          id := hinserted.id, target := hinserted.target, policy := hinserted.policy, notBefore := hinserted.notBefore
          proposal := hinserted.proposal.trans hp'id.symm, scope := hproposal ▸ hinserted.scope }
  · obtain ⟨hunclaimed, hopen⟩ := (hmoves row hrow).of_unclaimed hstate
    exact hopen (hgate hunclaimed)

/-- a stored intent that a new overlay finds in the place of its delete is one -/
def Permit.deletes : Permit :=
  { Permit.any with recalled := fun row => row.intent.isFleetParent = false ∧ row.intent.payload.operation = .overlayDelete }

/-- an overlay finds a stored intent with the id and the effect digest of its delete only if that is a delete: the digest
binds the operation -/
def DigestsApart (sv : Services) (w : World) : Op → Prop
  | .tx (.createOverlay now ov rulesSize) =>
    ∀ x ∈ (prepareOverlay sv.profile sv.rfc3339 sv.number now ov rulesSize).toOption, ∀ row ∈ w.db.intents,
      row.intentId = x.2.effectIntentId → row.intent.effectDigest = x.2.effectDigest →
        row.intent.isFleetParent = false ∧ row.intent.payload.operation = .overlayDelete
  | _ => True

instance (sv : Services) (w : World) (op : Op) : Decidable (DigestsApart sv w op) := by
  unfold DigestsApart
  split <;> infer_instance

theorem permitted_deletes {w : World} {op : Op} (h : DigestsApart sv w op) : Permitted sv .deletes w op := by
  have hany := permitted_any sv w op
  cases op with
  | tx t =>
    cases t with
    | createOverlay =>
      intro upsert delete hprepared row hrow hid hdigest
      exact h (upsert, delete) (by rw [hprepared]; rfl) row hrow hid hdigest
    | _ => exact hany
  | _ => exact hany

/-- **Every write keeps the schedule.** A delete intent that was there before its overlay would be named by another one. -/
theorem Write.keeps_overlaysScheduled (h : Write sv .deletes db db') (hcoherent : Coherent sv db)
    (hdb : OverlaysScheduled db) : OverlaysScheduled db' := by
  rcases h.tables.overlays with ⟨gone, heq⟩ | ⟨o, hnew, hdelete, heq⟩
  · intro o' ho'
    rw [heq] at ho'
    obtain ⟨o, ho, rfl⟩ := List.mem_map.1 ho'
    refine h.keeps_schedule hcoherent ?_ (hdb o ho)
    unfold marked
    split
    · exact Or.inr rfl
    · exact Or.inl rfl
  · intro o' ho'
    rw [heq] at ho'
    rcases Run.mem_snoc.1 ho' with hold | rfl
    · exact h.keeps_schedule hcoherent (Or.inl rfl) (hdb o' hold)
    · rcases hdelete with ⟨p, hp, row, hrow, hof⟩ | ⟨row, hrow, hid, hchild, hoperation⟩
      · exact ⟨p, hp, row, hrow, ⟨row.claim, hof⟩, fun _ => hof.gate⟩
      · obtain ⟨other, hother, hnamed⟩ := (hcoherent.backed row hrow).named hchild hoperation
        exact absurd (hnamed.trans hid) (hnew other hother).2

theorem run_scheduled {ops : List Op} (hops : Along (fun pre op => DigestsApart sv (run sv pre) op) ops) :
    OverlaysScheduled (run sv ops).db := by
  have hpermitted : RunPermitted sv .deletes ops := hops.imp fun _ _ h => permitted_deletes h
  refine run_invariant ?_ (fun _ _ hcoherent hdb h => h.keeps_overlaysScheduled hcoherent hdb) hpermitted
  intro o ho
  cases ho

/-- what the delete of an expired overlay still needs -/
@[mk_iff]
structure Removable (db : Db) (now : ℤ) (row : IntentRow) (p : ProposalRow) (d : DecisionRow) : Prop where
  unclaimed : row.claim.state = some .unclaimed
  decision : now < d.expiresAtUnixMs
  proposal : now < p.proposal.expiresAtUnixMs
  current : p.supersededBy = none
  one : p.proposal.targetIds = [row.intent.targetId]
  thawed : ¬ Frozen db row.intent

/-- **The delete of an expired overlay.** When the facts are current, it is dispatched if and only if nobody has taken it,
its decision and its proposal have not run out, and neither the target set nor another activation stands in its way. -/
theorem expired_overlay_removable_iff (sv : Services) (ops : List Op)
    (hops : Along (fun pre op => DigestsApart sv (run sv pre) op) ops) {o : OverlayRow} (ho : o ∈ (run sv ops).db.overlays)
    (hpresent : o.deleted = false) {now : ℤ} (hexpired : o.expiresAtUnixMs ≤ now) :
    ∃ row p d, (run sv ops).db.intent? o.deleteIntentId = some row ∧ row.intent.payload.operation = .overlayDelete ∧
      (run sv ops).db.authorization row.intent.proposalId row.intent.decisionId = some (p, d) ∧
      (now < row.intent.deadlineUnixMs → FactsCurrent (run sv ops).db.inventory now row.intent →
        ∀ capture leaseId leaseTtl, Dispatches sv now capture leaseId leaseTtl o.deleteIntentId (run sv ops).db ↔
          Removable (run sv ops).db now row p d) := by
  have hcoherent := (run_live sv ops).coherent
  obtain ⟨q, hq, row, hrow, ⟨claim, hof⟩, hgate⟩ := run_scheduled hops o ho
  obtain ⟨p, d, h⟩ := hcoherent.ledgered hrow hof.child
  have hid : row.intentId = o.deleteIntentId := hof.id
  have hauth := h.authorizes
  obtain rfl : q = p := hcoherent.proposals q hq p (authorization_mem h.authorization).1
    (hof.proposal.symm.trans hauth.proposalId.symm)
  have hpolicyDigest : row.intent.payload.policyRevisionDigest = o.rule.canonicalRuleDigest := hof.policy
  have htarget : row.intent.targetId = o.targetId := hof.target
  refine ⟨row, q, d, hid ▸ h.found, hof.operation, h.authorization, fun hdeadline hfacts capture leaseId leaseTtl => ?_⟩
  have hpolicy : PolicyCurrent (run sv ops).db now capture row q := by
    constructor
    · rw [hauth.kind, hof.kind, ← hauth.policy h.single, hpolicyDigest, htarget, hof.scope]
      refine congrArg Except.ok (List.any_eq_true.2 ⟨o, ho, ?_⟩)
      simp [hpresent]
    · intro _
      refine List.any_eq_true.2 ⟨o, ho, ?_⟩
      rw [decide_eq_true_eq]
      exact ⟨hid.symm, htarget.symm, hpresent, hexpired, hpolicyDigest.symm⟩
  have hnotBefore : row.notBeforeUnixMs ≤ now := (le_of_eq hof.notBefore).trans hexpired
  rw [← hid, dispatches_iff h hfacts hpolicy hdeadline hnotBefore (Or.inl hof.operation)]
  constructor
  · rintro ⟨⟨hcurrent, hone⟩, hunclaimed, hdecision, hproposal, -, hthawed, -⟩
    exact ⟨hunclaimed, hdecision, hproposal, hcurrent, hone, hthawed⟩
  · intro hall
    exact ⟨⟨hall.current, hall.one⟩, hall.unclaimed, hall.decision, hall.proposal, hgate hall.unclaimed, hall.thawed,
      Or.inl hof.single⟩

/-- the rule of the lab's overlay, which expires after twenty minutes -/
def labOverlayRule : PolicyOverlayRule :=
  let rule := { hourOverlay.rule with expiresAt := "1970-01-01T00:20:00Z" }
  { rule with canonicalRuleDigest := computeOverlayRuleDigest rollingHash rule }

def overlayProposal : Proposal := labProposal "proposal-1" .firewallOverlay ["leaf-1"] labOverlayRule.canonicalRuleDigest

def labOverlay : Overlay :=
  { hourOverlay with
    rule := labOverlayRule, expiresAtUnixMs := 1200000
    upsertIntent := labIntent overlayProposal "intent-1" "operation-1" "leaf-1"
    deleteIntent := { labIntent overlayProposal "intent-2" "operation-2" "leaf-1" with deadlineUnixMs := 3600000 } }

/-- the read-back of the lab's overlay -/
def overlayReply : EffectResult :=
  let entry := { labEntry with ruleId := labOverlayRule.ruleId, tableId := responseOverlayTable }
  { appliedReply with
    appliedEntries := [entry]
    readbackManifestDigest := computeReadbackManifestDigest labServices.profile labServices.json [entry] }

/-- an overlay that is decided at some time, created and installed -/
def installedOverlay (decidedAt : ℤ) : List Op :=
  [.tx (.observe (labInventory ["leaf-1"])), .tx (.createProposal 0 overlayProposal),
    .decide (some (labMapping ["leaf-1"])) decidedAt "proposal-1" operator strongAuthz "REVIEWED" (.plain true),
    .record 0 decidedAt, .tx (.createOverlay decidedAt labOverlay 512)] ++
  [.load 0 "intent-1", .validate 0 true, .claim 0 decidedAt "lease-0" 30000, .project 0, .send 0,
    .reply 0 decidedAt false (.answered overlayReply labDigest)]

/-- **An overlay that outlives its decision stays.** Twenty minutes after it was decided and installed the overlay has
expired; its delete passes the preflight, and the claim finds the decision expired. -/
theorem late_delete_refused : let db := (run labServices (installedOverlay 0)).db
    (∃ o ∈ db.overlays, o.deleted = false ∧ o.expiresAtUnixMs ≤ 1200000 ∧ o.deleteIntentId = "intent-2" ∧
      ∃ installed ∈ db.intent? o.upsertIntentId, installed.claim.state = some .finalized) ∧
    ∃ row ∈ db.intent? "intent-2", row.claim.state = some .unclaimed ∧ 1200000 < row.intent.deadlineUnixMs ∧
      FactsCurrent db.inventory 1200000 row.intent ∧ validateIntent labServices 1200000 row.intent false db = .ok () ∧
      (claimIntent 1200000 "intent-2" .unclaimed row.intent.effectDigest "lease-1" 30000 db).map Prod.fst = .ok .expired := by
  decide +kernel

instance (db : Db) (now : ℤ) (row : IntentRow) (p : ProposalRow) (d : DecisionRow) : Decidable (Removable db now row p d) :=
  decidable_of_iff' _ (removable_iff db now row p d)

/-- decided later, the same overlay is removed in time -/
theorem timely_delete_dispatched :
    Dispatches labServices 1200000 false "lease-1" 30000 "intent-2" (run labServices (installedOverlay 500000)).db := by
  have hrun : let db := (run labServices (installedOverlay 500000)).db
      ∃ o ∈ db.overlays, o.deleted = false ∧ o.expiresAtUnixMs ≤ 1200000 ∧ o.deleteIntentId = "intent-2" ∧
        ∀ row ∈ db.intent? o.deleteIntentId, 1200000 < row.intent.deadlineUnixMs ∧
          FactsCurrent db.inventory 1200000 row.intent ∧
          ∀ x ∈ db.authorization row.intent.proposalId row.intent.decisionId, Removable db 1200000 row x.1 x.2 := by
    decide +kernel
  obtain ⟨o, ho, hpresent, hexpired, hid, hall⟩ := hrun
  obtain ⟨row, p, d, hrow, -, hauth, hiff⟩ := expired_overlay_removable_iff labServices (installedOverlay 500000)
    (along_of_decide (P := DigestsApart labServices) (step labServices) World.init (by decide +kernel)) ho hpresent hexpired
  obtain ⟨hdeadline, hfacts, hremovable⟩ := hall row hrow
  rw [← hid]
  exact (hiff hdeadline hfacts false "lease-1" 30000).2 (hremovable (p, d) hauth)

/-! ## Fleet children -/

/-- a child whose gates are open and whose times, facts and policy are current -/
@[mk_iff]
structure ChildCurrent (db : Db) (now : ℤ) (capture : Bool) (c : FleetChildRow) (row : IntentRow) (p : ProposalRow)
    (d : DecisionRow) : Prop where
  gate : c.progress.gateOpen = true
  intentGate : row.claim.gateOpen = true
  deadline : now < row.intent.deadlineUnixMs
  decision : now < d.expiresAtUnixMs
  proposal : now < p.proposal.expiresAtUnixMs
  facts : FactsCurrent db.inventory now row.intent
  policy : PolicyCurrent db now capture row p

/-- **The child of a fleet operation.** When everything about it is current, it is dispatched if and only if the operation
has one target, the proposal is not superseded, nobody has taken the intent and no other activation is under way. -/
theorem fleet_child_dispatchable_iff (sv : Services) (ops : List Op) {c : FleetChildRow}
    (hc : c ∈ (run sv ops).db.fleetChildren) :
    ∃ row p d, (run sv ops).db.intent? c.childIntentId = some row ∧ row.fleetOperationId = some c.fleetOperationId ∧
      row.intent.targetId = c.targetId ∧
      (run sv ops).db.authorization row.intent.proposalId row.intent.decisionId = some (p, d) ∧
      ∀ now capture, 0 ≤ now → ChildCurrent (run sv ops).db now capture c row p d →
        ∀ leaseId leaseTtl, Dispatches sv now capture leaseId leaseTtl c.childIntentId (run sv ops).db ↔
          (p.proposal.targetIds = [c.targetId] ∧ p.supersededBy = none ∧ row.claim.state = some .unclaimed ∧
            ¬ Frozen (run sv ops).db row.intent) := by
  have hcoherent := (run_live sv ops).coherent
  obtain ⟨row, hrow, hof⟩ := (run_fleets sv ops).intent c hc
  obtain ⟨p, d, h⟩ := hcoherent.ledgered hrow hof.child
  refine ⟨row, p, d, hof.id ▸ h.found, hof.operation, hof.target, h.authorization, ?_⟩
  intro now capture hnow hcurrent leaseId leaseTtl
  have hnotBefore : row.notBeforeUnixMs ≤ now := (le_of_eq hof.notBefore).trans hnow
  have hiff : Dispatches sv now capture leaseId leaseTtl row.intentId (run sv ops).db ↔ _ := dispatches_iff h hcurrent.facts
    hcurrent.policy hcurrent.deadline hnotBefore (Or.inr ⟨hcurrent.decision, hcurrent.proposal⟩)
  rw [← hof.id, hiff, hof.target]
  constructor
  · rintro ⟨⟨hopen, hone⟩, hunclaimed, -, -, -, hthawed, -⟩
    exact ⟨hone, hopen, hunclaimed, hthawed⟩
  · rintro ⟨hone, hopen, hunclaimed, hthawed⟩
    have hgate : gateOpen (run sv ops).db row :=
      ⟨hcurrent.intentGate, hthawed, Or.inr ⟨c, hc, hof.id.symm, hcurrent.gate⟩⟩
    exact ⟨⟨hopen, hone⟩, hunclaimed, hcurrent.decision, hcurrent.proposal, hgate⟩

instance (db : Db) (now : ℤ) (capture : Bool) (row : IntentRow) (p : ProposalRow) :
    Decidable (PolicyCurrent db now capture row p) :=
  decidable_of_iff' _ (policyCurrent_iff db now capture row p)

instance (db : Db) (now : ℤ) (capture : Bool) (c : FleetChildRow) (row : IntentRow) (p : ProposalRow) (d : DecisionRow) :
    Decidable (ChildCurrent db now capture c row p d) :=
  decidable_of_iff' _ (childCurrent_iff db now capture c row p d)

/-- **No child of two targets.** Everything about the child of an open wave is current, and the preflight does not find its
proposal; `Dispatch` holds it. -/
theorem two_target_child_refused :
    (let db := (run labServices (gatedFleet none)).db
      ∃ c ∈ db.child? "child-1", ∃ row ∈ db.intent? "child-1", row.claim.state = some .unclaimed ∧ ¬ Frozen db row.intent ∧
        ∃ x ∈ db.authorization row.intent.proposalId row.intent.decisionId, x.1.supersededBy = none ∧
          ChildCurrent db 0 true c row x.1 x.2 ∧ validateIntent labServices 0 row.intent true db ≠ .ok ()) ∧
      ∃ row ∈ (run labServices heldFleet).db.intent? "child-1", row.claim.state = some .hold := by
  decide +kernel

/-- an operation on one target -/
def singleFleet : List Op :=
  let p := captureProposal ["leaf-1"]
  labFleetOps p (labFleet p [⟨0, ["leaf-1"], 1, .failFast, false⟩] [labChild p "child-1" "leaf-1" 0 none])

/-- the child of one target is dispatched -/
theorem single_target_child_dispatched :
    Dispatches labServices 0 true "lease-0" 30000 "child-1" (run labServices singleFleet).db := by
  have hrun : let db := (run labServices singleFleet).db
      ∃ c ∈ db.child? "child-1", c.childIntentId = "child-1" ∧ ∀ row ∈ db.intent? c.childIntentId,
        row.claim.state = some .unclaimed ∧ ¬ Frozen db row.intent ∧
          ∀ x ∈ db.authorization row.intent.proposalId row.intent.decisionId, x.1.proposal.targetIds = [c.targetId] ∧
            x.1.supersededBy = none ∧ ChildCurrent db 0 true c row x.1 x.2 := by
    decide +kernel
  obtain ⟨c, hc, hid, hall⟩ := hrun
  obtain ⟨row, p, d, hrow, -, -, hauth, hiff⟩ := fleet_child_dispatchable_iff labServices singleFleet (Table.mem_of_lookup hc)
  obtain ⟨hunclaimed, hthawed, hauthorized⟩ := hall row hrow
  obtain ⟨hone, hopen, hcurrent⟩ := hauthorized (p, d) hauth
  rw [← hid]
  exact (hiff 0 true le_rfl hcurrent "lease-0" 30000).2 ⟨hone, hopen, hunclaimed, hthawed⟩

end MasiEdge.Control
