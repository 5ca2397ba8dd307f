/-
A confirmed write, seen from both sides.

An intent of the control core is adapted, compiled and applied by the Edge process; the read-back is exact and the result
says applied. Whether the control core accepts the result depends on the operation:

* a baseline needs at least one enabled rule (the manifests of an empty list have different digests), and no two rules with
  the same priority, action and match (they have one digest);
* an overlay is accepted when the read-back lists its entry once;
* a delete is never accepted: the result expects the deleted entries, the control core expects none.

`applied_accepted_iff` is the exact condition; `confirmed_refused` runs the cases that fail it.
-/
import MasiEdge.Control.Readback

namespace MasiEdge.Control

open Firewall MasiEdge.Pointwise List

/-! ## What the adapter keeps -/

theorem edgeBaselineRule_ruleId {rule : NormalizedBaselineRule} {edgeRule : BaselineRule}
    (h : edgeBaselineRule rule = .ok edgeRule) : edgeRule.ruleId = rule.ruleId := by
  replace h := passed h
  obtain ⟨_, -, h⟩ := bind_ok.1 h
  obtain ⟨_, -, h⟩ := bind_ok.1 h
  obtain ⟨_, -, h⟩ := bind_ok.1 h
  obtain ⟨_, -, h⟩ := bind_ok.1 h
  obtain ⟨_, -, h⟩ := bind_ok.1 h
  obtain ⟨_, -, h⟩ := bind_ok.1 h
  obtain ⟨_, -, h⟩ := bind_ok.1 h
  obtain ⟨_, -, h⟩ := bind_ok.1 h
  obtain ⟨_, -, h⟩ := bind_ok.1 h
  rw [← Except.ok.inj h]

/-- the message of an overlay rule -/
structure OverlayAdapted (rule : NormalizedOverlayRule) (edge : OverlayRule) : Prop where
  ruleId : edge.ruleId = rule.ruleId
  ruleRevision : edge.ruleRevision ≠ 0
  digest : edge.canonicalRuleDigest = rule.canonicalRuleDigest
  protocol : edge.protocol = 6 ∨ edge.protocol = 17
  sourcePort : edge.sourcePort = rule.sourcePort
  destinationPort : edge.destinationPort = rule.destinationPort
  expiry : edge.expiresAtUnixMs = rule.expiresAtUnixMs
  positive : 0 < rule.expiresAtUnixMs
  action : edge.action = 1 ∨ edge.action = 2

theorem edgeFirewallAction_ok {action : String} {code : ℤ} (h : edgeFirewallAction action = .ok code) : code = 1 ∨ code = 2 := by
  unfold edgeFirewallAction at h
  split_ifs at h
  · exact .inl (Except.ok.inj h).symm
  · exact .inr (Except.ok.inj h).symm

variable {rfc3339 : String → Option ℤ} {edge : Firewall.EffectIntent} {p : Profile}

theorem adaptOverlayRule_ok {rule : NormalizedOverlayRule} {edge : OverlayRule}
    (h : adaptOverlayRule rfc3339 rule = .ok edge) : rule.enabled = true ∧ OverlayAdapted rule edge := by
  obtain ⟨_, henabled, h⟩ := bind_ok.1 h
  obtain ⟨_, hshape, h⟩ := bind_ok.1 h
  replace h := passed h
  obtain ⟨_, -, h⟩ := bind_ok.1 h
  obtain ⟨_, -, h⟩ := bind_ok.1 h
  obtain ⟨_, hprotocol, h⟩ := bind_ok.1 h
  obtain ⟨_, -, h⟩ := bind_ok.1 h
  obtain ⟨_, -, h⟩ := bind_ok.1 h
  obtain ⟨action, haction, h⟩ := bind_ok.1 h
  cases h
  simp only [reject_ok, not_or, not_lt, not_and_or, not_not] at hshape hprotocol
  exact ⟨by simpa using henabled, rfl, by dsimp only; omega, rfl, hprotocol, rfl, rfl, rfl, hshape.2.1,
    edgeFirewallAction_ok haction⟩

/-- the message has the kind of the operation and a rule for each rule the payload allows -/
def Adapted (payload : EffectPayload) (edge : Firewall.EffectIntent) : Prop :=
  match payload.operation with
  | .baselineActivate => edge.kind = 1 ∧ edge.baselineRules.map BaselineRule.ruleId = allowedRules payload ∧
      edge.baselineRules.length ≤ 4096
  | .overlayUpsert => edge.kind = 2 ∧ edge.overlayRules.map OverlayRule.ruleId = allowedRules payload ∧
      edge.overlayRules.length = 1
  | .overlayDelete => edge.kind = 3 ∧ edge.overlayRules.map OverlayRule.ruleId = allowedRules payload ∧
      edge.overlayRules.length = 1
  | .unsupported => False

theorem overlay_adapted {payload : EffectPayload} {rules : List OverlayRule}
    (hoperation : payload.operation ≠ .baselineActivate) (hone : payload.overlayRules.length = 1)
    (h : payload.overlayRules.mapM (adaptOverlayRule rfc3339) = .ok rules) :
    rules.map OverlayRule.ruleId = allowedRules payload ∧ rules.length = 1 := by
  have hall := mapM_ok.1 h
  have henabled : payload.overlayRules.filter (·.enabled) = payload.overlayRules := by
    rw [filter_eq_self]
    intro rule hrule
    obtain ⟨i, hi, rfl⟩ := getElem_of_mem hrule
    exact (adaptOverlayRule_ok (hall.get hi (hall.length_eq ▸ hi))).1
  have hallowed : allowedRules payload = payload.overlayRules.map NormalizedOverlayRule.ruleId := by
    unfold allowedRules
    split
    · next hbaseline => exact absurd hbaseline hoperation
    · rw [henabled]
  rw [hallowed]
  exact ⟨map_eq_of_forall₂ hall fun _ _ hrule => (adaptOverlayRule_ok hrule).2.ruleId, hall.length_eq ▸ hone⟩

theorem toEdgeEffectIntent_adapted {intent : Intent} (h : toEdgeEffectIntent p rfc3339 intent = .ok edge) :
    Adapted intent.payload edge := by
  obtain ⟨-, hpayload, atomicity, body, -, hbody, rfl⟩ := toEdgeEffectIntent_ok h
  replace hpayload := passed hpayload
  replace hpayload := passed hpayload
  replace hpayload := passed hpayload
  obtain ⟨hmany, hpayload⟩ := reject_then hpayload
  replace hpayload := passed hpayload
  unfold Adapted
  unfold edgeBody at hbody
  cases hoperation : intent.payload.operation with
  | baselineActivate =>
    simp only [hoperation] at hbody ⊢
    obtain ⟨_, -, hbody⟩ := bind_ok.1 hbody
    obtain ⟨rules, hrules, hbody⟩ := bind_ok.1 hbody
    cases hbody
    have hall := mapM_ok.1 hrules
    refine ⟨rfl, ?_, ?_⟩
    · simp only [allowedRules, hoperation]
      exact map_eq_of_forall₂ hall fun _ _ hrule => edgeBaselineRule_ruleId hrule
    · change rules.length ≤ 4096
      calc rules.length = (enabledRules intent.payload).length := hall.length_eq.symm
        _ ≤ intent.payload.baselineRules.length := length_filter_le _ _
        _ ≤ 4096 := not_lt.1 hmany
  | overlayUpsert | overlayDelete =>
    simp only [hoperation] at hbody hpayload ⊢
    obtain ⟨rules, hrules, hbody⟩ := bind_ok.1 hbody
    cases hbody
    have hone : intent.payload.overlayRules.length = 1 := not_not.1 (not_or.1 (reject_ok.1 hpayload)).2
    exact ⟨rfl, overlay_adapted (by simp [hoperation]) hone hrules⟩
  | unsupported =>
    simp only [hoperation] at hbody
    cases hbody

/-! ## The items of a plan -/

/-- the contract of a plan, as the control core needs it -/
structure PlanItems (allowed : List String) (plan : CompiledPlan) : Prop where
  ruleIds : plan.contract.entries.map CanonicalP4Entry.logicalRuleId = allowed
  bounded : plan.contract.entries.length ≤ 4096
  items : ∀ item ∈ plan.contract.entries, validSha256 item.canonicalEntryDigest = true ∧
    item.entityId = item.canonicalEntryDigest ∧ item.matchPriorityActionDigest = item.canonicalEntryDigest ∧
    item.tableId ≠ 0 ∧ item.directCounterId ≠ 0 ∧ item.bank ≤ 1
  spelled : ∀ ruleId ∈ allowed, ruleId ≠ "" ∧ (asBytes ruleId).length ≤ 128
  banks : plan.contract.activeBank ≤ 1 ∧ plan.contract.inactiveBank ≤ 1

theorem validateRuleIdentity_ok {ruleId digest : String} {revision : ℕ} (h : validateRuleIdentity ruleId revision digest = .ok ()) :
    ruleId ≠ "" ∧ (asBytes ruleId).length ≤ 128 := by
  obtain ⟨_, hidentity, -⟩ := bind_ok.1 h
  have hid := validateIdentity_iff.1 hidentity
  exact ⟨hid.nonempty, hid.length⟩

theorem canonicalEntityDigest_ok {entry : TableEntry} {digest : String}
    (h : canonicalEntityDigest p (.tableEntry entry) = .ok digest) :
    ∃ canonical, canonicalTableEntry entry = .ok canonical ∧ digest = sha256 p.hash (p.encodeEntry canonical) := by
  obtain ⟨entry', hentry, h⟩ := bind_ok.1 h
  cases hentry
  obtain ⟨canonical, hcanonical, h⟩ := bind_ok.1 h
  exact ⟨canonical, hcanonical, (Except.ok.inj h).symm⟩

theorem itemOf_wellFormed (hhash : HexHash p.hash) {directCounter bank : ℕ} {entity : Entity} {item : CanonicalP4Entry}
    (h : ItemOf p directCounter bank entity item) (hcounter : directCounter ≠ 0) (hbank : bank ≤ 1)
    (htable : ∀ entry, entity = .tableEntry entry → entry.tableId ≠ 0) :
    validSha256 item.canonicalEntryDigest = true ∧ item.entityId = item.canonicalEntryDigest ∧
      item.matchPriorityActionDigest = item.canonicalEntryDigest ∧ item.tableId ≠ 0 ∧ item.directCounterId ≠ 0 ∧
      item.bank ≤ 1 := by
  obtain ⟨entry, rfl, hid⟩ := h.table
  obtain ⟨canonical, -, hdigest⟩ := canonicalEntityDigest_ok h.digest
  refine ⟨hdigest ▸ validSha256_sha256 hhash _, h.entityId, h.matchDigest, ?_, ?_, ?_⟩
  · exact hid ▸ htable entry rfl
  · exact h.counter ▸ hcounter
  · exact h.bank ▸ hbank

section

variable {p : Profile} {edge : Firewall.EffectIntent} {activeBank baselineLimit overlayLimit : ℕ} {plan : CompiledPlan}
  {allowed : List String}

theorem baseline_items (hhash : HexHash p.hash) (hkind : edge.kind = 1)
    (hids : edge.baselineRules.map BaselineRule.ruleId = allowed) (hbounded : edge.baselineRules.length ≤ 4096)
    (h : compile p edge activeBank baselineLimit overlayLimit = .ok plan) : PlanItems allowed plan := by
  have heffect : effectKind edge.kind = some .baselineActivate := by rw [hkind]; rfl
  obtain ⟨-, -, -, -, -, -, -, hactive, hinactive⟩ := compile_ok h
  obtain ⟨_, -, hbank, -⟩ := compile_ok h
  obtain ⟨hrules, hitems, hruleIds, -⟩ := compile_baseline_contract heffect h
  refine ⟨hruleIds.trans hids, ?_, ?_, ?_, by rw [hactive]; exact hbank, by rw [hinactive]; omega⟩
  · have hlength := congrArg List.length hruleIds
    rw [length_map, length_map] at hlength
    rw [hlength]
    exact hbounded
  · intro item hitem
    obtain ⟨entity, hentity, hof⟩ := forall₂_right hitems item hitem
    obtain ⟨rule, -, hfrom⟩ := forall₂_right hrules entity hentity
    refine itemOf_wellFormed hhash hof ?_ (by omega) ?_
    · unfold baselineCounter
      split_ifs <;> decide
    · intro entry hentry
      obtain ⟨entry', hentry', htable, -⟩ := hfrom.meaning.table
      rw [hentry] at hentry'
      rw [Entity.tableEntry.inj hentry', htable]
      unfold baselineTable
      split_ifs <;> decide
  · intro ruleId hruleId
    rw [← hids] at hruleId
    obtain ⟨rule, hrule, rfl⟩ := List.mem_map.1 hruleId
    obtain ⟨_, -, hfrom⟩ := forall₂_left hrules rule ((mem_insertionSort ruleBefore).2 hrule)
    exact validateRuleIdentity_ok hfrom.identity

theorem overlay_items (hhash : HexHash p.hash) (hkind : edge.kind = 2 ∨ edge.kind = 3)
    (hids : edge.overlayRules.map OverlayRule.ruleId = allowed) (hone : edge.overlayRules.length = 1)
    (h : compile p edge activeBank baselineLimit overlayLimit = .ok plan) :
    PlanItems allowed plan ∧ plan.contract.entries.length = 1 ∧ plan.entries.length = 1 := by
  have heffect : effectKind edge.kind = some .overlayUpsert ∨ effectKind edge.kind = some .overlayDelete := by
    rcases hkind with hkind | hkind
    · exact .inl (by rw [hkind]; rfl)
    · exact .inr (by rw [hkind]; rfl)
  obtain ⟨_, -, -, -, -, -, -, hactive, hinactive⟩ := compile_ok h
  obtain ⟨hrules, hitems, hruleIds, hbank, -⟩ := compile_overlay_contract heffect h
  have hentries : plan.entries.length = 1 := by rw [← hrules.length_eq, length_insertionSort, hone]
  have hcontract : plan.contract.entries.length = 1 := by rw [← hitems.length_eq, hentries]
  refine ⟨⟨hruleIds.trans hids, by omega, ?_, ?_, by rw [hactive]; exact hbank, by rw [hinactive]; omega⟩, hcontract, hentries⟩
  · intro item hitem
    obtain ⟨entity, hentity, hof⟩ := forall₂_right hitems item hitem
    obtain ⟨rule, -, hfrom⟩ := forall₂_right hrules entity hentity
    refine itemOf_wellFormed hhash hof (by decide) hbank ?_
    intro entry hentry
    obtain ⟨actionId, -, hentry'⟩ := hfrom.entry
    rw [hentry] at hentry'
    rw [Entity.tableEntry.inj hentry']
    exact (by decide : responseOverlayTable ≠ 0)
  · intro ruleId hruleId
    rw [← hids] at hruleId
    obtain ⟨rule, hrule, rfl⟩ := List.mem_map.1 hruleId
    obtain ⟨_, -, hfrom⟩ := forall₂_left hrules rule ((mem_insertionSort overlayBefore).2 hrule)
    exact validateRuleIdentity_ok hfrom.identity

end

/-! ## The applied result -/

section

variable {p : Profile} {json : AppliedRuleReadback → String} {rfc3339 : String → Option ℤ} {intent : Intent}
  {edge : Firewall.EffectIntent} {plan : CompiledPlan} {digest : String} {observed : ℕ}

theorem applied_perm (plan : CompiledPlan) :
    (appliedReadbackEntries plan).Perm (plan.contract.entries.map readbackEntry) := perm_insertionSort _ _

theorem built_of_items (hhash : HexHash p.hash) (hedge : toEdgeEffectIntent p rfc3339 intent = .ok edge)
    (hitems : PlanItems (allowedRules intent.payload) plan) (hdigest : ∃ material, digest = sha256 p.hash material) :
    Built p json intent (executeResult p json edge plan (.ok (digest, observed))) := by
  obtain ⟨-, -, atomicity, body, -, -, rfl⟩ := toEdgeEffectIntent_ok hedge
  have hperm := applied_perm plan
  have hruleIds : ∀ ruleId, ruleId ∈ (appliedReadbackEntries plan).map AppliedRuleReadback.ruleId ↔
      ruleId ∈ allowedRules intent.payload := by
    intro ruleId
    rw [(hperm.map AppliedRuleReadback.ruleId).mem_iff, map_map, ← hitems.ruleIds]
    rfl
  have hentry : ∀ entry ∈ appliedReadbackEntries plan, ∃ item ∈ plan.contract.entries, readbackEntry item = entry :=
    fun entry hmem => List.mem_map.1 (hperm.mem_iff.1 hmem)
  refine
    { identity := ⟨rfl, rfl, rfl, rfl⟩
      status := rfl
      readback := ?_
      expected := ?_
      bounded := ?_
      mismatched := rfl
      bank := ?_
      manifest := rfl
      sorted := pairwise_insertionSort readbackBefore _
      wellFormed := ?_
      entityId := ?_
      covered := fun ruleId hmem => (hruleIds ruleId).2 hmem }
  · obtain ⟨material, rfl⟩ := hdigest
    exact validSha256_sha256 hhash material
  · change plan.contract.entries.length = (appliedReadbackEntries plan).length
    rw [hperm.length_eq, length_map]
  · change (appliedReadbackEntries plan).length ≤ 4096
    rw [hperm.length_eq, length_map]
    exact hitems.bounded
  · change (if _ then _ else _) ≤ 1
    split_ifs
    · exact hitems.banks.2
    · exact hitems.banks.1
  · intro entry hmem
    have hallowed : entry.ruleId ∈ allowedRules intent.payload := (hruleIds entry.ruleId).1 (mem_map_of_mem hmem)
    obtain ⟨item, hitem, rfl⟩ := hentry entry hmem
    obtain ⟨hvalid, hid, hmatch, htable, hcounter, hbank⟩ := hitems.items item hitem
    have hlength : (asBytes item.entityId).length = 71 := validSha256_length (hid ▸ hvalid)
    refine ⟨⟨?_, ?_⟩, hitems.spelled _ hallowed, hallowed, ⟨hvalid, ?_⟩, ⟨htable, hcounter⟩, hbank⟩
    · intro hempty
      have hnone : (asBytes item.entityId).length = 0 := by rw [show item.entityId = "" from hempty]; rfl
      omega
    · change (asBytes item.entityId).length ≤ 128
      omega
    · change validSha256 item.matchPriorityActionDigest = true
      rw [hmatch]
      exact hvalid
  · intro entry hmem
    obtain ⟨item, hitem, rfl⟩ := hentry entry hmem
    exact (hitems.items item hitem).2.1

theorem result_accepted_iff (hhash : HexHash p.hash) (hnull : p.hash (asBytes "null") ≠ p.hash (asBytes "[]"))
    (hedge : toEdgeEffectIntent p rfc3339 intent = .ok edge) (hitems : PlanItems (allowedRules intent.payload) plan)
    (hdigest : ∃ material, digest = sha256 p.hash material) :
    acceptReply p json intent (executeResult p json edge plan (.ok (digest, observed))) = .ok () ↔
      observed = (appliedReadbackEntries plan).length ∧ appliedReadbackEntries plan ≠ [] ∧
        intent.payload.operation ≠ .overlayDelete ∧
        ((appliedReadbackEntries plan).map AppliedRuleReadback.canonicalEntryDigest).Nodup :=
  (built_of_items hhash hedge hitems hdigest).accepted_iff hhash hnull

end

/-! ## Distinct digests, distinct rules -/

/-- no two canonical forms of the plan share a digest by accident -/
def Collisionless (p : Profile) (entities : List Entity) : Prop :=
  ∀ a b, Entity.tableEntry a ∈ entities → Entity.tableEntry b ∈ entities → ∀ c d, canonicalTableEntry a = .ok c →
    canonicalTableEntry b = .ok d → p.hash (p.encodeEntry c) = p.hash (p.encodeEntry d) → c = d

theorem digests_nodup_iff {activeBank baselineLimit overlayLimit : ℕ} {plan : CompiledPlan}
    (hkind : effectKind edge.kind = some .baselineActivate)
    (h : compile p edge activeBank baselineLimit overlayLimit = .ok plan) (hcollision : Collisionless p plan.entries) :
    ((appliedReadbackEntries plan).map AppliedRuleReadback.canonicalEntryDigest).Nodup ↔
      (edge.baselineRules.map ruleKey).Nodup := by
  obtain ⟨hrules, hitems, -, -⟩ := compile_baseline_contract hkind h
  have hpairs := forall₂_trans_mem hrules hitems
  have hsame : ((edge.baselineRules.insertionSort ruleBefore).map ruleKey).Nodup ↔
      (plan.contract.entries.map CanonicalP4Entry.canonicalEntryDigest).Nodup := by
    apply nodup_map_iff hpairs
    rintro rule item rule' item' ⟨entity, hmem, hfrom, hof⟩ ⟨entity', hmem', hfrom', hof'⟩
    obtain ⟨entry, hentry, rfl⟩ := hfrom.entry
    obtain ⟨entry', hentry', rfl⟩ := hfrom'.entry
    obtain ⟨canonical, hcanonical, hdigest⟩ := canonicalEntityDigest_ok hof.digest
    obtain ⟨canonical', hcanonical', hdigest'⟩ := canonicalEntityDigest_ok hof'.digest
    rw [← canonical_eq_iff hentry hentry' hcanonical hcanonical', hdigest, hdigest']
    constructor
    · intro heq
      rw [heq]
    · intro heq
      exact hcollision _ _ hmem hmem' _ _ hcanonical hcanonical' (sha256_inj heq)
  have hperm := (applied_perm plan).map AppliedRuleReadback.canonicalEntryDigest
  rw [map_map] at hperm
  calc ((appliedReadbackEntries plan).map AppliedRuleReadback.canonicalEntryDigest).Nodup
      ↔ (plan.contract.entries.map CanonicalP4Entry.canonicalEntryDigest).Nodup := hperm.nodup_iff
    _ ↔ ((edge.baselineRules.insertionSort ruleBefore).map ruleKey).Nodup := hsame.symm
    _ ↔ (edge.baselineRules.map ruleKey).Nodup := ((perm_insertionSort ruleBefore edge.baselineRules).map ruleKey).nodup_iff

/-! ## The condition -/

/-- when a confirmed write is accepted; `events` is the conversation with the target -/
def Acceptable (edge : Firewall.EffectIntent) (events : List Event) : Prop :=
  match effectKind edge.kind with
  | some .baselineActivate => edge.baselineRules ≠ [] ∧ (edge.baselineRules.map ruleKey).Nodup
  | some .overlayUpsert => (lastRead events).length = 1
  | _ => False

/-- **Confirmed and accepted.** For every adapted and compiled intent and every target, an applied result is accepted exactly
under `Acceptable`. -/
theorem applied_accepted_iff {p : Profile} {json : AppliedRuleReadback → String} {rfc3339 : String → Option ℤ}
    {intent : Intent} {edge : Firewall.EffectIntent} {activeBank baselineLimit overlayLimit : ℕ} {plan : CompiledPlan}
    {target : Target} {updatesPerWrite entitiesPerRead : ℕ} {events events' : List Event} {outcome : EdgeResult (String × ℕ)}
    (hhash : HexHash p.hash) (hnull : p.hash (asBytes "null") ≠ p.hash (asBytes "[]"))
    (hcollision : Collisionless p plan.entries) (hedge : toEdgeEffectIntent p rfc3339 intent = .ok edge)
    (hplan : compile p edge activeBank baselineLimit overlayLimit = .ok plan)
    (hrun : applyPlan p target updatesPerWrite entitiesPerRead edge plan events = (outcome, events'))
    (hstatus : (executeResult p json edge plan outcome).status = .applied) :
    acceptReply p json intent (executeResult p json edge plan outcome) = .ok () ↔ Acceptable edge events' := by
  obtain ⟨⟨digest, observed⟩, rfl⟩ : ∃ r, outcome = .ok r := by
    cases outcome with
    | ok r => exact ⟨r, rfl⟩
    | error e => cases e <;> cases hstatus
  obtain ⟨hdigest, hreported⟩ := applyPlan_ok hrun
  have hadapted := toEdgeEffectIntent_adapted hedge
  have hlength : (appliedReadbackEntries plan).length = plan.contract.entries.length := by
    rw [(applied_perm plan).length_eq, length_map]
  unfold Adapted at hadapted
  unfold Reported at hreported
  unfold Acceptable
  cases hoperation : intent.payload.operation with
  | baselineActivate =>
    simp only [hoperation] at hadapted
    obtain ⟨hkind, hids, hbounded⟩ := hadapted
    have heffect : effectKind edge.kind = some .baselineActivate := by rw [hkind]; rfl
    obtain ⟨hrules, hitems, -, -⟩ := compile_baseline_contract heffect hplan
    rw [heffect] at hreported
    rw [result_accepted_iff hhash hnull hedge (baseline_items hhash hkind hids hbounded hplan) hdigest, heffect]
    have hcount : (appliedReadbackEntries plan).length = edge.baselineRules.length := by
      rw [hlength, ← hitems.length_eq, ← hrules.length_eq, length_insertionSort]
    have hnonempty : appliedReadbackEntries plan ≠ [] ↔ edge.baselineRules ≠ [] := by
      rw [← length_pos_iff, ← length_pos_iff, hcount]
    have hobserved : observed = (appliedReadbackEntries plan).length := by
      rw [hreported, hlength, hitems.length_eq]
    have hbaseline : intent.payload.operation ≠ .overlayDelete := by simp [hoperation]
    rw [digests_nodup_iff heffect hplan hcollision, hnonempty]
    simp only [hobserved, true_and, hbaseline, ne_eq, not_false_eq_true]
  | overlayUpsert =>
    simp only [hoperation] at hadapted
    obtain ⟨hkind, hids, hone⟩ := hadapted
    have heffect : effectKind edge.kind = some .overlayUpsert := by rw [hkind]; rfl
    obtain ⟨hitems, hcontract, hentries⟩ := overlay_items hhash (.inl hkind) hids hone hplan
    rw [heffect] at hreported
    rw [result_accepted_iff hhash hnull hedge hitems hdigest, heffect]
    obtain ⟨entry, hsingle⟩ := List.length_eq_one_iff.1 (hlength.trans hcontract)
    have hupsert : intent.payload.operation ≠ .overlayDelete := by simp [hoperation]
    rw [hsingle, hreported hentries]
    simp [hupsert]
  | overlayDelete =>
    simp only [hoperation] at hadapted
    obtain ⟨hkind, hids, hone⟩ := hadapted
    have heffect : effectKind edge.kind = some .overlayDelete := by rw [hkind]; rfl
    obtain ⟨hitems, -, -⟩ := overlay_items hhash (.inr hkind) hids hone hplan
    rw [result_accepted_iff hhash hnull hedge hitems hdigest, heffect]
    simp [hoperation]
  | unsupported =>
    simp only [hoperation] at hadapted

/-! ## Runs -/

/-- a digest that tells the two texts of an empty list apart, and nothing else -/
def plainProfile : Profile :=
  { flatProfile with hash := fun payload =>
      if payload = asBytes "null" then "1111111111111111111111111111111111111111111111111111111111111111"
      else "0000000000000000000000000000000000000000000000000000000000000000" }

theorem plainProfile_hex : HexHash plainProfile.hash := by
  constructor
  · intro payload
    unfold plainProfile
    dsimp only
    split_ifs <;> decide +kernel
  · intro payload
    unfold plainProfile
    dsimp only
    split_ifs <;> decide +kernel

def leafFence : Fence :=
  { targetControlIncarnationId := "incarnation-1", targetAssignmentGeneration := 1, edgeWorkloadRef := "edge-1"
    actorRuntimeEpoch := "epoch-1", applicationGeneration := 1, electionIdHigh := 0, electionIdLow := 1
    p4InfoDigest := sha256 plainProfile.hash [], pipelineDigest := sha256 plainProfile.hash []
    capacityDigest := sha256 plainProfile.hash [] }

def leafIntent (operation : Operation) (baselineRules : List NormalizedBaselineRule)
    (overlayRules : List NormalizedOverlayRule) : Intent :=
  { effectIntentId := "intent-1", operationId := "operation-1", proposalId := "proposal-1", decisionId := "decision-1"
    targetId := "leaf-1", fleetOperationId := "", isFleetParent := false, fence := leafFence, effectDigest := ""
    payload := ⟨"p4-effect-payload/v1", operation, sha256 plainProfile.hash [], "drop", baselineRules, overlayRules, 0⟩
    authorizationDigest := sha256 plainProfile.hash [], effectKind := .firewallBaselineActivate, riskLevel := .r3
    requiredWriteAtomicity := "CONTINUE_ON_ERROR", deadlineUnixMs := 1000, actor := ⟨"https://idp", "operator"⟩
    traceId := "trace-1" }

def webRule (ruleId : String) : NormalizedBaselineRule :=
  { ruleId, ruleRevision := 1, canonicalRuleDigest := sha256 plainProfile.hash [], priority := 10, ingressPort := .wildcard
    source := ⟨"10.0.0.0", 8⟩, destination := ⟨"0.0.0.0", 0⟩, protocol := .number 6, l4Present := .boolean true
    sourcePort := .wildcard, destinationPort := .number 443, fragmentClass := "wildcard", action := "permit-and-continue"
    enabled := true }

def flowOverlay : NormalizedOverlayRule :=
  { ruleId := "flow", ruleRevision := 1, canonicalRuleDigest := sha256 plainProfile.hash []
    stagePrecedence := "before-baseline", source := "10.0.0.7", destination := "10.0.0.9", protocol := 6, sourcePort := 40000
    destinationPort := 443, action := "drop", enabled := true, expiresAt := "later", expiresAtUnixMs := 60000 }

/-- a target that holds some entries and takes every write -/
def holding (entities : List Entity) : Target :=
  ⟨fun _ queries => .ok (entities.filter fun entity => tableKeyEntity entity ∈ queries.map Except.ok), fun _ _ => .ok (), .ok 0⟩

/-- everything a plan installs -/
def installed (plan : CompiledPlan) : List Entity := plan.entries ++ plan.defaultEntry.toList ++ plan.selectorEntry.toList

/-- one effect from the intent to the verdict of the control core: the status of the result, and the verdict -/
def confirmed (intent : Intent) (after : CompiledPlan → List Entity) : Option (Effect.EffectStatus × GoResult Unit) := do
  let edge ← (toEdgeEffectIntent plainProfile (fun _ => some 60000) intent).toOption
  let plan ← (compile plainProfile edge 0 16 16).toOption
  let outcome := (applyPlan plainProfile (holding (after plan)) 16 16 edge plan []).1
  let result := executeResult plainProfile AppliedRuleReadback.entityId edge plan outcome
  return (result.status, acceptReply plainProfile AppliedRuleReadback.entityId intent result)

/-- **Confirmed and refused.** A delete, a baseline without rules and a baseline with two rules for one entry are applied and
read back exactly; the control core leaves each of them unknown. -/
theorem confirmed_refused :
    confirmed (leafIntent .overlayDelete [] [flowOverlay]) (fun _ => []) =
        some (.applied, .error "dispatcher: Edge readback is not exact") ∧
      confirmed (leafIntent .baselineActivate [] []) installed =
        some (.applied, .error "dispatcher: Edge per-entry readback manifest digest mismatch") ∧
      confirmed (leafIntent .baselineActivate [webRule "web", webRule "shop"] []) (fun plan => (installed plan).dedup) =
        some (.applied, .error "dispatcher: duplicate applied readback identity") := by
  decide +kernel

/-- the value of a computation that succeeds -/
def valueOf {ε α : Type} (x : Except ε α) (h : x.toOption.isSome = true) : α := x.toOption.get h

theorem eq_valueOf {ε α : Type} (x : Except ε α) (h : x.toOption.isSome = true) : x = .ok (valueOf x h) := by
  cases x with
  | error => cases h
  | ok => rfl

def webEdge : Firewall.EffectIntent :=
  valueOf (toEdgeEffectIntent plainProfile (fun _ => none) (leafIntent .baselineActivate [webRule "web"] [])) (by decide +kernel)

def webPlan : CompiledPlan := valueOf (compile plainProfile webEdge 0 16 16) (by decide +kernel)

/-- a baseline of one rule is accepted -/
theorem one_rule_accepted :
    acceptReply plainProfile AppliedRuleReadback.entityId (leafIntent .baselineActivate [webRule "web"] [])
      (executeResult plainProfile AppliedRuleReadback.entityId webEdge webPlan
        (applyPlan plainProfile (holding (installed webPlan)) 16 16 webEdge webPlan []).1) = .ok () := by
  have hsingle : webPlan.entries.length = 1 := by decide +kernel
  obtain ⟨entity, hentity⟩ := List.length_eq_one_iff.1 hsingle
  have hcollision : Collisionless plainProfile webPlan.entries := by
    intro a b ha hb c d hc hd _
    rw [hentity, mem_singleton] at ha hb
    cases Entity.tableEntry.inj (ha.trans hb.symm)
    exact Except.ok.inj (hc.symm.trans hd)
  have haccept : Acceptable webEdge (applyPlan plainProfile (holding (installed webPlan)) 16 16 webEdge webPlan []).2 := by
    exact ⟨by decide +kernel, by decide +kernel⟩
  exact (applied_accepted_iff plainProfile_hex (by decide +kernel) hcollision (eq_valueOf _ _) (eq_valueOf _ _)
    Prod.mk.eta.symm (by decide +kernel)).2 haccept

end MasiEdge.Control
