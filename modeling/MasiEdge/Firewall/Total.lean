/-
When the compiler succeeds.

The compiler refuses a rule for its own sake (spelling, width, prefix, ports without a transport header) or because of another
rule (same identity, same match with another action). `Sound` is what it asks of one rule; rules that are sound and pairwise
different always compile.

* `compileOrdered_total`, `compileOverlayOrdered_one`: the two loops;
* `compile_total`: an intent whose kind compiles has a plan.
-/
import MasiEdge.Firewall.Identity

namespace MasiEdge.Firewall

open Codec
open List

/-! ## The loops -/

/-- two rules whose entries are different matches -/
def MatchesApart (p : Profile) (bank : ℕ) (a b : BaselineRule) : Prop :=
  ∀ entry entry', baselineEntry bank a = .ok entry → baselineEntry bank b = .ok entry' →
    matchKey p entry ≠ matchKey p entry'

variable {p : Profile} {rule : OverlayRule} {entity : Entity} {bank : ℕ}

theorem compileOrdered_total {rules : List BaselineRule} {conflicts : List ((ℤ × Bytes) × Option TableAction)}
    {identities : List (String × ℕ)}
    (hsound : ∀ rule ∈ rules, validateRuleIdentity rule.ruleId rule.ruleRevision rule.canonicalRuleDigest = .ok () ∧ Sound rule)
    (hapart : rules.Pairwise fun a b => a.ruleId ≠ b.ruleId ∧ MatchesApart p bank a b)
    (hfresh : ∀ rule ∈ rules, (rule.ruleId, rule.ruleRevision) ∉ identities)
    (hmatch : ∀ rule ∈ rules, ∀ entry, baselineEntry bank rule = .ok entry → conflicts.lookup (matchKey p entry) = none) :
    ∃ entities, compileOrdered p bank conflicts identities rules = .ok entities := by
  induction rules generalizing conflicts identities with
  | nil => exact ⟨[], rfl⟩
  | cons rule rest ih =>
    obtain ⟨hidentity, hrule⟩ := hsound rule mem_cons_self
    obtain ⟨entry, hentry⟩ := hrule.entry bank
    obtain ⟨hhead, htail⟩ := List.pairwise_cons.1 hapart
    have hnone := hmatch rule mem_cons_self entry hentry
    -- the head adds an identity and a match that no later rule has
    have hrest : ∃ entities, compileOrdered p bank ((matchKey p entry, entry.action) :: conflicts)
        ((rule.ruleId, rule.ruleRevision) :: identities) rest = .ok entities := by
      apply ih (fun other hother => hsound other (mem_cons_of_mem rule hother)) htail
      · intro other hother hmem
        rcases List.mem_cons.1 hmem with hsame | hmem
        · exact (hhead other hother).1 (congrArg Prod.fst hsame).symm
        · exact hfresh other (mem_cons_of_mem rule hother) hmem
      · intro other hother entry' hentry'
        have hne : matchKey p entry' ≠ matchKey p entry := ((hhead other hother).2 entry entry' hentry hentry').symm
        rw [lookup_cons, beq_eq_false_iff_ne.2 hne]
        exact hmatch other (mem_cons_of_mem rule hother) entry' hentry'
    obtain ⟨entities, hentities⟩ := hrest
    rw [compileOrdered, hidentity, ok_bind, refuse_of_not (hfresh rule mem_cons_self), ok_bind, hentry, ok_bind,
      refuse_of_not (by rw [hnone]; simp), ok_bind, hentities]
    exact ⟨_, rfl⟩

/-- what the compiler asks of an overlay rule, apart from its identity -/
structure SoundOverlay (rule : OverlayRule) : Prop where
  protocol : rule.protocol = 6 ∨ rule.protocol = 17
  sourcePort : rule.sourcePort ≤ 65535
  destinationPort : rule.destinationPort ≤ 65535
  expiry : 0 < rule.expiresAtUnixMs
  action : ∃ actionId, overlayAction rule.action = .ok actionId

theorem compileOverlayRules_one :
    (∃ entities, compileOverlayRules p [rule] = .ok entities) ↔
      validateRuleIdentity rule.ruleId rule.ruleRevision rule.canonicalRuleDigest = .ok () ∧ SoundOverlay rule := by
  change (∃ entities, compileOverlayOrdered p [] [rule] = .ok entities) ↔ _
  constructor
  · rintro ⟨entities, h⟩
    obtain ⟨_, hidentity, h⟩ := bind_ok.1 h
    obtain ⟨_, hshape, h⟩ := bind_ok.1 h
    replace h := passed h
    obtain ⟨actionId, haction, -⟩ := bind_ok.1 h
    simp only [refuse_ok, not_or, not_and_or, not_not, UInt32.not_lt, not_le] at hshape
    obtain ⟨hprotocol, hsource, hdestination, hexpiry⟩ := hshape
    exact ⟨hidentity, hprotocol, hsource, hdestination, hexpiry, actionId, haction⟩
  · rintro ⟨hidentity, h⟩
    obtain ⟨actionId, haction⟩ := h.action
    have hshape : ¬ ((rule.protocol ≠ 6 ∧ rule.protocol ≠ 17) ∨ 65535 < rule.sourcePort ∨ 65535 < rule.destinationPort ∨
        rule.expiresAtUnixMs ≤ 0) := by
      simp only [not_or, not_and_or, not_not, UInt32.not_lt, not_le]
      exact ⟨h.protocol, h.sourcePort, h.destinationPort, h.expiry⟩
    rw [compileOverlayOrdered, hidentity, ok_bind, refuse_of_not hshape, ok_bind, refuse_of_not not_mem_nil, ok_bind,
      haction]
    exact ⟨_, rfl⟩

/-! ## The contract -/

theorem canonicalEntityDigest_total (p : Profile) {entry : TableEntry}
    (hnodup : (entry.fields.map FieldMatch.fieldId).Nodup) : ∃ digest, canonicalEntityDigest p (.tableEntry entry) = .ok digest := by
  have hsorted : ((entry.fields.insertionSort fun a b => a.fieldId ≤ b.fieldId).map FieldMatch.fieldId).Nodup :=
    ((perm_insertionSort _ entry.fields).map _).nodup_iff.2 hnodup
  unfold canonicalEntityDigest canonicalTableEntry
  simp only [entryOf, ok_bind]
  rw [refuse_of_not (not_not.2 hsorted)]
  exact ⟨_, rfl⟩

theorem field_ids {α : Type} {field : α → FieldMatch} {fieldId : ℕ} (x : Option α) (h : ∀ a, (field a).fieldId = fieldId) :
    ((x.toList.map field).map FieldMatch.fieldId).Sublist [fieldId] := by
  cases x <;> simp [h]

/-- a key has each field at most once -/
theorem RuleKey.fields_nodup (key : RuleKey) : (key.fields.map FieldMatch.fieldId).Nodup := by
  have hids : (key.fields.map FieldMatch.fieldId).Sublist ([1] ++ [2] ++ [3] ++ [4] ++ [5] ++ [6] ++ [7] ++ [8]) := by
    simp only [RuleKey.fields, map_append]
    repeat' apply Sublist.append
    all_goals exact field_ids _ fun _ => rfl
  exact hids.nodup (by decide)

theorem CompiledFrom.digest (p : Profile) {rule : BaselineRule} (h : CompiledFrom bank rule entity) :
    ∃ digest, canonicalEntityDigest p entity = .ok digest := by
  obtain ⟨entry, hentry, rfl⟩ := h.entry
  obtain ⟨-, actionId, -, rfl⟩ := baselineEntry_ok.1 hentry
  apply canonicalEntityDigest_total
  exact ((perm_insertionSort _ _).map _).nodup_iff.2 (ruleKey rule).fields_nodup

theorem OverlayFrom.digest (p : Profile) (h : OverlayFrom rule entity) :
    ∃ digest, canonicalEntityDigest p entity = .ok digest := by
  obtain ⟨actionId, -, rfl⟩ := h.entry
  apply canonicalEntityDigest_total
  change [1, 2, 3, 4, 5, 6, 7].Nodup
  decide

theorem contractEntries_total (directCounter bank : ℕ) (ruleIds : List String) {entities : List Entity}
    (h : ∀ entity ∈ entities, ∃ digest, canonicalEntityDigest p entity = .ok digest) :
    ∃ items, contractEntries p directCounter bank ruleIds entities = .ok items := by
  induction ruleIds generalizing entities with
  | nil => exact ⟨[], by simp [contractEntries]⟩
  | cons _ _ ih =>
    cases entities with
    | nil => exact ⟨[], rfl⟩
    | cons entity =>
      obtain ⟨digest, hdigest⟩ := h entity mem_cons_self
      obtain ⟨items, hitems⟩ := ih fun other hother => h other (mem_cons_of_mem entity hother)
      obtain ⟨entry, hentry, -⟩ := bind_ok.1 hdigest
      rw [contractEntries, hentry, ok_bind, hdigest, ok_bind, hitems]
      exact ⟨_, rfl⟩

/-- **Compiled kinds have plans.** -/
theorem compile_total {intent : EffectIntent} {activeBank baselineLimit overlayLimit : ℕ} {compiled : Compiled}
    (hintent : validateIntent p intent = .ok ()) (hbank : activeBank ≤ 1)
    (hkind : compileKind p intent activeBank baselineLimit overlayLimit = .ok compiled)
    (hdigest : ∀ entity ∈ compiled.entries, ∃ digest, canonicalEntityDigest p entity = .ok digest) :
    ∃ plan, compile p intent activeBank baselineLimit overlayLimit = .ok plan := by
  obtain ⟨items, hitems⟩ := contractEntries_total compiled.directCounter compiled.bank compiled.ruleIds hdigest
  rw [compile, hintent, ok_bind, refuse_of_not (not_lt.2 hbank), ok_bind, hkind, ok_bind, hitems]
  exact ⟨_, rfl⟩

end MasiEdge.Firewall
