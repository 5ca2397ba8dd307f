/-
What identifies a compiled entry.

The contract entry of a rule carries the digest of its canonical form, three times. Canonical forms drop leading zero bytes
and sort the fields, but keep the numbers: two baseline rules have the same canonical form exactly when they agree on
priority, action and match (`ruleKey`).

* `contractEntries_ok`: the items of a contract, one for each rule id and entity;
* `canonical_eq_iff`: equal canonical forms, read off the rules;
* `compile_baseline_contract`, `compile_overlay_contract`: the contract of an accepted intent;
* `attributed_iff`: the contract names the rule behind each entry exactly when the rules came in the order of the sort, and
  the control core sends them the other way round (`lower_priority_first_misattributed`);
* `insertable_iff`: table keys repeat only for baseline rules with one match and priority (`twin_rules_collide`);
* `fromContract_exact`: the journal gives a plan back, and no other under its digest;
* `effectFirewall_restores`: with this compiler behind the effect journal, a compiled plan is accepted again.
-/
import MasiEdge.Base.Pointwise
import MasiEdge.Firewall.Apply
import MasiEdge.Firewall.Meaning

namespace MasiEdge.Firewall

open Codec MasiEdge.Pointwise
open List

/-! ## Canonical forms keep the numbers -/

theorem fromBe_dropWhile_zero (bytes : Bytes) : fromBe (bytes.dropWhile (· == 0)) = fromBe bytes := by
  induction bytes with
  | nil => rfl
  | cons byte _ ih =>
    by_cases hzero : byte = 0
    · subst hzero
      rw [dropWhile_cons_of_pos rfl, ih]
      rfl
    · rw [dropWhile_cons_of_neg (by simpa using hzero)]

theorem fromBe_canonicalInteger (value : Bytes) : fromBe (canonicalInteger value) = fromBe value := by
  rw [← fromBe_dropWhile_zero value]
  unfold canonicalInteger
  split
  · next hnil => rw [hnil]; rfl
  · rfl

/-- id, value and mask of a ternary field -/
def fieldNumbers (field : FieldMatch) : Option (ℕ × ℕ × ℕ) :=
  match field.fieldMatchType with
  | some (.ternary value mask) => some (field.fieldId, fromBe value, fromBe mask)
  | _ => none

def canonicalField (field : FieldMatch) : FieldMatch := { field with fieldMatchType := field.fieldMatchType.map canonicalMatch }

theorem fieldNumbers_canonical (field : FieldMatch) : fieldNumbers (canonicalField field) = fieldNumbers field := by
  obtain ⟨fieldId, type⟩ := field
  cases type with
  | none => rfl
  | some type =>
    cases type with
    | exact => rfl
    | lpm => rfl
    | ternary value mask =>
      change some (fieldId, fromBe (canonicalInteger value), fromBe (canonicalInteger mask)) = _
      rw [fromBe_canonicalInteger, fromBe_canonicalInteger]
      rfl

/-- what the fields of an entry say -/
def numbers (fields : List FieldMatch) : Set (ℕ × ℕ × ℕ) := { t | ∃ field ∈ fields, fieldNumbers field = some t }

theorem numbers_perm {fields fields' : List FieldMatch} (h : fields.Perm fields') : numbers fields = numbers fields' := by
  ext t
  simp only [numbers, Set.mem_ofPred_eq, h.mem_iff]

theorem numbers_canonical (fields : List FieldMatch) : numbers (fields.map canonicalField) = numbers fields := by
  ext t
  constructor
  · rintro ⟨field, hfield, ht⟩
    obtain ⟨original, horiginal, rfl⟩ := List.mem_map.1 hfield
    exact ⟨original, horiginal, fieldNumbers_canonical original ▸ ht⟩
  · rintro ⟨field, hfield, ht⟩
    exact ⟨canonicalField field, mem_map_of_mem hfield, (fieldNumbers_canonical field).trans ht⟩

theorem canonicalTableEntry_ok {entry canonical : TableEntry} (h : canonicalTableEntry entry = .ok canonical) :
    canonical.priority = entry.priority ∧ numbers canonical.fields = numbers entry.fields := by
  replace h := passed h
  cases h
  refine ⟨rfl, ?_⟩
  calc numbers ((entry.fields.insertionSort fun a b => a.fieldId ≤ b.fieldId).map canonicalField)
      = numbers (entry.fields.insertionSort fun a b => a.fieldId ≤ b.fieldId) := numbers_canonical _
    _ = numbers entry.fields := numbers_perm (perm_insertionSort _ _)

/-! ## The numbers of a key give the key back -/

theorem fieldNumbers_optional (fieldId : ℕ) {width : ℕ} {value : UInt32} (h : value.toNat < 2 ^ width) :
    fieldNumbers (optionalField fieldId width value) = some (fieldId, value.toNat, 2 ^ (8 * ((width + 7) / 8)) - 1) := by
  have hwide : 2 ^ width ≤ 256 ^ ((width + 7) / 8) := by
    rw [show 256 = 2 ^ 8 from rfl, ← pow_mul]
    exact Nat.pow_le_pow_right (by decide) (by omega)
  change some (fieldId, fromBe (toBe _ value.toNat), fromBe (List.replicate _ 0xff)) = _
  rw [fromBe_toBe _ _ (h.trans_le hwide), MatchTable.fromBe_ones]

theorem fieldNumbers_prefix (fieldId : ℕ) (p : Ipv4Prefix) :
    fieldNumbers (prefixField fieldId p) = some (fieldId, p.address.toNat, (prefixMask p.prefixLength).toNat) := by
  change some (fieldId, fromBe (toBe 4 p.address.toNat), fromBe (toBe 4 (prefixMask p.prefixLength).toNat)) = _
  rw [fromBe_toBe 4 _ p.address.toNat_lt, fromBe_toBe 4 _ (prefixMask p.prefixLength).toNat_lt]

/-- the number of the mask gives the length -/
theorem prefixMask_inj {a b : UInt32} (ha : a ≠ 0 ∧ a ≤ 32) (hb : b ≠ 0 ∧ b ≤ 32)
    (h : (prefixMask a).toNat = (prefixMask b).toNat) : a = b := by
  have htable : ∀ m n : Fin 33, m ≠ 0 → n ≠ 0 →
      (prefixMask (UInt32.ofNat m)).toNat = (prefixMask (UInt32.ofNat n)).toNat → m = n := by decide +kernel
  have hle : ∀ {x : UInt32}, x ≠ 0 ∧ x ≤ 32 → ∃ n : Fin 33, n ≠ 0 ∧ UInt32.ofNat n = x := by
    intro x hx
    have hnat : x.toNat ≤ 32 := by simpa [UInt32.le_iff_toNat_le] using hx.2
    refine ⟨⟨x.toNat, by omega⟩, ?_, by simp⟩
    intro hzero
    have hval : x.toNat = 0 := congrArg Fin.val hzero
    exact hx.1 (UInt32.toNat_inj.1 hval)
  obtain ⟨m, hm, rfl⟩ := hle ha
  obtain ⟨n, hn, rfl⟩ := hle hb
  rw [htable m n hm hn h]

def optionalNumbers (x : Option UInt32) (width v m : ℕ) : Prop :=
  ∃ value ∈ x, value.toNat = v ∧ 2 ^ (8 * ((width + 7) / 8)) - 1 = m

def prefixNumbers (x : Option Ipv4Prefix) (v m : ℕ) : Prop :=
  ∃ p ∈ x, p.address.toNat = v ∧ (prefixMask p.prefixLength).toNat = m

theorem numbers_append (fields fields' : List FieldMatch) (t : ℕ × ℕ × ℕ) :
    t ∈ numbers (fields ++ fields') ↔ t ∈ numbers fields ∨ t ∈ numbers fields' := by
  simp only [numbers, Set.mem_ofPred_eq, mem_append, or_and_right, exists_or]

theorem mem_numbers_optional {x : Option UInt32} {fieldId width : ℕ} (hfits : ∀ value ∈ x, value.toNat < 2 ^ width)
    (i v m : ℕ) : (i, v, m) ∈ numbers (x.toList.map (optionalField fieldId width)) ↔
      fieldId = i ∧ optionalNumbers x width v m := by
  cases x with
  | none => simp [numbers, optionalNumbers]
  | some value =>
    have hnumbers := fieldNumbers_optional fieldId (hfits value rfl)
    simp [numbers, optionalNumbers, hnumbers, Prod.ext_iff]

theorem mem_numbers_prefix (x : Option Ipv4Prefix) (fieldId i v m : ℕ) :
    (i, v, m) ∈ numbers (x.toList.map (prefixField fieldId)) ↔ fieldId = i ∧ prefixNumbers x v m := by
  cases x with
  | none => simp [numbers, prefixNumbers]
  | some => simp [numbers, prefixNumbers, fieldNumbers_prefix, Prod.ext_iff]

theorem mem_numbers_fields {key : RuleKey} (hfits : key.Fits) (i v m : ℕ) :
    (i, v, m) ∈ numbers key.fields ↔
      (1 = i ∧ optionalNumbers key.ingressPort 9 v m) ∨ (2 = i ∧ prefixNumbers key.source v m) ∨
      (3 = i ∧ prefixNumbers key.destination v m) ∨ (4 = i ∧ optionalNumbers key.protocol 8 v m) ∨
      (5 = i ∧ optionalNumbers key.l4Present 1 v m) ∨ (6 = i ∧ optionalNumbers key.sourcePort 16 v m) ∨
      (7 = i ∧ optionalNumbers key.destinationPort 16 v m) ∨ (8 = i ∧ optionalNumbers key.fragmentClass 2 v m) := by
  unfold RuleKey.fields
  simp only [numbers_append, mem_numbers_optional hfits.ingressPort, mem_numbers_prefix, mem_numbers_optional hfits.protocol,
    mem_numbers_optional hfits.l4Present, mem_numbers_optional hfits.sourcePort, mem_numbers_optional hfits.destinationPort,
    mem_numbers_optional hfits.fragmentClass, or_assoc]

/-- options with the same numbers are the same, if the numbers tell their values apart -/
theorem option_eq {α : Type} {f : α → ℕ × ℕ} {x y : Option α} (hinj : ∀ a ∈ x, ∀ b ∈ y, f a = f b → a = b)
    (h : ∀ t, (∃ a ∈ x, f a = t) ↔ ∃ b ∈ y, f b = t) : x = y := by
  cases x with
  | none =>
    cases y with
    | none => rfl
    | some b => simpa using h (f b)
  | some a =>
    obtain ⟨b, hb, hsame⟩ := (h (f a)).1 ⟨a, rfl, rfl⟩
    rw [hinj a rfl b hb hsame.symm]
    exact hb.symm

theorem optional_eq {x y : Option UInt32} {width : ℕ}
    (h : ∀ v m, optionalNumbers x width v m ↔ optionalNumbers y width v m) : x = y := by
  refine option_eq (f := fun value => (value.toNat, 2 ^ (8 * ((width + 7) / 8)) - 1)) ?_ fun t => ?_
  · exact fun a _ b _ hsame => UInt32.toNat_inj.1 (Prod.mk.inj hsame).1
  · simpa only [optionalNumbers, Prod.ext_iff] using h t.1 t.2

theorem prefix_eq {x y : Option Ipv4Prefix} (hx : ∀ p ∈ x, p.prefixLength ≠ 0 ∧ p.prefixLength ≤ 32)
    (hy : ∀ p ∈ y, p.prefixLength ≠ 0 ∧ p.prefixLength ≤ 32) (h : ∀ v m, prefixNumbers x v m ↔ prefixNumbers y v m) :
    x = y := by
  refine option_eq (f := fun p => (p.address.toNat, (prefixMask p.prefixLength).toNat)) ?_ fun t => ?_
  · rintro ⟨address, length⟩ hp ⟨address', length'⟩ hq hsame
    obtain ⟨haddress, hmask⟩ := Prod.mk.inj hsame
    cases UInt32.toNat_inj.1 haddress
    cases prefixMask_inj (hx _ hp) (hy _ hq) hmask
    rfl
  · simpa only [prefixNumbers, Prod.ext_iff] using h t.1 t.2

/-- the same numbers, the same match -/
theorem fields_eq {key key' : RuleKey} (hfits : key.Fits) (hfits' : key'.Fits)
    (h : numbers key.fields = numbers key'.fields) :
    { key with priority := key'.priority, action := key'.action } = key' := by
  have hmem : ∀ i v m, (i, v, m) ∈ numbers key.fields ↔ (i, v, m) ∈ numbers key'.fields := fun i v m => by rw [h]
  simp only [mem_numbers_fields hfits, mem_numbers_fields hfits'] at hmem
  have h1 := optional_eq fun v m => by simpa using hmem 1 v m
  have h2 := prefix_eq hfits.source hfits'.source fun v m => by simpa using hmem 2 v m
  have h3 := prefix_eq hfits.destination hfits'.destination fun v m => by simpa using hmem 3 v m
  have h4 := optional_eq fun v m => by simpa using hmem 4 v m
  have h5 := optional_eq fun v m => by simpa using hmem 5 v m
  have h6 := optional_eq fun v m => by simpa using hmem 6 v m
  have h7 := optional_eq fun v m => by simpa using hmem 7 v m
  have h8 := optional_eq fun v m => by simpa using hmem 8 v m
  rw [h1, h2, h3, h4, h5, h6, h7, h8]

/-! ## Equal canonical forms -/

theorem baselineAction_inj {a b : ℤ} {actionId : ℕ} (ha : baselineAction a = .ok actionId) (hb : baselineAction b = .ok actionId) :
    a = b := by
  have hcode : ∀ {x : ℤ}, baselineAction x = .ok actionId →
      (x = 1 ∧ actionId = baselinePermit) ∨ (x = 2 ∧ actionId = baselineDrop) := by
    intro x hx
    unfold baselineAction FirewallAction.tryFrom at hx
    split at hx
    · split at * <;> simp_all
    · split at * <;> simp_all
    · cases hx
  rcases hcode ha with ⟨rfl, h1⟩ | ⟨rfl, h1⟩ <;> rcases hcode hb with ⟨rfl, h2⟩ | ⟨rfl, h2⟩
  · rfl
  · exact absurd (h1.symm.trans h2) (by decide)
  · exact absurd (h1.symm.trans h2) (by decide)
  · rfl

theorem numbers_sorted (key : RuleKey) : numbers (key.fields.insertionSort fun a b => a.fieldId ≤ b.fieldId) = numbers key.fields :=
  numbers_perm (perm_insertionSort _ _)

/-- **Same canonical form, same key.** -/
theorem canonical_eq_iff {bank : ℕ} {rule rule' : BaselineRule} {entry entry' canonical canonical' : TableEntry}
    (h : baselineEntry bank rule = .ok entry) (h' : baselineEntry bank rule' = .ok entry')
    (hc : canonicalTableEntry entry = .ok canonical) (hc' : canonicalTableEntry entry' = .ok canonical') :
    canonical = canonical' ↔ ruleKey rule = ruleKey rule' := by
  obtain ⟨hsound, actionId, haction, rfl⟩ := baselineEntry_ok.1 h
  obtain ⟨hsound', actionId', haction', rfl⟩ := baselineEntry_ok.1 h'
  constructor
  · intro hsame
    obtain ⟨hpriority, hnumbers⟩ := canonicalTableEntry_ok hc
    obtain ⟨hpriority', hnumbers'⟩ := canonicalTableEntry_ok hc'
    have hkeys : numbers (ruleKey rule).fields = numbers (ruleKey rule').fields := by
      rw [← numbers_sorted, ← numbers_sorted]
      exact hnumbers.symm.trans (by rw [hsame]; exact hnumbers')
    have hpriorities : rule.priority = rule'.priority := hpriority.symm.trans (by rw [hsame]; exact hpriority')
    have hactions : rule.action = rule'.action := by
      have hids : actionId = actionId' := by
        replace hc := passed hc
        obtain ⟨_, -, hc'⟩ := bind_ok.1 hc'
        rw [← Except.ok.inj hc, ← Except.ok.inj hc'] at hsame
        have haction := congrArg TableEntry.action hsame
        simpa [tableAction] using haction
      exact baselineAction_inj haction (hids ▸ haction')
    have hfields := fields_eq hsound.fits hsound'.fits hkeys
    rw [← hfields]
    simp only [ruleKey, hpriorities, hactions]
  · intro hkey
    have hactions : rule.action = rule'.action := congrArg RuleKey.action hkey
    have hpriorities : rule.priority = rule'.priority := congrArg RuleKey.priority hkey
    rw [hactions] at haction
    cases haction.symm.trans haction'
    rw [hkey, hpriorities] at hc
    exact Except.ok.inj (hc.symm.trans hc')

/-! ## The contract -/

/-- a contract item describes an entity -/
structure ItemOf (p : Profile) (directCounter bank : ℕ) (entity : Entity) (item : CanonicalP4Entry) : Prop where
  table : ∃ entry, entity = .tableEntry entry ∧ item.tableId = entry.tableId
  counter : item.directCounterId = directCounter
  bank : item.bank = bank
  digest : canonicalEntityDigest p entity = .ok item.canonicalEntryDigest
  entityId : item.entityId = item.canonicalEntryDigest
  matchDigest : item.matchPriorityActionDigest = item.canonicalEntryDigest

variable {directCounter bank : ℕ} {ruleIds : List String} {entities : List Entity} {items : List CanonicalP4Entry}

theorem contractEntries_ok {p : Profile} (hlength : ruleIds.length = entities.length)
    (h : contractEntries p directCounter bank ruleIds entities = .ok items) :
    items.map CanonicalP4Entry.logicalRuleId = ruleIds ∧ List.Forall₂ (ItemOf p directCounter bank) entities items := by
  induction ruleIds generalizing entities items with
  | nil =>
    cases entities with
    | nil =>
      cases h
      exact ⟨rfl, .nil⟩
    | cons => cases hlength
  | cons ruleId _ ih =>
    cases entities with
    | nil => cases hlength
    | cons entity =>
      obtain ⟨entry, hentry, h⟩ := bind_ok.1 h
      obtain ⟨digest, hdigest, h⟩ := bind_ok.1 h
      obtain ⟨rest, hrest, h⟩ := bind_ok.1 h
      cases h
      obtain ⟨hids, hitems⟩ := ih (Nat.succ.inj hlength) hrest
      have htable : entity = .tableEntry entry := by
        cases entity with
        | tableEntry => rw [Except.ok.inj hentry]
        | counterEntry => cases hentry
        | directCounterEntry => cases hentry
        | missing => cases hentry
      exact ⟨congrArg (ruleId :: ·) hids, .cons ⟨⟨entry, htable, rfl⟩, rfl, rfl, hdigest, rfl, rfl⟩ hitems⟩

/-- the entry of an overlay rule with a valid identity -/
structure OverlayFrom (rule : OverlayRule) (entity : Entity) : Prop where
  identity : validateRuleIdentity rule.ruleId rule.ruleRevision rule.canonicalRuleDigest = .ok ()
  entry : ∃ actionId, overlayAction rule.action = .ok actionId ∧
    entity = .tableEntry
      { tableId := responseOverlayTable, fields := overlayFields rule, action := some (tableAction actionId) }

/-- the loop over the overlay rules: an entry for each, and no match twice -/
theorem compileOverlayOrdered_ok {p : Profile} {keys : List Bytes} {rules : List OverlayRule}
    (h : compileOverlayOrdered p keys rules = .ok entities) :
    List.Forall₂ OverlayFrom rules entities ∧ rules.Pairwise (fun a b => overlayFields a ≠ overlayFields b) ∧
      ∀ rule ∈ rules, (overlayFields rule).flatMap p.encodeField ∉ keys := by
  induction rules generalizing keys entities with
  | nil =>
    cases h
    exact ⟨.nil, .nil, by simp⟩
  | cons _ _ ih =>
    obtain ⟨_, hidentity, h⟩ := bind_ok.1 h
    replace h := passed h
    obtain ⟨hnew, h⟩ := refuse_then h
    obtain ⟨actionId, haction, h⟩ := bind_ok.1 h
    obtain ⟨others, hothers, h⟩ := bind_ok.1 h
    cases h
    obtain ⟨hrest, hapart, hkeys⟩ := ih hothers
    simp only [mem_cons, not_or] at hkeys
    refine ⟨.cons ⟨hidentity, actionId, haction, rfl⟩ hrest, List.pairwise_cons.2 ⟨fun other hother hsame => ?_, hapart⟩,
      List.forall_mem_cons.2 ⟨hnew, fun other hother => (hkeys other hother).2⟩⟩
    exact (hkeys other hother).1 (by rw [hsame])

section

variable {p : Profile} {intent : EffectIntent} {activeBank baselineLimit overlayLimit : ℕ} {plan : CompiledPlan}

/-- **The contract of a baseline.** An entity for every rule in the order of the sort, an item for every entity, and the
rule ids in the order of the intent. -/
theorem compile_baseline_contract (hkind : effectKind intent.kind = some .baselineActivate)
    (h : compile p intent activeBank baselineLimit overlayLimit = .ok plan) :
    List.Forall₂ (CompiledFrom (1 - activeBank)) (intent.baselineRules.insertionSort ruleBefore) plan.entries ∧
      List.Forall₂ (ItemOf p (baselineCounter (1 - activeBank)) (1 - activeBank)) plan.entries plan.contract.entries ∧
      plan.contract.entries.map CanonicalP4Entry.logicalRuleId = intent.baselineRules.map BaselineRule.ruleId ∧
      intent.overlayRules = [] := by
  obtain ⟨compiled, hcompiled, -, hitems, hentries, -⟩ := compile_ok h
  simp only [compileKind, hkind] at hcompiled
  obtain ⟨hcapacity, hcompiled⟩ := refuse_then hcompiled
  obtain ⟨entities, hordered, hcompiled⟩ := bind_ok.1 hcompiled
  obtain ⟨_, -, hcompiled⟩ := bind_ok.1 hcompiled
  obtain ⟨_, -, hcompiled⟩ := bind_ok.1 hcompiled
  cases hcompiled
  have hrules := compileOrdered_ok hordered
  have hlength : (intent.baselineRules.map BaselineRule.ruleId).length = entities.length := by
    rw [length_map, ← hrules.length_eq, length_insertionSort]
  obtain ⟨hids, hall⟩ := contractEntries_ok hlength hitems
  rw [hentries]
  rw [not_or] at hcapacity
  exact ⟨hrules, hall, hids, not_not.1 hcapacity.2⟩

/-- **The contract of an overlay.** -/
theorem compile_overlay_contract
    (hkind : effectKind intent.kind = some .overlayUpsert ∨ effectKind intent.kind = some .overlayDelete)
    (h : compile p intent activeBank baselineLimit overlayLimit = .ok plan) :
    List.Forall₂ OverlayFrom (intent.overlayRules.insertionSort overlayBefore) plan.entries ∧
      List.Forall₂ (ItemOf p responseOverlayCounter activeBank) plan.entries plan.contract.entries ∧
      plan.contract.entries.map CanonicalP4Entry.logicalRuleId = intent.overlayRules.map OverlayRule.ruleId ∧
      activeBank ≤ 1 ∧
      (intent.overlayRules.insertionSort overlayBefore).Pairwise fun a b => overlayFields a ≠ overlayFields b := by
  obtain ⟨compiled, hcompiled, hbank, hitems, hentries, -⟩ := compile_ok h
  have hoverlay : compileOverlay p intent activeBank overlayLimit = .ok compiled := by
    rcases hkind with hkind | hkind <;> simpa only [compileKind, hkind] using hcompiled
  replace hoverlay := passed hoverlay
  obtain ⟨entities, hordered, hoverlay⟩ := bind_ok.1 hoverlay
  cases hoverlay
  obtain ⟨hrules, hapart, -⟩ := compileOverlayOrdered_ok hordered
  have hlength : (intent.overlayRules.map OverlayRule.ruleId).length = entities.length := by
    rw [length_map, ← hrules.length_eq, length_insertionSort]
  obtain ⟨hids, hall⟩ := contractEntries_ok hlength hitems
  rw [hentries]
  exact ⟨hrules, hall, hids, hbank, hapart⟩

theorem compile_kind (h : compile p intent activeBank baselineLimit overlayLimit = .ok plan) :
    effectKind intent.kind = some .baselineActivate ∨ effectKind intent.kind ≠ some .baselineActivate ∧
      (effectKind intent.kind = some .overlayUpsert ∨ effectKind intent.kind = some .overlayDelete) := by
  obtain ⟨compiled, hcompiled, -⟩ := compile_ok h
  unfold compileKind at hcompiled
  split at hcompiled <;> simp_all

/-! ## Rule ids and rules -/

/-- the rules in the order they are compiled: the id, and the entities the rule can become -/
def origins (intent : EffectIntent) (activeBank : ℕ) : List (String × (Entity → Prop)) :=
  if effectKind intent.kind = some .baselineActivate then
    (intent.baselineRules.insertionSort ruleBefore).map fun rule => (rule.ruleId, CompiledFrom (1 - activeBank) rule)
  else (intent.overlayRules.insertionSort overlayBefore).map fun rule => (rule.ruleId, OverlayFrom rule)

/-- the rule ids in the order of the intent -/
def submitted (intent : EffectIntent) : List String :=
  if effectKind intent.kind = some .baselineActivate then intent.baselineRules.map BaselineRule.ruleId
  else intent.overlayRules.map OverlayRule.ruleId

/-- **Attribution.** Entity by entity a plan has the rules as they are sorted; its contract names for each the rule behind it
exactly when the rule ids were submitted in that order. -/
theorem attributed_iff (h : compile p intent activeBank baselineLimit overlayLimit = .ok plan) :
    List.Forall₂ (fun origin entity => origin.2 entity) (origins intent activeBank) plan.entries ∧
      ((∀ i : ℕ, plan.contract.entries[i]?.map CanonicalP4Entry.logicalRuleId = (origins intent activeBank)[i]?.map Prod.fst) ↔
        submitted intent = (origins intent activeBank).map Prod.fst) := by
  have hplan : List.Forall₂ (fun origin entity => origin.2 entity) (origins intent activeBank) plan.entries ∧
      plan.contract.entries.map CanonicalP4Entry.logicalRuleId = submitted intent := by
    rcases compile_kind h with hkind | ⟨hnot, hkind⟩
    · obtain ⟨hrules, -, hids, -⟩ := compile_baseline_contract hkind h
      simp only [origins, submitted, hkind, if_true, forall₂_map_left_iff]
      exact ⟨hrules, hids⟩
    · obtain ⟨hrules, -, hids, -⟩ := compile_overlay_contract hkind h
      simp only [origins, submitted, if_neg hnot, forall₂_map_left_iff]
      exact ⟨hrules, hids⟩
  refine ⟨hplan.1, ?_⟩
  rw [← hplan.2, List.ext_getElem?_iff]
  simp only [getElem?_map]

/-- the two rules in the order of their priorities -/
def orderedIntent : EffectIntent := { baselineIntent with baselineRules := [httpsRule, hostRule] }

theorem ordered_rules_attributed : ∃ plan, compile flatProfile orderedIntent 0 16 16 = .ok plan ∧ ∀ i : ℕ,
    plan.contract.entries[i]?.map CanonicalP4Entry.logicalRuleId = (origins orderedIntent 0)[i]?.map Prod.fst := by
  obtain ⟨plan, h⟩ := flat_compiles orderedIntent (by decide +kernel)
  exact ⟨plan, h, (attributed_iff h).2.2 (by decide +kernel)⟩

/-- **Ids the wrong way round.** The control core sends the lower priority first; each of the two entries is then named after
the other's rule. -/
theorem lower_priority_first_misattributed :
    (compile flatProfile baselineIntent 0 16 16).toOption.map
        (fun plan => plan.contract.entries.map CanonicalP4Entry.logicalRuleId) = some ["host", "https"] ∧
      (origins baselineIntent 0).map Prod.fst = ["https", "host"] := by
  constructor <;> decide +kernel

/-! ## Table keys -/

/-- what the table key of a rule depends on: its match and its priority -/
def matchOf (rule : BaselineRule) : RuleKey := { ruleKey rule with action := 0 }

theorem tableKey_eq_iff {rule rule' : BaselineRule} {entity entity' : Entity} (h : CompiledFrom bank rule entity)
    (h' : CompiledFrom bank rule' entity') : matchOf rule = matchOf rule' ↔ tableKeyEntity entity = tableKeyEntity entity' := by
  obtain ⟨entry, hentry, rfl⟩ := h.entry
  obtain ⟨entry', hentry', rfl⟩ := h'.entry
  obtain ⟨hsound, actionId, -, rfl⟩ := baselineEntry_ok.1 hentry
  obtain ⟨hsound', actionId', -, rfl⟩ := baselineEntry_ok.1 hentry'
  constructor
  · intro hsame
    have hfields : (matchOf rule).fields = (matchOf rule').fields := by rw [hsame]
    have hpriority : (matchOf rule).priority = (matchOf rule').priority := by rw [hsame]
    rw [show (ruleKey rule).fields = (ruleKey rule').fields from hfields, show rule.priority = rule'.priority from hpriority]
    rfl
  · intro hsame
    obtain ⟨-, hsorted, -, hpriority, -⟩ := TableEntry.mk.inj (Entity.tableEntry.inj (Except.ok.inj hsame))
    have hnumbers : numbers (ruleKey rule).fields = numbers (ruleKey rule').fields := by
      rw [← numbers_sorted, ← numbers_sorted]
      exact congrArg numbers hsorted
    rw [matchOf, matchOf, ← fields_eq hsound.fits hsound'.fits hnumbers]
    simp only [ruleKey, show rule.priority = rule'.priority from hpriority]

/-- **Insertable plans.** The entries of a plan have different table keys exactly when no two baseline rules have the same
match and priority; overlays always have. -/
theorem insertable_iff (h : compile p intent activeBank baselineLimit overlayLimit = .ok plan) :
    (plan.entries.map tableKeyEntity).Nodup ↔
      (effectKind intent.kind = some .baselineActivate → (intent.baselineRules.map matchOf).Nodup) := by
  rcases compile_kind h with hkind | ⟨hnot, hkind⟩
  · obtain ⟨hrules, -⟩ := compile_baseline_contract hkind h
    rw [← nodup_map_iff hrules fun _ _ _ _ => tableKey_eq_iff, imp_iff_right hkind]
    exact ((perm_insertionSort ruleBefore _).map matchOf).nodup_iff
  · obtain ⟨hrules, -, -, -, hapart⟩ := compile_overlay_contract hkind h
    refine iff_of_true (List.pairwise_map.2 (pairwise_of_forall₂ hrules hapart ?_)) fun hbaseline => absurd hbaseline hnot
    intro rule entity rule' entity' hentity hentity' hfields hsame
    obtain ⟨actionId, -, rfl⟩ := hentity.entry
    obtain ⟨actionId', -, rfl⟩ := hentity'.entry
    exact hfields (TableEntry.mk.inj (Entity.tableEntry.inj (Except.ok.inj hsame))).2.1

theorem two_rules_insertable :
    ∃ plan, compile flatProfile baselineIntent 0 16 16 = .ok plan ∧ (plan.entries.map tableKeyEntity).Nodup := by
  obtain ⟨plan, h⟩ := flat_compiles baselineIntent (by decide +kernel)
  exact ⟨plan, h, (insertable_iff h).2 fun _ => by decide +kernel⟩

/-- **One key twice.** A rule under a second id, with the same match, priority and action, passes the conflict check. -/
theorem twin_rules_collide :
    (compile flatProfile { baselineIntent with baselineRules := [httpsRule, { httpsRule with ruleId := "https-2" }] } 0 16
      16).toOption.map (fun plan => decide (plan.entries.map tableKeyEntity).Nodup) = some false := by
  decide +kernel

end

/-! ## Plans from the journal -/

variable (p : Profile) (decode : Bytes → Except String Entity)

def decodeEntity (what : String) (payload : Bytes) : EdgeResult Entity :=
  (decode payload).mapError fun error => .walCorrupt s!"decode journal {what}: {error}"

/-- an entry of the loop in `from_contract` -/
def restoreEntry (item : CanonicalP4Entry) : EdgeResult Entity := do
  let entity ← decodeEntity decode "P4 entity" item.entity
  let digest ← canonicalEntityDigest p entity
  refuse (digest ≠ item.canonicalEntryDigest) (.walCorrupt "journal P4 entity digest mismatch")
  return entity

def decodeOptionalEntity (payload : Bytes) : EdgeResult (Option Entity) :=
  if payload = [] then .ok none else (decodeEntity decode "entity" payload).map some

def verifyPlanDigest (contract : CompiledEffectPlan) : EdgeResult Unit := do
  validateSha256 contract.planDigest "plan_digest"
  refuse (planDigest p contract ≠ contract.planDigest) (.walCorrupt "compiled plan digest mismatch")

def fromContract (contract : CompiledEffectPlan) : EdgeResult CompiledPlan := do
  let entries ← contract.entries.mapM (restoreEntry p decode)
  let defaultEntry ← decodeOptionalEntity decode contract.defaultEntity
  let selectorEntry ← decodeOptionalEntity decode contract.selectorEntity
  verifyPlanDigest p contract
  return ⟨contract, entries, defaultEntry, selectorEntry⟩

variable {p decode} {intent : EffectIntent} {activeBank baselineLimit overlayLimit : ℕ} {plan : CompiledPlan}

theorem decodeEntity_ok {what : String} {payload : Bytes} {entity : Entity} :
    decodeEntity decode what payload = .ok entity ↔ decode payload = .ok entity := by
  unfold decodeEntity
  cases decode payload <;> simp [Except.mapError]

theorem restoreEntry_ok {item : CanonicalP4Entry} {entity : Entity} : restoreEntry p decode item = .ok entity ↔
    decode item.entity = .ok entity ∧ canonicalEntityDigest p entity = .ok item.canonicalEntryDigest := by
  simp only [restoreEntry, bind_ok, decodeEntity_ok, refuse_ok, not_not]
  constructor
  · rintro ⟨_, hdecoded, _, hdigest, _, rfl, ⟨⟩⟩
    exact ⟨hdecoded, hdigest⟩
  · rintro ⟨hdecoded, hdigest⟩
    exact ⟨_, hdecoded, _, hdigest, (), rfl, rfl⟩

theorem fromContract_ok {contract : CompiledEffectPlan} (h : fromContract p decode contract = .ok plan) :
    contract.entries.mapM (restoreEntry p decode) = .ok plan.entries ∧ planDigest p contract = contract.planDigest := by
  obtain ⟨entries, hentries, h⟩ := bind_ok.1 h
  obtain ⟨_, -, h⟩ := bind_ok.1 h
  obtain ⟨_, -, h⟩ := bind_ok.1 h
  obtain ⟨hdigest, h⟩ := check_ok.1 h
  cases h
  exact ⟨hentries, not_not.1 (refuse_ok.1 (passed hdigest))⟩

/-- the optional entries of a plan are table entries -/
theorem compileKind_present {compiled : Compiled}
    (h : compileKind p intent activeBank baselineLimit overlayLimit = .ok compiled) :
    compiled.defaultEntry ≠ some .missing ∧ compiled.selectorEntry ≠ some .missing := by
  have hoverlay (h : compileOverlay p intent activeBank overlayLimit = .ok compiled) :
      compiled.defaultEntry ≠ some .missing ∧ compiled.selectorEntry ≠ some .missing := by
    obtain ⟨_, -, h⟩ := bind_ok.1 (passed h)
    cases h
    exact ⟨nofun, nofun⟩
  unfold compileKind at h
  split at h
  · cases h
  · obtain ⟨_, -, h⟩ := bind_ok.1 (passed h)
    obtain ⟨_, hdefault, h⟩ := bind_ok.1 h
    obtain ⟨_, hselector, h⟩ := bind_ok.1 h
    obtain ⟨_, -, hdefault⟩ := bind_ok.1 hdefault
    cases hdefault
    cases h
    refine ⟨nofun, ?_⟩
    rintro ⟨⟩
    unfold policySelector at hselector
    split at hselector <;> cases hselector
  · exact hoverlay h
  · exact hoverlay h
  · cases h
  · cases h

section

variable (hdecode : ∀ entity, decode (p.encodeEntity entity) = .ok entity)
include hdecode

theorem restoreEntry_contractEntries (h : contractEntries p directCounter bank ruleIds entities = .ok items)
    (hlength : entities.length = items.length) : items.mapM (restoreEntry p decode) = .ok entities := by
  fun_induction contractEntries generalizing items with
  | case1 _ _ _ _ ih =>
    obtain ⟨_, -, h⟩ := bind_ok.1 h
    obtain ⟨digest, hdigest, h⟩ := bind_ok.1 h
    obtain ⟨rest, hrest, h⟩ := bind_ok.1 h
    cases h
    have hall := mapM_ok.1 (ih hrest (Nat.succ.inj hlength))
    exact mapM_ok.2 (.cons (restoreEntry_ok.2 ⟨hdecode _, hdigest⟩) hall)
  | case2 =>
    cases h
    rw [length_eq_zero_iff.1 hlength]
    rfl

theorem decodeOptionalEntity_encode (hempty : p.encodeEntity .missing = []) {entity : Option Entity}
    (h : entity ≠ some .missing) : decodeOptionalEntity decode ((entity.map p.encodeEntity).getD []) = .ok entity := by
  cases entity with
  | none => rfl
  | some entity =>
    have hne : p.encodeEntity entity ≠ [] := by
      intro hnil
      have hsame := hdecode entity
      rw [hnil, ← hempty, hdecode] at hsame
      exact h (congrArg some (Except.ok.inj hsame).symm)
    exact (if_neg hne).trans (congrArg (Except.map some) (decodeEntity_ok.2 (hdecode entity)))

theorem fromContract_compile (hhash : HexHash p.hash) (hempty : p.encodeEntity .missing = [])
    (h : compile p intent activeBank baselineLimit overlayLimit = .ok plan) :
    fromContract p decode plan.contract = .ok plan := by
  have hlength : plan.entries.length = plan.contract.entries.length := by
    rcases compile_kind h with hkind | ⟨-, hkind⟩
    · exact (compile_baseline_contract hkind h).2.1.length_eq
    · exact (compile_overlay_contract hkind h).2.1.length_eq
  obtain ⟨_, hcompiled, h⟩ := bind_ok.1 (passed (passed h))
  obtain ⟨_, hitems, h⟩ := bind_ok.1 h
  obtain ⟨hdefault, hselector⟩ := compileKind_present hcompiled
  cases h
  rw [fromContract, restoreEntry_contractEntries hdecode hitems hlength, ok_bind,
    decodeOptionalEntity_encode hdecode hempty hdefault, ok_bind,
    decodeOptionalEntity_encode hdecode hempty hselector, ok_bind]
  refine check_ok.2 ⟨check_ok.2 ⟨hhash.validateSha256 _ _, refuse_of_not (not_not.2 rfl)⟩, rfl⟩

end

/-- **Journaled plans.** The contract of a compiled plan gives the plan back. In a contract that is accepted each entity has
the digest recorded for it, and no other contract with its plan digest is accepted. -/
theorem fromContract_exact :
    (HexHash p.hash → p.encodeEntity .missing = [] → (∀ entity, decode (p.encodeEntity entity) = .ok entity) →
      ∀ intent activeBank baselineLimit overlayLimit plan, compile p intent activeBank baselineLimit overlayLimit = .ok plan →
        fromContract p decode plan.contract = .ok plan) ∧
    ∀ contract plan, fromContract p decode contract = .ok plan →
      Forall₂ (fun item entity => decode item.entity = .ok entity ∧
        canonicalEntityDigest p entity = .ok item.canonicalEntryDigest) contract.entries plan.entries ∧
      (p.hash.Injective → p.encodePlan.Injective → ∀ changed ≠ contract, changed.planDigest = contract.planDigest →
        ∀ other, fromContract p decode changed ≠ .ok other) := by
  constructor
  · intro hhash hempty hdecode intent activeBank baselineLimit overlayLimit plan h
    exact fromContract_compile hdecode hhash hempty h
  · intro contract plan h
    obtain ⟨hentries, hdigest⟩ := fromContract_ok h
    refine ⟨(mapM_ok.1 hentries).imp fun _ _ => restoreEntry_ok.1, ?_⟩
    intro hinj hencode changed hne hplan other hother
    have hsame : planDigest p changed = planDigest p contract := by
      rw [(fromContract_ok hother).2, hplan, hdigest]
    have hcontract := hencode (hinj (sha256_inj hsame))
    apply hne
    cases changed
    cases contract
    cases hplan
    cases hcontract
    rfl

instance countableUInt8 : Countable UInt8 := Function.Injective.countable fun _ _ h => UInt8.toNat_inj.1 h

deriving instance Countable for FieldMatchType, FieldMatch, Param, P4Action, TableAction, TableEntry, Entity

/-- entities can be told apart by bytes, and the missing one has none -/
theorem exists_entity_encoding : ∃ encode : Entity → Bytes, encode.Injective ∧ encode .missing = [] := by
  obtain ⟨index, hindex⟩ := exists_injective_nat Entity
  refine ⟨fun entity => List.replicate (Equiv.swap (index .missing) 0 (index entity)) 0, fun a b h => hindex ?_, by simp⟩
  simpa using congrArg List.length h

/-- a plan of two rules comes back from the journal -/
theorem two_rules_restored : ∃ (p : Profile) (decode : Bytes → Except String Entity) (plan : CompiledPlan),
    p.encodeEntity.Injective ∧ compile p baselineIntent 0 16 16 = .ok plan ∧
      fromContract p decode plan.contract = .ok plan := by
  obtain ⟨encode, hinj, hempty⟩ := exists_entity_encoding
  let p : Profile := { flatProfile with encodeEntity := encode }
  obtain ⟨plan, h⟩ : ∃ plan, compile p baselineIntent 0 16 16 = .ok plan := ⟨_, rfl⟩
  have hhex : HexHash p.hash := by constructor <;> intro payload <;> dsimp only [p, flatProfile] <;> decide +kernel
  refine ⟨p, fun bytes => .ok (@Function.invFun _ _ ⟨.missing⟩ encode bytes), plan, hinj, h, ?_⟩
  exact (fromContract_exact (p := p)).1 hhex hempty
    (fun entity => congrArg Except.ok (@Function.leftInverse_invFun _ _ ⟨.missing⟩ encode hinj entity)) _ _ _ _ _ h

/-! ## The effect path -/

/-- what the model of the effect journal keeps of a contract -/
def CompiledEffectPlan.kept (contract : CompiledEffectPlan) : Effect.CompiledEffectPlan :=
  ⟨contract.activeBank, contract.inactiveBank, contract.entries.map CanonicalP4Entry.canonicalEntryDigest, contract.planDigest⟩

variable (p decode baselineLimit overlayLimit) (message : Effect.EffectIntent → EffectIntent)
  (contract : Effect.CompiledEffectPlan → CompiledEffectPlan) (resultDigest : Effect.EffectResult → String)

/-- this compiler behind the effect journal; `message` and `contract` are what an intent and a plan stand for -/
def effectFirewall : Effect.Firewall where
  validateIntent intent := validateIntent p (message intent)
  compile intent activeBank :=
    (compile p (message intent) activeBank baselineLimit overlayLimit).map fun plan => plan.contract.kept
  fromContract plan := (fromContract p decode (contract plan)).map fun _ => ()
  resultDigest := resultDigest

/-- **Plans of the effect path.** `execute` and recovery accept the plan that a preflight compiles, if its contract is the
one they read. -/
theorem effectFirewall_restores {intent : Effect.EffectIntent} (hhash : HexHash p.hash)
    (hempty : p.encodeEntity .missing = []) (hdecode : ∀ entity, decode (p.encodeEntity entity) = .ok entity)
    (hplan : compile p (message intent) activeBank baselineLimit overlayLimit = .ok plan)
    (hcontract : contract plan.contract.kept = plan.contract) :
    let fw := effectFirewall p decode baselineLimit overlayLimit message contract resultDigest
    fw.compile intent activeBank = .ok plan.contract.kept ∧ fw.fromContract plan.contract.kept = .ok () := by
  constructor
  · simp only [effectFirewall, hplan]
    rfl
  · simp only [effectFirewall, hcontract, fromContract_compile hdecode hhash hempty hplan]
    rfl

end MasiEdge.Firewall
