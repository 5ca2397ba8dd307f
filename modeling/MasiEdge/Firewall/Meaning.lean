/-
What a baseline plan means: the tables decide as the rules do.

A rule matches a packet when the fields it sets are equal to the packet's and the addresses lie in its prefixes. A compiled
entry matches under the ternary rule of P4: value and mask for each field of the entry, every value where it has none.

* `optionalField_meaning`, `prefixField_meaning`: one field;
* `CompiledFrom.meaning`: one rule; `compileOrdered_ok`: the loop;
* `baseline_meaning`: the plan of an accepted intent, and its verdicts on every packet.

A full mask is as wide as the bytes of the field: 0xffff for the 9-bit port, 0xff for a single bit. Neither the value nor
the packet has bits above the width, so the mask means equality.
-/
import MasiEdge.Base.MatchTable
import MasiEdge.Firewall.Entry

namespace MasiEdge.Firewall

open Codec MatchTable List

/-! ## Packets -/

/-- the keys of a baseline table -/
structure Header where
  ingressPort : BitVec 9
  source : BitVec 32
  destination : BitVec 32
  protocol : BitVec 8
  l4Present : BitVec 1
  sourcePort : BitVec 16
  destinationPort : BitVec 16
  fragmentClass : BitVec 2
deriving DecidableEq, Repr

/-- the key of a field id -/
def Header.key (header : Header) : ℕ → Option ℕ
  | 1 => some header.ingressPort.toNat
  | 2 => some header.source.toNat
  | 3 => some header.destination.toNat
  | 4 => some header.protocol.toNat
  | 5 => some header.l4Present.toNat
  | 6 => some header.sourcePort.toNat
  | 7 => some header.destinationPort.toNat
  | 8 => some header.fragmentClass.toNat
  | _ => none

/-- the packet has a TCP or UDP header -/
def Header.Transport (packet : Header) : Prop := (packet.protocol = 6 ∨ packet.protocol = 17) ∧ packet.fragmentClass ≠ 2
deriving Decidable

/-- the keys the switch computes for a packet -/
def Header.parse (packet : Header) : Header :=
  { packet with
    l4Present := if packet.Transport then 1 else 0
    sourcePort := if packet.Transport then packet.sourcePort else 0
    destinationPort := if packet.Transport then packet.destinationPort else 0
    -- class 3 is for packets that are not IPv4
    fragmentClass := if packet.fragmentClass = 3 then 0 else packet.fragmentClass }

/-! ## Matching a rule -/

/-- equal when the rule sets the field -/
def optionalMatches (x : Option OptionalUint32) (n : ℕ) : Prop := ∀ value ∈ x, value.present = true → n = value.value.toNat

/-- the same leading bits -/
def inPrefix (p : Ipv4Prefix) (address : ℕ) : Prop :=
  address / 2 ^ (32 - p.prefixLength.toNat) = p.address.toNat / 2 ^ (32 - p.prefixLength.toNat)

structure RuleMatches (header : Header) (rule : BaselineRule) : Prop where
  ingressPort : optionalMatches rule.ingressPort header.ingressPort.toNat
  source : ∀ p ∈ rule.source, inPrefix p header.source.toNat
  destination : ∀ p ∈ rule.destination, inPrefix p header.destination.toNat
  protocol : optionalMatches rule.protocol header.protocol.toNat
  l4Present : optionalMatches rule.l4Present header.l4Present.toNat
  sourcePort : optionalMatches rule.sourcePort header.sourcePort.toNat
  destinationPort : optionalMatches rule.destinationPort header.destinationPort.toNat
  fragmentClass : optionalMatches rule.fragmentClass header.fragmentClass.toNat

/-- what the rules of an intent answer -/
def ruleVerdicts (header : Header) (intent : EffectIntent) : Set (Option FirewallAction) :=
  verdicts (RuleMatches header) BaselineRule.priority (fun rule => FirewallAction.tryFrom rule.action) intent.baselineRules
    (FirewallAction.tryFrom intent.defaultAction)

/-! ## Matching an entry -/

/-- a baseline table has ternary keys only -/
def fieldMatches (header : Header) (field : FieldMatch) : Prop :=
  match header.key field.fieldId, field.fieldMatchType with
  | some key, some (.ternary value mask) => ternary (fromBe value) (fromBe mask) key
  | _, _ => False

def entryMatches (header : Header) (entry : TableEntry) : Prop := ∀ field ∈ entry.fields, fieldMatches header field

/-- what the action of a baseline entry does -/
def actionVerdict (action : Option TableAction) : Option FirewallAction :=
  match action with
  | some ⟨some ⟨actionId, _⟩⟩ =>
    if actionId = baselinePermit then some .permitAndContinue
    else if actionId = baselineDrop then some .drop
    else none
  | _ => none

def entityMatches (header : Header) : Entity → Prop
  | .tableEntry entry => entryMatches header entry
  | _ => False

def entityPriority : Entity → ℤ
  | .tableEntry entry => entry.priority
  | _ => 0

def entityVerdict : Entity → Option FirewallAction
  | .tableEntry entry => actionVerdict entry.action
  | _ => none

/-- what the tables answer with the entries of a plan -/
def tableVerdicts (header : Header) (plan : CompiledPlan) : Set (Option FirewallAction) :=
  verdicts (entityMatches header) entityPriority entityVerdict plan.entries (plan.defaultEntry.bind entityVerdict)

/-! ## One field -/

theorem optionalField_meaning (header : Header) (fieldId : ℕ) {width key : ℕ} {x : Option OptionalUint32}
    (hfits : ∀ value ∈ presentValue x, value.toNat < 2 ^ width) (hkey : header.key fieldId = some key)
    (hsmall : key < 2 ^ width) :
    (∀ field ∈ (presentValue x).toList.map (optionalField fieldId width), fieldMatches header field) ↔ optionalMatches x key := by
  have hmatches : optionalMatches x key ↔ ∀ value ∈ presentValue x, key = value.toNat := by
    cases x with
    | none => simp [optionalMatches, presentValue]
    | some value => cases hpresent : value.present <;> simp [optionalMatches, presentValue, hpresent]
  rw [hmatches, forall_mem_map]
  simp only [Option.mem_toList]
  refine forall₂_congr fun value hvalue => ?_
  -- the bytes hold the whole field
  have hwide : 2 ^ width ≤ 2 ^ (8 * ((width + 7) / 8)) := Nat.pow_le_pow_right (by decide) (by omega)
  have hread : fromBe (toBe ((width + 7) / 8) value.toNat) = value.toNat := by
    apply fromBe_toBe
    rw [show 256 = 2 ^ 8 from rfl, ← pow_mul]
    exact (hfits value hvalue).trans_le hwide
  have hfull := ternary_full ((hfits value hvalue).trans_le hwide) (hsmall.trans_le hwide)
  simp only [fieldMatches, optionalField, ternaryMatch, hkey, hread, fromBe_ones, hfull]

theorem prefixMask_toNat (length : UInt32) (hpos : length ≠ 0) (hle : length ≤ 32) :
    (prefixMask length).toNat = (2 ^ length.toNat - 1) <<< (32 - length.toNat) := by
  have htable : ∀ n : Fin 33, n ≠ 0 →
      (prefixMask (UInt32.ofNat n)).toNat = (2 ^ n.val - 1) <<< (32 - n.val) := by decide +kernel
  have hnat : length.toNat ≤ 32 := by simpa [UInt32.le_iff_toNat_le] using hle
  have hne : (⟨length.toNat, by omega⟩ : Fin 33) ≠ 0 := by
    intro hzero
    have hval : length.toNat = 0 := congrArg Fin.val hzero
    exact hpos (UInt32.toNat_inj.1 hval)
  have hmask := htable ⟨length.toNat, by omega⟩ hne
  simpa using hmask

theorem prefixField_meaning (header : Header) (fieldId : ℕ) {p : Ipv4Prefix} {key : ℕ} (h : p.Canonical)
    (hkey : header.key fieldId = some key) (hsmall : key < 2 ^ 32) :
    (∀ field ∈ (presentPrefix (some p)).toList.map (prefixField fieldId), fieldMatches header field) ↔ inPrefix p key := by
  have haddress := p.address.toNat_lt
  by_cases hzero : p.prefixLength = 0
  · -- no leading bits: the field is left out, and the quotients are zero
    have hkeyZero : key / 2 ^ 32 = 0 := Nat.div_eq_of_lt hsmall
    have haddressZero : p.address.toNat / 2 ^ 32 = 0 := Nat.div_eq_of_lt haddress
    simp only [presentPrefix, Option.bind_some, hzero, if_true, Option.toList_none, map_nil, not_mem_nil, false_imp_iff,
      implies_true, true_iff, inPrefix]
    exact hkeyZero.trans haddressZero.symm
  · have hnat : p.prefixLength.toNat ≤ 32 := by simpa [UInt32.le_iff_toNat_le] using h.length
    have hvalue : fromBe (toBe 4 p.address.toNat) = p.address.toNat := fromBe_toBe 4 _ haddress
    have hmask : fromBe (toBe 4 (prefixMask p.prefixLength).toNat) =
        (2 ^ p.prefixLength.toNat - 1) <<< (32 - p.prefixLength.toNat) := by
      rw [fromBe_toBe 4 _ (prefixMask p.prefixLength).toNat_lt, prefixMask_toNat p.prefixLength hzero h.length]
    have hsplit : 2 ^ 32 = 2 ^ (p.prefixLength.toNat + (32 - p.prefixLength.toNat)) := by
      rw [Nat.add_sub_cancel' hnat]
    have hshifted := ternary_shifted (n := p.prefixLength.toNat) (k := 32 - p.prefixLength.toNat)
      (hsplit ▸ haddress) (hsplit ▸ hsmall)
    simp only [presentPrefix, Option.bind_some, hzero, if_false, Option.toList_some, map_singleton,
      forall_mem_singleton, fieldMatches, prefixField, ternaryMatch, hkey, hvalue, hmask, hshifted, inPrefix]

/-! ## One rule -/

variable {rule : BaselineRule} {bank : ℕ} {p : Profile} {entity : Entity} {action : ℤ}

theorem fields_meaning {header : Header} (h : Sound rule) :
    (∀ field ∈ (ruleKey rule).fields, fieldMatches header field) ↔ RuleMatches header rule := by
  obtain ⟨source, hsource, hsourceCanonical⟩ := h.source
  obtain ⟨destination, hdestination, hdestinationCanonical⟩ := h.destination
  have hm1 := optionalField_meaning header 1 h.fits.ingressPort rfl header.ingressPort.isLt
  have hm2 := prefixField_meaning header 2 hsourceCanonical rfl header.source.isLt
  have hm3 := prefixField_meaning header 3 hdestinationCanonical rfl header.destination.isLt
  have hm4 := optionalField_meaning header 4 h.fits.protocol rfl header.protocol.isLt
  have hm5 := optionalField_meaning header 5 h.fits.l4Present rfl header.l4Present.isLt
  have hm6 := optionalField_meaning header 6 h.fits.sourcePort rfl header.sourcePort.isLt
  have hm7 := optionalField_meaning header 7 h.fits.destinationPort rfl header.destinationPort.isLt
  have hm8 := optionalField_meaning header 8 h.fits.fragmentClass rfl header.fragmentClass.isLt
  simp only [RuleKey.fields, ruleKey, hsource, hdestination, forall_mem_append, hm1, hm2, hm3, hm4, hm5, hm6, hm7, hm8]
  constructor
  · rintro ⟨⟨⟨⟨⟨⟨⟨h1, h2⟩, h3⟩, h4⟩, h5⟩, h6⟩, h7⟩, h8⟩
    exact ⟨h1, by simpa [hsource] using h2, by simpa [hdestination] using h3, h4, h5, h6, h7, h8⟩
  · rintro ⟨h1, h2, h3, h4, h5, h6, h7, h8⟩
    exact ⟨⟨⟨⟨⟨⟨⟨h1, h2 _ hsource⟩, h3 _ hdestination⟩, h4⟩, h5⟩, h6⟩, h7⟩, h8⟩

theorem baselineAction_ok {actionId : ℕ} (h : baselineAction action = .ok actionId) :
    actionVerdict (some (tableAction actionId)) = FirewallAction.tryFrom action ∧
      (FirewallAction.tryFrom action = some .permitAndContinue ∨ FirewallAction.tryFrom action = some .drop) := by
  unfold baselineAction at h
  split at h
  · next hpermit => cases h; exact ⟨hpermit.symm ▸ rfl, .inl hpermit⟩
  · next hdrop => cases h; exact ⟨hdrop.symm ▸ rfl, .inr hdrop⟩
  · cases h

/-- an entity is the entry of a rule in a bank -/
structure EntryOf (bank : ℕ) (rule : BaselineRule) (entity : Entity) : Prop where
  table : ∃ entry, entity = .tableEntry entry ∧ entry.tableId = baselineTable bank ∧ entry.isDefaultAction = false
  priority : entityPriority entity = rule.priority
  verdict : entityVerdict entity = FirewallAction.tryFrom rule.action
  /-- it says what to do -/
  decided : FirewallAction.tryFrom rule.action = some .permitAndContinue ∨ FirewallAction.tryFrom rule.action = some .drop
  matched : ∀ header, entityMatches header entity ↔ RuleMatches header rule

/-! ## The loop -/

/-- the loop compiles a rule with a valid identity to its entry -/
structure CompiledFrom (bank : ℕ) (rule : BaselineRule) (entity : Entity) : Prop where
  identity : validateRuleIdentity rule.ruleId rule.ruleRevision rule.canonicalRuleDigest = .ok ()
  entry : ∃ entry, baselineEntry bank rule = .ok entry ∧ entity = .tableEntry entry

theorem compileOrdered_ok {rules : List BaselineRule} {entities : List Entity}
    {conflicts : List ((ℤ × Bytes) × Option TableAction)} {identities : List (String × ℕ)}
    (h : compileOrdered p bank conflicts identities rules = .ok entities) :
    List.Forall₂ (CompiledFrom bank) rules entities := by
  induction rules generalizing entities conflicts identities with
  | nil =>
    cases h
    exact .nil
  | cons _ _ ih =>
    obtain ⟨_, hidentity, h⟩ := bind_ok.1 h
    replace h := passed h
    obtain ⟨entry, hentry, h⟩ := bind_ok.1 h
    replace h := passed h
    obtain ⟨others, hothers, h⟩ := bind_ok.1 h
    cases h
    exact .cons ⟨hidentity, entry, hentry, rfl⟩ (ih hothers)

theorem CompiledFrom.meaning (h : CompiledFrom bank rule entity) : EntryOf bank rule entity := by
  obtain ⟨entry, hentry, rfl⟩ := h.entry
  obtain ⟨hsound, actionId, haction, rfl⟩ := baselineEntry_ok.1 hentry
  exact
    { table := ⟨_, rfl, rfl, rfl⟩
      priority := rfl
      verdict := (baselineAction_ok haction).1
      decided := (baselineAction_ok haction).2
      matched := fun header => by
        simp only [entityMatches, entryMatches, mem_insertionSort]
        exact fields_meaning hsound }

/-! ## The plan -/

/-- the plan says what the intent says -/
structure Preserved (intent : EffectIntent) (bank : ℕ) (plan : CompiledPlan) : Prop where
  /-- one entry for each rule -/
  entries : ∃ rules, rules.Perm intent.baselineRules ∧ List.Forall₂ (EntryOf bank) rules plan.entries
  default : ∃ entry, plan.defaultEntry = some (.tableEntry entry) ∧ entry.tableId = baselineTable bank ∧
    entry.isDefaultAction = true ∧ entry.fields = [] ∧ actionVerdict entry.action = FirewallAction.tryFrom intent.defaultAction
  decided : FirewallAction.tryFrom intent.defaultAction = some .permitAndContinue ∨
    FirewallAction.tryFrom intent.defaultAction = some .drop
  /-- the selector that makes the bank current -/
  selector : ∃ selector, policySelector bank = .ok selector ∧ plan.selectorEntry = some selector
  verdicts : ∀ header, tableVerdicts header plan = ruleVerdicts header intent

/-- what `compile` returns is what the kind contributes -/
theorem compile_ok {intent : EffectIntent} {activeBank baselineLimit overlayLimit : ℕ} {plan : CompiledPlan}
    (h : compile p intent activeBank baselineLimit overlayLimit = .ok plan) :
    ∃ compiled, compileKind p intent activeBank baselineLimit overlayLimit = .ok compiled ∧ activeBank ≤ 1 ∧
      contractEntries p compiled.directCounter compiled.bank compiled.ruleIds compiled.entries = .ok plan.contract.entries ∧
      plan.entries = compiled.entries ∧ plan.defaultEntry = compiled.defaultEntry ∧
      plan.selectorEntry = compiled.selectorEntry ∧ plan.contract.activeBank = activeBank ∧
      plan.contract.inactiveBank = 1 - activeBank := by
  replace h := passed h
  obtain ⟨hbank, h⟩ := refuse_then h
  obtain ⟨compiled, hcompiled, h⟩ := bind_ok.1 h
  obtain ⟨entries, hentries, h⟩ := bind_ok.1 h
  cases h
  exact ⟨compiled, hcompiled, not_lt.1 hbank, hentries, rfl, rfl, rfl, rfl, rfl⟩

/-- **Meaning preservation.** The plan of an accepted baseline intent has an entry for every rule that matches the packets the
rule matches, with its priority and action; the default entry carries the default action; so the verdicts are the same. -/
theorem baseline_meaning {p : Profile} {intent : EffectIntent} {activeBank baselineLimit overlayLimit : ℕ}
    {plan : CompiledPlan} (hkind : effectKind intent.kind = some .baselineActivate)
    (h : compile p intent activeBank baselineLimit overlayLimit = .ok plan) : Preserved intent (1 - activeBank) plan := by
  obtain ⟨compiled, hcompiled, -, -, hentries, hdefault, hselector, -⟩ := compile_ok h
  simp only [compileKind, hkind] at hcompiled
  replace hcompiled := passed hcompiled
  obtain ⟨entities, hordered, hcompiled⟩ := bind_ok.1 hcompiled
  obtain ⟨defaultEntry, hdefaultEntry, hcompiled⟩ := bind_ok.1 hcompiled
  obtain ⟨selectorEntry, hselectorEntry, hcompiled⟩ := bind_ok.1 hcompiled
  cases hcompiled
  have hperm := perm_insertionSort ruleBefore intent.baselineRules
  have hall : List.Forall₂ (EntryOf (1 - activeBank)) _ _ :=
    (compileOrdered_ok hordered).imp fun _ _ hcompiled => hcompiled.meaning
  obtain ⟨actionId, haction, hentity⟩ := bind_ok.1 hdefaultEntry
  cases hentity
  obtain ⟨hverdict, hdecided⟩ := baselineAction_ok haction
  refine
    { entries := ⟨_, hperm, hentries ▸ hall⟩
      default := ⟨_, hdefault, rfl, rfl, rfl, hverdict⟩
      decided := hdecided
      selector := ⟨selectorEntry, hselectorEntry, hselector⟩
      verdicts := ?_ }
  intro header
  have hsame : List.Forall₂ (fun rule entity => (entityMatches header entity ↔ RuleMatches header rule) ∧
      entityPriority entity = rule.priority ∧ entityVerdict entity = FirewallAction.tryFrom rule.action)
      (intent.baselineRules.insertionSort ruleBefore) entities :=
    hall.imp fun _ _ hentry => ⟨hentry.matched header, hentry.priority, hentry.verdict⟩
  calc tableVerdicts header plan
      = MatchTable.verdicts (entityMatches header) entityPriority entityVerdict entities
          (FirewallAction.tryFrom intent.defaultAction) := by
        unfold tableVerdicts
        rw [hentries, hdefault]
        exact congrArg _ hverdict
    _ = MatchTable.verdicts (RuleMatches header) BaselineRule.priority (fun rule => FirewallAction.tryFrom rule.action)
          (intent.baselineRules.insertionSort ruleBefore) (FirewallAction.tryFrom intent.defaultAction) :=
        (verdicts_congr _ hsame).symm
    _ = ruleVerdicts header intent := verdicts_perm _ hperm

/-! ## A policy of two rules -/

/-- every digest and encoding the same -/
def flatProfile : Profile :=
  { hash := fun _ => "0000000000000000000000000000000000000000000000000000000000000000"
    encodeIntent := fun _ => [], encodeField := fun _ => [], encodeEntry := fun _ => [], encodeEntity := fun _ => []
    encodePlan := fun _ => [] }

/-- HTTPS from 10.0.0.0/8 is permitted -/
def httpsRule : BaselineRule :=
  { ruleId := "https", ruleRevision := 1, canonicalRuleDigest := sha256 flatProfile.hash [], priority := 20
    ingressPort := some ⟨true, 257⟩, source := some ⟨0x0a000000, 8⟩, destination := some ⟨0, 0⟩
    protocol := some ⟨true, 6⟩, l4Present := some ⟨true, 1⟩, sourcePort := none, destinationPort := some ⟨true, 443⟩
    fragmentClass := some ⟨true, 0⟩, action := 1 }

/-- one host is not served -/
def hostRule : BaselineRule :=
  { ruleId := "host", ruleRevision := 1, canonicalRuleDigest := sha256 flatProfile.hash [], priority := 10
    ingressPort := none, source := some ⟨0, 0⟩, destination := some ⟨0x0a000001, 32⟩
    protocol := some ⟨false, 300⟩, l4Present := none, sourcePort := none, destinationPort := none
    fragmentClass := none, action := 2 }

def baselineIntent : EffectIntent :=
  { schemaVersion := "effect-intent-edge/v1", effectIntentId := "intent-1", operationId := "operation-1"
    targetId := "leaf-1", fence := none, effectDigest := sha256 flatProfile.hash []
    authorizationDigest := sha256 flatProfile.hash [], kind := 1, policyRevisionDigest := sha256 flatProfile.hash []
    defaultAction := 2, baselineRules := [hostRule, httpsRule], overlayRules := [], deadlineUnixMs := 1000
    actorRef := "governance", reasonCode := "APPROVED", traceId := "trace-1", requiredWriteAtomicity := 1 }

theorem flat_compiles (intent : EffectIntent) (hok : (compile flatProfile intent 0 16 16).isOk = true) :
    ∃ plan, compile flatProfile intent 0 16 16 = .ok plan := by
  cases h : compile flatProfile intent 0 16 16 with
  | error =>
    rw [h] at hok
    cases hok
  | ok plan => exact ⟨plan, rfl⟩

theorem two_rules_meaning : ∃ plan, compile flatProfile baselineIntent 0 16 16 = .ok plan ∧ Preserved baselineIntent 1 plan := by
  obtain ⟨plan, h⟩ := flat_compiles baselineIntent (by decide +kernel)
  exact ⟨plan, h, baseline_meaning rfl h⟩

end MasiEdge.Firewall
