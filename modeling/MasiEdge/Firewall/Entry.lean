/-
What the compiler makes of one rule.

A rule has an entry exactly when it is sound, and then the entry is read off its key: priority, action and match. Each
function of the compiler that looks at one field or one rule has one equation here, for success and for what it returns.

* `optionalTernary_ok`, `prefixTernary_ok`: one field;
* `baselineEntry_ok`: one rule.
-/
import MasiEdge.Firewall.Compile

namespace MasiEdge.Firewall

open Codec

/-! ## One field -/

/-- the value, when the rule sets the field -/
def presentValue (x : Option OptionalUint32) : Option UInt32 := x.bind fun value => if value.present then some value.value else none

/-- the prefix, when it has any bits -/
def presentPrefix (x : Option Ipv4Prefix) : Option Ipv4Prefix := x.bind fun p => if p.prefixLength = 0 then none else some p

def optionalField (fieldId width : ℕ) (value : UInt32) : FieldMatch :=
  ternaryMatch fieldId (toBe ((width + 7) / 8) value.toNat) (List.replicate ((width + 7) / 8) 0xff)

def prefixField (fieldId : ℕ) (p : Ipv4Prefix) : FieldMatch :=
  ternaryMatch fieldId (toBe 4 p.address.toNat) (toBe 4 (prefixMask p.prefixLength).toNat)

variable {fieldId : ℕ} {compiled : List FieldMatch} {p : Ipv4Prefix} {rule : BaselineRule}

theorem optionalTernary_ok {width : ℕ} {x : Option OptionalUint32} (hwidth : 0 < width ∧ width < 32) :
    optionalTernary fieldId width x = .ok compiled ↔
      (∀ value ∈ presentValue x, value.toNat < 2 ^ width) ∧ (presentValue x).toList.map (optionalField fieldId width) = compiled := by
  cases x with
  | none => simp [optionalTernary, presentValue]
  | some value =>
    cases hpresent : value.present with
    | false => simp [optionalTernary, presentValue, hpresent]
    | true =>
      have hencode : ∀ bytes, encodeWidth value.value.toNat width = .ok bytes ↔
          value.value.toNat < 2 ^ width ∧ toBe ((width + 7) / 8) value.value.toNat = bytes := by
        intro bytes
        have hfits : ¬ (width = 0 ∨ 64 < width ∨ (width < 64 ∧ 2 ^ width ≤ value.value.toNat)) ↔
            value.value.toNat < 2 ^ width := by omega
        simp [encodeWidth, bind_ok, -not_or, hfits, pure, Except.pure, Unique.exists_iff]
      simp [optionalTernary, presentValue, hpresent, bind_ok, hencode, hwidth.2, optionalField, length_toBe, pure, Except.pure,
        Unique.exists_iff]

/-- at most 32 bits, and no host bits -/
structure Ipv4Prefix.Canonical (p : Ipv4Prefix) : Prop where
  length : p.prefixLength ≤ 32
  address : p.prefixLength ≠ 0 → p.address &&& prefixMask p.prefixLength = p.address

theorem prefixTernary_ok :
    prefixTernary fieldId p.address p.prefixLength = .ok compiled ↔
      p.Canonical ∧ (presentPrefix (some p)).toList.map (prefixField fieldId) = compiled := by
  have hcanonical : p.Canonical ↔ p.prefixLength ≤ 32 ∧ (p.prefixLength ≠ 0 → p.address &&& prefixMask p.prefixLength = p.address) :=
    ⟨fun h => ⟨h.length, h.address⟩, fun h => ⟨h.1, h.2⟩⟩
  rw [hcanonical]
  by_cases hzero : p.prefixLength = 0
  · simp [prefixTernary, presentPrefix, hzero, bind_ok, pure, Except.pure, Unique.exists_iff]
  · by_cases hmasked : p.address &&& prefixMask p.prefixLength = p.address
    · simp [prefixTernary, presentPrefix, hzero, hmasked, bind_ok, pure, Except.pure, Unique.exists_iff, prefixField]
    · simp [prefixTernary, hzero, hmasked, bind_ok, pure, Except.pure, Unique.exists_iff]

/-! ## One rule -/

/-- priority, action and match of a rule -/
structure RuleKey where
  priority : ℤ
  action : ℤ
  ingressPort : Option UInt32
  source : Option Ipv4Prefix
  destination : Option Ipv4Prefix
  protocol : Option UInt32
  l4Present : Option UInt32
  sourcePort : Option UInt32
  destinationPort : Option UInt32
  fragmentClass : Option UInt32
deriving DecidableEq, Repr

def ruleKey (rule : BaselineRule) : RuleKey :=
  ⟨rule.priority, rule.action, presentValue rule.ingressPort, presentPrefix rule.source, presentPrefix rule.destination,
    presentValue rule.protocol, presentValue rule.l4Present, presentValue rule.sourcePort, presentValue rule.destinationPort,
    presentValue rule.fragmentClass⟩

/-- the fields of a key, in the order of their ids -/
def RuleKey.fields (key : RuleKey) : List FieldMatch :=
  key.ingressPort.toList.map (optionalField 1 9) ++ key.source.toList.map (prefixField 2) ++
    key.destination.toList.map (prefixField 3) ++ key.protocol.toList.map (optionalField 4 8) ++
    key.l4Present.toList.map (optionalField 5 1) ++ key.sourcePort.toList.map (optionalField 6 16) ++
    key.destinationPort.toList.map (optionalField 7 16) ++ key.fragmentClass.toList.map (optionalField 8 2)

/-- the values of a key fit their fields -/
structure RuleKey.Fits (key : RuleKey) : Prop where
  ingressPort : ∀ value ∈ key.ingressPort, value.toNat < 2 ^ 9
  source : ∀ p ∈ key.source, p.prefixLength ≠ 0 ∧ p.prefixLength ≤ 32
  destination : ∀ p ∈ key.destination, p.prefixLength ≠ 0 ∧ p.prefixLength ≤ 32
  protocol : ∀ value ∈ key.protocol, value.toNat < 2 ^ 8
  l4Present : ∀ value ∈ key.l4Present, value.toNat < 2 ^ 1
  sourcePort : ∀ value ∈ key.sourcePort, value.toNat < 2 ^ 16
  destinationPort : ∀ value ∈ key.destinationPort, value.toNat < 2 ^ 16
  fragmentClass : ∀ value ∈ key.fragmentClass, value.toNat < 2 ^ 2

theorem presentPrefix_fits (h : p.prefixLength ≤ 32) :
    ∀ q ∈ presentPrefix (some p), q.prefixLength ≠ 0 ∧ q.prefixLength ≤ 32 := by
  intro q hq
  by_cases hzero : p.prefixLength = 0
  · simp [presentPrefix, hzero] at hq
  · have hsame : p = q := by simpa [presentPrefix, hzero] using hq
    rw [← hsame]
    exact ⟨hzero, h⟩

/-- a port is matched only together with a transport header -/
def PortsNeedL4 (rule : BaselineRule) : Prop :=
  (isPresent rule.sourcePort || isPresent rule.destinationPort) = true →
    (rule.l4Present.any fun value => value.present && value.value == 1) = true

/-- what the compiler asks of a rule, apart from its identity -/
structure Sound (rule : BaselineRule) : Prop where
  priority : 0 < rule.priority
  source : ∃ p, rule.source = some p ∧ p.Canonical
  destination : ∃ p, rule.destination = some p ∧ p.Canonical
  fits : (ruleKey rule).Fits
  ports : PortsNeedL4 rule
  fragmentClass : (rule.fragmentClass.any fun value => value.present && decide (2 < value.value)) = false
  action : ∃ actionId, baselineAction rule.action = .ok actionId

theorem requiredPrefix_ok {x : Option Ipv4Prefix} {field : String} : requiredPrefix x field = .ok p ↔ x = some p := by
  cases x <;> simp [requiredPrefix]

theorem baselineFields_ok {source destination : Ipv4Prefix} (hsource : rule.source = some source)
    (hdestination : rule.destination = some destination) :
    baselineFields rule source destination = .ok compiled ↔
      (source.Canonical ∧ destination.Canonical ∧ (ruleKey rule).Fits ∧ PortsNeedL4 rule ∧
        (rule.fragmentClass.any fun value => value.present && decide (2 < value.value)) = false) ∧
        ((ruleKey rule).fields.insertionSort fun a b => a.fieldId ≤ b.fieldId) = compiled := by
  have hkey : ruleKey rule = ⟨rule.priority, rule.action, presentValue rule.ingressPort, presentPrefix (some source),
      presentPrefix (some destination), presentValue rule.protocol, presentValue rule.l4Present, presentValue rule.sourcePort,
      presentValue rule.destinationPort, presentValue rule.fragmentClass⟩ := by
    rw [ruleKey, hsource, hdestination]
  have hports : ¬ ((isPresent rule.sourcePort || isPresent rule.destinationPort) = true ∧
      (rule.l4Present.any fun value => value.present && value.value == 1) = false) ↔ PortsNeedL4 rule := by
    simp [PortsNeedL4]
  simp (disch := decide) only [baselineFields, bind_ok, optionalTernary_ok, prefixTernary_ok, refuse_ok, hports, hkey,
    Unique.exists_iff, and_assoc, exists_and_left, exists_eq_left', pure, Except.pure, Except.ok.injEq, Bool.not_eq_true]
  constructor
  · rintro ⟨h1, h2, h3, h4, h5, hl4, h6, h7, hfragment, h8, rfl⟩
    exact ⟨h2, h3, ⟨h1, presentPrefix_fits h2.length, presentPrefix_fits h3.length, h4, h5, h6, h7, h8⟩, hl4, hfragment, rfl⟩
  · rintro ⟨h2, h3, hfits, hl4, hfragment, rfl⟩
    exact ⟨hfits.ingressPort, h2, h3, hfits.protocol, hfits.l4Present, hl4, hfits.sourcePort, hfits.destinationPort,
      hfragment, hfits.fragmentClass, rfl⟩

theorem baselineEntry_ok {bank : ℕ} {entry : TableEntry} :
    baselineEntry bank rule = .ok entry ↔ Sound rule ∧ ∃ actionId, baselineAction rule.action = .ok actionId ∧
      { tableId := baselineTable bank
        fields := (ruleKey rule).fields.insertionSort fun a b => a.fieldId ≤ b.fieldId
        action := some (tableAction actionId), priority := rule.priority } = entry := by
  simp only [baselineEntry, bind_ok, refuse_ok, not_le, requiredPrefix_ok, pure, Except.pure, Except.ok.injEq, Unique.exists_iff]
  constructor
  · rintro ⟨hpriority, source, hsource, destination, hdestination, _, hfields, actionId, haction, rfl⟩
    obtain ⟨⟨h2, h3, hfits, hports, hfragment⟩, rfl⟩ := (baselineFields_ok hsource hdestination).1 hfields
    exact ⟨⟨hpriority, ⟨source, hsource, h2⟩, ⟨destination, hdestination, h3⟩, hfits, hports, hfragment, actionId, haction⟩,
      actionId, haction, rfl⟩
  · rintro ⟨h, actionId, haction, rfl⟩
    obtain ⟨source, hsource, h2⟩ := h.source
    obtain ⟨destination, hdestination, h3⟩ := h.destination
    have hfields := (baselineFields_ok hsource hdestination).2 ⟨⟨h2, h3, h.fits, h.ports, h.fragmentClass⟩, rfl⟩
    exact ⟨h.priority, source, hsource, destination, hdestination, _, hfields, actionId, haction, rfl⟩

theorem Sound.entry (h : Sound rule) (bank : ℕ) : ∃ entry, baselineEntry bank rule = .ok entry := by
  obtain ⟨actionId, haction⟩ := h.action
  exact ⟨_, baselineEntry_ok.2 ⟨h, actionId, haction, rfl⟩⟩

end MasiEdge.Firewall
