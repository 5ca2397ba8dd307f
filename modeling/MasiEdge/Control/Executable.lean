/-
Accepted policies at the switch.

The control core accepts baseline revisions and response overlays with checks of its own; the Edge process checks the adapted
intent again and compiles it. Most of what Edge asks follows from the control core's checks: widths, prefixes, priorities,
actions, digests, and that no two rules are the same match. Some of it does not: the characters of a rule id, the transport
header behind a port match, the ports of an overlay, its lifetime, and the identities and atomicity of the intent itself.
`EdgeReady` lists exactly these.

* `AdaptedFrom.sound_iff`, `AdaptedFrom.matchesApart`: one rule and two rules of an accepted revision;
* `overlap_exact`: rules overlap when some header matches both, and when some packet does;
* `policy_executable_iff`: an accepted policy is executable exactly when its intent is ready for Edge;
* `bare_port_refused`: an accepted revision that Edge refuses.
-/
import MasiEdge.Control.Applied
import MasiEdge.Control.Policy
import MasiEdge.Firewall.Total

namespace MasiEdge.Control

open Codec Firewall MasiEdge.Pointwise List

/-! ## Optional fields across the adapter -/

/-- an optional number on the wire: the value of an absent one is lost -/
def wireUint (x : OptionalUint32) : OptionalUint32 := if x.present then x else ⟨false, 0⟩

def wireBool (x : OptionalBool) : OptionalUint32 := if x.present then ⟨true, if x.value then 1 else 0⟩ else ⟨false, 0⟩

theorem edgeOptionalUint32_uintScalar {x : OptionalUint32} {maximum : ℕ}
    (h : x.present = true → x.value.toNat ≤ maximum) : edgeOptionalUint32 (uintScalar x) maximum = .ok (wireUint x) := by
  obtain ⟨present, value⟩ := x
  cases present with
  | false => rfl
  | true =>
    have hlt : value.toNat < 2 ^ 32 := value.toNat_lt
    have hle : value.toNat ≤ maximum := h rfl
    change (reject (2 ^ 32 ≤ value.toNat ∨ maximum < value.toNat) _ >>= fun _ => _) = _
    rw [reject_of_not (by omega), ok_bind, UInt32.ofNat_toNat]
    rfl

theorem edgeOptionalBool_boolScalar (x : OptionalBool) : edgeOptionalBool (boolScalar x) = .ok (wireBool x) := by
  obtain ⟨present, value⟩ := x
  cases present <;> rfl

theorem presentValue_wireUint (x : OptionalUint32) : presentValue (some (wireUint x)) = presentValue (some x) := by
  obtain ⟨_ | _, _⟩ := x <;> rfl

theorem presentValue_fits {x : OptionalUint32} {maximum width : ℕ} (h : x.present = true → x.value.toNat ≤ maximum)
    (hwidth : maximum < 2 ^ width) : ∀ value ∈ presentValue (some x), value.toNat < 2 ^ width := by
  intro value hvalue
  simp only [presentValue, Option.bind_some] at hvalue
  split_ifs at hvalue with hpresent
  · cases Option.mem_some_iff.1 hvalue
    exact (h hpresent).trans_lt hwidth
  · cases hvalue

theorem wireUint_fits {x : OptionalUint32} {maximum width : ℕ} (h : x.present = true → x.value.toNat ≤ maximum)
    (hwidth : maximum < 2 ^ width) : ∀ value ∈ presentValue (some (wireUint x)), value.toNat < 2 ^ width :=
  presentValue_wireUint x ▸ presentValue_fits h hwidth

theorem wireBool_fits (x : OptionalBool) : ∀ value ∈ presentValue (some (wireBool x)), value.toNat < 2 ^ 1 := by
  obtain ⟨_ | _, _ | _⟩ := x <;> simp [wireBool, presentValue]

theorem optionalUintOverlaps_wire (x y : OptionalUint32) :
    optionalUintOverlaps (wireUint x) (wireUint y) = optionalUintOverlaps x y := by
  obtain ⟨_ | _, _⟩ := x <;> obtain ⟨_ | _, _⟩ := y <;> rfl

theorem optionalBoolOverlaps_wire (x y : OptionalBool) :
    optionalUintOverlaps (wireBool x) (wireBool y) = optionalBoolOverlaps x y := by
  obtain ⟨_ | _, _ | _⟩ := x <;> obtain ⟨_ | _, _ | _⟩ := y <;> rfl

/-- a value of the field that suits both rules -/
theorem optionalUintOverlaps_iff {width : ℕ} {x y : OptionalUint32}
    (hx : ∀ value ∈ presentValue (some x), value.toNat < 2 ^ width)
    (hy : ∀ value ∈ presentValue (some y), value.toNat < 2 ^ width) :
    optionalUintOverlaps x y = true ↔
      ∃ n : BitVec width, optionalMatches (some x) n.toNat ∧ optionalMatches (some y) n.toNat := by
  obtain ⟨_ | _, a⟩ := x <;> obtain ⟨_ | _, b⟩ := y <;>
    simp only [optionalUintOverlaps, optionalMatches, presentValue, Option.bind_some, Option.mem_some_iff, forall_eq', if_true,
      Bool.not_true, Bool.not_false, Bool.true_or, Bool.or_true, Bool.false_or, beq_iff_eq, true_iff, Bool.false_eq_true,
      false_imp_iff, true_imp_iff, and_true, true_and] at hx hy ⊢
  · exact ⟨0, trivial⟩
  · exact ⟨.ofNatLT _ hy, rfl⟩
  · exact ⟨.ofNatLT _ hx, rfl⟩
  · constructor
    · rintro rfl
      exact ⟨.ofNatLT _ hx, rfl, rfl⟩
    · rintro ⟨n, ha, hb⟩
      exact UInt32.toNat_inj.1 (ha.symm.trans hb)

/-! ## Prefixes -/

theorem edgePrefix_network {x : NormalizedPrefix} (h : NetworkPrefix x) :
    ∃ address, parsePrefix x = some address ∧ edgePrefix x = .ok ⟨address, x.prefixLength⟩ ∧
      (⟨address, x.prefixLength⟩ : Ipv4Prefix).Canonical := by
  obtain ⟨address, hparse, hmasked⟩ := h
  have hlength : x.prefixLength ≤ 32 := by
    unfold parsePrefix at hparse
    by_contra hlong
    rw [if_neg hlong] at hparse
    cases hparse
  refine ⟨address, hparse, ?_, hlength, ?_⟩
  · unfold edgePrefix
    simp only [hparse]
    rw [reject_of_not (not_not.2 hmasked)]
    rfl
  · intro hzero
    rw [masked, if_neg hzero] at hmasked
    exact hmasked.symm

theorem masked_eq_iff {a b length : UInt32} (h : length ≤ 32) :
    masked a length = masked b length ↔ inPrefix ⟨a, length⟩ b.toNat := by
  unfold masked inPrefix
  by_cases hzero : length = 0
  · simp [hzero, Nat.div_eq_of_lt a.toNat_lt, Nat.div_eq_of_lt b.toNat_lt]
  · have hnat : length.toNat ≤ 32 := by simpa [UInt32.le_iff_toNat_le] using h
    have hsplit : 2 ^ 32 = 2 ^ (length.toNat + (32 - length.toNat)) := by rw [Nat.add_sub_cancel' hnat]
    rw [if_neg hzero, if_neg hzero, ← MatchTable.ternary_shifted (hsplit ▸ a.toNat_lt) (hsplit ▸ b.toNat_lt), MatchTable.ternary,
      ← UInt32.toNat_inj, UInt32.toNat_and, UInt32.toNat_and, prefixMask_toNat length hzero h]
    exact eq_comm

/-- the longer prefix is inside the shorter one -/
theorem exists_inPrefix_iff {p q : Ipv4Prefix} (hle : p.prefixLength.toNat ≤ q.prefixLength.toNat) :
    (∃ n : BitVec 32, inPrefix p n.toNat ∧ inPrefix q n.toNat) ↔ inPrefix p q.address.toNat := by
  constructor
  · rintro ⟨n, hp, hq⟩
    have hpow : 2 ^ (32 - p.prefixLength.toNat) = 2 ^ (32 - q.prefixLength.toNat) *
        2 ^ (32 - p.prefixLength.toNat - (32 - q.prefixLength.toNat)) := by
      rw [← pow_add]
      congr 1
      omega
    unfold inPrefix at *
    rw [← hp, hpow, ← Nat.div_div_eq_div_mul, ← Nat.div_div_eq_div_mul, hq]
  · exact fun hp => ⟨q.address.toBitVec, hp, rfl⟩

theorem prefixOverlaps_iff {x y : NormalizedPrefix} {a b : UInt32} (hx : parsePrefix x = some a) (hy : parsePrefix y = some b)
    (hlx : x.prefixLength ≤ 32) (hly : y.prefixLength ≤ 32) : prefixOverlaps x y = true ↔
      ∃ n : BitVec 32, inPrefix ⟨a, x.prefixLength⟩ n.toNat ∧ inPrefix ⟨b, y.prefixLength⟩ n.toNat := by
  simp only [prefixOverlaps, hx, hy, beq_iff_eq]
  split_ifs with hlt
  · rw [masked_eq_iff hlx, exists_inPrefix_iff (UInt32.lt_iff_toNat_lt.1 hlt).le]
  · rw [eq_comm, masked_eq_iff hly]
    simp only [and_comm (a := inPrefix ⟨a, _⟩ _)]
    have hle := UInt32.le_iff_toNat_le.1 (UInt32.not_lt.1 hlt)
    exact (exists_inPrefix_iff (p := ⟨b, _⟩) (q := ⟨a, _⟩) hle).symm

/-! ## Rules across the adapter -/

variable {name : String} {hash : Bytes → String} {r r' : PolicyRule} {edge edge' : BaselineRule} {rev : Revision}
  {body : EdgeBody} {action : ℤ} {size : ℕ}

theorem edgeFragmentClass_total (h : name ∈ ["wildcard", "unfragmented", "first-fragment", "non-initial-fragment"]) :
    ∃ code, edgeFragmentClass name = .ok code ∧ code.value ≤ 2 := by
  simp only [mem_cons, not_mem_nil, or_false] at h
  rcases h with rfl | rfl | rfl | rfl
  · exact ⟨⟨false, 0⟩, by decide, by decide⟩
  · exact ⟨⟨true, 0⟩, by decide, by decide⟩
  · exact ⟨⟨true, 1⟩, by decide, by decide⟩
  · exact ⟨⟨true, 2⟩, by decide, by decide⟩

theorem edgeFragmentClass_overlaps {name' : String} {code code' : OptionalUint32} (h : edgeFragmentClass name = .ok code)
    (h' : edgeFragmentClass name' = .ok code') :
    optionalUintOverlaps code code' = (name == "wildcard" || name' == "wildcard" || name == name') := by
  unfold edgeFragmentClass at h h'
  split_ifs at h h' <;> cases h <;> cases h' <;> subst_vars <;> decide

theorem edgeFirewallAction_total {action : String} (h : action = "permit-and-continue" ∨ action = "drop") :
    ∃ code, edgeFirewallAction action = .ok code ∧ (code = 1 ∨ code = 2) := by
  rcases h with rfl | rfl
  · exact ⟨1, by decide, .inl rfl⟩
  · exact ⟨2, by decide, .inr rfl⟩

/-- the message of a rule of the control core -/
structure AdaptedFrom (r : PolicyRule) (edge : BaselineRule) : Prop where
  ruleId : edge.ruleId = r.ruleId
  ruleRevision : edge.ruleRevision = r.ruleRevision.toNat
  digest : edge.canonicalRuleDigest = r.canonicalRuleDigest
  priority : edge.priority = r.priority
  ingressPort : edge.ingressPort = some (wireUint r.ingressPort)
  source : ∃ address, parsePrefix r.sourceIpv4 = some address ∧ edge.source = some ⟨address, r.sourceIpv4.prefixLength⟩ ∧
    (⟨address, r.sourceIpv4.prefixLength⟩ : Ipv4Prefix).Canonical
  destination : ∃ address, parsePrefix r.destinationIpv4 = some address ∧
    edge.destination = some ⟨address, r.destinationIpv4.prefixLength⟩ ∧
    (⟨address, r.destinationIpv4.prefixLength⟩ : Ipv4Prefix).Canonical
  protocol : edge.protocol = some (wireUint r.protocol)
  l4Present : edge.l4Present = some (wireBool r.l4Present)
  sourcePort : edge.sourcePort = some (wireUint r.sourcePort)
  destinationPort : edge.destinationPort = some (wireUint r.destinationPort)
  fragmentClass : ∃ code, edgeFragmentClass r.fragmentClass = .ok code ∧ edge.fragmentClass = some code ∧ code.value ≤ 2
  action : edge.action = 1 ∨ edge.action = 2

theorem edgeBaselineRule_total (h : RuleAccepted hash r) :
    ∃ edge, edgeBaselineRule (normalizeRule r) = .ok edge ∧ AdaptedFrom r edge := by
  obtain ⟨source, hsource, hsourceEdge, hsourceCanonical⟩ := edgePrefix_network h.source
  obtain ⟨destination, hdestination, hdestinationEdge, hdestinationCanonical⟩ := edgePrefix_network h.destination
  obtain ⟨fragment, hfragment, hbound⟩ := edgeFragmentClass_total h.fragmentClass
  obtain ⟨action, haction, hcode⟩ := edgeFirewallAction_total h.action
  have heq : edgeBaselineRule (normalizeRule r) =
      .ok ⟨r.ruleId, r.ruleRevision.toNat, r.canonicalRuleDigest, r.priority, some (wireUint r.ingressPort),
        some ⟨source, r.sourceIpv4.prefixLength⟩, some ⟨destination, r.destinationIpv4.prefixLength⟩,
        some (wireUint r.protocol), some (wireBool r.l4Present), some (wireUint r.sourcePort),
        some (wireUint r.destinationPort), some fragment, action⟩ := by
    unfold edgeBaselineRule normalizeRule
    rw [reject_of_not (not_lt.2 h.revision), hsourceEdge, hdestinationEdge,
      edgeOptionalUint32_uintScalar h.ingressPort, edgeOptionalUint32_uintScalar h.protocol,
      edgeOptionalUint32_uintScalar h.sourcePort, edgeOptionalUint32_uintScalar h.destinationPort,
      edgeOptionalBool_boolScalar, hfragment, haction]
    rfl
  exact ⟨_, heq, rfl, rfl, rfl, rfl, rfl, ⟨source, hsource, rfl, hsourceCanonical⟩,
    ⟨destination, hdestination, rfl, hdestinationCanonical⟩, rfl, rfl, rfl, rfl, ⟨fragment, hfragment, rfl, hbound⟩, hcode⟩

/-- a rule that matches a port also asks for a transport header -/
def PortsHaveL4 (rule : NormalizedBaselineRule) : Prop :=
  rule.sourcePort ≠ .wildcard ∨ rule.destinationPort ≠ .wildcard → rule.l4Present = .boolean true

theorem AdaptedFrom.ports_iff (h : AdaptedFrom r edge) : PortsNeedL4 edge ↔ PortsHaveL4 (normalizeRule r) := by
  have hport : ∀ x : OptionalUint32, isPresent (some (wireUint x)) = true ↔ uintScalar x ≠ .wildcard := by
    rintro ⟨present, value⟩
    cases present <;> simp [isPresent, wireUint, uintScalar]
  have hl4 : ∀ x : OptionalBool, ((some (wireBool x)).any fun value => value.present && value.value == 1) = true ↔
      boolScalar x = .boolean true := by
    rintro ⟨present, value⟩
    cases present <;> cases value <;> simp [wireBool, boolScalar]
  unfold PortsNeedL4 PortsHaveL4
  rw [h.sourcePort, h.destinationPort, h.l4Present, Bool.or_eq_true, hport, hport, hl4]
  rfl

theorem actions_total (h : action = 1 ∨ action = 2) :
    (∃ actionId, baselineAction action = .ok actionId) ∧ ∃ actionId, overlayAction action = .ok actionId := by
  rcases h with rfl | rfl
  · exact ⟨⟨baselinePermit, rfl⟩, overlayPermit, rfl⟩
  · exact ⟨⟨baselineDrop, rfl⟩, overlayDrop, rfl⟩

theorem AdaptedFrom.fits (hr : RuleAccepted hash r) (h : AdaptedFrom r edge) : (ruleKey edge).Fits := by
  cases edge
  obtain ⟨-, -, -, -, rfl, ⟨_, -, rfl, hs⟩, ⟨_, -, rfl, hd⟩, rfl, rfl, rfl, rfl, ⟨code, -, rfl, hbound⟩, -⟩ := h
  exact
    { ingressPort := wireUint_fits hr.ingressPort (by decide)
      source := presentPrefix_fits hs.length
      destination := presentPrefix_fits hd.length
      protocol := wireUint_fits hr.protocol (by decide)
      l4Present := wireBool_fits _
      sourcePort := wireUint_fits hr.sourcePort (by decide)
      destinationPort := wireUint_fits hr.destinationPort (by decide)
      fragmentClass := presentValue_fits (fun _ => UInt32.le_iff_toNat_le.1 hbound) (by decide) }

/-- **One rule.** Edge compiles an accepted rule exactly when its ports come with a transport header. -/
theorem AdaptedFrom.sound_iff (hr : RuleAccepted hash r) (h : AdaptedFrom r edge) :
    Sound edge ↔ PortsHaveL4 (normalizeRule r) := by
  obtain ⟨_, -, hsource⟩ := h.source
  obtain ⟨_, -, hdestination⟩ := h.destination
  obtain ⟨code, -, hcode, hbound⟩ := h.fragmentClass
  rw [← h.ports_iff]
  refine ⟨Sound.ports, fun hports => ?_⟩
  refine ⟨by rw [h.priority]; exact hr.priority, ⟨_, hsource⟩, ⟨_, hdestination⟩, h.fits hr, hports, ?_,
    (actions_total h.action).1⟩
  rw [hcode]
  simp only [Option.any_some, Bool.and_eq_false_iff, decide_eq_false_iff_not, UInt32.not_lt]
  exact .inr hbound

theorem AdaptedFrom.identity_iff (hhash : HexHash hash) (hr : RuleAccepted hash r) (h : AdaptedFrom r edge) :
    validateRuleIdentity edge.ruleId edge.ruleRevision edge.canonicalRuleDigest = .ok () ↔ IsIdentity r.ruleId := by
  have hrevision : edge.ruleRevision ≠ 0 := by
    have hpos := hr.revision
    have heq := h.ruleRevision
    omega
  unfold validateRuleIdentity
  rw [h.ruleId, h.digest, hr.digest, computeRuleDigest, hhash.validateSha256, refuse_of_not hrevision]
  constructor
  · intro hok
    obtain ⟨_, hidentity, -⟩ := bind_ok.1 hok
    exact validateIdentity_iff.1 hidentity
  · intro hidentity
    rw [validateIdentity_iff.2 hidentity]
    rfl

/-- **Overlapping rules** are those that some header matches together. -/
theorem AdaptedFrom.overlap_iff (h : AdaptedFrom r edge) (h' : AdaptedFrom r' edge') (hfits : (ruleKey edge).Fits)
    (hfits' : (ruleKey edge').Fits) :
    rulesOverlap r r' = true ↔ ∃ header, RuleMatches header edge ∧ RuleMatches header edge' := by
  cases edge
  cases edge'
  obtain ⟨-, -, -, -, rfl, ⟨_, hsource, rfl, hs⟩, ⟨_, hdestination, rfl, hd⟩, rfl, rfl, rfl, rfl, ⟨_, hcode, rfl, -⟩, -⟩ := h
  obtain ⟨-, -, -, -, rfl, ⟨_, hsource', rfl, hs'⟩, ⟨_, hdestination', rfl, hd'⟩, rfl, rfl, rfl, rfl, ⟨_, hcode', rfl, -⟩, -⟩ :=
    h'
  rw [rulesOverlap, ← optionalUintOverlaps_wire r.ingressPort, ← optionalUintOverlaps_wire r.protocol,
    ← optionalBoolOverlaps_wire, ← optionalUintOverlaps_wire r.sourcePort, ← optionalUintOverlaps_wire r.destinationPort,
    ← edgeFragmentClass_overlaps hcode hcode']
  simp only [Bool.and_eq_true, prefixOverlaps_iff hsource hsource' hs.length hs'.length,
    prefixOverlaps_iff hdestination hdestination' hd.length hd'.length,
    optionalUintOverlaps_iff hfits.ingressPort hfits'.ingressPort, optionalUintOverlaps_iff hfits.protocol hfits'.protocol,
    optionalUintOverlaps_iff hfits.l4Present hfits'.l4Present, optionalUintOverlaps_iff hfits.sourcePort hfits'.sourcePort,
    optionalUintOverlaps_iff hfits.destinationPort hfits'.destinationPort,
    optionalUintOverlaps_iff hfits.fragmentClass hfits'.fragmentClass]
  constructor
  · rintro ⟨⟨⟨⟨⟨⟨⟨⟨s, h1, h1'⟩, d, h2, h2'⟩, i, h3, h3'⟩, p, h4, h4'⟩, l, h5, h5'⟩, a, h6, h6'⟩, b, h7, h7'⟩, f, h8, h8'⟩
    refine ⟨⟨i, s, d, p, l, a, b, f⟩, ⟨h3, ?_, ?_, h4, h5, h6, h7, h8⟩, ⟨h3', ?_, ?_, h4', h5', h6', h7', h8'⟩⟩
    all_goals simpa
  · rintro ⟨header, m, m'⟩
    exact ⟨⟨⟨⟨⟨⟨⟨⟨_, m.source _ rfl, m'.source _ rfl⟩, _, m.destination _ rfl, m'.destination _ rfl⟩, _, m.ingressPort,
      m'.ingressPort⟩, _, m.protocol, m'.protocol⟩, _, m.l4Present, m'.l4Present⟩, _, m.sourcePort, m'.sourcePort⟩, _,
      m.destinationPort, m'.destinationPort⟩, _, m.fragmentClass, m'.fragmentClass⟩

theorem rulesOverlap_self (h : AdaptedFrom r edge) : rulesOverlap r r = true := by
  obtain ⟨_, hsource, -⟩ := h.source
  obtain ⟨_, hdestination, -⟩ := h.destination
  simp [rulesOverlap, prefixOverlaps, hsource, hdestination, optionalUintOverlaps, optionalBoolOverlaps]

/-- **Two rules.** Rules that may stand in one revision are different matches. -/
theorem AdaptedFrom.matchesApart {p : Profile} (hencode : Function.Injective p.encodeEntry)
    (h : AdaptedFrom r edge) (h' : AdaptedFrom r' edge') (hapart : RulesApart r r')
    (bank : ℕ) :
    MatchesApart p bank edge edge' := by
  intro entry entry' hentry hentry' hkey
  obtain ⟨hsound, actionId, -, rfl⟩ := baselineEntry_ok.1 hentry
  obtain ⟨hsound', actionId', -, rfl⟩ := baselineEntry_ok.1 hentry'
  have hpriority : edge.priority = edge'.priority := congrArg Prod.fst hkey
  have hentries := hencode (congrArg Prod.snd hkey)
  have hfields : (ruleKey edge).fields.insertionSort (fun a b => a.fieldId ≤ b.fieldId) =
      (ruleKey edge').fields.insertionSort (fun a b => a.fieldId ≤ b.fieldId) := congrArg TableEntry.fields hentries
  have hperm : (ruleKey edge).fields.Perm (ruleKey edge').fields :=
    ((perm_insertionSort _ _).symm.trans (.of_eq hfields)).trans (perm_insertionSort _ _)
  -- a header of the one is a header of the other
  obtain ⟨header, hmatch, -⟩ := (h.overlap_iff h hsound.fits hsound.fits).1 (rulesOverlap_self h)
  have hmatch' := (fields_meaning hsound').1 fun field hfield => (fields_meaning hsound).2 hmatch field (hperm.mem_iff.2 hfield)
  have hoverlap := (h.overlap_iff h' hsound.fits hsound'.fits).2 ⟨header, hmatch, hmatch'⟩
  rw [hapart.2 (by rw [← h.priority, ← h'.priority, hpriority])] at hoverlap
  cases hoverlap

/-- the rule matches as it is sent to Edge -/
def PolicyRule.Matches (r : PolicyRule) (header : Header) : Prop :=
  ∃ edge, edgeBaselineRule (normalizeRule r) = .ok edge ∧ RuleMatches header edge

theorem rulesOverlap_iff (hr : RuleAccepted hash r) (hr' : RuleAccepted hash r') :
    rulesOverlap r r' = true ↔ ∃ header, r.Matches header ∧ r'.Matches header := by
  obtain ⟨edge, hedge, h⟩ := edgeBaselineRule_total hr
  obtain ⟨edge', hedge', h'⟩ := edgeBaselineRule_total hr'
  simp only [PolicyRule.Matches, hedge, hedge', Except.ok.injEq, exists_eq_left']
  exact h.overlap_iff h' (h.fits hr) (h'.fits hr')

/-- two rules of an accepted revision -/
def AcceptedApart (hash : Bytes → String) (a b : PolicyRule) : Prop :=
  RuleAccepted hash a ∧ RuleAccepted hash b ∧ RulesApart a b

theorem AcceptedApart.symm (h : AcceptedApart hash r r') : AcceptedApart hash r' r := by
  obtain ⟨hr, hr', hid, hover⟩ := h
  have hcomm : rulesOverlap r' r = rulesOverlap r r' := by
    rw [Bool.eq_iff_iff, rulesOverlap_iff hr' hr, rulesOverlap_iff hr hr']
    simp only [and_comm]
  exact ⟨hr', hr, hid.symm, fun hpriority => hcomm.trans (hover hpriority.symm)⟩

theorem validateRevision_apart (h : validateRevision hash rev = .ok ()) : rev.rules.Pairwise (AcceptedApart hash) := by
  obtain ⟨-, hall, hpairs⟩ := validateRevision_ok h
  exact hpairs.imp_of_mem fun ha hb hab => ⟨hall _ ha, hall _ hb, hab⟩

/-- the rule asks for a transport header or a port only where its protocol and fragment class bring them -/
def PolicyRule.Carried (r : PolicyRule) : Prop :=
  r.l4Present.present = false ∧ r.sourcePort.present = false ∧ r.destinationPort.present = false ∨
    r.l4Present = ⟨true, true⟩ ∧ (r.protocol = ⟨true, 6⟩ ∨ r.protocol = ⟨true, 17⟩) ∧
      (r.fragmentClass = "unfragmented" ∨ r.fragmentClass = "first-fragment")

/-- a packet that the rule matches has keys that it matches -/
theorem AdaptedFrom.parse {packet : Header} (h : AdaptedFrom r edge) (hr : r.Carried) (m : RuleMatches packet edge) :
    RuleMatches packet.parse edge := by
  obtain ⟨code, hcode, hedge, hbound⟩ := h.fragmentClass
  have hclass : optionalMatches edge.fragmentClass packet.parse.fragmentClass.toNat := by
    intro value hvalue hpresent
    have heq := m.fragmentClass value hvalue hpresent
    obtain rfl : code = value := Option.some.inj (hedge.symm.trans hvalue)
    have hle : code.value.toNat ≤ 2 := UInt32.le_iff_toNat_le.1 hbound
    have hne : packet.fragmentClass ≠ 3 := by
      intro hthree
      rw [hthree] at heq
      have heq : 3 = code.value.toNat := heq
      omega
    exact (congrArg BitVec.toNat (if_neg hne)).trans heq
  rcases hr with ⟨hl4, hsource, hdestination⟩ | ⟨hl4, hprotocol, hname⟩
  · refine { m with l4Present := ?_, sourcePort := ?_, destinationPort := ?_, fragmentClass := hclass }
    · simp [h.l4Present, optionalMatches, wireBool, hl4]
    · simp [h.sourcePort, optionalMatches, wireUint, hsource]
    · simp [h.destinationPort, optionalMatches, wireUint, hdestination]
  · have htransport : packet.Transport := by
      have hp := m.protocol _ h.protocol
      have hf := m.fragmentClass _ hedge
      simp only [Header.Transport, ← BitVec.toNat_inj, ne_eq]
      constructor
      · rcases hprotocol with hprotocol | hprotocol
        · rw [hprotocol] at hp
          exact .inl (hp rfl)
        · rw [hprotocol] at hp
          exact .inr (hp rfl)
      · rcases hname with hname | hname
        · rw [hname] at hcode
          cases hcode
          simp [hf rfl]
        · rw [hname] at hcode
          cases hcode
          simp [hf rfl]
    have hport : packet.parse.sourcePort = packet.sourcePort := if_pos htransport
    have hport' : packet.parse.destinationPort = packet.destinationPort := if_pos htransport
    refine { m with l4Present := ?_, sourcePort := ?_, destinationPort := ?_, fragmentClass := hclass }
    · simp [h.l4Present, hl4, optionalMatches, wireBool, Header.parse, htransport]
    · exact hport ▸ m.sourcePort
    · exact hport' ▸ m.destinationPort

theorem rulesOverlap_packet (hr : RuleAccepted hash r) (hr' : RuleAccepted hash r') (hc : r.Carried) (hc' : r'.Carried) :
    rulesOverlap r r' = true ↔ ∃ packet : Header, r.Matches packet.parse ∧ r'.Matches packet.parse := by
  rw [rulesOverlap_iff hr hr']
  refine ⟨?_, fun ⟨packet, hboth⟩ => ⟨packet.parse, hboth⟩⟩
  obtain ⟨edge, hedge, h⟩ := edgeBaselineRule_total hr
  obtain ⟨edge', hedge', h'⟩ := edgeBaselineRule_total hr'
  simp only [PolicyRule.Matches, hedge, hedge', Except.ok.injEq, exists_eq_left']
  exact fun ⟨packet, m, m'⟩ => ⟨packet, h.parse hc m, h'.parse hc' m'⟩

/-- **Overlap is exact** on the keys, and on packets for rules whose ports come with their transport header. No header matches
two rules of one priority and different actions in an accepted revision. -/
theorem overlap_exact (hash : Bytes → String) :
    (∀ r r', validateRule hash r = .ok () → validateRule hash r' = .ok () →
      (rulesOverlap r r' = true ↔ ∃ header, r.Matches header ∧ r'.Matches header) ∧
        (r.Carried → r'.Carried →
          (rulesOverlap r r' = true ↔ ∃ packet : Header, r.Matches packet.parse ∧ r'.Matches packet.parse))) ∧
    ∀ rev, validateRevision hash rev = .ok () → ∀ r ∈ rev.rules, ∀ r' ∈ rev.rules, r.priority = r'.priority →
      r.action ≠ r'.action → ∀ header, ¬ (r.Matches header ∧ r'.Matches header) := by
  refine ⟨fun r r' hr hr' => ⟨rulesOverlap_iff (validateRule_ok hr) (validateRule_ok hr'),
    rulesOverlap_packet (validateRule_ok hr) (validateRule_ok hr')⟩, ?_⟩
  intro rev hrev r hr r' hr' hpriority haction header hboth
  have hsymm : Std.Symm (AcceptedApart hash) := ⟨fun _ _ => AcceptedApart.symm⟩
  obtain ⟨haccepted, haccepted', hapart⟩ := (validateRevision_apart hrev).forall hr hr' fun heq => haction (heq ▸ rfl)
  have hover := (rulesOverlap_iff haccepted haccepted').2 ⟨header, hboth⟩
  rw [hapart.2 hpriority] at hover
  cases hover

/-! ## Intents -/

/-- what Edge asks of the intent around the rules -/
structure IntentReady (intent : Intent) : Prop where
  atomicity : intent.requiredWriteAtomicity = "CONTINUE_ON_ERROR"
  identities : ∀ value ∈ [intent.effectIntentId, intent.operationId, intent.targetId, intent.traceId], IsIdentity value
  authorization : IsDigest intent.authorizationDigest

theorem edgeAtomicity_one {atomicity : ℤ} (h : edgeAtomicity name = .ok atomicity) :
    atomicity = 1 ↔ name = "CONTINUE_ON_ERROR" := by
  unfold edgeAtomicity at h
  split_ifs at h with h1 h2
  · exact ⟨fun _ => h1, fun _ => (Except.ok.inj h).symm⟩
  · cases h
    exact ⟨fun hone => absurd hone (by decide), fun hname => absurd hname h1⟩

theorem edgeBody_reason {rfc3339 : String → Option ℤ} {payload : EffectPayload}
    (h : edgeBody rfc3339 payload = .ok body) : IsIdentity body.reasonCode := by
  have hcodes : ∀ code ∈ ["BASELINE_ACTIVATION", "OVERLAY_UPSERT", "OVERLAY_DELETE"], IsIdentity code := by decide +kernel
  have hcode : body.reasonCode ∈ ["BASELINE_ACTIVATION", "OVERLAY_UPSERT", "OVERLAY_DELETE"] := by
    unfold edgeBody at h
    cases hoperation : payload.operation with
    | baselineActivate =>
      simp only [hoperation] at h
      obtain ⟨_, -, h⟩ := bind_ok.1 h
      obtain ⟨_, -, h⟩ := bind_ok.1 h
      cases h
      simp
    | overlayUpsert | overlayDelete =>
      simp only [hoperation] at h
      obtain ⟨_, -, h⟩ := bind_ok.1 h
      cases h
      simp
    | unsupported =>
      simp only [hoperation] at h
      cases h
  exact hcodes _ hcode

section

variable {p : Profile} {rfc3339 : String → Option ℤ} {intent : Intent} {edge : Firewall.EffectIntent}

theorem validateIntent_iff (hhash : HexHash p.hash) (hedge : toEdgeEffectIntent p rfc3339 intent = .ok edge)
    (hpolicy : IsDigest intent.payload.policyRevisionDigest) : Firewall.validateIntent p edge = .ok () ↔ IntentReady intent := by
  obtain ⟨-, -, atomicity, body, hatomicity, hbody, rfl⟩ := toEdgeEffectIntent_ok hedge
  have hone := edgeAtomicity_one hatomicity
  have hactor : IsIdentity (intent.actor.ref p.hash) := hhash.isIdentity (by decide +kernel) (by decide +kernel) _
  have hreason := edgeBody_reason hbody
  constructor
  · intro h
    replace h := passed h
    obtain ⟨hatom, h⟩ := refuse_then h
    obtain ⟨_, hids, h⟩ := bind_ok.1 h
    replace h := passed h
    obtain ⟨_, hauth, -⟩ := bind_ok.1 h
    refine ⟨hone.1 (not_not.1 hatom), ?_, validateSha256_iff.1 hauth⟩
    simpa [edgeIntent, validateIdentity_iff, hactor, hreason, and_assoc] using Route.validateAll_ok.1 hids
  · intro h
    have hids := h.identities
    unfold Firewall.validateIntent
    rw [refuse_of_not (by simp [edgeIntent]), ok_bind, refuse_of_not (by simpa [edgeIntent] using hone.2 h.atomicity),
      ok_bind, Route.validateAll_ok.2 (by simpa [edgeIntent, validateIdentity_iff, hactor, hreason, and_assoc] using hids),
      ok_bind]
    have hdigest : validateSha256 (edgeEffectDigest p (edgeIntent p intent atomicity body)) "effect_digest" = .ok () :=
      hhash.validateSha256 _ _
    have hauth : validateSha256 (edgeIntent p intent atomicity body).authorizationDigest "authorization_digest" = .ok () :=
      validateSha256_iff.2 h.authorization
    have hrevision : validateSha256 (edgeIntent p intent atomicity body).policyRevisionDigest "policy_revision_digest" = .ok () :=
      validateSha256_iff.2 hpolicy
    rw [hdigest, ok_bind, hauth, ok_bind, hrevision, ok_bind]
    exact refuse_of_not (not_not.2 rfl)

theorem preflightPlan_iff {assigned : Effect.Assignment} {now : ℤ} {activeBank baselineLimit overlayLimit : ℕ}
    (htarget : edge.targetId = assigned.targetId) (hfence : edge.fence = assigned.fence) (hdeadline : now < edge.deadlineUnixMs) :
    (∃ plan, preflightPlan p assigned now edge activeBank baselineLimit overlayLimit = .ok plan) ↔
      (edge.kind = 2 → Effect.checkOverlayExpiry now (edge.overlayRules.map OverlayRule.expiresAtUnixMs) = .ok ()) ∧
        ∃ plan, compile p edge activeBank baselineLimit overlayLimit = .ok plan := by
  have hverify : verifyIntentFence p assigned now edge = .ok () ↔
      (edge.kind = 2 → Effect.checkOverlayExpiry now (edge.overlayRules.map OverlayRule.expiresAtUnixMs) = .ok ()) ∧
        Firewall.validateIntent p edge = .ok () := by
    unfold verifyIntentFence
    rw [refuse_of_not (not_not.2 htarget), ok_bind, refuse_of_not (not_not.2 hfence), ok_bind,
      refuse_of_not (not_le.2 hdeadline), ok_bind]
    by_cases hkind : edge.kind = 2
    · rw [if_pos hkind, bind_ok]
      constructor
      · rintro ⟨_, hexpiry, hvalid⟩
        exact ⟨fun _ => hexpiry, hvalid⟩
      · rintro ⟨hexpiry, hvalid⟩
        exact ⟨(), hexpiry hkind, hvalid⟩
    · simp [hkind]
  constructor
  · rintro ⟨plan, h⟩
    obtain ⟨_, hfirst, hplan⟩ := bind_ok.1 h
    exact ⟨(hverify.1 hfirst).1, plan, hplan⟩
  · rintro ⟨hexpiry, plan, hplan⟩
    -- the compiler repeats the validation
    obtain ⟨_, hvalid, -⟩ := bind_ok.1 hplan
    refine ⟨plan, ?_⟩
    rw [preflightPlan, hverify.2 ⟨hexpiry, hvalid⟩, ok_bind, hplan]

end

/-! ## Baselines -/

/-- the rules of a revision that reach Edge -/
def shippedRules (rev : Revision) : List PolicyRule := (canonicalRuleOrder rev.rules).filter (·.enabled)

theorem enabledRules_revision (hash : Bytes → String) (rev : Revision) (size : ℕ) :
    enabledRules (revisionPayload hash rev size) = (shippedRules rev).map normalizeRule := filter_map

theorem shippedRules_accepted (h : validateRevision hash rev = .ok ()) :
    (∀ r ∈ shippedRules rev, RuleAccepted hash r) ∧ (shippedRules rev).Pairwise RulesApart := by
  obtain ⟨-, hall, -⟩ := validateRevision_ok h
  have hperm : (canonicalRuleOrder rev.rules).Perm rev.rules := perm_insertionSort _ _
  constructor
  · intro r hr
    exact hall r (hperm.mem_iff.1 (mem_of_mem_filter hr))
  · have hpairs := (hperm.pairwise_iff AcceptedApart.symm).2 (validateRevision_apart h)
    exact (hpairs.imp fun hab => hab.2.2).filter _

/-- the body of an accepted revision -/
theorem revision_body (rfc3339 : String → Option ℤ) (size : ℕ) (h : validateRevision hash rev = .ok ()) :
    ∃ body, edgeBody rfc3339 (revisionPayload hash rev size) = .ok body ∧ body.kind = 1 ∧ body.overlayRules = [] ∧
      (body.defaultAction = 1 ∨ body.defaultAction = 2) ∧ List.Forall₂ AdaptedFrom (shippedRules rev) body.baselineRules := by
  obtain ⟨hdefault, -, -⟩ := validateRevision_ok h
  obtain ⟨default, hcode, hvalue⟩ := edgeFirewallAction_total hdefault
  obtain ⟨rules, hrules⟩ := exists_forall₂ fun r hr => edgeBaselineRule_total ((shippedRules_accepted h).1 r hr)
  have hmap : ((shippedRules rev).map normalizeRule).mapM edgeBaselineRule = .ok rules := by
    rw [mapM_ok, forall₂_map_left_iff]
    exact hrules.imp fun _ _ hrule => hrule.1
  refine ⟨⟨1, "BASELINE_ACTIVATION", default, rules, []⟩, ?_, rfl, rfl, hvalue, hrules.imp fun _ _ hrule => hrule.2⟩
  change (edgeFirewallAction rev.defaultAction >>= fun _ => _) = _
  rw [hcode, ok_bind, enabledRules_revision, hmap]
  rfl

section

variable {p : Profile} {edge : Firewall.EffectIntent} {rules : List PolicyRule} {activeBank baselineLimit overlayLimit : ℕ}

theorem compileBaselineRules_total (hhash : HexHash p.hash) (hencode : Function.Injective p.encodeEntry)
    (haccepted : ∀ r ∈ rules, RuleAccepted p.hash r) (hapart : rules.Pairwise RulesApart)
    (hrules : List.Forall₂ AdaptedFrom rules edge.baselineRules)
    (hready : ∀ r ∈ rules, IsIdentity r.ruleId ∧ PortsHaveL4 (normalizeRule r)) (bank : ℕ) :
    ∃ entities, compileBaselineRules p edge.baselineRules bank = .ok entities := by
  have hperm : (edge.baselineRules.insertionSort ruleBefore).Perm edge.baselineRules := perm_insertionSort _ _
  apply compileOrdered_total
  · intro rule hrule
    obtain ⟨r, hr, hadapted⟩ := forall₂_right hrules rule (hperm.mem_iff.1 hrule)
    obtain ⟨hid, hports⟩ := hready r hr
    exact ⟨(hadapted.identity_iff hhash (haccepted r hr)).2 hid, (hadapted.sound_iff (haccepted r hr)).2 hports⟩
  · rw [hperm.pairwise_iff fun h => ⟨h.1.symm, fun entry entry' hentry hentry' => (h.2 entry' entry hentry' hentry).symm⟩]
    apply pairwise_of_forall₂ hrules hapart
    intro r rule r' rule' hadapted hadapted' hpair
    exact ⟨by rw [hadapted.ruleId, hadapted'.ruleId]; exact hpair.1, hadapted.matchesApart hencode hadapted' hpair bank⟩
  · intro rule _
    exact not_mem_nil
  · intro rule _ entry _
    rfl

/-- **Baselines.** -/
theorem compile_baseline_iff (hhash : HexHash p.hash) (hencode : Function.Injective p.encodeEntry)
    (haccepted : ∀ r ∈ rules, RuleAccepted p.hash r) (hapart : rules.Pairwise RulesApart)
    (hrules : List.Forall₂ AdaptedFrom rules edge.baselineRules) (hkind : edge.kind = 1) (hoverlay : edge.overlayRules = [])
    (hdefault : edge.defaultAction = 1 ∨ edge.defaultAction = 2) (hbank : activeBank ≤ 1)
    (hcapacity : rules.length ≤ baselineLimit) :
    (∃ plan, compile p edge activeBank baselineLimit overlayLimit = .ok plan) ↔
      Firewall.validateIntent p edge = .ok () ∧ ∀ r ∈ rules, IsIdentity r.ruleId ∧ PortsHaveL4 (normalizeRule r) := by
  have heffect : effectKind edge.kind = some .baselineActivate := by rw [hkind]; rfl
  constructor
  · rintro ⟨plan, hplan⟩
    obtain ⟨_, hvalid, -⟩ := bind_ok.1 hplan
    refine ⟨hvalid, ?_⟩
    intro r hr
    obtain ⟨rule, hrule, hadapted⟩ := forall₂_left hrules r hr
    have hsorted : rule ∈ edge.baselineRules.insertionSort ruleBefore := (perm_insertionSort _ _).mem_iff.2 hrule
    obtain ⟨entity, -, hcompiled⟩ := forall₂_left (compile_baseline_contract heffect hplan).1 rule hsorted
    obtain ⟨entry, hentry, -⟩ := hcompiled.entry
    exact ⟨(hadapted.identity_iff hhash (haccepted r hr)).1 hcompiled.identity,
      (hadapted.sound_iff (haccepted r hr)).1 (baselineEntry_ok.1 hentry).1⟩
  · rintro ⟨hvalid, hready⟩
    obtain ⟨entities, hentities⟩ :=
      compileBaselineRules_total hhash hencode haccepted hapart hrules hready (1 - activeBank)
    obtain ⟨actionId, haction⟩ := (actions_total hdefault).1
    have hselector : ∃ entity, policySelector (1 - activeBank) = .ok entity := by
      rcases Nat.le_one_iff_eq_zero_or_eq_one.1 hbank with rfl | rfl
      · exact ⟨_, rfl⟩
      · exact ⟨_, rfl⟩
    obtain ⟨selector, hselector⟩ := hselector
    have hlimit : ¬ (baselineLimit < edge.baselineRules.length ∨ edge.overlayRules ≠ []) := by
      rw [← hrules.length_eq, hoverlay]
      simpa using hcapacity
    have hcompiled : ∃ compiled, compileKind p edge activeBank baselineLimit overlayLimit = .ok compiled ∧
        compiled.entries = entities := by
      simp only [compileKind, heffect]
      rw [compileBaseline, refuse_of_not hlimit, ok_bind, hentities, ok_bind, baselineDefault, haction, ok_bind]
      rw [hselector]
      exact ⟨_, rfl, rfl⟩
    obtain ⟨compiled, hcompiled, hentries⟩ := hcompiled
    apply compile_total hvalid hbank hcompiled
    intro entity hentity
    obtain ⟨rule, -, hfrom⟩ := forall₂_right (compileOrdered_ok hentities) entity (hentries ▸ hentity)
    exact hfrom.digest p

end

/-! ## Overlays -/

/-- the ports of an overlay are 16 bits wide -/
structure PortsFit (rule : NormalizedOverlayRule) : Prop where
  source : rule.sourcePort ≤ 65535
  destination : rule.destinationPort ≤ 65535

section

variable {p : Profile} {edge : Firewall.EffectIntent} {rule : NormalizedOverlayRule} {edgeRule : OverlayRule}
  {activeBank baselineLimit overlayLimit : ℕ}

theorem compileOverlayRules_iff (hdigest : IsDigest rule.canonicalRuleDigest) (hadapted : OverlayAdapted rule edgeRule) :
    (∃ entities, compileOverlayRules p [edgeRule] = .ok entities) ↔ IsIdentity rule.ruleId ∧ PortsFit rule := by
  rw [compileOverlayRules_one]
  unfold validateRuleIdentity
  rw [hadapted.ruleId, hadapted.digest, validateSha256_iff.2 hdigest, refuse_of_not hadapted.ruleRevision]
  constructor
  · rintro ⟨hidentity, hsound⟩
    obtain ⟨_, hidentity, -⟩ := bind_ok.1 hidentity
    exact ⟨validateIdentity_iff.1 hidentity, hadapted.sourcePort ▸ hsound.sourcePort,
      hadapted.destinationPort ▸ hsound.destinationPort⟩
  · rintro ⟨hidentity, hports⟩
    refine ⟨by rw [validateIdentity_iff.2 hidentity]; rfl, hadapted.protocol, ?_, ?_, ?_, (actions_total hadapted.action).2⟩
    · rw [hadapted.sourcePort]
      exact hports.source
    · rw [hadapted.destinationPort]
      exact hports.destination
    · rw [hadapted.expiry]
      exact hadapted.positive

/-- **Overlays.** -/
theorem compile_overlay_iff (hkind : edge.kind = 2 ∨ edge.kind = 3) (hrules : edge.overlayRules = [edgeRule])
    (hbaseline : edge.baselineRules = []) (hdigest : IsDigest rule.canonicalRuleDigest)
    (hadapted : OverlayAdapted rule edgeRule) (hbank : activeBank ≤ 1) (hcapacity : 1 ≤ overlayLimit) :
    (∃ plan, compile p edge activeBank baselineLimit overlayLimit = .ok plan) ↔
      Firewall.validateIntent p edge = .ok () ∧ IsIdentity rule.ruleId ∧ PortsFit rule := by
  have hcompile : compileKind p edge activeBank baselineLimit overlayLimit = compileOverlay p edge activeBank overlayLimit := by
    rcases hkind with hkind | hkind <;> simp only [compileKind, hkind, effectKind]
  rw [← compileOverlayRules_iff (p := p) hdigest hadapted]
  constructor
  · rintro ⟨plan, hplan⟩
    obtain ⟨_, hvalid, -⟩ := bind_ok.1 hplan
    obtain ⟨compiled, hcompiled, -⟩ := compile_ok hplan
    rw [hcompile] at hcompiled
    replace hcompiled := passed hcompiled
    obtain ⟨entities, hentities, -⟩ := bind_ok.1 hcompiled
    exact ⟨hvalid, entities, hrules ▸ hentities⟩
  · rintro ⟨hvalid, entities, hentities⟩
    have hlimit : ¬ (edge.overlayRules = [] ∨ overlayLimit < edge.overlayRules.length ∨ edge.baselineRules ≠ []) := by
      rw [hrules, hbaseline]
      rintro (hnil | hmany | hsome)
      · cases hnil
      · exact absurd hmany (not_lt.2 hcapacity)
      · exact hsome rfl
    have hcompiled : ∃ compiled, compileKind p edge activeBank baselineLimit overlayLimit = .ok compiled ∧
        compiled.entries = entities := by
      rw [hcompile, compileOverlay, refuse_of_not hlimit, ok_bind, hrules, hentities]
      exact ⟨_, rfl, rfl⟩
    obtain ⟨compiled, hcompiled, hentries⟩ := hcompiled
    apply compile_total hvalid hbank hcompiled
    intro entity hentity
    obtain ⟨_, -, hfrom⟩ := forall₂_right (compileOverlayOrdered_ok hentities).1 entity (hentries ▸ hentity)
    exact hfrom.digest p

theorem checkOverlayExpiry_one {now expires : ℤ} :
    Effect.checkOverlayExpiry now [expires] = .ok () ↔ now < expires ∧ expires ≤ now + 1800000 := by
  simp only [Effect.checkOverlayExpiry, bind_ok, refuse_ok, exists_const, and_true]
  omega

end

/-! ## Accepted policies -/

/-- an intent for a policy that the control core accepted -/
inductive AcceptedPolicy (p : Profile) (rfc3339 : String → Option ℤ) (number : ℤ → ℤ) (intent : Intent) : Prop where
  | revision (rev : Revision) (size : ℕ) (accepted : validateRevision p.hash rev = .ok ())
      (payload : intent.payload = revisionPayload p.hash rev size)
  | upsert (ov : Overlay) (created : ℤ) (size : ℕ) (delete : Intent)
      (accepted : prepareOverlay p rfc3339 number created ov size = .ok (intent, delete))
  | delete (ov : Overlay) (created : ℤ) (size : ℕ) (upsert : Intent)
      (accepted : prepareOverlay p rfc3339 number created ov size = .ok (upsert, intent))

/-- what Edge asks beyond the checks of the control core -/
structure EdgeReady (now : ℤ) (intent : Intent) : Prop where
  envelope : IntentReady intent
  baseline : ∀ rule ∈ enabledRules intent.payload, IsIdentity rule.ruleId ∧ PortsHaveL4 rule
  overlay : ∀ rule ∈ intent.payload.overlayRules, IsIdentity rule.ruleId ∧ PortsFit rule ∧
    (intent.payload.operation = .overlayUpsert → now < rule.expiresAtUnixMs ∧ rule.expiresAtUnixMs ≤ now + 1800000)

/-- the limits of the target admit the entries -/
structure Admits (baselineLimit overlayLimit : ℕ) (payload : EffectPayload) : Prop where
  baseline : (enabledRules payload).length ≤ baselineLimit
  overlay : payload.overlayRules.length ≤ overlayLimit

section

variable {p : Profile} {rfc3339 : String → Option ℤ} {number : ℤ → ℤ} {intent : Intent} {assigned : Effect.Assignment} {now : ℤ}
  {activeBank baselineLimit overlayLimit : ℕ}

/-- the intent is adapted, passes Edge's validation and compiles -/
def Executable (p : Profile) (rfc3339 : String → Option ℤ) (assigned : Effect.Assignment) (now : ℤ)
    (activeBank baselineLimit overlayLimit : ℕ) (intent : Intent) : Prop :=
  ∃ edge plan, toEdgeEffectIntent p rfc3339 intent = .ok edge ∧
    preflightPlan p assigned now edge activeBank baselineLimit overlayLimit = .ok plan

/-- an intent with a body is adapted when its atomicity is known, so only the message has to be looked at -/
theorem executable_iff_of_body (hfence : validateFence intent.fence = .ok ())
    (hpayload : validateEffectPayload intent.payload = .ok ()) (hbody : edgeBody rfc3339 intent.payload = .ok body)
    (h : ∀ edge, toEdgeEffectIntent p rfc3339 intent = .ok edge →
      ((∃ plan, preflightPlan p assigned now edge activeBank baselineLimit overlayLimit = .ok plan) ↔ EdgeReady now intent)) :
    Executable p rfc3339 assigned now activeBank baselineLimit overlayLimit intent ↔ EdgeReady now intent := by
  constructor
  · rintro ⟨edge, plan, hedge, hplan⟩
    exact (h edge hedge).1 ⟨plan, hplan⟩
  · intro hready
    have hedge : ∃ edge, toEdgeEffectIntent p rfc3339 intent = .ok edge := by
      rw [toEdgeEffectIntent, hfence, ok_bind, hpayload, ok_bind, hready.envelope.atomicity]
      rw [hbody]
      exact ⟨_, rfl⟩
    obtain ⟨edge, hedge⟩ := hedge
    obtain ⟨plan, hplan⟩ := (h edge hedge).2 hready
    exact ⟨edge, plan, hedge, hplan⟩

section

variable (hhash : HexHash p.hash) (hassigned : assigned = ⟨intent.targetId, some (edgeFence intent.fence)⟩)
  (hdeadline : now < intent.deadlineUnixMs) (hbank : activeBank ≤ 1)
  (hcapacity : Admits baselineLimit overlayLimit intent.payload)
include hhash hassigned hdeadline hbank hcapacity

theorem revision_executable_iff (hencode : Function.Injective p.encodeEntry)
    (haccepted : validateRevision p.hash rev = .ok ()) (hrevision : intent.payload = revisionPayload p.hash rev size)
    (hfence : validateFence intent.fence = .ok ()) (hpayload : validateEffectPayload intent.payload = .ok ()) :
    Executable p rfc3339 assigned now activeBank baselineLimit overlayLimit intent ↔ EdgeReady now intent := by
  obtain ⟨body, hbody, hkind, hoverlay, hdefault, hrules⟩ := revision_body rfc3339 size haccepted
  obtain ⟨hall, hapart⟩ := shippedRules_accepted haccepted
  have henabled : enabledRules intent.payload = (shippedRules rev).map normalizeRule := by
    rw [hrevision, enabledRules_revision]
  have hdigest : IsDigest intent.payload.policyRevisionDigest := by
    rw [hrevision]
    exact validateSha256_iff.1 (hhash.validateSha256 _ "policy_revision_digest")
  have hlength : (shippedRules rev).length ≤ baselineLimit := by
    simpa [henabled] using hcapacity.baseline
  rw [← hrevision] at hbody
  apply executable_iff_of_body hfence hpayload hbody
  intro edge hedge
  have hvalid := validateIntent_iff hhash hedge hdigest
  obtain ⟨-, -, atomicity, body', -, hbody', rfl⟩ := toEdgeEffectIntent_ok hedge
  cases Except.ok.inj (hbody.symm.trans hbody')
  rw [preflightPlan_iff (by rw [hassigned]; rfl) (by rw [hassigned]; rfl) hdeadline,
    compile_baseline_iff hhash hencode hall hapart hrules hkind hoverlay hdefault hbank hlength, hvalid]
  constructor
  · rintro ⟨-, hintent, hready⟩
    refine ⟨hintent, ?_, by simp [hrevision, revisionPayload]⟩
    rw [henabled]
    exact List.forall_mem_map.2 hready
  · intro hready
    have hnot : body.kind ≠ 2 := by simp [hkind]
    refine ⟨fun h => absurd h hnot, hready.envelope, ?_⟩
    have hbaseline := hready.baseline
    rw [henabled] at hbaseline
    exact List.forall_mem_map.1 hbaseline

theorem overlay_executable_iff {ov : Overlay} {input : Intent} {operation : Operation} {created : ℤ}
    (hrule : validateOverlayRule p.hash rfc3339 ov.rule ov.expiresAtUnixMs created = .ok ())
    (haccepted : prepareOverlayIntent p rfc3339 number ov input operation size = .ok intent)
    (hoperation : operation = .overlayUpsert ∨ operation = .overlayDelete) :
    Executable p rfc3339 assigned now activeBank baselineLimit overlayLimit intent ↔ EdgeReady now intent := by
  obtain ⟨hpayload, edge, hedge⟩ := prepareOverlayIntent_ok haccepted
  obtain ⟨hfence, hvalidPayload, -, body, -, hbody, -⟩ := toEdgeEffectIntent_ok hedge
  apply executable_iff_of_body hfence hvalidPayload hbody
  intro edge hedge
  have hrulePayload : intent.payload.overlayRules = [normalizeOverlayRule number ov.rule ov.expiresAtUnixMs] := by rw [hpayload]; rfl
  have hdigest : IsDigest ov.rule.canonicalRuleDigest := by
    rw [validateOverlayRule_digest hrule]
    exact validateSha256_iff.1 (hhash.validateSha256 _ "canonical_rule_digest")
  have hvalid := validateIntent_iff hhash hedge (by rw [hpayload]; exact hdigest)
  -- the message has the kind of the operation and one rule
  have hmessage : ∃ edgeRule, OverlayAdapted (normalizeOverlayRule number ov.rule ov.expiresAtUnixMs) edgeRule ∧
      edge.overlayRules = [edgeRule] ∧ edge.baselineRules = [] ∧ (edge.kind = 2 ∨ edge.kind = 3) ∧
      (edge.kind = 2 ↔ operation = .overlayUpsert) := by
    obtain ⟨-, -, atomicity, body', -, hbody', rfl⟩ := toEdgeEffectIntent_ok hedge
    rw [hpayload] at hbody'
    rcases hoperation with rfl | rfl
    all_goals
      obtain ⟨rules, hrules, hbody'⟩ := bind_ok.1 hbody'
      cases hbody'
      obtain ⟨edgeRule, rest, hadapt, hrest, hrules⟩ := List.forall₂_cons_left_iff.1 (mapM_ok.1 hrules)
      cases hrest
      refine ⟨edgeRule, (adaptOverlayRule_ok hadapt).2, hrules, rfl, ?_, by simp [edgeIntent]⟩
    · exact .inl rfl
    · exact .inr rfl
  obtain ⟨edgeRule, hadapted, hrules, hbaseline, hkind, hupsert⟩ := hmessage
  have hlimit : 1 ≤ overlayLimit := by simpa [hrulePayload] using hcapacity.overlay
  have htarget : edge.targetId = assigned.targetId ∧ edge.fence = assigned.fence ∧ edge.deadlineUnixMs = intent.deadlineUnixMs := by
    obtain ⟨-, -, atomicity, body', -, -, rfl⟩ := toEdgeEffectIntent_ok hedge
    rw [hassigned]
    exact ⟨rfl, rfl, rfl⟩
  have henabled : enabledRules intent.payload = [] := by rw [hpayload]; rfl
  have hop : intent.payload.operation = operation := by rw [hpayload]; rfl
  rw [preflightPlan_iff htarget.1 htarget.2.1 (htarget.2.2 ▸ hdeadline),
    compile_overlay_iff hkind hrules hbaseline hdigest hadapted hbank hlimit, hvalid, hrules, map_singleton,
    checkOverlayExpiry_one, hadapted.expiry, hupsert]
  constructor
  · rintro ⟨hexpiry, hintent, hid, hports⟩
    refine ⟨hintent, by simp [henabled], ?_⟩
    rw [hrulePayload, hop]
    exact List.forall_mem_singleton.2 ⟨hid, hports, hexpiry⟩
  · intro hready
    have hone := hready.overlay
    rw [hrulePayload, hop] at hone
    obtain ⟨hid, hports, hexpiry⟩ := List.forall_mem_singleton.1 hone
    exact ⟨hexpiry, hready.envelope, hid, hports⟩

end

/-- **Accepted and executable.** An accepted policy, sent to a target that has the assignment and the room for it, passes
Edge's validation and compiles exactly when its intent has what `EdgeReady` lists. -/
theorem policy_executable_iff (hhash : HexHash p.hash) (hencode : Function.Injective p.encodeEntry)
    (hpolicy : AcceptedPolicy p rfc3339 number intent) (hfence : validateFence intent.fence = .ok ())
    (hpayload : validateEffectPayload intent.payload = .ok ())
    (hassigned : assigned = ⟨intent.targetId, some (edgeFence intent.fence)⟩) (hdeadline : now < intent.deadlineUnixMs)
    (hbank : activeBank ≤ 1) (hcapacity : Admits baselineLimit overlayLimit intent.payload) :
    Executable p rfc3339 assigned now activeBank baselineLimit overlayLimit intent ↔ EdgeReady now intent := by
  cases hpolicy with
  | revision _ _ accepted payload =>
    exact revision_executable_iff hhash hassigned hdeadline hbank hcapacity hencode accepted payload hfence hpayload
  | upsert _ _ _ _ accepted =>
    obtain ⟨hrule, hupsert, -⟩ := prepareOverlay_ok accepted
    exact overlay_executable_iff hhash hassigned hdeadline hbank hcapacity hrule hupsert (.inl rfl)
  | delete _ _ _ _ accepted =>
    obtain ⟨hrule, -, hdelete, -⟩ := prepareOverlay_ok accepted
    exact overlay_executable_iff hhash hassigned hdeadline hbank hcapacity hrule hdelete (.inr rfl)

end

/-! ## Runs -/

def guardedRule : PolicyRule :=
  { ruleId := "web", ruleRevision := 1, priority := 10, ingressPort := ⟨false, 0⟩, sourceIpv4 := ⟨"10.0.0.0", 8⟩
    destinationIpv4 := ⟨"0.0.0.0", 0⟩, protocol := ⟨true, 6⟩, l4Present := ⟨true, true⟩, sourcePort := ⟨false, 0⟩
    destinationPort := ⟨true, 443⟩, fragmentClass := "wildcard", action := "drop", enabled := true
    canonicalRuleDigest := sha256 plainProfile.hash [], actorRef := "operator", reasonCode := "REVIEWED" }

/-- the same rule without the transport header behind its port -/
def bareRule : PolicyRule := { guardedRule with l4Present := ⟨false, false⟩ }

def revisionOf (rules : List PolicyRule) : Revision :=
  { revisionId := "revision-1", targetId := "leaf-1", defaultAction := "permit-and-continue", rules, scope := "lab" }

def revisionIntent (rules : List PolicyRule) : Intent :=
  { leafIntent .baselineActivate [] [] with payload := revisionPayload plainProfile.hash (revisionOf rules) 512 }

def leafAssignment : Effect.Assignment := ⟨"leaf-1", some (edgeFence leafFence)⟩

/-- an overlay that lasts an hour -/
def hourOverlay : Overlay :=
  let intent := { leafIntent .overlayUpsert [] [] with effectKind := .firewallOverlay, riskLevel := .r1 }
  { overlayRuleId := "overlay-1", targetId := "leaf-1", expiresAtUnixMs := 3600000, operationId := "operation-1", scope := "lab"
    actor := ⟨"https://idp", "operator"⟩
    rule :=
      { ruleId := "flow", ruleRevision := 1, canonicalRuleDigest := sha256 plainProfile.hash []
        stagePrecedence := "before-baseline", sourceIpv4 := "10.0.0.7", destinationIpv4 := "10.0.0.9", protocol := 6
        sourcePort := 40000, destinationPort := 443, action := "drop", enabled := true, expiresAt := "1970-01-01T01:00:00Z"
        actorRef := "operator", reasonCode := "REVIEWED" }
    upsertIntent := intent
    deleteIntent := { intent with effectIntentId := "intent-2", operationId := "operation-2", deadlineUnixMs := 3660000 } }

/-- what Edge says to an intent that was adapted -/
def edgeVerdict (rfc3339 : String → Option ℤ) (now : ℤ) (intent : Intent) : Option (EdgeResult Unit) := do
  let edge ← (toEdgeEffectIntent plainProfile rfc3339 intent).toOption
  return (preflightPlan plainProfile leafAssignment now edge 0 16 16).map fun _ => ()

/-- a rule for one port overlaps one for all ports, and shares a revision with one for another port -/
theorem port_rules_overlap :
    let http := { guardedRule with destinationPort := ⟨true, 80⟩, ruleId := "http", action := "permit-and-continue" }
    (∃ header, guardedRule.Matches header ∧ { guardedRule with destinationPort := ⟨false, 0⟩ }.Matches header) ∧
      validateRevision plainProfile.hash (revisionOf [guardedRule, http]) = .ok () ∧
      ∀ header, ¬ (guardedRule.Matches header ∧ http.Matches header) := by
  intro http
  have hrevision : validateRevision plainProfile.hash (revisionOf [guardedRule, http]) = .ok () := by decide +kernel
  have hexact := overlap_exact plainProfile.hash
  exact ⟨(hexact.1 _ _ (by decide +kernel) (by decide +kernel)).1.1 (by decide +kernel), hrevision,
    hexact.2 _ hrevision _ List.mem_cons_self _ (by simp [revisionOf]) rfl (by decide)⟩

/-- **Accepted and refused.** A revision with a port match and no transport header, and an overlay of one hour. -/
theorem bare_port_refused :
    validateRevision plainProfile.hash (revisionOf [bareRule]) = .ok () ∧
      edgeVerdict (fun _ => none) 0 (revisionIntent [bareRule]) =
        some (.error (.precondition "UNSUPPORTED_L4_UNAVAILABLE" "port match requires l4_present=true")) ∧
      ((prepareOverlay plainProfile (fun _ => some 3600000) id 0 hourOverlay 512).toOption.bind fun intents =>
          edgeVerdict (fun _ => some 3600000) 0 intents.1) =
        some (.error (.precondition "OVERLAY_TTL_EXCEEDED" "first-release response overlay TTL exceeds 1800 seconds")) := by
  decide +kernel

def encodingProfile (encode : TableEntry → Bytes) : Profile := { plainProfile with encodeEntry := encode }

/-- with the transport header the revision is executable -/
theorem guarded_port_executable : ∃ p : Profile, HexHash p.hash ∧ Function.Injective p.encodeEntry ∧
    validateRevision p.hash (revisionOf [guardedRule]) = .ok () ∧
      Executable p (fun _ => none) leafAssignment 0 0 16 16 (revisionIntent [guardedRule]) := by
  obtain ⟨encode, hencode, -⟩ := exists_entity_encoding
  have haccepted : validateRevision plainProfile.hash (revisionOf [guardedRule]) = .ok () := by decide +kernel
  have henabled : enabledRules (revisionIntent [guardedRule]).payload = [normalizeRule guardedRule] := by decide +kernel
  have hidentities : ∀ value ∈ ["intent-1", "operation-1", "leaf-1", "trace-1", "web"], IsIdentity value := by decide +kernel
  have hready : EdgeReady 0 (revisionIntent [guardedRule]) := by
    refine ⟨⟨rfl, ?_, ?_⟩, ?_, ?_⟩
    · intro value hvalue
      exact hidentities value (mem_append_left ["web"] hvalue)
    · exact validateSha256_iff.1 (plainProfile_hex.validateSha256 [] "")
    · rw [henabled]
      exact List.forall_mem_singleton.2 ⟨hidentities "web" (by simp), fun _ => rfl⟩
    · exact fun rule hrule => absurd hrule not_mem_nil
  have hhex : HexHash (encodingProfile (encode ∘ .tableEntry)).hash := plainProfile_hex
  have hpolicy : AcceptedPolicy (encodingProfile (encode ∘ .tableEntry)) (fun _ => none) id (revisionIntent [guardedRule]) :=
    .revision (revisionOf [guardedRule]) 512 haccepted rfl
  have hentry := hencode.comp fun _ _ h => Entity.tableEntry.inj h
  refine ⟨encodingProfile (encode ∘ .tableEntry), hhex, hentry, haccepted, ?_⟩
  apply (policy_executable_iff hhex hentry hpolicy (by decide +kernel) (by decide +kernel) rfl (by decide) (by decide)
    ⟨by decide +kernel, by decide⟩).2
  exact hready

end MasiEdge.Control
