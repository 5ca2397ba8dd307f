/-
Policies of the control core (`firewall/revision.go`, `firewall/overlay.go`): baseline revisions and response overlays, the
checks that accept them, and the payloads their intents carry.

A revision is stored as JSON in its canonical order and read back as the normalized rules of a payload; an overlay goes
through a JSON object, where its revision becomes a floating-point number. Reading a time is a parameter, and so is the
integer (`number`) that comes back from such an object.

* `validateRevision_ok`: what an accepted revision has;
* `validateRule_ok`, `validateOverlayRule_ok`: the same of one rule.
-/
import MasiEdge.Control.Contract

namespace MasiEdge.Control

open Codec Firewall

/-! ## Policies -/

structure OptionalBool where
  present : Bool
  value : Bool
deriving DecidableEq, Repr

/-- `firewall.Rule` -/
structure PolicyRule where
  ruleId : String
  ruleRevision : ℤ
  priority : ℤ
  ingressPort : OptionalUint32
  sourceIpv4 : NormalizedPrefix
  destinationIpv4 : NormalizedPrefix
  protocol : OptionalUint32
  l4Present : OptionalBool
  sourcePort : OptionalUint32
  destinationPort : OptionalUint32
  fragmentClass : String
  action : String
  enabled : Bool
  canonicalRuleDigest : String
  actorRef : String
  reasonCode : String
deriving DecidableEq, Repr

structure Revision where
  revisionId : String
  targetId : String
  defaultAction : String
  rules : List PolicyRule
  scope : String
deriving DecidableEq, Repr

/-- `firewall.OverlayRule` -/
structure PolicyOverlayRule where
  ruleId : String
  ruleRevision : ℤ
  canonicalRuleDigest : String
  stagePrecedence : String
  sourceIpv4 : String
  destinationIpv4 : String
  protocol : UInt32
  sourcePort : UInt32
  destinationPort : UInt32
  action : String
  enabled : Bool
  expiresAt : String
  actorRef : String
  reasonCode : String
deriving DecidableEq, Repr

structure Overlay where
  overlayRuleId : String
  targetId : String
  rule : PolicyOverlayRule
  expiresAtUnixMs : ℤ
  operationId : String
  scope : String
  actor : Actor
  upsertIntent : Intent
  deleteIntent : Intent
deriving DecidableEq, Repr

/-! ## Rules -/

def OptionalUint32.text (x : OptionalUint32) : String := toString x.present ++ ":" ++ toString x.value.toNat

def OptionalBool.text (x : OptionalBool) : String := toString x.present ++ ":" ++ toString x.value

def NormalizedPrefix.text (x : NormalizedPrefix) : String := x.address ++ "/" ++ toString x.prefixLength.toNat

def computeRuleDigest (hash : Bytes → String) (r : PolicyRule) : String :=
  sha256 hash (asBytes ("|".intercalate
    [r.ruleId, toString r.ruleRevision, toString r.priority, OptionalUint32.text r.ingressPort, r.sourceIpv4.text,
     r.destinationIpv4.text, OptionalUint32.text r.protocol, r.l4Present.text, OptionalUint32.text r.sourcePort,
     OptionalUint32.text r.destinationPort, r.fragmentClass, r.action, toString r.enabled]))

def validateIpv4Prefix (p : NormalizedPrefix) : GoResult Unit :=
  match parsePrefix p with
  | none => .error "malformed IPv4 prefix"
  | some address => reject (address ≠ masked address p.prefixLength) "IPv4 prefix address is not network-normalized"

/-- the error of an inner check, with what it was about -/
def wrap {α : Type} (context : String) (x : GoResult α) : GoResult α := x.mapError (context ++ ·)

@[simp] theorem wrap_ok {α : Type} {context : String} {x : GoResult α} {a : α} : wrap context x = .ok a ↔ x = .ok a := by
  cases x <;> simp [wrap, Except.mapError]

def validateRule (hash : Bytes → String) (r : PolicyRule) : GoResult Unit := do
  reject (r.ruleId = "" ∨ 128 < (asBytes r.ruleId).length) "rule_id length outside 1..128"
  reject (r.ruleRevision < 1) ("rule " ++ r.ruleId ++ " revision must be >=1")
  reject (r.priority < 1 ∨ 2147483647 < r.priority) ("rule " ++ r.ruleId ++ " priority out of bounds")
  reject (r.action ≠ "permit-and-continue" ∧ r.action ≠ "drop") ("rule " ++ r.ruleId ++ " bad action " ++ r.action.quote)
  wrap ("rule " ++ r.ruleId ++ " source prefix: ") (validateIpv4Prefix r.sourceIpv4)
  wrap ("rule " ++ r.ruleId ++ " destination prefix: ") (validateIpv4Prefix r.destinationIpv4)
  reject (r.ingressPort.present = true ∧ 510 < r.ingressPort.value.toNat) ("rule " ++ r.ruleId ++ " ingress_port exceeds 510")
  reject (r.protocol.present = true ∧ 255 < r.protocol.value.toNat) ("rule " ++ r.ruleId ++ " protocol exceeds 255")
  reject ((r.sourcePort.present = true ∧ 65535 < r.sourcePort.value.toNat) ∨
      (r.destinationPort.present = true ∧ 65535 < r.destinationPort.value.toNat))
    ("rule " ++ r.ruleId ++ " L4 port exceeds 65535")
  reject (r.fragmentClass ∉ ["wildcard", "unfragmented", "first-fragment", "non-initial-fragment"])
    ("rule " ++ r.ruleId ++ " unknown fragment class " ++ r.fragmentClass.quote)
  reject (r.actorRef = "" ∨ 128 < (asBytes r.actorRef).length ∨ r.reasonCode = "" ∨ 64 < (asBytes r.reasonCode).length)
    ("rule " ++ r.ruleId ++ " actor/reason identity required and bounded")
  reject ((asBytes r.canonicalRuleDigest).length ≠ 71 ∨ (asBytes r.canonicalRuleDigest).take 7 ≠ asBytes "sha256:")
    ("rule " ++ r.ruleId ++ " missing canonical_rule_digest")
  reject (((asBytes r.canonicalRuleDigest).drop 7).all isHex = false)
    ("rule " ++ r.ruleId ++ " malformed canonical_rule_digest")
  reject (r.canonicalRuleDigest ≠ computeRuleDigest hash r) ("rule " ++ r.ruleId ++ " canonical digest mismatch")

/-! ## Revisions -/

/-- `netip.Prefix.Overlaps`: equal up to the shorter length -/
def prefixOverlaps (a b : NormalizedPrefix) : Bool :=
  match parsePrefix a, parsePrefix b with
  | some x, some y =>
    let bits := if a.prefixLength < b.prefixLength then a.prefixLength else b.prefixLength
    masked x bits == masked y bits
  | _, _ => false

def optionalUintOverlaps (a b : OptionalUint32) : Bool := !a.present || !b.present || a.value == b.value

def optionalBoolOverlaps (a b : OptionalBool) : Bool := !a.present || !b.present || a.value == b.value

def rulesOverlap (a b : PolicyRule) : Bool :=
  prefixOverlaps a.sourceIpv4 b.sourceIpv4 && prefixOverlaps a.destinationIpv4 b.destinationIpv4 &&
    optionalUintOverlaps a.ingressPort b.ingressPort && optionalUintOverlaps a.protocol b.protocol &&
    optionalBoolOverlaps a.l4Present b.l4Present && optionalUintOverlaps a.sourcePort b.sourcePort &&
    optionalUintOverlaps a.destinationPort b.destinationPort &&
    (a.fragmentClass == "wildcard" || b.fragmentClass == "wildcard" || a.fragmentClass == b.fragmentClass)

/-- the loop over the rules; `seen` are the rules before, `index` their number -/
def validateRules (hash : Bytes → String) : ℕ → List PolicyRule → List PolicyRule → GoResult Unit
  | _, _, [] => .ok ()
  | index, seen, rule :: rest => do
    wrap ("firewall: rule " ++ toString index ++ ": ") (validateRule hash rule)
    reject (rule.ruleId ∈ seen.map PolicyRule.ruleId) ("firewall: duplicate rule_id " ++ rule.ruleId)
    match seen.find? fun other => other.priority == rule.priority && rulesOverlap other rule with
    | some other => .error ("firewall: same-priority overlapping rules " ++ other.ruleId ++ " and " ++ rule.ruleId)
    | none => validateRules hash (index + 1) (seen ++ [rule]) rest

def validateRevision (hash : Bytes → String) (rev : Revision) : GoResult Unit := do
  reject (rev.revisionId = "" ∨ rev.targetId = "" ∨ rev.scope = "") "firewall: revision_id, target_id, scope required"
  reject (rev.defaultAction ≠ "permit-and-continue" ∧ rev.defaultAction ≠ "drop")
    ("firewall: bad default_action " ++ rev.defaultAction.quote)
  reject (4096 < rev.rules.length) ("firewall: rules exceed 4096 (got " ++ toString rev.rules.length ++ ")")
  validateRules hash 0 [] rev.rules

/-- the order in which rules are stored -/
def storedBefore (a b : PolicyRule) : Prop := a.priority < b.priority ∨ (a.priority = b.priority ∧ a.ruleId ≤ b.ruleId)
deriving Decidable

def canonicalRuleOrder (rules : List PolicyRule) : List PolicyRule := rules.insertionSort storedBefore

def computeRevisionDigest (hash : Bytes → String) (rev : Revision) : String :=
  sha256 hash (asBytes (rev.defaultAction ++ "|" ++ rev.scope ++ String.join ((canonicalRuleOrder rev.rules).map fun r =>
    "|" ++ "|".intercalate
      [r.ruleId, toString r.ruleRevision, toString r.priority, r.action, toString r.enabled, r.canonicalRuleDigest])))

def uintScalar (x : OptionalUint32) : Scalar := if x.present then .number x.value.toNat else .wildcard

def boolScalar (x : OptionalBool) : Scalar := if x.present then .boolean x.value else .wildcard

/-- the stored JSON of a rule, as the adapter decodes it -/
def normalizeRule (r : PolicyRule) : NormalizedBaselineRule :=
  { ruleId := r.ruleId, ruleRevision := r.ruleRevision, canonicalRuleDigest := r.canonicalRuleDigest, priority := r.priority
    ingressPort := uintScalar r.ingressPort, source := r.sourceIpv4, destination := r.destinationIpv4
    protocol := uintScalar r.protocol, l4Present := boolScalar r.l4Present, sourcePort := uintScalar r.sourcePort
    destinationPort := uintScalar r.destinationPort, fragmentClass := r.fragmentClass, action := r.action
    enabled := r.enabled }

/-- what an intent for the revision carries -/
def revisionPayload (hash : Bytes → String) (rev : Revision) (rulesSize : ℕ) : EffectPayload :=
  { schemaVersion := "p4-effect-payload/v1", operation := .baselineActivate
    policyRevisionDigest := computeRevisionDigest hash rev, defaultAction := rev.defaultAction
    baselineRules := (canonicalRuleOrder rev.rules).map normalizeRule, overlayRules := [], rulesSize }

/-! ## Overlays -/

def computeOverlayRuleDigest (hash : Bytes → String) (rule : PolicyOverlayRule) : String :=
  sha256 hash (asBytes ("|".intercalate
    [rule.ruleId, toString rule.ruleRevision, rule.stagePrecedence, rule.sourceIpv4, rule.destinationIpv4,
     toString rule.protocol.toNat, toString rule.sourcePort.toNat, toString rule.destinationPort.toNat, rule.action,
     toString rule.enabled, rule.expiresAt]))

def validateOverlayRule (hash : Bytes → String) (rfc3339 : String → Option ℤ) (rule : PolicyOverlayRule)
    (expiresAtUnixMs now : ℤ) : GoResult Unit := do
  reject (rule.ruleId = "" ∨ 128 < (asBytes rule.ruleId).length ∨ rule.ruleRevision < 1 ∨
      rule.stagePrecedence ≠ "before-baseline" ∨ rule.enabled = false)
    "overlay identity/revision/precedence/enabled invalid"
  reject (Dotted.parseAddr rule.sourceIpv4 = none ∨ Dotted.parseAddr rule.destinationIpv4 = none)
    "overlay requires exact IPv4 source/destination"
  reject (rule.protocol ≠ 6 ∧ rule.protocol ≠ 17) "overlay protocol must be TCP(6) or UDP(17)"
  reject (rule.action ≠ "permit-and-continue" ∧ rule.action ≠ "drop") "overlay action unsupported"
  reject (rfc3339 rule.expiresAt ≠ some expiresAtUnixMs ∨ expiresAtUnixMs ≤ now ∨ 86400000 < expiresAtUnixMs - now)
    "overlay expiry must be exact RFC3339, future, and <=24h"
  reject (rule.actorRef = "" ∨ 128 < (asBytes rule.actorRef).length ∨ rule.reasonCode = "" ∨
      64 < (asBytes rule.reasonCode).length)
    "overlay actor/reason required and bounded"
  reject ((asBytes rule.canonicalRuleDigest).length ≠ 71 ∨ (asBytes rule.canonicalRuleDigest).take 7 ≠ asBytes "sha256:")
    "overlay canonical digest malformed"
  reject (((asBytes rule.canonicalRuleDigest).drop 7).all isHex = false ∨
      rule.canonicalRuleDigest ≠ computeOverlayRuleDigest hash rule)
    "overlay canonical digest mismatch"

/-- the overlay body with its expiry; its numbers have gone through a JSON object -/
def normalizeOverlayRule (number : ℤ → ℤ) (rule : PolicyOverlayRule) (expiresAtUnixMs : ℤ) : NormalizedOverlayRule :=
  { ruleId := rule.ruleId, ruleRevision := number rule.ruleRevision, canonicalRuleDigest := rule.canonicalRuleDigest
    stagePrecedence := rule.stagePrecedence, source := rule.sourceIpv4, destination := rule.destinationIpv4
    protocol := rule.protocol, sourcePort := rule.sourcePort, destinationPort := rule.destinationPort, action := rule.action
    enabled := rule.enabled, expiresAt := rule.expiresAt, expiresAtUnixMs }

def overlayPayload (number : ℤ → ℤ) (rule : PolicyOverlayRule) (expiresAtUnixMs : ℤ) (operation : Operation)
    (rulesSize : ℕ) : EffectPayload :=
  { schemaVersion := "p4-effect-payload/v1", operation, policyRevisionDigest := rule.canonicalRuleDigest, defaultAction := ""
    baselineRules := [], overlayRules := [normalizeOverlayRule number rule expiresAtUnixMs], rulesSize }

/-- the digest of the adapted intent; empty when it cannot be adapted -/
def computeEffectDigest (p : Profile) (rfc3339 : String → Option ℤ) (intent : Intent) : String :=
  match toEdgeEffectIntent p rfc3339 intent with
  | .error _ => ""
  | .ok edge => edge.effectDigest

/-- the intent an overlay fixes -/
def overlayIntent (number : ℤ → ℤ) (ov : Overlay) (input : Intent) (operation : Operation) (rulesSize : ℕ) : Intent :=
  { input with
    targetId := ov.targetId, actor := ov.actor, isFleetParent := false
    requiredWriteAtomicity := if input.requiredWriteAtomicity = "" then "CONTINUE_ON_ERROR" else input.requiredWriteAtomicity
    payload := overlayPayload number ov.rule ov.expiresAtUnixMs operation rulesSize }

def prepareOverlayIntent (p : Profile) (rfc3339 : String → Option ℤ) (number : ℤ → ℤ) (ov : Overlay) (input : Intent)
    (operation : Operation) (rulesSize : ℕ) : GoResult Intent := do
  let intent := overlayIntent number ov input operation rulesSize
  reject (intent.effectKind ≠ .firewallOverlay ∨ (intent.riskLevel ≠ .r1 ∧ intent.riskLevel ≠ .r2))
    "firewall: overlay intent kind/risk must be firewall-overlay R1/R2"
  validateFence intent.fence
  validateEffectPayload intent.payload
  -- a revision that comes back outside int64 cannot be decoded, and the digest is empty
  let computed := if number ov.rule.ruleRevision < 2 ^ 63 then computeEffectDigest p rfc3339 intent else ""
  reject (computed = "" ∨ (input.effectDigest ≠ "" ∧ input.effectDigest ≠ computed))
    ("firewall: overlay " ++ (if operation = .overlayDelete then "overlay-delete" else "overlay-upsert") ++
      " effect digest mismatch")
  return { intent with effectDigest := computed }

/-- the characters after `http://` or `https://` -/
def issuerRest (issuer : Bytes) : Bytes :=
  if issuer.take 8 = asBytes "https://" then issuer.drop 8
  else if issuer.take 7 = asBytes "http://" then issuer.drop 7
  else []

/-- `Actor.Validate`; its two patterns allow the characters of an Edge identity -/
def Actor.validate (actor : Actor) : GoResult Unit := do
  reject (issuerRest (asBytes actor.issuer) = [] ∨ (issuerRest (asBytes actor.issuer)).all isIdentityByte = false)
    "security: actor issuer malformed"
  reject (actor.subject = "" ∨ 255 < (asBytes actor.subject).length ∨ (asBytes actor.subject).all isIdentityByte = false)
    "security: actor subject malformed"

/-- the checks of `OverlayService.Create` before its transaction, and the two intents it inserts -/
def prepareOverlay (p : Profile) (rfc3339 : String → Option ℤ) (number : ℤ → ℤ) (now : ℤ) (ov : Overlay) (rulesSize : ℕ) :
    GoResult (Intent × Intent) := do
  reject (ov.overlayRuleId = "" ∨ ov.targetId = "") "firewall: overlay id and target required"
  wrap "firewall: overlay rule: " (validateOverlayRule p.hash rfc3339 ov.rule ov.expiresAtUnixMs now)
  reject (ov.scope = "" ∨ ov.operationId = "" ∨ ov.upsertIntent.effectIntentId = "" ∨
      ov.upsertIntent.operationId ≠ ov.operationId ∨ ov.deleteIntent.effectIntentId = "" ∨
      ov.deleteIntent.operationId = "" ∨ ov.deleteIntent.deadlineUnixMs ≤ ov.expiresAtUnixMs ∨
      3600000 < ov.deleteIntent.deadlineUnixMs - ov.expiresAtUnixMs ∨
      ov.upsertIntent.effectIntentId = ov.deleteIntent.effectIntentId ∨
      ov.upsertIntent.operationId = ov.deleteIntent.operationId)
    "firewall: overlay requires distinct upsert and bounded durable delete intents"
  ov.actor.validate
  let upsert ← prepareOverlayIntent p rfc3339 number ov ov.upsertIntent .overlayUpsert rulesSize
  let delete ← prepareOverlayIntent p rfc3339 number ov ov.deleteIntent .overlayDelete rulesSize
  reject (upsert.proposalId ≠ delete.proposalId ∨ upsert.decisionId ≠ delete.decisionId ∨
      upsert.authorizationDigest ≠ delete.authorizationDigest ∨ upsert.riskLevel ≠ delete.riskLevel ∨
      upsert.fence ≠ delete.fence)
    "firewall: overlay upsert/delete governance fence mismatch"
  return (upsert, delete)

/-! ## What an accepted policy has -/

/-- an IPv4 prefix without host bits -/
def NetworkPrefix (x : NormalizedPrefix) : Prop :=
  ∃ address, parsePrefix x = some address ∧ address = masked address x.prefixLength

theorem validateIpv4Prefix_ok {x : NormalizedPrefix} (h : validateIpv4Prefix x = .ok ()) : NetworkPrefix x := by
  unfold validateIpv4Prefix at h
  cases hparse : parsePrefix x with
  | none =>
    rw [hparse] at h
    cases h
  | some address =>
    rw [hparse] at h
    exact ⟨address, hparse, not_not.1 (reject_ok.1 h)⟩

/-- what an accepted rule has -/
structure RuleAccepted (hash : Bytes → String) (r : PolicyRule) : Prop where
  revision : 1 ≤ r.ruleRevision
  priority : 1 ≤ r.priority
  action : r.action = "permit-and-continue" ∨ r.action = "drop"
  source : NetworkPrefix r.sourceIpv4
  destination : NetworkPrefix r.destinationIpv4
  ingressPort : r.ingressPort.present = true → r.ingressPort.value.toNat ≤ 510
  protocol : r.protocol.present = true → r.protocol.value.toNat ≤ 255
  sourcePort : r.sourcePort.present = true → r.sourcePort.value.toNat ≤ 65535
  destinationPort : r.destinationPort.present = true → r.destinationPort.value.toNat ≤ 65535
  fragmentClass : r.fragmentClass ∈ ["wildcard", "unfragmented", "first-fragment", "non-initial-fragment"]
  digest : r.canonicalRuleDigest = computeRuleDigest hash r

variable {hash : Bytes → String}

theorem validateRule_ok {r : PolicyRule} (h : validateRule hash r = .ok ()) : RuleAccepted hash r := by
  replace h := passed h
  obtain ⟨_, hrevision, h⟩ := bind_ok.1 h
  obtain ⟨_, hpriority, h⟩ := bind_ok.1 h
  obtain ⟨_, haction, h⟩ := bind_ok.1 h
  obtain ⟨_, hsource, h⟩ := bind_ok.1 h
  obtain ⟨_, hdestination, h⟩ := bind_ok.1 h
  obtain ⟨_, hingress, h⟩ := bind_ok.1 h
  obtain ⟨_, hprotocol, h⟩ := bind_ok.1 h
  obtain ⟨_, hports, h⟩ := bind_ok.1 h
  obtain ⟨_, hfragment, h⟩ := bind_ok.1 h
  replace h := passed h
  replace h := passed h
  replace h := passed h
  simp only [reject_ok, not_or, not_and, not_lt] at hrevision hpriority hingress hprotocol hports
  simp only [reject_ok, not_and_or, not_not] at haction hfragment h
  exact ⟨hrevision, hpriority.1, haction, validateIpv4Prefix_ok (wrap_ok.1 hsource),
    validateIpv4Prefix_ok (wrap_ok.1 hdestination), hingress, hprotocol, hports.1, hports.2, hfragment, h⟩

/-- two rules that may stand in one revision -/
def RulesApart (a b : PolicyRule) : Prop := a.ruleId ≠ b.ruleId ∧ (a.priority = b.priority → rulesOverlap a b = false)

theorem validateRules_ok {index : ℕ} {seen rules : List PolicyRule} (h : validateRules hash index seen rules = .ok ()) :
    (∀ r ∈ rules, RuleAccepted hash r) ∧ rules.Pairwise RulesApart ∧ ∀ a ∈ seen, ∀ b ∈ rules, RulesApart a b := by
  induction rules generalizing index seen with
  | nil => exact ⟨by simp, .nil, by simp⟩
  | cons rule _ ih =>
    obtain ⟨_, hrule, h⟩ := bind_ok.1 h
    obtain ⟨hid, h⟩ := reject_then h
    cases hfind : seen.find? fun other => other.priority == rule.priority && rulesOverlap other rule with
    | some =>
      rw [hfind] at h
      cases h
    | none =>
      rw [hfind] at h
      obtain ⟨hall, hpairs, hseen⟩ := ih h
      have hapart : ∀ a ∈ seen, RulesApart a rule := by
        intro a ha
        refine ⟨fun hsame => hid (hsame ▸ List.mem_map_of_mem ha), ?_⟩
        intro hpriority
        simpa [hpriority] using List.find?_eq_none.1 hfind a ha
      refine ⟨?_, ?_, ?_⟩
      · exact List.forall_mem_cons.2 ⟨validateRule_ok (wrap_ok.1 hrule), hall⟩
      · exact List.pairwise_cons.2 ⟨fun b hb => hseen rule (by simp) b hb, hpairs⟩
      · intro a ha b hb
        rcases List.mem_cons.1 hb with rfl | hb
        · exact hapart a ha
        · exact hseen a (List.mem_append_left _ ha) b hb

/-- **Accepted revisions.** Every rule is accepted, and no two of one priority overlap. -/
theorem validateRevision_ok {rev : Revision} (h : validateRevision hash rev = .ok ()) :
    (rev.defaultAction = "permit-and-continue" ∨ rev.defaultAction = "drop") ∧ (∀ r ∈ rev.rules, RuleAccepted hash r) ∧
      rev.rules.Pairwise RulesApart := by
  replace h := passed h
  obtain ⟨hdefault, h⟩ := reject_then h
  replace h := passed h
  obtain ⟨hall, hpairs, -⟩ := validateRules_ok h
  rw [not_and_or, not_not, not_not] at hdefault
  exact ⟨hdefault, hall, hpairs⟩

variable {p : Profile} {rfc3339 : String → Option ℤ} {number : ℤ → ℤ} {ov : Overlay} {rulesSize : ℕ}

theorem validateOverlayRule_digest {rule : PolicyOverlayRule} {expires now : ℤ}
    (h : validateOverlayRule p.hash rfc3339 rule expires now = .ok ()) :
    rule.canonicalRuleDigest = computeOverlayRuleDigest p.hash rule := by
  replace h := passed h
  replace h := passed h
  replace h := passed h
  replace h := passed h
  replace h := passed h
  replace h := passed h
  replace h := passed h
  rw [reject_ok, not_or, not_not] at h
  exact h.2

/-- a prepared intent carries the overlay, with a digest, and can be adapted -/
theorem prepareOverlayIntent_ok {input intent : Intent} {operation : Operation}
    (h : prepareOverlayIntent p rfc3339 number ov input operation rulesSize = .ok intent) :
    intent.payload = overlayPayload number ov.rule ov.expiresAtUnixMs operation rulesSize ∧
      ∃ edge, toEdgeEffectIntent p rfc3339 intent = .ok edge := by
  replace h := passed h
  replace h := passed h
  replace h := passed h
  obtain ⟨hcomputed, h⟩ := reject_then h
  cases h
  refine ⟨rfl, ?_⟩
  rw [not_or] at hcomputed
  -- the adapter does not read the digest of the intent
  change ∃ edge, toEdgeEffectIntent p rfc3339 (overlayIntent number ov input operation rulesSize) = .ok edge
  cases hedge : toEdgeEffectIntent p rfc3339 (overlayIntent number ov input operation rulesSize) with
  | ok edge => exact ⟨edge, rfl⟩
  | error =>
    exfalso
    apply hcomputed.1
    unfold computeEffectDigest
    rw [hedge, ite_self]

theorem prepareOverlay_ok {now : ℤ} {upsert delete : Intent}
    (h : prepareOverlay p rfc3339 number now ov rulesSize = .ok (upsert, delete)) :
    validateOverlayRule p.hash rfc3339 ov.rule ov.expiresAtUnixMs now = .ok () ∧
      prepareOverlayIntent p rfc3339 number ov ov.upsertIntent .overlayUpsert rulesSize = .ok upsert ∧
      prepareOverlayIntent p rfc3339 number ov ov.deleteIntent .overlayDelete rulesSize = .ok delete ∧
      ov.actor.validate = .ok () ∧ ov.upsertIntent.effectIntentId ≠ ov.deleteIntent.effectIntentId ∧
      upsert.proposalId = delete.proposalId ∧ upsert.decisionId = delete.decisionId ∧
      upsert.authorizationDigest = delete.authorizationDigest ∧ upsert.riskLevel = delete.riskLevel := by
  replace h := passed h
  obtain ⟨_, hrule, h⟩ := bind_ok.1 h
  obtain ⟨_, hdistinct, h⟩ := bind_ok.1 h
  obtain ⟨_, hactor, h⟩ := bind_ok.1 h
  obtain ⟨upsert', hupsert, h⟩ := bind_ok.1 h
  obtain ⟨delete', hdelete, h⟩ := bind_ok.1 h
  obtain ⟨_, hshared, h⟩ := bind_ok.1 h
  cases h
  rw [reject_ok] at hdistinct hshared
  push Not at hdistinct hshared
  exact ⟨wrap_ok.1 hrule, hupsert, hdelete, hactor, hdistinct.2.2.2.2.2.2.2.2.1, hshared.1, hshared.2.1, hshared.2.2.1,
    hshared.2.2.2.1⟩

end MasiEdge.Control
