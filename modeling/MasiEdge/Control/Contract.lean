/-
The effect contract of the control core (`governance/types.go`, `intent.go`, `edge_contract.go`): its intents, and the
adapter that turns one into the message the Edge process executes.

A Go error is its text. The rule bodies of a payload are JSON; the model has them decoded, with the fields the adapter
decodes itself still as JSON scalars, and the size of the two texts. Reading a time is a parameter; digests and the
protobuf encoding of an intent are those of the Edge profile, since both sides use the deterministic encoding.

Bounded captures are left out: the Edge profile refuses them before it looks at them.
-/
import MasiEdge.Base.Dotted
import MasiEdge.Firewall.Compile

namespace MasiEdge.Control

open Codec Firewall

/-- a Go error is its text -/
abbrev GoResult (α : Type) := Except String α

/-- an early return with an error -/
def reject (bad : Prop) [Decidable bad] (message : String) : GoResult Unit := if bad then .error message else .ok ()

@[simp] theorem reject_ok {bad : Prop} [Decidable bad] {message : String} {u : Unit} :
    reject bad message = .ok u ↔ ¬ bad := by
  by_cases h : bad <;> simp [reject, h]

theorem reject_then {bad : Prop} [Decidable bad] {message : String} {β : Type} {k : Unit → GoResult β} {b : β}
    (h : (reject bad message >>= k) = .ok b) : ¬ bad ∧ k () = .ok b := by
  obtain ⟨_, hgood, hrest⟩ := bind_ok.1 h
  exact ⟨reject_ok.1 hgood, hrest⟩

theorem reject_of_not {bad : Prop} [Decidable bad] {message : String} (h : ¬ bad) : reject bad message = .ok () := by
  simp [h]

/-! ## Identities -/

structure Actor where
  issuer : String
  subject : String
deriving DecidableEq, Repr

/-- `Actor.String`: the stable reference -/
def Actor.ref (hash : Bytes → String) (actor : Actor) : String :=
  "actor:" ++ hash (asBytes (toString (asBytes actor.issuer).length ++ ":" ++ actor.issuer ++ "|" ++
    toString (asBytes actor.subject).length ++ ":" ++ actor.subject))

inductive RiskLevel where
  | r0
  | r1
  | r2
  | r3
deriving DecidableEq, Repr

def p4EffectNames : List String := ["firewall-baseline-activate", "firewall-overlay", "firewall-rollback", "bounded-capture"]

/-- the P4 effects, and `other` for a name that is no P4 effect -/
inductive EffectKind where
  | firewallBaselineActivate
  | firewallOverlay
  | firewallRollback
  | boundedCapture
  | other (name : String) (foreign : name ∉ p4EffectNames)
deriving DecidableEq, Repr

structure Fence where
  targetControlIncarnationId : String
  targetAssignmentGeneration : ℤ
  edgeWorkloadRef : String
  actorRuntimeEpoch : String
  applicationGeneration : ℤ
  electionIdHigh : ℕ
  electionIdLow : ℕ
  p4InfoDigest : String
  pipelineDigest : String
  capacityDigest : String
deriving DecidableEq, Repr

/-- a hexadecimal digit in either case -/
def isHex (byte : UInt8) : Bool :=
  let b := byte.toNat
  isHexLower byte || (65 ≤ b && b ≤ 70)

def validSha256 (s : String) : Bool :=
  (asBytes s).length == 71 && (asBytes s).take 7 == asBytes "sha256:" && ((asBytes s).drop 7).all isHex

def validateFence (f : Fence) : GoResult Unit :=
  reject (f.targetControlIncarnationId = "" ∨ f.targetAssignmentGeneration < 1 ∨ f.applicationGeneration < 1 ∨
      f.edgeWorkloadRef = "" ∨ 128 < (asBytes f.edgeWorkloadRef).length ∨ f.actorRuntimeEpoch = "" ∨
      128 < (asBytes f.actorRuntimeEpoch).length ∨ f.electionIdLow < 1 ∨ validSha256 f.p4InfoDigest = false ∨
      validSha256 f.pipelineDigest = false ∨ validSha256 f.capacityDigest = false)
    "governance: malformed effect fence"

/-! ## Payloads -/

structure NormalizedPrefix where
  address : String
  prefixLength : UInt32
deriving DecidableEq, Repr

/-- a JSON value, as far as an optional number or boolean is concerned -/
inductive Scalar where
  | wildcard
  | number (n : ℕ)
  | boolean (b : Bool)
  | null
  | other
deriving DecidableEq, Repr

structure NormalizedBaselineRule where
  ruleId : String
  ruleRevision : ℤ
  canonicalRuleDigest : String
  priority : ℤ
  ingressPort : Scalar
  source : NormalizedPrefix
  destination : NormalizedPrefix
  protocol : Scalar
  l4Present : Scalar
  sourcePort : Scalar
  destinationPort : Scalar
  fragmentClass : String
  action : String
  enabled : Bool
deriving DecidableEq, Repr

structure NormalizedOverlayRule where
  ruleId : String
  ruleRevision : ℤ
  canonicalRuleDigest : String
  stagePrecedence : String
  source : String
  destination : String
  protocol : UInt32
  sourcePort : UInt32
  destinationPort : UInt32
  action : String
  enabled : Bool
  expiresAt : String
  expiresAtUnixMs : ℤ
deriving DecidableEq, Repr

inductive Operation where
  | baselineActivate
  | overlayUpsert
  | overlayDelete
  | unsupported
deriving DecidableEq, Repr

structure EffectPayload where
  schemaVersion : String
  operation : Operation
  policyRevisionDigest : String
  defaultAction : String
  baselineRules : List NormalizedBaselineRule
  overlayRules : List NormalizedOverlayRule
  /-- bytes of the two JSON texts -/
  rulesSize : ℕ
deriving DecidableEq, Repr

def validateEffectPayload (payload : EffectPayload) : GoResult Unit := do
  reject (payload.schemaVersion ≠ "p4-effect-payload/v1" ∨ validSha256 payload.policyRevisionDigest = false)
    "governance: effect payload schema/policy digest malformed"
  reject (payload.operation = .unsupported) "governance: effect payload operation unsupported"
  reject (4 * 1024 * 1024 < payload.rulesSize) "governance: effect payload rules malformed or oversized"
  reject (4096 < payload.baselineRules.length) "governance: baseline effect rule vector invalid"
  reject (1024 < payload.overlayRules.length) "governance: overlay effect rule vector invalid"
  if payload.operation = .baselineActivate then
    reject ((payload.defaultAction ≠ "permit-and-continue" ∧ payload.defaultAction ≠ "drop") ∨ payload.overlayRules ≠ [])
      "governance: baseline payload default/overlay conflict"
  else
    reject (payload.baselineRules ≠ [] ∨ payload.overlayRules.length ≠ 1)
      "governance: overlay payload must carry exactly one rule"

structure Intent where
  effectIntentId : String
  operationId : String
  proposalId : String
  decisionId : String
  targetId : String
  fleetOperationId : String
  isFleetParent : Bool
  fence : Fence
  effectDigest : String
  payload : EffectPayload
  authorizationDigest : String
  effectKind : EffectKind
  riskLevel : RiskLevel
  requiredWriteAtomicity : String
  deadlineUnixMs : ℤ
  actor : Actor
  traceId : String
deriving DecidableEq, Repr

/-! ## Rule adapters -/

/-- the network address of a prefix -/
def masked (address length : UInt32) : UInt32 := if length = 0 then 0 else address &&& prefixMask length

/-- `netip.ParsePrefix` of the address and the length, for IPv4 -/
def parsePrefix (p : NormalizedPrefix) : Option UInt32 :=
  if p.prefixLength ≤ 32 then Dotted.parseAddr p.address else none

def edgePrefix (p : NormalizedPrefix) : GoResult Ipv4Prefix :=
  match parsePrefix p with
  | none => .error "governance: IPv4 prefix malformed or not normalized"
  | some address => do
    reject (address ≠ masked address p.prefixLength) "governance: IPv4 prefix malformed or not normalized"
    return ⟨address, p.prefixLength⟩

/-- decoding a JSON null leaves the zero value -/
def edgeOptionalUint32 (raw : Scalar) (maximum : ℕ) : GoResult OptionalUint32 :=
  match raw with
  | .wildcard => .ok ⟨false, 0⟩
  | .number n => do
    reject (2 ^ 32 ≤ n ∨ maximum < n) "governance: optional uint32 malformed or out of range"
    return ⟨true, UInt32.ofNat n⟩
  | .null => .ok ⟨true, 0⟩
  | .boolean _ => .error "governance: optional uint32 malformed or out of range"
  | .other => .error "governance: optional uint32 malformed or out of range"

def edgeOptionalBool (raw : Scalar) : GoResult OptionalUint32 :=
  match raw with
  | .wildcard => .ok ⟨false, 0⟩
  | .boolean b => .ok ⟨true, if b then 1 else 0⟩
  | .null => .ok ⟨true, 0⟩
  | .number _ => .error "governance: optional bool malformed"
  | .other => .error "governance: optional bool malformed"

def edgeFragmentClass (name : String) : GoResult OptionalUint32 :=
  if name = "wildcard" then .ok ⟨false, 0⟩
  else if name = "unfragmented" then .ok ⟨true, 0⟩
  else if name = "first-fragment" then .ok ⟨true, 1⟩
  else if name = "non-initial-fragment" then .ok ⟨true, 2⟩
  else .error "governance: unknown fragment class"

/-- the raw action of the contract -/
def edgeFirewallAction (action : String) : GoResult ℤ :=
  if action = "permit-and-continue" then .ok 1
  else if action = "drop" then .ok 2
  else .error ("governance: firewall action " ++ action.quote ++ " unsupported")

def edgeBaselineRule (rule : NormalizedBaselineRule) : GoResult BaselineRule := do
  reject (rule.ruleRevision < 1) "governance: baseline rule revision invalid"
  let source ← edgePrefix rule.source
  let destination ← edgePrefix rule.destination
  let ingressPort ← edgeOptionalUint32 rule.ingressPort 510
  let protocol ← edgeOptionalUint32 rule.protocol 255
  let sourcePort ← edgeOptionalUint32 rule.sourcePort 65535
  let destinationPort ← edgeOptionalUint32 rule.destinationPort 65535
  let l4Present ← edgeOptionalBool rule.l4Present
  let fragmentClass ← edgeFragmentClass rule.fragmentClass
  let action ← edgeFirewallAction rule.action
  return ⟨rule.ruleId, rule.ruleRevision.toNat, rule.canonicalRuleDigest, rule.priority, some ingressPort, some source,
    some destination, some protocol, some l4Present, some sourcePort, some destinationPort, some fragmentClass, action⟩

/-- an address on its own; `message` is the refusal -/
def edgeAddress (text message : String) : GoResult UInt32 :=
  match Dotted.parseAddr text with
  | none => .error message
  | some address => .ok address

def edgeOverlayRule (rfc3339 : String → Option ℤ) (rule : NormalizedOverlayRule) : GoResult OverlayRule := do
  reject (rule.ruleRevision < 1 ∨ rule.expiresAtUnixMs < 1 ∨ rule.stagePrecedence ≠ "before-baseline")
    "governance: overlay requires revision, expiry, and before-baseline precedence"
  reject (rfc3339 rule.expiresAt ≠ some rule.expiresAtUnixMs) "governance: overlay expiry identity mismatch"
  let sourceAddress ← edgeAddress rule.source "governance: overlay source IPv4 malformed"
  let destinationAddress ← edgeAddress rule.destination "governance: overlay destination IPv4 malformed"
  reject (rule.protocol ≠ 6 ∧ rule.protocol ≠ 17) "governance: overlay protocol must be TCP or UDP"
  let source ← edgePrefix ⟨Dotted.formatAddr sourceAddress, 32⟩
  let destination ← edgePrefix ⟨Dotted.formatAddr destinationAddress, 32⟩
  let action ← edgeFirewallAction rule.action
  return ⟨rule.ruleId, rule.ruleRevision.toNat, rule.canonicalRuleDigest, source.address, destination.address,
    rule.protocol, rule.sourcePort, rule.destinationPort, action, rule.expiresAtUnixMs⟩

/-- a disabled overlay rule cannot be adapted; a disabled baseline rule is left out -/
def adaptOverlayRule (rfc3339 : String → Option ℤ) (rule : NormalizedOverlayRule) : GoResult OverlayRule := do
  reject (rule.enabled = false) "governance: disabled overlay cannot become an effect"
  edgeOverlayRule rfc3339 rule

/-! ## ToEdgeEffectIntent -/

def edgeAtomicity (name : String) : GoResult ℤ :=
  if name = "CONTINUE_ON_ERROR" then .ok 1
  else if name = "DATAPLANE_ATOMIC" then .ok 3
  else .error ("governance: unsupported write atomicity " ++ name.quote)

/-- what the operation of a payload contributes -/
structure EdgeBody where
  kind : ℤ
  reasonCode : String
  defaultAction : ℤ
  baselineRules : List BaselineRule
  overlayRules : List OverlayRule

def enabledRules (payload : EffectPayload) : List NormalizedBaselineRule := payload.baselineRules.filter (·.enabled)

def edgeBody (rfc3339 : String → Option ℤ) (payload : EffectPayload) : GoResult EdgeBody :=
  match payload.operation with
  | .baselineActivate => do
    let defaultAction ← edgeFirewallAction payload.defaultAction
    let rules ← (enabledRules payload).mapM edgeBaselineRule
    return ⟨1, "BASELINE_ACTIVATION", defaultAction, rules, []⟩
  | .overlayUpsert => do
    let rules ← payload.overlayRules.mapM (adaptOverlayRule rfc3339)
    return ⟨2, "OVERLAY_UPSERT", 0, [], rules⟩
  | .overlayDelete => do
    let rules ← payload.overlayRules.mapM (adaptOverlayRule rfc3339)
    return ⟨3, "OVERLAY_DELETE", 0, [], rules⟩
  | .unsupported => .error "governance: unsupported effect payload operation"

def edgeFence (f : Fence) : Source.Fence :=
  ⟨f.targetControlIncarnationId, f.targetAssignmentGeneration.toNat, f.actorRuntimeEpoch, f.applicationGeneration.toNat,
    f.electionIdHigh, f.electionIdLow⟩

def edgeEffectDigest (p : Profile) (intent : Firewall.EffectIntent) : String :=
  sha256 p.hash (p.encodeIntent { intent with effectDigest := "" })

/-- the message before its digest -/
def edgeIntent (p : Profile) (intent : Intent) (atomicity : ℤ) (body : EdgeBody) : Firewall.EffectIntent :=
  { schemaVersion := "effect-intent-edge/v1", effectIntentId := intent.effectIntentId, operationId := intent.operationId
    targetId := intent.targetId, fence := some (edgeFence intent.fence), effectDigest := ""
    authorizationDigest := intent.authorizationDigest, kind := body.kind
    policyRevisionDigest := intent.payload.policyRevisionDigest, defaultAction := body.defaultAction
    baselineRules := body.baselineRules, overlayRules := body.overlayRules, deadlineUnixMs := intent.deadlineUnixMs
    actorRef := intent.actor.ref p.hash, reasonCode := body.reasonCode, traceId := intent.traceId
    requiredWriteAtomicity := atomicity }

def toEdgeEffectIntent (p : Profile) (rfc3339 : String → Option ℤ) (intent : Intent) : GoResult Firewall.EffectIntent := do
  validateFence intent.fence
  validateEffectPayload intent.payload
  let atomicity ← edgeAtomicity intent.requiredWriteAtomicity
  let body ← edgeBody rfc3339 intent.payload
  let out := edgeIntent p intent atomicity body
  return { out with effectDigest := edgeEffectDigest p out }

/-! ## What an adapted intent has -/

/-- the payload is valid and the message is the one its body gives -/
theorem toEdgeEffectIntent_ok {p : Profile} {rfc3339 : String → Option ℤ} {intent : Intent} {edge : Firewall.EffectIntent}
    (h : toEdgeEffectIntent p rfc3339 intent = .ok edge) :
    validateFence intent.fence = .ok () ∧ validateEffectPayload intent.payload = .ok () ∧
      ∃ atomicity body, edgeAtomicity intent.requiredWriteAtomicity = .ok atomicity ∧
        edgeBody rfc3339 intent.payload = .ok body ∧
        edge = { edgeIntent p intent atomicity body with
          effectDigest := edgeEffectDigest p (edgeIntent p intent atomicity body) } := by
  obtain ⟨_, hfence, h⟩ := bind_ok.1 h
  obtain ⟨_, hpayload, h⟩ := bind_ok.1 h
  obtain ⟨atomicity, hatomicity, h⟩ := bind_ok.1 h
  obtain ⟨body, hbody, h⟩ := bind_ok.1 h
  exact ⟨hfence, hpayload, atomicity, body, hatomicity, hbody, (Except.ok.inj h).symm⟩

end MasiEdge.Control
