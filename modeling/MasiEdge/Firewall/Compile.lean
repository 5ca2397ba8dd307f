/-
The firewall compiler of the Edge process (`firewall.rs`): from an effect intent to P4Runtime table entries.

A baseline rule becomes one ternary entry of the inactive bank, with a match for every field the rule sets; an overlay rule
becomes one exact entry. The rules are sorted first, so the entries come in that order. Protobuf encodings and SHA-256 are
parameters (`Profile`): the compiler uses them for digests and for telling equal matches apart.

The bounded-capture specification of an intent is left out; the compiler refuses that kind before it reads it.
-/
import Mathlib.Data.List.Sort
import MasiEdge.Effect.Journal
import MasiEdge.Route.Contract

namespace MasiEdge.Firewall

open Codec
open Source (Fence)
open Effect (EffectKind)
open Route (validateAll)

/-! ## Contract messages -/

structure OptionalUint32 where
  present : Bool
  value : UInt32
deriving DecidableEq, Repr

structure Ipv4Prefix where
  address : UInt32
  prefixLength : UInt32
deriving DecidableEq, Repr

inductive FirewallAction where
  | unspecified
  | permitAndContinue
  | drop
deriving DecidableEq, Repr

def FirewallAction.tryFrom : ℤ → Option FirewallAction
  | 0 => some .unspecified
  | 1 => some .permitAndContinue
  | 2 => some .drop
  | _ => none

/-- raw enumeration values -/
def effectKind : ℤ → Option EffectKind
  | 0 => some .unspecified
  | 1 => some .baselineActivate
  | 2 => some .overlayUpsert
  | 3 => some .overlayDelete
  | 4 => some .boundedCaptureStart
  | _ => none

structure BaselineRule where
  ruleId : String
  ruleRevision : ℕ
  canonicalRuleDigest : String
  priority : ℤ
  ingressPort : Option OptionalUint32
  source : Option Ipv4Prefix
  destination : Option Ipv4Prefix
  protocol : Option OptionalUint32
  l4Present : Option OptionalUint32
  sourcePort : Option OptionalUint32
  destinationPort : Option OptionalUint32
  fragmentClass : Option OptionalUint32
  /-- raw -/
  action : ℤ
deriving DecidableEq, Repr

structure OverlayRule where
  ruleId : String
  ruleRevision : ℕ
  canonicalRuleDigest : String
  sourceIpv4 : UInt32
  destinationIpv4 : UInt32
  protocol : UInt32
  sourcePort : UInt32
  destinationPort : UInt32
  /-- raw -/
  action : ℤ
  expiresAtUnixMs : ℤ
deriving DecidableEq, Repr

structure EffectIntent where
  schemaVersion : String
  effectIntentId : String
  operationId : String
  targetId : String
  fence : Option Fence
  effectDigest : String
  authorizationDigest : String
  /-- raw -/
  kind : ℤ
  policyRevisionDigest : String
  /-- raw -/
  defaultAction : ℤ
  baselineRules : List BaselineRule
  overlayRules : List OverlayRule
  deadlineUnixMs : ℤ
  actorRef : String
  reasonCode : String
  traceId : String
  /-- raw -/
  requiredWriteAtomicity : ℤ
deriving DecidableEq, Repr

structure CanonicalP4Entry where
  logicalRuleId : String
  tableId : ℕ
  directCounterId : ℕ
  bank : ℕ
  entity : Bytes
  canonicalEntryDigest : String
  entityId : String
  matchPriorityActionDigest : String
deriving DecidableEq, Repr

structure CompiledEffectPlan where
  schemaVersion : String
  targetId : String
  effectIntentId : String
  /-- raw -/
  kind : ℤ
  activeBank : ℕ
  inactiveBank : ℕ
  entries : List CanonicalP4Entry
  defaultEntity : Bytes
  selectorEntity : Bytes
  planDigest : String
deriving DecidableEq, Repr

/-! ## P4Runtime messages -/

inductive FieldMatchType where
  | exact (value : Bytes)
  | ternary (value mask : Bytes)
  | lpm (value : Bytes) (prefixLen : ℤ)
deriving DecidableEq, Repr

structure FieldMatch where
  fieldId : ℕ
  fieldMatchType : Option FieldMatchType
deriving DecidableEq, Repr

structure Param where
  paramId : ℕ
  value : Bytes
deriving DecidableEq, Repr

structure P4Action where
  actionId : ℕ
  params : List Param
deriving DecidableEq, Repr

/-- the action is a message of its own, with an optional direct action in it -/
structure TableAction where
  action : Option P4Action
deriving DecidableEq, Repr

structure TableEntry where
  tableId : ℕ := 0
  fields : List FieldMatch := []
  action : Option TableAction := none
  priority : ℤ := 0
  controllerMetadata : ℕ := 0
  /-- bytes and packets -/
  counterData : Option (ℤ × ℤ) := none
  isDefaultAction : Bool := false
  idleTimeoutNs : ℤ := 0
  metadata : Bytes := []
  isConst : Bool := false
deriving DecidableEq, Repr

/-- a table entry, or one of the counters -/
inductive Entity where
  | tableEntry (entry : TableEntry)
  | counterEntry (counterId : ℕ) (index : Option ℤ) (data : Option (ℤ × ℤ))
  | directCounterEntry (entry : Option TableEntry) (data : Option (ℤ × ℤ))
  | missing
deriving DecidableEq, Repr

structure CompiledPlan where
  contract : CompiledEffectPlan
  entries : List Entity
  defaultEntry : Option Entity
  selectorEntry : Option Entity
deriving DecidableEq, Repr

/-- the digest and the deterministic protobuf encodings -/
structure Profile where
  hash : Bytes → String
  encodeIntent : EffectIntent → Bytes
  encodeField : FieldMatch → Bytes
  encodeEntry : TableEntry → Bytes
  encodeEntity : Entity → Bytes
  encodePlan : CompiledEffectPlan → Bytes

/-! ## Qualified identifiers -/

def responseOverlayTable : ℕ := 33554689

def policySelectorTable : ℕ := 33554690

def baselineTable (bank : ℕ) : ℕ := if bank = 0 then 33554691 else 33554692

def overlayPermit : ℕ := 16777473

def overlayDrop : ℕ := 16777474

def baselinePermit : ℕ := 16777475

def baselineDrop : ℕ := 16777476

def selectPolicy0 : ℕ := 16777477

def selectPolicy1 : ℕ := 16777478

def responseOverlayCounter : ℕ := 318767361

def baselineCounter (bank : ℕ) : ℕ := if bank = 0 then 318767362 else 318767363

/-! ## Table entries -/

def ternaryMatch (fieldId : ℕ) (value mask : Bytes) : FieldMatch := ⟨fieldId, some (.ternary value mask)⟩

def exactMatch (fieldId : ℕ) (value : Bytes) : FieldMatch := ⟨fieldId, some (.exact value)⟩

def tableAction (actionId : ℕ) : TableAction := ⟨some ⟨actionId, []⟩⟩

def entryOf : Entity → EdgeResult TableEntry
  | .tableEntry entry => .ok entry
  | _ => .error (.invalidArgument "entity" "expected a table entry")

/-- `encode_width`: big-endian in as many bytes as the width needs -/
def encodeWidth (value width : ℕ) : EdgeResult Bytes := do
  refuse (width = 0 ∨ 64 < width ∨ (width < 64 ∧ 2 ^ width ≤ value)) (.invalidArgument "bit_width" "value does not fit field")
  return toBe ((width + 7) / 8) value

/-- `push_optional_ternary`: nothing for a field the rule does not set -/
def optionalTernary (fieldId width : ℕ) : Option OptionalUint32 → EdgeResult (List FieldMatch)
  | none => .ok []
  | some value =>
    if value.present = false then .ok []
    else do
      refuse (width < 32 ∧ 2 ^ width ≤ value.value.toNat) (.invalidArgument "match_value" "value exceeds field width")
      let bytes ← encodeWidth value.value.toNat width
      return [ternaryMatch fieldId bytes (List.replicate bytes.length 0xff)]

/-- the mask of a prefix of 1 to 32 bits -/
def prefixMask (length : UInt32) : UInt32 := 0xffffffff <<< (32 - length)

/-- `push_prefix` -/
def prefixTernary (fieldId : ℕ) (address length : UInt32) : EdgeResult (List FieldMatch) := do
  refuse (32 < length) (.invalidArgument "prefix_length" "must be in [0,32]")
  if length = 0 then return []
  else do
    refuse (address &&& prefixMask length ≠ address)
      (.invalidArgument "ipv4_prefix.address" "host bits must be zero in canonical prefix")
    return [ternaryMatch fieldId (toBe 4 (address &&& prefixMask length).toNat) (toBe 4 (prefixMask length).toNat)]

def baselineAction (action : ℤ) : EdgeResult ℕ :=
  match FirewallAction.tryFrom action with
  | some .permitAndContinue => .ok baselinePermit
  | some .drop => .ok baselineDrop
  | _ => .error (.invalidArgument "firewall_action" "unsupported action")

def overlayAction (action : ℤ) : EdgeResult ℕ :=
  match FirewallAction.tryFrom action with
  | some .permitAndContinue => .ok overlayPermit
  | some .drop => .ok overlayDrop
  | _ => .error (.invalidArgument "firewall_action" "unsupported action")

def validateRuleIdentity (ruleId : String) (revision : ℕ) (ruleDigest : String) : EdgeResult Unit := do
  validateIdentity ruleId "rule_id"
  validateSha256 ruleDigest "canonical_rule_digest"
  refuse (revision = 0) (.invalidArgument "rule_revision" "must be positive")

/-! ## Baseline rules -/

/-- the rule sets the field -/
def isPresent (x : Option OptionalUint32) : Bool := x.any OptionalUint32.present

/-- the eight matches of a rule, without those it does not set -/
def baselineFields (rule : BaselineRule) (source destination : Ipv4Prefix) : EdgeResult (List FieldMatch) := do
  let ingressPort ← optionalTernary 1 9 rule.ingressPort
  let sourceAddress ← prefixTernary 2 source.address source.prefixLength
  let destinationAddress ← prefixTernary 3 destination.address destination.prefixLength
  let protocol ← optionalTernary 4 8 rule.protocol
  let l4Present ← optionalTernary 5 1 rule.l4Present
  refuse ((isPresent rule.sourcePort || isPresent rule.destinationPort) = true ∧
      (rule.l4Present.any fun value => value.present && value.value == 1) = false)
    (.precondition "UNSUPPORTED_L4_UNAVAILABLE" "port match requires l4_present=true")
  let sourcePort ← optionalTernary 6 16 rule.sourcePort
  let destinationPort ← optionalTernary 7 16 rule.destinationPort
  refuse ((rule.fragmentClass.any fun value => value.present && decide (2 < value.value)) = true)
    (.precondition "UNSUPPORTED_FRAGMENT" "invalid fragment class is not effect eligible")
  let fragmentClass ← optionalTernary 8 2 rule.fragmentClass
  return (ingressPort ++ sourceAddress ++ destinationAddress ++ protocol ++ l4Present ++ sourcePort ++ destinationPort ++
    fragmentClass).insertionSort fun a b => a.fieldId ≤ b.fieldId

def requiredPrefix (x : Option Ipv4Prefix) (field : String) : EdgeResult Ipv4Prefix :=
  match x with
  | none => .error (.invalidArgument field "IPv4 prefix is required")
  | some p => .ok p

/-- the entry of one rule -/
def baselineEntry (bank : ℕ) (rule : BaselineRule) : EdgeResult TableEntry := do
  refuse (rule.priority ≤ 0) (.invalidArgument "priority" "must be positive")
  let source ← requiredPrefix rule.source "source"
  let destination ← requiredPrefix rule.destination "destination"
  let fields ← baselineFields rule source destination
  let action ← baselineAction rule.action
  return { tableId := baselineTable bank, fields, action := some (tableAction action), priority := rule.priority }

/-- the highest priority first, then by id and revision -/
def ruleBefore (a b : BaselineRule) : Prop :=
  b.priority < a.priority ∨ (a.priority = b.priority ∧
    (asBytes a.ruleId < asBytes b.ruleId ∨ (a.ruleId = b.ruleId ∧ a.ruleRevision ≤ b.ruleRevision)))
deriving Decidable

/-- what makes two entries the same match -/
def matchKey (p : Profile) (entry : TableEntry) : ℤ × Bytes := (entry.priority, p.encodeEntry { entry with action := none })

/-- the loop over the sorted rules; `conflicts` has the actions of the matches so far, `identities` the rules -/
def compileOrdered (p : Profile) (bank : ℕ) :
    List ((ℤ × Bytes) × Option TableAction) → List (String × ℕ) → List BaselineRule → EdgeResult (List Entity)
  | _, _, [] => .ok []
  | conflicts, identities, rule :: rest => do
    validateRuleIdentity rule.ruleId rule.ruleRevision rule.canonicalRuleDigest
    refuse ((rule.ruleId, rule.ruleRevision) ∈ identities)
      (.precondition "EQUAL_PRIORITY_CONFLICT" "duplicate logical rule identity")
    let entry ← baselineEntry bank rule
    refuse ((conflicts.lookup (matchKey p entry)).any fun previous => previous ≠ entry.action)
      (.precondition "EQUAL_PRIORITY_CONFLICT" "equal-priority exact match has conflicting actions")
    let entities ← compileOrdered p bank ((matchKey p entry, entry.action) :: conflicts)
      ((rule.ruleId, rule.ruleRevision) :: identities) rest
    return .tableEntry entry :: entities

def compileBaselineRules (p : Profile) (rules : List BaselineRule) (bank : ℕ) : EdgeResult (List Entity) :=
  compileOrdered p bank [] [] (rules.insertionSort ruleBefore)

def baselineDefault (bank : ℕ) (action : ℤ) : EdgeResult Entity := do
  let action ← baselineAction action
  return .tableEntry { tableId := baselineTable bank, action := some (tableAction action), isDefaultAction := true }

def policySelector (bank : ℕ) : EdgeResult Entity :=
  let selector (action : ℕ) : Entity :=
    .tableEntry { tableId := policySelectorTable, fields := [exactMatch 1 [0]], action := some (tableAction action) }
  match bank with
  | 0 => .ok (selector selectPolicy0)
  | 1 => .ok (selector selectPolicy1)
  | _ => .error (.invalidArgument "bank" "must be 0 or 1")

/-! ## Overlay rules -/

/-- by id and revision -/
def overlayBefore (a b : OverlayRule) : Prop :=
  asBytes a.ruleId < asBytes b.ruleId ∨ (a.ruleId = b.ruleId ∧ a.ruleRevision ≤ b.ruleRevision)
deriving Decidable

def overlayFields (rule : OverlayRule) : List FieldMatch :=
  [exactMatch 1 [1], exactMatch 2 [1], exactMatch 3 (toBe 4 rule.sourceIpv4.toNat),
    exactMatch 4 (toBe 4 rule.destinationIpv4.toNat), exactMatch 5 [UInt8.ofNat rule.protocol.toNat],
    exactMatch 6 (toBe 2 rule.sourcePort.toNat), exactMatch 7 (toBe 2 rule.destinationPort.toNat)]

/-- the loop over the sorted overlay rules; `keys` are the matches so far -/
def compileOverlayOrdered (p : Profile) : List Bytes → List OverlayRule → EdgeResult (List Entity)
  | _, [] => .ok []
  | keys, rule :: rest => do
    validateRuleIdentity rule.ruleId rule.ruleRevision rule.canonicalRuleDigest
    refuse ((rule.protocol ≠ 6 ∧ rule.protocol ≠ 17) ∨ 65535 < rule.sourcePort ∨ 65535 < rule.destinationPort ∨
        rule.expiresAtUnixMs ≤ 0)
      (.invalidArgument "overlay_rule" "requires TCP/UDP, exact u16 ports, and a positive expiry")
    refuse ((overlayFields rule).flatMap p.encodeField ∈ keys)
      (.precondition "EQUAL_PRIORITY_CONFLICT" "duplicate exact overlay match")
    let action ← overlayAction rule.action
    let entities ← compileOverlayOrdered p ((overlayFields rule).flatMap p.encodeField :: keys) rest
    return .tableEntry { tableId := responseOverlayTable, fields := overlayFields rule, action := some (tableAction action) } ::
      entities

def compileOverlayRules (p : Profile) (rules : List OverlayRule) : EdgeResult (List Entity) :=
  compileOverlayOrdered p [] (rules.insertionSort overlayBefore)

/-! ## Canonical entries -/

/-- leading zero bytes are dropped; zero is one byte -/
def canonicalInteger (value : Bytes) : Bytes :=
  match value.dropWhile (· == 0) with
  | [] => [0]
  | bytes => bytes

def canonicalMatch : FieldMatchType → FieldMatchType
  | .exact value => .exact (canonicalInteger value)
  | .ternary value mask => .ternary (canonicalInteger value) (canonicalInteger mask)
  | .lpm value length => .lpm (canonicalInteger value) length

def canonicalTableEntry (entry : TableEntry) : EdgeResult TableEntry := do
  let fields := entry.fields.insertionSort fun a b => a.fieldId ≤ b.fieldId
  refuse (¬ (fields.map FieldMatch.fieldId).Nodup) (.precondition "READBACK_MISMATCH" "duplicate match field ID")
  return { entry with
    fields := fields.map fun field => { field with fieldMatchType := field.fieldMatchType.map canonicalMatch }
    action := entry.action.map fun x => { x with
      action := x.action.map fun action => { action with
        params := (action.params.insertionSort fun a b => a.paramId ≤ b.paramId).map fun param =>
          { param with value := canonicalInteger param.value } } }
    controllerMetadata := 0, counterData := none, idleTimeoutNs := 0, metadata := [], isConst := false }

def canonicalEntityDigest (p : Profile) (entity : Entity) : EdgeResult String := do
  let entry ← entryOf entity
  let canonical ← canonicalTableEntry entry
  return sha256 p.hash (p.encodeEntry canonical)

/-! ## compile -/

def validateIntent (p : Profile) (intent : EffectIntent) : EdgeResult Unit := do
  refuse (intent.schemaVersion ≠ "effect-intent-edge/v1") (.unknownMajor intent.schemaVersion)
  refuse (intent.requiredWriteAtomicity ≠ 1)
    (.precondition "ATOMICITY_UNSUPPORTED" "first-release target profile qualifies CONTINUE_ON_ERROR only")
  validateAll validateIdentity
    [("effect_intent_id", intent.effectIntentId), ("operation_id", intent.operationId), ("target_id", intent.targetId),
     ("actor_ref", intent.actorRef), ("reason_code", intent.reasonCode), ("trace_id", intent.traceId)]
  validateSha256 intent.effectDigest "effect_digest"
  validateSha256 intent.authorizationDigest "authorization_digest"
  validateSha256 intent.policyRevisionDigest "policy_revision_digest"
  refuse (sha256 p.hash (p.encodeIntent { intent with effectDigest := "" }) ≠ intent.effectDigest)
    (.precondition "EFFECT_DIGEST_CONFLICT" "effect digest does not match deterministic protobuf payload")

/-- what the kind of an intent contributes to its plan -/
structure Compiled where
  entries : List Entity
  defaultEntry : Option Entity
  selectorEntry : Option Entity
  directCounter : ℕ
  bank : ℕ
  /-- in the order of the intent -/
  ruleIds : List String

def compileBaseline (p : Profile) (intent : EffectIntent) (inactiveBank baselineLimit : ℕ) : EdgeResult Compiled := do
  refuse (baselineLimit < intent.baselineRules.length ∨ intent.overlayRules ≠ [])
    (.resourceExhausted "CAPACITY_EXCEEDED" "baseline/overlay logical rule counts exceed the effect profile")
  let entries ← compileBaselineRules p intent.baselineRules inactiveBank
  let defaultEntry ← baselineDefault inactiveBank intent.defaultAction
  let selectorEntry ← policySelector inactiveBank
  return ⟨entries, some defaultEntry, some selectorEntry, baselineCounter inactiveBank, inactiveBank,
    intent.baselineRules.map BaselineRule.ruleId⟩

def compileOverlay (p : Profile) (intent : EffectIntent) (activeBank overlayLimit : ℕ) : EdgeResult Compiled := do
  refuse (intent.overlayRules = [] ∨ overlayLimit < intent.overlayRules.length ∨ intent.baselineRules ≠ [])
    (.resourceExhausted "CAPACITY_EXCEEDED" "overlay logical rule count is empty or exceeds profile")
  let entries ← compileOverlayRules p intent.overlayRules
  return ⟨entries, none, none, responseOverlayCounter, activeBank, intent.overlayRules.map OverlayRule.ruleId⟩

def compileKind (p : Profile) (intent : EffectIntent) (activeBank baselineLimit overlayLimit : ℕ) : EdgeResult Compiled :=
  match effectKind intent.kind with
  | none => .error (.invalidArgument "effect_kind" "unknown effect kind")
  | some .baselineActivate => compileBaseline p intent (1 - activeBank) baselineLimit
  | some .overlayUpsert => compileOverlay p intent activeBank overlayLimit
  | some .overlayDelete => compileOverlay p intent activeBank overlayLimit
  | some .unspecified => .error (.invalidArgument "effect_kind" "unspecified effect kind is forbidden")
  | some .boundedCaptureStart => .error (.precondition "BOUNDED_CAPTURE_PROFILE_UNSUPPORTED"
      "bounded capture is not qualified in this Edge target profile")

/-- the entries of the contract: the n-th rule id of the intent with the n-th entry -/
def contractEntries (p : Profile) (directCounter bank : ℕ) : List String → List Entity → EdgeResult (List CanonicalP4Entry)
  | ruleId :: ruleIds, entity :: entities => do
    let entry ← entryOf entity
    let digest ← canonicalEntityDigest p entity
    let rest ← contractEntries p directCounter bank ruleIds entities
    return ⟨ruleId, entry.tableId, directCounter, bank, p.encodeEntity entity, digest, digest, digest⟩ :: rest
  | _, _ => .ok []

def planDigest (p : Profile) (contract : CompiledEffectPlan) : String :=
  sha256 p.hash (p.encodePlan { contract with planDigest := "" })

def compile (p : Profile) (intent : EffectIntent) (activeBank baselineLimit overlayLimit : ℕ) : EdgeResult CompiledPlan := do
  validateIntent p intent
  refuse (1 < activeBank) (.precondition "SELECTOR_MISMATCH" "active bank is outside [0,1]")
  let compiled ← compileKind p intent activeBank baselineLimit overlayLimit
  let entries ← contractEntries p compiled.directCounter compiled.bank compiled.ruleIds compiled.entries
  let contract : CompiledEffectPlan :=
    { schemaVersion := "edge-compiled-effect/v1", targetId := intent.targetId, effectIntentId := intent.effectIntentId
      kind := intent.kind, activeBank, inactiveBank := 1 - activeBank, entries
      defaultEntity := (compiled.defaultEntry.map p.encodeEntity).getD []
      selectorEntity := (compiled.selectorEntry.map p.encodeEntity).getD []
      planDigest := "" }
  return ⟨{ contract with planDigest := planDigest p contract }, compiled.entries, compiled.defaultEntry,
    compiled.selectorEntry⟩

/-! ## Admission -/

/-- `verify_intent_fence` of the actor -/
def verifyIntentFence (p : Profile) (assigned : Effect.Assignment) (now : ℤ) (intent : EffectIntent) : EdgeResult Unit := do
  refuse (intent.targetId ≠ assigned.targetId)
    (.precondition "TARGET_FENCE_MISMATCH" "request target differs from actor target")
  refuse (intent.fence ≠ assigned.fence)
    (.precondition "ASSIGNMENT_STALE" "request fence differs from actor assignment")
  refuse (intent.deadlineUnixMs ≤ now) (.deadline "effect deadline elapsed")
  if intent.kind = 2 then Effect.checkOverlayExpiry now (intent.overlayRules.map OverlayRule.expiresAtUnixMs)
  validateIntent p intent

/-- the checks of a preflight that depend on the intent -/
def preflightPlan (p : Profile) (assigned : Effect.Assignment) (now : ℤ) (intent : EffectIntent)
    (activeBank baselineLimit overlayLimit : ℕ) : EdgeResult CompiledPlan := do
  verifyIntentFence p assigned now intent
  compile p intent activeBank baselineLimit overlayLimit

end MasiEdge.Firewall
