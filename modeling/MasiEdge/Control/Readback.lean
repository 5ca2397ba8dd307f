/-
The control core reads an applied result (`dispatcher.go`, `readback_manifest.go`, `governance_edge_adapter.go`).

The Edge process reports, for an applied effect, the entries it expects, those it observed, one item for each compiled
entry and the digest of the JSON manifest of the items. The control core recomputes the digest and checks the counts and
the items; a result it does not accept leaves the effect unknown. The JSON text of one item is the same function on both
sides. The text of the list is not: an empty list is `[]` in one language and `null` in the other.

* `Built`: what the Edge step puts into an applied result;
* `Built.accepted_iff`: when the control core accepts it.
-/
import MasiEdge.Control.Contract
import MasiEdge.Firewall.Identity

namespace MasiEdge.Control

open Codec Firewall
open Effect (EffectStatus)
open List

/-! ## The result as the control core has it -/

inductive Outcome where
  | applied
  | hold
  | reconciling
  | unknown
deriving DecidableEq, Repr

def Outcome.text : Outcome → String
  | .applied => "applied"
  | .hold => "hold"
  | .reconciling => "reconciling"
  | .unknown => "unknown"

structure EdgeEffectResult where
  operationId : String
  targetId : String
  effectDigest : String
  outcome : Outcome
  readbackDigest : String
  expectedEntries : ℕ
  observedEntries : ℕ
  mismatchedEntries : ℕ
  activeBank : ℕ
  readbackManifestDigest : String
  appliedEntries : List AppliedRuleReadback
deriving DecidableEq, Repr

def mapOutcome : EffectStatus → GoResult Outcome
  | .applied => .ok .applied
  | .hold => .ok .hold
  | .reconciling => .ok .reconciling
  | .unknown => .ok .unknown
  | .unspecified => .error "grpcapi: unknown Edge effect status 0"

def mapEffectResult (intent : Intent) (reply : EffectResult) : GoResult EdgeEffectResult := do
  reject (reply.targetId ≠ intent.targetId ∨ reply.effectIntentId ≠ intent.effectIntentId ∨
      reply.operationId ≠ intent.operationId ∨ reply.fence ≠ some (edgeFence intent.fence))
    "grpcapi: Edge effect result identity mismatch"
  let outcome ← mapOutcome reply.status
  reject (4096 < reply.expectedEntries ∨ 4096 < reply.observedEntries ∨ 4096 < reply.mismatchedEntries ∨ 1 < reply.activeBank)
    "grpcapi: Edge effect result exceeds bounds"
  return ⟨reply.operationId, reply.targetId, intent.effectDigest, outcome, reply.readbackDigest, reply.expectedEntries,
    reply.observedEntries, reply.mismatchedEntries, reply.activeBank, reply.readbackManifestDigest, reply.appliedEntries⟩

/-! ## validateAppliedReadback -/

/-- a copied slice without elements is nil, and nil is null -/
def goJsonArray (json : AppliedRuleReadback → String) (entries : List AppliedRuleReadback) : String :=
  if entries = [] then "null" else jsonArray json entries

def computeReadbackManifestDigest (p : Profile) (json : AppliedRuleReadback → String) (entries : List AppliedRuleReadback) :
    String :=
  sha256 p.hash (asBytes (goJsonArray json (entries.insertionSort readbackBefore)))

/-- the enabled rules of the payload -/
def allowedRules (payload : EffectPayload) : List String :=
  match payload.operation with
  | .baselineActivate => (enabledRules payload).map NormalizedBaselineRule.ruleId
  | _ => (payload.overlayRules.filter (·.enabled)).map NormalizedOverlayRule.ruleId

@[mk_iff]
structure WellFormed (allowed : List String) (entry : AppliedRuleReadback) : Prop where
  entityId : entry.entityId ≠ "" ∧ (asBytes entry.entityId).length ≤ 128
  ruleId : entry.ruleId ≠ "" ∧ (asBytes entry.ruleId).length ≤ 128
  allowed : entry.ruleId ∈ allowed
  digests : validSha256 entry.canonicalEntryDigest = true ∧ validSha256 entry.matchPriorityActionDigest = true
  ids : entry.tableId ≠ 0 ∧ entry.directCounterId ≠ 0
  bank : entry.bank ≤ 1

instance (allowed : List String) (entry : AppliedRuleReadback) : Decidable (WellFormed allowed entry) :=
  decidable_of_iff' _ (wellFormed_iff allowed entry)

/-- entity and rule of an entry, as the key of a map -/
def entityKey (entry : AppliedRuleReadback) : String := entry.entityId ++ "\x00" ++ entry.ruleId

/-- the loop over the entries; what was seen before are entities and digests -/
def checkEntries (allowed : List String) : List String → List String → List AppliedRuleReadback → GoResult Unit
  | _, _, [] => .ok ()
  | seenEntity, seenDigest, entry :: rest => do
    reject (¬ WellFormed allowed entry) "dispatcher: malformed/unbound applied rule readback entry"
    reject (entityKey entry ∈ seenEntity ∨ entry.canonicalEntryDigest ∈ seenDigest)
      "dispatcher: duplicate applied readback identity"
    checkEntries allowed (entityKey entry :: seenEntity) (entry.canonicalEntryDigest :: seenDigest) rest

/-- a rule without an entry; the source names the first its map gives -/
def checkCovered (allowed : List String) (entries : List AppliedRuleReadback) : GoResult Unit :=
  match allowed.find? fun ruleId => ruleId ∉ entries.map AppliedRuleReadback.ruleId with
  | some ruleId => .error ("dispatcher: applied readback missing logical rule " ++ ruleId)
  | none => .ok ()

def validateAppliedReadbackManifest (p : Profile) (json : AppliedRuleReadback → String) (intent : Intent)
    (result : EdgeEffectResult) : GoResult Unit := do
  reject (validSha256 result.readbackManifestDigest = false ∨
      result.readbackManifestDigest ≠ computeReadbackManifestDigest p json result.appliedEntries)
    "dispatcher: Edge per-entry readback manifest digest mismatch"
  reject (4096 < result.appliedEntries.length ∨
      (intent.payload.operation ≠ .overlayDelete ∧ result.observedEntries < result.appliedEntries.length))
    "dispatcher: Edge per-entry readback manifest exceeds observed bound"
  reject (intent.payload.operation = .overlayDelete ∧ (result.expectedEntries ≠ 0 ∨ result.observedEntries ≠ 0))
    "dispatcher: overlay delete must prove exact absence"
  checkEntries (allowedRules intent.payload) [] [] result.appliedEntries
  checkCovered (allowedRules intent.payload) result.appliedEntries

def validateAppliedReadback (p : Profile) (json : AppliedRuleReadback → String) (intent : Intent)
    (result : EdgeEffectResult) : GoResult Unit := do
  reject (result.outcome ≠ .applied) ("dispatcher: Edge did not prove applied outcome: " ++ result.outcome.text)
  reject (validSha256 result.readbackDigest = false ∨ 4096 < result.expectedEntries ∨ 4096 < result.observedEntries ∨
      4096 < result.mismatchedEntries ∨ result.expectedEntries ≠ result.observedEntries ∨ result.mismatchedEntries ≠ 0)
    "dispatcher: Edge readback is not exact"
  validateAppliedReadbackManifest p json intent result

/-- what the dispatcher does with a reply that says applied; an error leaves the effect unknown -/
def acceptReply (p : Profile) (json : AppliedRuleReadback → String) (intent : Intent) (reply : EffectResult) : GoResult Unit := do
  let result ← mapEffectResult intent reply
  validateAppliedReadback p json intent result

/-! ## Spelling -/

theorem validSha256_sha256 {hash : Bytes → String} (h : HexHash hash) (payload : Bytes) :
    validSha256 (sha256 hash payload) = true := by
  obtain ⟨htake, hdrop⟩ := asBytes_sha256 hash payload
  have hlength : (asBytes (sha256 hash payload)).length = 71 := by
    rw [← take_append_drop 7 (asBytes (sha256 hash payload)), htake, hdrop, length_append, h.length]
    decide +kernel
  have hdigits : (asBytes (hash payload)).all isHex = true := by
    have hlower := h.digits payload
    rw [all_eq_true] at hlower ⊢
    intro byte hbyte
    simp [isHex, hlower byte hbyte]
  simp [validSha256, hlength, htake, hdrop, hdigits]

theorem validSha256_length {s : String} (h : validSha256 s = true) : (asBytes s).length = 71 := by
  simp only [validSha256, Bool.and_eq_true, beq_iff_eq] at h
  exact h.1.1

/-! ## The loop over the entries -/

/-- two entries with one key have one entity, when both ids are digests -/
theorem entityId_eq {a b : AppliedRuleReadback} (ha : validSha256 a.entityId = true) (hb : validSha256 b.entityId = true)
    (h : entityKey a = entityKey b) : a.entityId = b.entityId := by
  have hbytes := congrArg (fun s => (asBytes s).take 71) h
  simp only [entityKey, asBytes_append, append_assoc] at hbytes
  rw [take_left' (validSha256_length ha), take_left' (validSha256_length hb)] at hbytes
  exact asBytes_inj hbytes

/-- the loop fails on a malformed entry and on a second entry with the same digest -/
theorem checkEntries_ok {allowed : List String} (seen : List AppliedRuleReadback) {entries : List AppliedRuleReadback}
    (hwell : ∀ entry ∈ entries, WellFormed allowed entry)
    (hids : ∀ entry ∈ seen ++ entries, entry.entityId = entry.canonicalEntryDigest ∧ validSha256 entry.entityId = true) :
    checkEntries allowed (seen.map entityKey) (seen.map AppliedRuleReadback.canonicalEntryDigest) entries = .ok () ↔
      (entries.map AppliedRuleReadback.canonicalEntryDigest).Nodup ∧
        ∀ entry ∈ entries, entry.canonicalEntryDigest ∉ seen.map AppliedRuleReadback.canonicalEntryDigest := by
  induction entries generalizing seen with
  | nil => simp [checkEntries]
  | cons entry rest ih =>
    have hmem : entry ∈ seen ++ entry :: rest := by simp
    -- a repeated key is a repeated digest
    have hkey : entityKey entry ∈ seen.map entityKey →
        entry.canonicalEntryDigest ∈ seen.map AppliedRuleReadback.canonicalEntryDigest := by
      intro hseen
      obtain ⟨other, hother, hsame⟩ := List.mem_map.1 hseen
      have hotherMem : other ∈ seen ++ entry :: rest := mem_append_left _ hother
      have hentity := entityId_eq (hids other hotherMem).2 (hids entry hmem).2 hsame
      rw [(hids other hotherMem).1, (hids entry hmem).1] at hentity
      exact List.mem_map.2 ⟨other, hother, hentity⟩
    have hih := ih (entry :: seen) (fun e he => hwell e (mem_cons_of_mem _ he)) fun e he => hids e (by
      simp only [mem_append, mem_cons] at he ⊢
      tauto)
    rw [checkEntries, reject_of_not (not_not.2 (hwell entry mem_cons_self)), ok_bind, bind_ok]
    simp only [reject_ok, exists_const, or_iff_right_of_imp hkey]
    rw [map_cons, map_cons] at hih
    simp only [hih, map_cons, nodup_cons, mem_cons, forall_eq_or_imp, not_or]
    constructor
    · rintro ⟨hdup, hnodup, hfresh⟩
      refine ⟨⟨?_, hnodup⟩, hdup, fun e he => (hfresh e he).2⟩
      intro hagain
      obtain ⟨other, hother, hsame⟩ := List.mem_map.1 hagain
      exact (hfresh other hother).1 hsame
    · rintro ⟨⟨hfirst, hnodup⟩, hdup, hfresh⟩
      exact ⟨hdup, hnodup, fun e he => ⟨fun hsame => hfirst (List.mem_map.2 ⟨e, he, hsame⟩), hfresh e he⟩⟩

/-! ## What the Edge step builds -/

instance : Std.Total readbackBefore := ⟨fun a b => le_total a.key b.key⟩

instance : IsTrans AppliedRuleReadback readbackBefore := ⟨fun a b c => le_trans (a := a.key) (b := b.key) (c := c.key)⟩

/-- an applied result for an intent -/
structure Built (p : Profile) (json : AppliedRuleReadback → String) (intent : Intent) (reply : EffectResult) : Prop where
  identity : reply.targetId = intent.targetId ∧ reply.effectIntentId = intent.effectIntentId ∧
    reply.operationId = intent.operationId ∧ reply.fence = some (edgeFence intent.fence)
  status : reply.status = .applied
  readback : validSha256 reply.readbackDigest = true
  expected : reply.expectedEntries = reply.appliedEntries.length
  bounded : reply.appliedEntries.length ≤ 4096
  mismatched : reply.mismatchedEntries = 0
  bank : reply.activeBank ≤ 1
  manifest : reply.readbackManifestDigest = sha256 p.hash (asBytes (jsonArray json reply.appliedEntries))
  sorted : reply.appliedEntries.Pairwise readbackBefore
  wellFormed : ∀ entry ∈ reply.appliedEntries, WellFormed (allowedRules intent.payload) entry
  entityId : ∀ entry ∈ reply.appliedEntries, entry.entityId = entry.canonicalEntryDigest
  covered : ∀ ruleId ∈ allowedRules intent.payload, ruleId ∈ reply.appliedEntries.map AppliedRuleReadback.ruleId

theorem checkCovered_ok {allowed : List String} {entries : List AppliedRuleReadback}
    (h : ∀ ruleId ∈ allowed, ruleId ∈ entries.map AppliedRuleReadback.ruleId) : checkCovered allowed entries = .ok () := by
  have hnone : (allowed.find? fun ruleId => ruleId ∉ entries.map AppliedRuleReadback.ruleId) = none := by
    rw [find?_eq_none]
    intro ruleId hmem
    simpa using h ruleId hmem
  rw [checkCovered, hnone]

/-- **Acceptance.** The control core accepts an applied result that observed its entries, at least one of them, with distinct
digests, unless the operation is a delete. -/
theorem Built.accepted_iff {p : Profile} {json : AppliedRuleReadback → String} {intent : Intent} {reply : EffectResult}
    (h : Built p json intent reply) (hhash : HexHash p.hash) (hnull : p.hash (asBytes "null") ≠ p.hash (asBytes "[]")) :
    acceptReply p json intent reply = .ok () ↔
      reply.observedEntries = reply.appliedEntries.length ∧ reply.appliedEntries ≠ [] ∧
        intent.payload.operation ≠ .overlayDelete ∧
        (reply.appliedEntries.map AppliedRuleReadback.canonicalEntryDigest).Nodup := by
  have hids : ∀ entry ∈ ([] : List AppliedRuleReadback) ++ reply.appliedEntries,
      entry.entityId = entry.canonicalEntryDigest ∧ validSha256 entry.entityId = true := by
    intro entry hentry
    have hmem : entry ∈ reply.appliedEntries := hentry
    exact ⟨h.entityId entry hmem, by rw [h.entityId entry hmem]; exact (h.wellFormed entry hmem).digests.1⟩
  have hloop := checkEntries_ok [] h.wellFormed hids
  simp only [map_nil, not_mem_nil, not_false_eq_true, implies_true, and_true] at hloop
  have hsorted : reply.appliedEntries.insertionSort readbackBefore = reply.appliedEntries := h.sorted.insertionSort_eq
  -- the two texts of the empty list have different digests
  have hmanifest : reply.readbackManifestDigest = computeReadbackManifestDigest p json reply.appliedEntries ↔
      reply.appliedEntries ≠ [] := by
    rw [h.manifest, computeReadbackManifestDigest, hsorted, goJsonArray]
    split
    · rename_i hempty
      rw [hempty]
      exact ⟨fun hsame => absurd (sha256_inj hsame).symm hnull, fun hne => absurd rfl hne⟩
    · rename_i hnonempty
      exact iff_of_true rfl hnonempty
  have hvalid : validSha256 reply.readbackManifestDigest = true := by
    rw [h.manifest]
    exact validSha256_sha256 hhash _
  have hbounded := h.bounded
  simp only [acceptReply, mapEffectResult, validateAppliedReadback, validateAppliedReadbackManifest, bind_ok, reject_ok, h.status,
    mapOutcome, h.identity, h.expected, h.mismatched, not_lt.2 h.bank, not_lt.2 h.bounded, Nat.not_lt_zero, pure, Except.pure,
    exists_const, Except.ok.injEq, and_assoc, exists_and_left, exists_eq_left', hvalid, h.readback, hmanifest, hloop,
    checkCovered_ok h.covered, ne_eq, not_true, Bool.true_eq_false, false_or, or_false, not_not, not_false_eq_true, true_and,
    and_true]
  constructor
  · rintro ⟨-, hexact, hnonempty, -, habsent, hnodup⟩
    exact ⟨by omega, hnonempty, fun hdelete => habsent ⟨hdelete, .inl (mt List.length_eq_zero_iff.1 hnonempty)⟩, hnodup⟩
  · rintro ⟨hobserved, hnonempty, hoperation, hnodup⟩
    exact ⟨by omega, by omega, hnonempty, by omega, fun hdelete => hoperation hdelete.1, hnodup⟩

end MasiEdge.Control
