/-
Applying a plan to a target (`actor.rs`): the writes and the read-backs of the three effect kinds, and the result the
execute step makes of them.

The target is an arbitrary function of the conversation so far (`Target`): a write may be lost, applied in part or refused,
a read may fail or return anything. `Io` is a computation that talks to it and keeps the conversation.

* `applyPlan_ok`: a success is an exact read-back, with the counts the result reports.
-/
import Mathlib.Data.String.Basic
import MasiEdge.Firewall.Compile

namespace MasiEdge.Firewall

open Codec
open Effect (EffectStatus)
open Source (Fence)

/-! ## Talking to a target -/

inductive UpdateType where
  | insert
  | modify
  | delete
deriving DecidableEq, Repr

structure Update where
  type : UpdateType
  entity : Entity
deriving DecidableEq, Repr

inductive Event where
  | read (queries : List Entity) (reply : EdgeResult (List Entity))
  | write (updates : List Update) (reply : EdgeResult Unit)

/-- a target answers as it likes, depending on what was said before -/
structure Target where
  read : List Event → List Entity → EdgeResult (List Entity)
  write : List Event → List Update → EdgeResult Unit
  /-- the clock the actor reads -/
  clock : EdgeResult ℤ

def Io (α : Type) := List Event → EdgeResult α × List Event

instance : Monad Io where
  pure a := fun events => (.ok a, events)
  bind x f := fun events =>
    match x events with
    | (.ok a, events) => f a events
    | (.error e, events) => (.error e, events)

def Io.lift {α : Type} (x : EdgeResult α) : Io α := fun events => (x, events)

/-- the outcome as a value, where the source keeps an error for later -/
def Io.attempt {α : Type} (x : Io α) : Io (EdgeResult α) := fun events => (.ok (x events).1, (x events).2)

def Io.mapError {α : Type} (x : Io α) (f : EdgeError → EdgeError) : Io α := fun events =>
  ((x events).1.mapError f, (x events).2)

variable {events events' : List Event} {α : Type}

theorem Io.bind_ok {β : Type} {x : Io α} {f : α → Io β} {b : β} :
    (x >>= f) events = (.ok b, events') ↔ ∃ a middle, x events = (.ok a, middle) ∧ f a middle = (.ok b, events') := by
  change (match x events with
    | (.ok a, events) => f a events
    | (.error e, events) => (.error e, events)) = _ ↔ _
  obtain ⟨result, middle⟩ := x events
  cases result with
  | error => simp
  | ok => simp

@[simp] theorem Io.pure_ok {a b : α} : (pure a : Io α) events = (.ok b, events') ↔ a = b ∧ events = events' := by
  simp [pure]

@[simp] theorem Io.lift_ok {x : EdgeResult α} {a : α} :
    Io.lift x events = (.ok a, events') ↔ x = .ok a ∧ events = events' := by
  simp [Io.lift]

section

variable (target : Target) (updatesPerWrite entitiesPerRead : ℕ)

def read (queries : List Entity) : Io (List Entity) := fun events =>
  (target.read events queries, events ++ [.read queries (target.read events queries)])

def write (updates : List Update) : Io Unit := fun events =>
  (target.write events updates, events ++ [.write updates (target.write events updates)])

/-- one request for each batch; the first failure ends it -/
def writeBatches : List (List Update) → Io Unit
  | [] => pure ()
  | batch :: rest => do
    write target batch
    writeBatches rest

def writeBatched (updates : List Update) : Io Unit := do
  Io.lift (refuse (updates = []) (.invalidArgument "p4_updates" "empty write is forbidden"))
  writeBatches target (updates.toChunks updatesPerWrite)

def readBatches : List (List Entity) → Io (List Entity)
  | [] => pure []
  | batch :: rest => do
    let entities ← read target batch
    let others ← readBatches rest
    return entities ++ others

def readBatched (queries : List Entity) : Io (List Entity) := readBatches target (queries.toChunks entitiesPerRead)

end

/-! ## Exact read-back -/

/-- what names an entry: all but its action -/
def keyOf (entry : TableEntry) : Entity := .tableEntry
  { tableId := entry.tableId, fields := entry.fields, priority := entry.priority, isDefaultAction := entry.isDefaultAction }

def tableKeyEntity (entity : Entity) : EdgeResult Entity := do
  let entry ← entryOf entity
  return keyOf entry

/-- the same of the actor, with its own message -/
def tableKey : Entity → EdgeResult Entity
  | .tableEntry entry => .ok (keyOf entry)
  | _ => .error (.invalidArgument "entity" "expected table entry")

def tableQuery (tableId : ℕ) : Entity := .tableEntry { tableId }

def policySelectorQuery : Entity := .tableEntry { tableId := policySelectorTable, fields := [exactMatch 1 [0]] }

/-- the digests without repetition, in order -/
def digestSet (p : Profile) (entities : List Entity) : EdgeResult (List String) := do
  let digests ← entities.mapM (canonicalEntityDigest p)
  return (digests.insertionSort (· ≤ ·)).dedup

def hexDigit (n : ℕ) : Char := if n < 10 then Char.ofNat (48 + n) else Char.ofNat (87 + n)

def hexEncode (bytes : Bytes) : String :=
  String.ofList (bytes.flatMap fun byte => [hexDigit (byte.toNat / 16), hexDigit (byte.toNat % 16)])

/-- the wire form of the first entity, for the message -/
def firstWire (p : Profile) (entities : List Entity) : String :=
  ((entities.head?).map fun entity => hexEncode (p.encodeEntity entity)).getD ""

def exactReadback (p : Profile) (expected observed : List Entity) : EdgeResult String := do
  let expectedSet ← digestSet p expected
  let observedSet ← digestSet p observed
  refuse (expectedSet ≠ observedSet) (.precondition "READBACK_MISMATCH"
    ("expected " ++ toString expectedSet.length ++ " canonical entries, observed " ++ toString observedSet.length ++
      "; first expected wire " ++ firstWire p expected ++ ", first observed wire " ++ firstWire p observed))
  return sha256 p.hash (asBytes ("\n".intercalate expectedSet))

theorem exactReadback_ok {p : Profile} {expected observed : List Entity} {digest : String}
    (h : exactReadback p expected observed = .ok digest) :
    digestSet p expected = digestSet p observed ∧ ∃ material, digest = sha256 p.hash material := by
  obtain ⟨expectedSet, hexpected, h⟩ := MasiEdge.bind_ok.1 h
  obtain ⟨observedSet, hobserved, h⟩ := MasiEdge.bind_ok.1 h
  obtain ⟨_, hsame, h⟩ := MasiEdge.bind_ok.1 h
  have hsets : expectedSet = observedSet := not_not.1 (refuse_ok.1 hsame)
  exact ⟨by rw [hexpected, hobserved, hsets], _, (Except.ok.inj h).symm⟩

/-! ## The three effects -/

section

variable (p : Profile) (target : Target) (updatesPerWrite entitiesPerRead : ℕ)

/-- a read-back that fails leaves the outcome unknown -/
def readUnknown (context : String) (x : Io (List Entity)) : Io (List Entity) :=
  x.mapError fun e => .unknownOutcome (context ++ ":" ++ e.reasonCode)

/-- unless the observed entries are the expected ones; `failed` if the write had failed, `returned` if not -/
def confirm (expected observed : List Entity) (written : EdgeResult Unit) (failed returned : String) : Io Unit :=
  Io.lift <| match exactReadback p expected observed with
    | .ok _ => .ok ()
    | .error _ => .error (.unknownOutcome (match written with | .error _ => failed | .ok _ => returned))

def keyQueries (plan : CompiledPlan) : EdgeResult (List Entity) := plan.entries.mapM tableKeyEntity

/-- the inactive bank is emptied first -/
def clearBank (table : ℕ) : Io Unit := do
  let existing ← read target [tableQuery table]
  if existing = [] then return ()
  else do
    let keys ← Io.lift (existing.mapM tableKeyEntity)
    let written ← (writeBatched target updatesPerWrite (keys.map (⟨.delete, ·⟩))).attempt
    let after ← readUnknown "inactive bank clear readback unavailable" (read target [tableQuery table])
    Io.lift (refuse (after ≠ []) (.unknownOutcome (match written with
      | .error _ => "inactive bank clear response failed and entries remain"
      | .ok _ => "inactive bank clear response returned but entries remain")))

def applyEntries (plan : CompiledPlan) : Io Unit :=
  if plan.entries = [] then pure ()
  else do
    let written ← (writeBatched target updatesPerWrite (plan.entries.map (⟨.insert, ·⟩))).attempt
    let queries ← Io.lift (keyQueries plan)
    let observed ← readUnknown "baseline entry readback unavailable" (readBatched target entitiesPerRead queries)
    confirm p plan.entries observed written "baseline write response failed and exact readback differs"
      "baseline write response returned but exact readback differs"

def applyDefault (defaultEntry : Entity) : Io Unit := do
  let written ← (write target [⟨.modify, defaultEntry⟩]).attempt
  let key ← Io.lift (tableKey defaultEntry)
  let observed ← readUnknown "default action readback unavailable" (read target [key])
  confirm p [defaultEntry] observed written "default action response failed and readback differs"
    "default action response returned but readback differs"

def applySelector (selector : Entity) : Io Unit := do
  let written ← (write target [⟨.modify, selector⟩]).attempt
  let observed ← readUnknown "policy selector readback unavailable" (read target [policySelectorQuery])
  confirm p [selector] observed written "selector response failed and readback differs"
    "selector response returned but readback differs"

def applyBaseline (plan : CompiledPlan) : Io (String × ℕ) := do
  clearBank target updatesPerWrite (baselineTable plan.contract.inactiveBank)
  let defaultEntry ← Io.lift (required plan.defaultEntry (.precondition "READBACK_MISMATCH" "baseline default entry missing"))
  applyDefault p target defaultEntry
  applyEntries p target updatesPerWrite entitiesPerRead plan
  let selector ← Io.lift (required plan.selectorEntry (.precondition "SELECTOR_MISMATCH" "selector entry missing"))
  applySelector p target selector
  let _ ← Io.lift target.clock
  let digest ← Io.lift (exactReadback p (plan.entries ++ [defaultEntry]) (plan.entries ++ [defaultEntry]))
  return (digest, plan.entries.length)

/-- an entry that is there is modified, another is inserted -/
def upserts : List Entity → Io (List Update)
  | [] => pure []
  | entity :: rest => do
    let key ← Io.lift (tableKey entity)
    let observed ← read target [key]
    let others ← upserts rest
    return ⟨if observed = [] then .insert else .modify, entity⟩ :: others

def applyOverlayUpsert (plan : CompiledPlan) : Io (String × ℕ) := do
  let updates ← upserts target plan.entries
  let written ← (writeBatched target updatesPerWrite updates).attempt
  let queries ← Io.lift (keyQueries plan)
  let observed ← readUnknown "overlay readback unavailable" (readBatched target entitiesPerRead queries)
  Io.lift <| match exactReadback p plan.entries observed with
    | .ok digest => .ok (digest, observed.length)
    | .error _ => .error (.unknownOutcome (match written with
      | .error _ => "overlay write response failed and readback differs"
      | .ok _ => "overlay write response returned but readback differs"))

/-- one read for each key -/
def readRemaining : List Entity → Io (List Entity)
  | [] => pure []
  | query :: rest => do
    let entities ← readUnknown "overlay delete readback unavailable" (read target [query])
    let others ← readRemaining rest
    return entities ++ others

def applyOverlayDelete (plan : CompiledPlan) : Io (String × ℕ) := do
  let keys ← Io.lift (keyQueries plan)
  let written ← (writeBatched target updatesPerWrite (keys.map (⟨.delete, ·⟩))).attempt
  let queries ← Io.lift (keyQueries plan)
  let remaining ← readRemaining target queries
  Io.lift (refuse (remaining ≠ []) (.unknownOutcome (match written with
    | .error _ => "overlay delete response failed and entries remain"
    | .ok _ => "overlay delete response returned but entries remain")))
  return (sha256 p.hash (asBytes "empty-overlay-readback"), 0)

def applyPlan (intent : EffectIntent) (plan : CompiledPlan) : Io (String × ℕ) :=
  match effectKind intent.kind with
  | none => Io.lift (.error (.invalidArgument "effect_kind" "unknown effect kind"))
  | some .baselineActivate => applyBaseline p target updatesPerWrite entitiesPerRead plan
  | some .overlayUpsert => applyOverlayUpsert p target updatesPerWrite entitiesPerRead plan
  | some .overlayDelete => applyOverlayDelete p target updatesPerWrite plan
  | some .unspecified => Io.lift (.error (.invalidArgument "effect_kind" "unspecified effect cannot execute"))
  | some .boundedCaptureStart => Io.lift (.error (.precondition "BOUNDED_CAPTURE_PROFILE_UNSUPPORTED"
      "bounded capture is not qualified in this Edge target profile"))

end

/-! ## The result -/

structure AppliedRuleReadback where
  entityId : String
  ruleId : String
  canonicalEntryDigest : String
  matchPriorityActionDigest : String
  tableId : ℕ
  directCounterId : ℕ
  bank : ℕ
deriving DecidableEq, Repr

/-- by entity, then rule, then digest -/
def AppliedRuleReadback.key (entry : AppliedRuleReadback) : String ×ₗ String ×ₗ String :=
  toLex (entry.entityId, toLex (entry.ruleId, entry.canonicalEntryDigest))

def readbackBefore (a b : AppliedRuleReadback) : Prop := a.key ≤ b.key
deriving Decidable

def readbackEntry (entry : CanonicalP4Entry) : AppliedRuleReadback :=
  ⟨entry.entityId, entry.logicalRuleId, entry.canonicalEntryDigest, entry.matchPriorityActionDigest, entry.tableId,
    entry.directCounterId, entry.bank⟩

def appliedReadbackEntries (plan : CompiledPlan) : List AppliedRuleReadback :=
  (plan.contract.entries.map readbackEntry).insertionSort readbackBefore

/-- a JSON array of the entries; `json` is the text of one -/
def jsonArray (json : AppliedRuleReadback → String) (entries : List AppliedRuleReadback) : String :=
  "[" ++ ",".intercalate (entries.map json) ++ "]"

def readbackManifestDigest (p : Profile) (json : AppliedRuleReadback → String) (plan : CompiledPlan) : String :=
  sha256 p.hash (asBytes (jsonArray json (appliedReadbackEntries plan)))

structure EffectResult where
  schemaVersion : String := "edge-effect-result/v1"
  targetId : String
  effectIntentId : String
  operationId : String
  fence : Option Fence
  status : EffectStatus
  planDigest : String
  readbackDigest : String := ""
  expectedEntries : ℕ := 0
  observedEntries : ℕ := 0
  mismatchedEntries : ℕ := 0
  activeBank : ℕ := 0
  reasonCode : String
  traceId : String
  appliedEntries : List AppliedRuleReadback := []
  readbackManifestDigest : String := ""
deriving DecidableEq, Repr

/-- the result the execute step journals and returns -/
def executeResult (p : Profile) (json : AppliedRuleReadback → String) (intent : EffectIntent) (plan : CompiledPlan)
    (outcome : EdgeResult (String × ℕ)) : EffectResult :=
  let result (status : EffectStatus) (reasonCode : String) : EffectResult :=
    { targetId := intent.targetId, effectIntentId := intent.effectIntentId, operationId := intent.operationId
      fence := intent.fence, status, planDigest := plan.contract.planDigest, reasonCode, traceId := intent.traceId }
  match outcome with
  | .ok (digest, observed) =>
    { result .applied "EXACT_READBACK" with
      readbackDigest := digest, expectedEntries := plan.contract.entries.length, observedEntries := observed
      activeBank := if intent.kind = 1 then plan.contract.inactiveBank else plan.contract.activeBank
      appliedEntries := appliedReadbackEntries plan, readbackManifestDigest := readbackManifestDigest p json plan }
  | .error (.unknownOutcome message) => result .unknown ("WRITE_OUTCOME_UNCONFIRMED:" ++ message)
  | .error e => result .hold e.reasonCode

/-! ## What a success says -/

/-- the entities of the last read -/
def lastRead (events : List Event) : List Entity :=
  match events.getLast? with
  | some (.read _ (.ok entities)) => entities
  | _ => []

theorem mapError_ok {x : Io α} {f : EdgeError → EdgeError} {a : α} :
    x.mapError f events = (.ok a, events') ↔ x events = (.ok a, events') := by
  unfold Io.mapError
  obtain ⟨result, middle⟩ := x events
  cases result <;> simp [Except.mapError]

/-- a batch that holds all queries is one read -/
theorem readBatched_single {target : Target} {entitiesPerRead : ℕ} {query : Entity} {entities : List Entity}
    (h : readBatched target entitiesPerRead [query] events = (.ok entities, events')) : lastRead events' = entities := by
  have hchunks : [query].toChunks entitiesPerRead = [[query]] := by
    cases entitiesPerRead with
    | zero => rfl
    | succ n => cases n <;> rfl
  rw [readBatched, hchunks] at h
  obtain ⟨first, middle, hfirst, h⟩ := Io.bind_ok.1 h
  obtain ⟨others, after, hothers, h⟩ := Io.bind_ok.1 h
  obtain ⟨rfl, rfl⟩ := Io.pure_ok.1 hothers
  obtain ⟨rfl, rfl⟩ := Io.pure_ok.1 h
  obtain ⟨hreply, rfl⟩ := Prod.mk.inj hfirst
  simp [lastRead, hreply]

variable {p : Profile} {target : Target} {updatesPerWrite entitiesPerRead : ℕ} {plan : CompiledPlan}
  {events events' : List Event} {digest : String} {observed : ℕ}

theorem applyBaseline_ok
    (h : applyBaseline p target updatesPerWrite entitiesPerRead plan events = (.ok (digest, observed), events')) :
    (∃ material, digest = sha256 p.hash material) ∧ observed = plan.entries.length := by
  obtain ⟨_, _, -, h⟩ := Io.bind_ok.1 h
  obtain ⟨defaultEntry, _, -, h⟩ := Io.bind_ok.1 h
  obtain ⟨_, _, -, h⟩ := Io.bind_ok.1 h
  obtain ⟨_, _, -, h⟩ := Io.bind_ok.1 h
  obtain ⟨_, _, -, h⟩ := Io.bind_ok.1 h
  obtain ⟨_, _, -, h⟩ := Io.bind_ok.1 h
  obtain ⟨_, _, -, h⟩ := Io.bind_ok.1 h
  obtain ⟨_, _, hdigest, h⟩ := Io.bind_ok.1 h
  obtain ⟨hresult, -⟩ := Io.pure_ok.1 h
  cases hresult
  exact ⟨(exactReadback_ok (Io.lift_ok.1 hdigest).1).2, rfl⟩

theorem applyOverlayUpsert_ok
    (h : applyOverlayUpsert p target updatesPerWrite entitiesPerRead plan events = (.ok (digest, observed), events')) :
    (∃ material, digest = sha256 p.hash material) ∧ (plan.entries.length = 1 → observed = (lastRead events').length) := by
  obtain ⟨_, _, -, h⟩ := Io.bind_ok.1 h
  obtain ⟨_, _, -, h⟩ := Io.bind_ok.1 h
  obtain ⟨queries, _, hqueries, h⟩ := Io.bind_ok.1 h
  obtain ⟨entities, _, hread, h⟩ := Io.bind_ok.1 h
  obtain ⟨hreadback, rfl⟩ := Io.lift_ok.1 h
  cases hexact : exactReadback p plan.entries entities with
  | error =>
    rw [hexact] at hreadback
    cases hreadback
  | ok =>
    rw [hexact] at hreadback
    cases hreadback
    refine ⟨(exactReadback_ok hexact).2, ?_⟩
    intro hone
    have hlength : queries.length = 1 := (mapM_ok.1 (Io.lift_ok.1 hqueries).1).length_eq ▸ hone
    obtain ⟨query, rfl⟩ := List.length_eq_one_iff.1 hlength
    rw [readBatched_single (mapError_ok.1 hread)]

theorem applyOverlayDelete_ok
    (h : applyOverlayDelete p target updatesPerWrite plan events = (.ok (digest, observed), events')) :
    (∃ material, digest = sha256 p.hash material) ∧ observed = 0 := by
  obtain ⟨_, _, -, h⟩ := Io.bind_ok.1 h
  obtain ⟨_, _, -, h⟩ := Io.bind_ok.1 h
  obtain ⟨_, _, -, h⟩ := Io.bind_ok.1 h
  obtain ⟨_, _, -, h⟩ := Io.bind_ok.1 h
  obtain ⟨_, _, -, h⟩ := Io.bind_ok.1 h
  obtain ⟨hresult, -⟩ := Io.pure_ok.1 h
  cases hresult
  exact ⟨⟨_, rfl⟩, rfl⟩

/-- what a success reports, by kind -/
def Reported (intent : EffectIntent) (plan : CompiledPlan) (events : List Event) (observed : ℕ) : Prop :=
  match effectKind intent.kind with
  | some .baselineActivate => observed = plan.entries.length
  | some .overlayUpsert => plan.entries.length = 1 → observed = (lastRead events).length
  | some .overlayDelete => observed = 0
  | _ => False

/-- **A success is a read-back.** Its digest is a digest, and it counts the entries of a baseline, what was read of an
overlay, or nothing after a delete. -/
theorem applyPlan_ok {intent : EffectIntent}
    (h : applyPlan p target updatesPerWrite entitiesPerRead intent plan events = (.ok (digest, observed), events')) :
    (∃ material, digest = sha256 p.hash material) ∧ Reported intent plan events' observed := by
  unfold Reported
  cases hkind : effectKind intent.kind with
  | none =>
    rw [applyPlan, hkind] at h
    cases (Io.lift_ok.1 h).1
  | some kind =>
    rw [applyPlan, hkind] at h
    cases kind with
    | baselineActivate => exact applyBaseline_ok h
    | overlayUpsert => exact applyOverlayUpsert_ok h
    | overlayDelete => exact applyOverlayDelete_ok h
    | unspecified => cases (Io.lift_ok.1 h).1
    | boundedCaptureStart => cases (Io.lift_ok.1 h).1

end MasiEdge.Firewall
