/-
Assignments of a target to Edge actors: `Handoff` and `Revoke`.

`Handoff` looks at the newest assignment of the target, asks that its lease has run out or is revoked, and inserts the next
generation with an election range above the old one; a trigger of the table checks the generation and the range once more,
against all rows. `Revoke` marks a row that is not marked yet. Both are one transaction each, so a run is any sequence of
them, for any targets.

The generations and the election ranges are what the trigger checks, in every run. The leases are compared with the newest
row only, and that is not enough: an assignment may be issued up to five seconds ahead and be revoked before it begins, and
then the next one is compared with that revocation, while the lease of the generation before is still running.

* `run_ranked`: contiguous generations and increasing election ranges, in every run;
* `assignments_exclusive`: with them disjoint leases, if no assignment is issued before the one it replaces;
* `early_revoke_overlaps`: generations one and three are valid at one time.
-/
import Mathlib.Data.List.MinMax
import Mathlib.Data.List.Range
import MasiEdge.Base.Pointwise
import MasiEdge.Base.Table
import MasiEdge.Control.Policy

namespace MasiEdge.Target

open Control Run List

/-! ## Rows -/

structure Assignment where
  targetId : String
  assignmentGeneration : ℤ
  incarnationId : String
  edgeWorkloadRef : String
  leaseId : String
  issuedAtUnixMs : ℤ
  expiresAtUnixMs : ℤ
  electionFloor : ℤ
  electionCeiling : ℤ
  actorRuntimeEpoch : String
  applicationGeneration : ℤ
  actor : Actor
  traceId : String
deriving DecidableEq, Repr

/-- a row of `target_assignments` -/
structure AssignmentRow extends Assignment where
  revokedAtUnixMs : Option ℤ
deriving DecidableEq, Repr

/-- the assignment tables; `targets` are the keys an assignment may refer to -/
structure Tables where
  targets : List String
  assignments : List AssignmentRow
deriving DecidableEq, Repr

/-- the assignments of a target, the oldest first -/
def Tables.of (db : Tables) (targetId : String) : List AssignmentRow :=
  db.assignments.filter fun r => decide (r.targetId = targetId)

/-! ## Handoff -/

inductive HandoffResult where
  | applied
  | conflict
  | leaseAlive
deriving DecidableEq, Repr

def assignmentLeaseMinMs : ℤ := 1000

def assignmentLeaseMaxMs : ℤ := 300000

/-- what Go's `int64` makes of a result -/
def int64 (x : ℤ) : ℤ := x.bmod (2 ^ 64)

/-- the checks of `Handoff` before its transaction -/
def checkHandoff (now : ℤ) (a : Assignment) (priorGeneration priorElectionCeiling : ℤ) : GoResult Unit := do
  reject (a.targetId = "" ∨ 128 < (asBytes a.targetId).length ∨ a.traceId = "" ∨ 128 < (asBytes a.traceId).length)
    "target: target_id/trace_id length outside 1..128"
  reject (a.assignmentGeneration ≠ int64 (priorGeneration + 1)) "target: handoff generation must be prior+1"
  reject (a.electionFloor ≤ priorElectionCeiling) "target: handoff election_floor must be strictly above prior ceiling"
  reject (a.electionCeiling < a.electionFloor) "target: election_ceiling >= election_floor required"
  reject (a.expiresAtUnixMs ≤ a.issuedAtUnixMs) "target: lease expires must be after issued"
  reject (now + 5000 < a.issuedAtUnixMs) "target: assignment issued_at is in the future"
  let leaseMs := int64 (a.expiresAtUnixMs - a.issuedAtUnixMs)
  reject (leaseMs < assignmentLeaseMinMs ∨ assignmentLeaseMaxMs < leaseMs) "target: lease duration must be 1000..300000 ms"
  wrap "target: malformed assignment identity: " a.actor.validate
  reject (a.leaseId = "" ∨ a.incarnationId = "" ∨ a.edgeWorkloadRef = "") "target: malformed assignment identity: <nil>"

/-- the newest assignment, if it has the given generation -/
def Tables.newest? (db : Tables) (targetId : String) (generation : ℤ) : Option AssignmentRow :=
  (db.of targetId).find? fun r => decide (r.assignmentGeneration = generation ∧
    ∀ x ∈ db.of targetId, x.assignmentGeneration ≤ generation)

/-- the trigger `target_assignment_monotonic_v21` -/
def checkMonotonic (db : Tables) (a : Assignment) : GoResult Unit :=
  let rows := db.of a.targetId
  match (rows.map (·.assignmentGeneration)).max?, (rows.map (·.electionCeiling)).max? with
  | some latestGeneration, some latestCeiling => do
    -- an exact copy is let through here; the primary key refuses it
    if a.assignmentGeneration ≤ latestGeneration then
      reject (¬ ∃ r ∈ rows, r.assignmentGeneration = a.assignmentGeneration ∧ r.incarnationId = a.incarnationId ∧
          r.leaseId = a.leaseId ∧ r.electionFloor = a.electionFloor ∧ r.electionCeiling = a.electionCeiling ∧
          r.applicationGeneration = a.applicationGeneration)
        "assignment generation is stale or conflicting"
    else
      reject (a.assignmentGeneration ≠ latestGeneration + 1) "assignment generation must advance by exactly one"
      reject (a.electionFloor ≤ latestCeiling) "new election floor must exceed every prior ceiling"
  | _, _ => reject (a.assignmentGeneration ≠ 1) "first assignment generation must be 1"

/-- the constraints of the table -/
def checkConstraints (db : Tables) (a : Assignment) : GoResult Unit := do
  reject (a.assignmentGeneration < 1 ∨ a.issuedAtUnixMs < 1 ∨ a.expiresAtUnixMs < 1 ∨ a.electionFloor < 1 ∨
      a.electionCeiling < 1 ∨ a.applicationGeneration < 1)
    "violates check constraint"
  reject (a.expiresAtUnixMs ≤ a.issuedAtUnixMs) "violates check constraint lease_monotonic"
  reject (a.electionCeiling < a.electionFloor) "violates check constraint election_range"
  reject (a.expiresAtUnixMs - a.issuedAtUnixMs < 1000 ∨ 300000 < a.expiresAtUnixMs - a.issuedAtUnixMs)
    "violates check constraint target_assignment_lease_profile_v3"
  reject (∃ r ∈ db.of a.targetId, r.assignmentGeneration = a.assignmentGeneration)
    "violates unique constraint target_assignments_pkey"
  reject (∃ r ∈ db.of a.targetId, r.incarnationId = a.incarnationId ∧ r.leaseId = a.leaseId)
    "violates unique constraint target_assignments_lease_nonreuse_uidx"
  reject (a.targetId ∉ db.targets) "violates foreign key constraint"

def insertAssignment (db : Tables) (a : Assignment) : GoResult Tables := do
  checkMonotonic db a
  checkConstraints db a
  return { db with assignments := db.assignments ++ [{ a with revokedAtUnixMs := none }] }

/-- `Handoff` -/
def handoff (now : ℤ) (a : Assignment) (priorGeneration priorElectionCeiling : ℤ) (db : Tables) :
    GoResult (HandoffResult × Tables) := do
  checkHandoff now a priorGeneration priorElectionCeiling
  match db.newest? a.targetId priorGeneration with
  | none =>
    if priorGeneration ≠ 0 then return (.conflict, db)
    -- the first assignment has nothing before it
    else if 0 ≠ priorElectionCeiling ∨ a.electionFloor ≤ 0 then return (.conflict, db)
    else if a.issuedAtUnixMs < 0 then return (.leaseAlive, db)
    else return (.applied, ← wrap "target: handoff: " (insertAssignment db a))
  | some prior =>
    if prior.electionCeiling ≠ priorElectionCeiling ∨ a.electionFloor ≤ prior.electionCeiling then return (.conflict, db)
    else if a.issuedAtUnixMs < prior.expiresAtUnixMs ∧ prior.revokedAtUnixMs = none then return (.leaseAlive, db)
    else if prior.revokedAtUnixMs.any (a.issuedAtUnixMs < ·) then return (.conflict, db)
    else return (.applied, ← wrap "target: handoff: " (insertAssignment db a))

/-- the row a revocation is for -/
def AssignmentRow.Open (r : AssignmentRow) (targetId : String) (generation : ℤ) : Prop :=
  r.targetId = targetId ∧ r.assignmentGeneration = generation ∧ r.revokedAtUnixMs = none
deriving Decidable

def AssignmentRow.revoked (targetId : String) (generation revokedAtUnixMs : ℤ) (r : AssignmentRow) : AssignmentRow :=
  if r.Open targetId generation then { r with revokedAtUnixMs := some revokedAtUnixMs } else r

/-- `Revoke` -/
def revoke (targetId : String) (generation revokedAtUnixMs : ℤ) (db : Tables) : GoResult Tables := do
  reject (targetId = "" ∨ generation < 1 ∨ revokedAtUnixMs < 1) "target: malformed revoke request"
  reject ((db.assignments.filter fun r => decide (r.Open targetId generation)).length ≠ 1) "target: revoke CAS conflict"
  return { db with assignments := db.assignments.map (·.revoked targetId generation revokedAtUnixMs) }

/-! ## Runs -/

inductive Op where
  | handoff (now : ℤ) (a : Assignment) (priorGeneration priorElectionCeiling : ℤ)
  | revoke (targetId : String) (generation revokedAtUnixMs : ℤ)

/-- a call that fails changes nothing -/
def step (db : Tables) : Op → Tables
  | .handoff now a priorGeneration priorElectionCeiling =>
    match Target.handoff now a priorGeneration priorElectionCeiling db with
    | .ok (_, db') => db'
    | .error _ => db
  | .revoke targetId generation revokedAtUnixMs =>
    match Target.revoke targetId generation revokedAtUnixMs db with
    | .ok db' => db'
    | .error _ => db

def init (targets : List String) : Tables := ⟨targets, []⟩

def run (targets : List String) (ops : List Op) : Tables := ops.foldl step (init targets)

/-! ## What a call does -/

variable {db db' : Tables} {a : Assignment} {r : AssignmentRow} {t revokedAt priorGeneration priorElectionCeiling : ℤ}
  {rows : List AssignmentRow}

/-- the lease of the row is held at the time -/
def AssignmentRow.Valid (r : AssignmentRow) (t : ℤ) : Prop :=
  r.issuedAtUnixMs ≤ t ∧ t < r.expiresAtUnixMs ∧ ∀ revokedAt ∈ r.revokedAtUnixMs, t < revokedAt
deriving Decidable

/-- what `Handoff` asks of the assignment before -/
structure AssignmentRow.Released (r : AssignmentRow) (issuedAt : ℤ) : Prop where
  ended : r.expiresAtUnixMs ≤ issuedAt ∨ r.revokedAtUnixMs ≠ none
  revoked : ∀ revokedAt ∈ r.revokedAtUnixMs, revokedAt ≤ issuedAt

theorem AssignmentRow.Released.valid_lt {issuedAt : ℤ} (h : r.Released issuedAt) (hvalid : r.Valid t) :
    t < issuedAt := by
  rcases h.ended with hexpired | hrevoked
  · exact lt_of_lt_of_le hvalid.2.1 hexpired
  · obtain ⟨revokedAt, hat⟩ := Option.ne_none_iff_exists'.1 hrevoked
    exact lt_of_lt_of_le (hvalid.2.2 revokedAt hat) (h.revoked revokedAt hat)

/-- a handoff that inserts a row -/
structure Handed (db : Tables) (a : Assignment) (priorGeneration : ℤ) (db' : Tables) : Prop where
  inserted : insertAssignment db a = .ok db'
  released : ∀ prior ∈ db.newest? a.targetId priorGeneration, prior.Released a.issuedAtUnixMs
  first : db.newest? a.targetId priorGeneration = none → a.assignmentGeneration = 1

theorem handoff_ok {now : ℤ} {result : HandoffResult}
    (h : handoff now a priorGeneration priorElectionCeiling db = .ok (result, db')) :
    db' = db ∨ Handed db a priorGeneration db' := by
  obtain ⟨_, hcheck, h⟩ := bind_ok.1 h
  replace hcheck := passed hcheck
  obtain ⟨hgeneration, -⟩ := reject_then hcheck
  rw [not_not] at hgeneration
  have hunchanged : ∀ {r : HandoffResult}, (Except.ok (r, db) : GoResult _) = .ok (result, db') → db' = db := by
    intro r hsame
    exact (Prod.mk.inj (Except.ok.inj hsame)).2.symm
  have hinserted : (do return (HandoffResult.applied, ← wrap "target: handoff: " (insertAssignment db a)) : GoResult _) =
      .ok (result, db') → insertAssignment db a = .ok db' := by
    intro hdone
    obtain ⟨db1, hinsert, hsame⟩ := bind_ok.1 hdone
    rw [← (Prod.mk.inj (Except.ok.inj hsame)).2]
    exact wrap_ok.1 hinsert
  cases hnewest : db.newest? a.targetId priorGeneration with
  | none =>
    rw [hnewest] at h
    dsimp only at h
    split at h
    · exact Or.inl (hunchanged h)
    rename_i hfirst
    split at h
    · exact Or.inl (hunchanged h)
    split at h
    · exact Or.inl (hunchanged h)
    refine Or.inr ⟨hinserted h, by simp [hnewest], fun _ => ?_⟩
    rw [hgeneration, not_not.1 hfirst]
    decide
  | some prior =>
    rw [hnewest] at h
    dsimp only at h
    split at h
    · exact Or.inl (hunchanged h)
    split at h
    · exact Or.inl (hunchanged h)
    rename_i halive
    split at h
    · exact Or.inl (hunchanged h)
    rename_i hearly
    refine Or.inr ⟨hinserted h, ?_, by simp [hnewest]⟩
    intro p hp
    obtain rfl : prior = p := Option.some.inj (hnewest.symm.trans hp)
    constructor
    · by_contra hno
      push Not at hno
      exact halive hno
    · intro revokedAt hat
      rw [hat] at hearly
      simpa using hearly

/-- a row that passes the trigger and the constraints -/
structure Inserted (db : Tables) (a : Assignment) (db' : Tables) : Prop where
  rows : db' = { db with assignments := db.assignments ++ [{ a with revokedAtUnixMs := none }] }
  monotonic : checkMonotonic db a = .ok ()
  positive : 1 ≤ a.assignmentGeneration
  range : a.electionFloor ≤ a.electionCeiling
  new : ∀ r ∈ db.of a.targetId, r.assignmentGeneration ≠ a.assignmentGeneration

theorem insertAssignment_ok (h : insertAssignment db a = .ok db') : Inserted db a db' := by
  obtain ⟨_, hmonotonic, h⟩ := bind_ok.1 h
  obtain ⟨_, hconstraints, h⟩ := bind_ok.1 h
  obtain ⟨_, hpositive, hconstraints⟩ := bind_ok.1 hconstraints
  replace hconstraints := passed hconstraints
  obtain ⟨_, hrange, hconstraints⟩ := bind_ok.1 hconstraints
  replace hconstraints := passed hconstraints
  obtain ⟨_, hnew, -⟩ := bind_ok.1 hconstraints
  rw [reject_ok] at hpositive hrange hnew
  push Not at hpositive hrange hnew
  exact ⟨(Except.ok.inj h).symm, hmonotonic, hpositive.1, hrange, hnew⟩

theorem Inserted.of (h : Inserted db a db') (targetId : String) :
    db'.of targetId = db.of targetId ++ if a.targetId = targetId then [{ a with revokedAtUnixMs := none }] else [] := by
  rw [h.rows, Tables.of, filter_append, Tables.of]
  by_cases ht : a.targetId = targetId <;> simp [ht]

/-- a revocation changes only the time of revocation -/
theorem AssignmentRow.revoked_toAssignment (targetId : String) (generation revokedAt : ℤ) (r : AssignmentRow) :
    (r.revoked targetId generation revokedAt).toAssignment = r.toAssignment := by
  unfold AssignmentRow.revoked
  split <;> rfl

/-- a revocation ends a lease early or leaves it -/
theorem AssignmentRow.valid_of_revoked (h : (r.revoked targetId generation revokedAt).Valid t) : r.Valid t := by
  unfold AssignmentRow.revoked at h
  split at h
  · rename_i hopen
    exact ⟨h.1, h.2.1, by simp [hopen.2.2]⟩
  · exact h

theorem revoked_of (db : Tables) (id : String) :
    Tables.of { db with assignments := db.assignments.map (·.revoked targetId generation revokedAt) } id =
      (db.of id).map (·.revoked targetId generation revokedAt) := by
  rw [Tables.of, filter_map, Tables.of]
  congr 2
  funext r
  simp [AssignmentRow.revoked_toAssignment]

/-- what one call does to the assignments of a target -/
inductive Change (db : Tables) (op : Op) (targetId : String) : List AssignmentRow → Prop
  | same : Change db op targetId (db.of targetId)
  | added (now : ℤ) (a : Assignment) (priorGeneration priorElectionCeiling : ℤ)
      (called : op = .handoff now a priorGeneration priorElectionCeiling) (target : a.targetId = targetId) (db' : Tables)
      (handed : Handed db a priorGeneration db') :
      Change db op targetId (db.of targetId ++ [{ a with revokedAtUnixMs := none }])
  | revoked (target : String) (generation revokedAt : ℤ) :
      Change db op targetId ((db.of targetId).map (·.revoked target generation revokedAt))

theorem step_change (db : Tables) (op : Op) (targetId : String) : Change db op targetId ((step db op).of targetId) := by
  cases op with
  | handoff now a priorGeneration priorElectionCeiling =>
    simp only [step]
    split
    · rename_i result db' hok
      rcases handoff_ok hok with rfl | hhanded
      · exact .same
      · rw [(insertAssignment_ok hhanded.inserted).of]
        split
        · rename_i htarget
          exact .added now a priorGeneration priorElectionCeiling rfl htarget db' hhanded
        · rw [append_nil]
          exact .same
    · exact .same
  | revoke target generation revokedAt =>
    simp only [step]
    split
    · rename_i db' hok
      replace hok := passed hok
      replace hok := passed hok
      rw [← Except.ok.inj hok, revoked_of]
      exact .revoked target generation revokedAt
    · exact .same

/-! ## Generations and election ranges -/

/-- contiguous generations from one, with increasing election ranges -/
structure Ranked (rows : List AssignmentRow) : Prop where
  generations : rows.map (·.assignmentGeneration) = (List.range rows.length).map fun k : ℕ => (k : ℤ) + 1
  ordered : rows.Pairwise fun a b => a.assignmentGeneration < b.assignmentGeneration ∧ a.electionCeiling < b.electionFloor
  ranges : ∀ r ∈ rows, r.electionFloor ≤ r.electionCeiling

theorem Ranked.mem_iff (h : Ranked rows) (g : ℤ) :
    (∃ r ∈ rows, r.assignmentGeneration = g) ↔ 1 ≤ g ∧ g ≤ rows.length := by
  have hmem : (∃ r ∈ rows, r.assignmentGeneration = g) ↔ g ∈ rows.map (·.assignmentGeneration) := by simp
  rw [hmem, h.generations, mem_map]
  constructor
  · rintro ⟨k, hk, rfl⟩
    have hlt := List.mem_range.1 hk
    omega
  · intro hg
    exact ⟨(g - 1).toNat, List.mem_range.2 (by omega), by omega⟩

theorem Ranked.generation_le (h : Ranked rows) (hr : r ∈ rows) :
    1 ≤ r.assignmentGeneration ∧ r.assignmentGeneration ≤ rows.length := (h.mem_iff _).1 ⟨r, hr, rfl⟩

/-- the trigger, on ranked rows: the next generation, above every range -/
theorem Ranked.next (h : Ranked (db.of a.targetId)) (hinserted : Inserted db a db') :
    a.assignmentGeneration = (db.of a.targetId).length + 1 ∧
      ∀ r ∈ db.of a.targetId, r.electionCeiling < a.electionFloor := by
  have hmonotonic := hinserted.monotonic
  unfold checkMonotonic at hmonotonic
  dsimp only at hmonotonic
  split at hmonotonic
  · rename_i latestGeneration latestCeiling hgeneration hceiling
    have hmax := List.max?_eq_some_iff.1 hgeneration
    have hceilings := (List.max?_eq_some_iff.1 hceiling).2
    -- the primary key leaves only a generation above all
    have hbeyond : ((db.of a.targetId).length : ℤ) < a.assignmentGeneration := by
      by_contra hle
      obtain ⟨r, hr, hsame⟩ := (h.mem_iff a.assignmentGeneration).2 ⟨hinserted.positive, not_lt.1 hle⟩
      exact hinserted.new r hr hsame
    obtain ⟨latest, hlatest, rfl⟩ := List.mem_map.1 hmax.1
    have hlast := h.generation_le hlatest
    rw [if_neg (by omega)] at hmonotonic
    obtain ⟨_, hnext, hfloor⟩ := bind_ok.1 hmonotonic
    rw [reject_ok] at hnext hfloor
    push Not at hnext hfloor
    refine ⟨by omega, fun r hr => ?_⟩
    exact lt_of_le_of_lt (hceilings _ (mem_map_of_mem hr)) hfloor
  · rename_i hnone
    have hempty : db.of a.targetId = [] := by
      by_contra hne
      have hsome : ∀ f : AssignmentRow → ℤ, ∃ m, ((db.of a.targetId).map f).max? = some m :=
        fun f => Option.ne_none_iff_exists'.1 fun hmax => hne (List.map_eq_nil_iff.1 (List.max?_eq_none_iff.1 hmax))
      obtain ⟨g, hg⟩ := hsome (·.assignmentGeneration)
      obtain ⟨c, hc⟩ := hsome (·.electionCeiling)
      exact hnone g c hg hc
    rw [reject_ok, not_not] at hmonotonic
    rw [hempty]
    exact ⟨hmonotonic, by simp⟩

theorem ranked_nil : Ranked [] := ⟨rfl, .nil, by simp⟩

theorem Ranked.snoc (h : Ranked rows) (hgeneration : r.assignmentGeneration = rows.length + 1)
    (habove : ∀ x ∈ rows, x.electionCeiling < r.electionFloor) (hrange : r.electionFloor ≤ r.electionCeiling) :
    Ranked (rows ++ [r]) where
  generations := by
    rw [map_append, h.generations, length_append, length_singleton, range_succ, map_append]
    simp [hgeneration]
  ordered := by
    refine Run.pairwise_snoc.2 ⟨h.ordered, fun x hx => ?_⟩
    have hle := (h.generation_le hx).2
    exact ⟨by omega, habove x hx⟩
  ranges := by
    exact Run.forall_mem_snoc.2 ⟨h.ranges, hrange⟩

/-- an update that keeps the assignments keeps the ranks -/
theorem Ranked.map (h : Ranked rows) {f : AssignmentRow → AssignmentRow} (hf : ∀ r, (f r).toAssignment = r.toAssignment) :
    Ranked (rows.map f) where
  generations := by
    rw [map_map, length_map, ← h.generations]
    refine map_congr_left fun r _ => ?_
    simp [hf]
  ordered := by
    refine List.pairwise_map.2 (h.ordered.imp fun {x y} hxy => ?_)
    simpa [hf] using hxy
  ranges := by
    intro x hx
    obtain ⟨r, hr, rfl⟩ := List.mem_map.1 hx
    simpa [hf] using h.ranges r hr

theorem Change.ranked {op : Op} (h : Change db op targetId rows) (hdb : Ranked (db.of targetId)) : Ranked rows := by
  cases h with
  | same => exact hdb
  | added _ _ _ _ _ target _ handed =>
    subst target
    have hinserted := insertAssignment_ok handed.inserted
    obtain ⟨hgeneration, habove⟩ := hdb.next hinserted
    exact hdb.snoc hgeneration habove hinserted.range
  | revoked target generation revokedAt =>
    exact hdb.map fun r => r.revoked_toAssignment target generation revokedAt

/-- **Generations and election ranges of every run.** -/
theorem run_ranked (targets : List String) (ops : List Op) (targetId : String) :
    Ranked ((run targets ops).of targetId) :=
  foldl_invariant (s := init targets) (P := fun db => Ranked (db.of targetId)) ranked_nil
    (fun _ op ih => (step_change _ op targetId).ranked ih) ops

/-! ## Leases -/

/-- every lease has ended when a later one begins -/
def Leased (rows : List AssignmentRow) : Prop :=
  rows.Pairwise fun a b => a.assignmentGeneration < b.assignmentGeneration ∧ ∀ t, a.Valid t → t < b.issuedAtUnixMs

/-- no assignment is issued before the one it replaces -/
def Timely (db : Tables) : Op → Prop
  | .handoff _ a _ _ => ∀ r ∈ db.of a.targetId,
      (∀ x ∈ db.of a.targetId, x.assignmentGeneration ≤ r.assignmentGeneration) → r.issuedAtUnixMs ≤ a.issuedAtUnixMs
  | .revoke .. => True

instance (db : Tables) (op : Op) : Decidable (Timely db op) := by
  unfold Timely
  split <;> infer_instance

/-- the newest row has ended for the new one, and the others had ended for the newest -/
theorem Leased.ended (h : Leased (db.of a.targetId)) (hranked : Ranked (db.of a.targetId))
    (hhanded : Handed db a priorGeneration db') {now : ℤ}
    (htimely : Timely db (.handoff now a priorGeneration priorElectionCeiling)) (hr : r ∈ db.of a.targetId)
    (hvalid : r.Valid t) : t < a.issuedAtUnixMs := by
  cases hnewest : db.newest? a.targetId priorGeneration with
  | none =>
    have hgeneration := (hranked.next (insertAssignment_ok hhanded.inserted)).1
    rw [hhanded.first hnewest] at hgeneration
    have hlength := length_pos_of_mem hr
    omega
  | some p =>
    obtain ⟨hp, hprior, hmax⟩ := Table.find_decide hnewest
    rcases lt_or_eq_of_le (hmax r hr) with hlt | heq
    · have hbefore : t < p.issuedAtUnixMs := (Pointwise.rel_of_key_lt h hr hp (hprior ▸ hlt)) t hvalid
      exact lt_of_lt_of_le hbefore (htimely p hp fun x hx => hprior ▸ hmax x hx)
    · obtain rfl : r = p := by
        by_contra hne
        have hpairwise := hranked.ordered.imp fun {x y} hxy => (ne_of_lt hxy.1 : x.assignmentGeneration ≠ _)
        exact hne (Table.unique_of_pairwise hpairwise r hr p hp (heq.trans hprior.symm))
      exact (hhanded.released r hnewest).valid_lt hvalid

theorem Change.leased {op : Op} (h : Change db op targetId rows) (hranked : Ranked (db.of targetId))
    (hdb : Leased (db.of targetId)) (htimely : Timely db op) : Leased rows := by
  cases h with
  | same => exact hdb
  | added _ _ _ _ called target _ handed =>
    subst target called
    refine Run.pairwise_snoc.2 ⟨hdb, fun x hx => ?_⟩
    have hnext := (hranked.next (insertAssignment_ok handed.inserted)).1
    have hle := (hranked.generation_le hx).2
    refine ⟨?_, fun t hvalid => hdb.ended hranked handed htimely hx hvalid⟩
    dsimp only
    omega
  | revoked =>
    refine List.pairwise_map.2 (hdb.imp fun {x y} hxy => ?_)
    simp only [AssignmentRow.revoked_toAssignment]
    exact ⟨hxy.1, fun t hvalid => hxy.2 t (AssignmentRow.valid_of_revoked hvalid)⟩

/-- at most one lease at a time, contiguous generations, and election ranges that increase with them -/
structure Exclusive (rows : List AssignmentRow) : Prop where
  contiguous : rows.map (·.assignmentGeneration) = (List.range rows.length).map fun k : ℕ => (k : ℤ) + 1
  disjoint : ∀ a ∈ rows, ∀ b ∈ rows, a.assignmentGeneration ≠ b.assignmentGeneration → ∀ t, ¬ (a.Valid t ∧ b.Valid t)
  ranges : ∀ a ∈ rows, a.electionFloor ≤ a.electionCeiling
  elections : ∀ a ∈ rows, ∀ b ∈ rows, a.assignmentGeneration < b.assignmentGeneration → a.electionCeiling < b.electionFloor

theorem Leased.exclusive (h : Leased rows) (hranked : Ranked rows) : Exclusive rows where
  contiguous := hranked.generations
  disjoint := by
    intro a ha b hb hne t hboth
    rcases lt_or_gt_of_ne hne with hlt | hgt
    · exact absurd (Pointwise.rel_of_key_lt h ha hb hlt t hboth.1) (not_lt.2 hboth.2.1)
    · exact absurd (Pointwise.rel_of_key_lt h hb ha hgt t hboth.2) (not_lt.2 hboth.1.1)
  ranges := hranked.ranges
  elections := fun a ha b hb hlt => Pointwise.rel_of_key_lt hranked.ordered ha hb hlt

/-- **Handoffs exclude each other.** In every run in which no assignment is issued before the one it replaces, for every
target: the generations are contiguous from one, no two leases are held at one time, and the election ranges are disjoint
and increase with the generation. -/
theorem assignments_exclusive (targets : List String) {ops : List Op}
    (h : Along (fun pre op => Timely (run targets pre) op) ops) (targetId : String) :
    Exclusive ((run targets ops).of targetId) := by
  have hleased : Leased ((run targets ops).of targetId) :=
    h.invariant (s := init targets) (P := fun db => Leased (db.of targetId)) .nil fun pre op _ hop ih =>
      (step_change _ op targetId).leased (run_ranked targets pre targetId) ih hop
  exact hleased.exclusive (run_ranked targets ops targetId)

/-- generation `n` of the target "leaf-1", from its issue on for ten seconds -/
def labAssignment (generation issuedAt : ℤ) (leaseId : String) : Assignment :=
  { targetId := "leaf-1", assignmentGeneration := generation, incarnationId := "incarnation-1"
    edgeWorkloadRef := "edge-1", leaseId, issuedAtUnixMs := issuedAt, expiresAtUnixMs := issuedAt + 10000
    electionFloor := 10 * generation, electionCeiling := 10 * generation + 9, actorRuntimeEpoch := "epoch-1"
    applicationGeneration := 1, actor := ⟨"https://idp", "admin"⟩, traceId := "trace-1" }

/-- a handoff, a revocation before its expiry, and the next handoff -/
def revokedHandoff : List Op :=
  [.handoff 10000 (labAssignment 1 10000 "lease-1") 0 0, .revoke "leaf-1" 1 15000,
    .handoff 15000 (labAssignment 2 15000 "lease-2") 1 19]

theorem revoked_handoff_exclusive : let rows := (run ["leaf-1"] revokedHandoff).of "leaf-1"
    rows.length = 2 ∧ Exclusive rows := by
  refine ⟨by decide +kernel, assignments_exclusive ["leaf-1"] ?_ "leaf-1"⟩
  exact along_of_decide (P := Timely) step (init ["leaf-1"]) (by decide +kernel)

/-- the second assignment is issued five seconds ahead and revoked at once; the third one begins before it -/
def earlyRevoke : List Op :=
  [.handoff 10000 (labAssignment 1 10000 "lease-1") 0 0, .handoff 15000 (labAssignment 2 20000 "lease-2") 1 19,
    .revoke "leaf-1" 2 15001, .handoff 15001 (labAssignment 3 15001 "lease-3") 2 29]

/-- **Two leases at one time.** Generations one and three are both held at 16000. -/
theorem early_revoke_overlaps : ∃ a ∈ (run ["leaf-1"] earlyRevoke).of "leaf-1",
    ∃ b ∈ (run ["leaf-1"] earlyRevoke).of "leaf-1", a.assignmentGeneration = 1 ∧ b.assignmentGeneration = 3 ∧
      a.Valid 16000 ∧ b.Valid 16000 := by
  decide +kernel

end MasiEdge.Target
