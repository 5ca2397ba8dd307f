/-
The assignment ledger fences every pair of grants, not only consecutive ones.

The ledger keeps one entry for each target, with the latest generation, election range and incarnation. What it says of the
earlier ones is the invariant `Covers`: each accepted assignment is the recorded grant or lies strictly below it, and each
incarnation that another one has replaced is retired. The ledger in memory and the one on disk both cover the accepted
assignments. They differ after a write that was not completed, but never in what they cover.

- `candidate_advance`: what the ledger gains by an assignment, exact recovery or newer.
- `ledger_fenced`: in every run of the supervisor, with calls for any targets in any order, failed writes and restarts, two
  accepted assignments of one target are the same grant, or the later one has a larger generation and an election range
  above the whole earlier one; and a replaced incarnation is not accepted again.
-/
import MasiEdge.Supervisor.Machine

namespace MasiEdge.Supervisor

open Run
open Source (Fence)
open List

/-! ## Grants -/

/-- exact recovery: the same lease, generation and election range, and the same recovery digest -/
structure SameGrant (cfg : EdgeConfig) (a b : TargetAssignment) : Prop where
  digest : assignmentRecoveryDigest cfg a = assignmentRecoveryDigest cfg b
  lease : a.leaseId = b.leaseId
  generation : a.generation = b.generation
  floor : a.electionFloor = b.electionFloor
  ceiling : a.electionCeiling = b.electionCeiling

/-- the later grant is newer, with an election range above the whole earlier one -/
structure Below (a b : TargetAssignment) : Prop where
  generation : a.generation < b.generation
  range : a.electionCeiling < b.electionFloor ∧ b.electionFloor ≤ b.electionCeiling

/-- the accepted assignments, in order, fence each other -/
structure Fenced (cfg : EdgeConfig) (accepted : List TargetAssignment) : Prop where
  grants : accepted.Pairwise fun a b => a.targetId = b.targetId → SameGrant cfg a b ∨ Below a b
  replaced : ∀ a b c, [a, b, c].Sublist accepted → a.targetId = b.targetId → b.targetId = c.targetId →
    a.incarnation ≠ b.incarnation → c.incarnation ≠ a.incarnation

/-! ## What an entry says of earlier grants -/

/-- the assignment is the entry's last grant -/
structure IsLast (cfg : EdgeConfig) (e : TargetFenceLedger) (a : TargetAssignment) : Prop where
  digest : assignmentRecoveryDigest cfg a = e.lastAssignmentDigest
  lease : a.leaseId = e.lastLeaseId
  generation : a.generation = e.maxAssignmentGeneration
  floor : a.electionFloor = e.lastElectionFloor
  ceiling : a.electionCeiling = e.maxElectionCeiling

/-- the assignment is the entry's last grant, or lies below it -/
def Recorded (cfg : EdgeConfig) (e : TargetFenceLedger) (a : TargetAssignment) : Prop :=
  IsLast cfg e a ∨ (a.generation < e.maxAssignmentGeneration ∧ a.electionCeiling < e.lastElectionFloor)

/-- the assignment's incarnation is the current one or retired -/
def Known (e : TargetFenceLedger) (a : TargetAssignment) : Prop :=
  a.incarnation = e.currentIncarnation ∨ a.incarnation ∈ e.retiredIncarnations

/-- an entry is empty, or has an incarnation -/
structure EntryOk (e : TargetFenceLedger) : Prop where
  range : e.lastElectionFloor ≤ e.maxElectionCeiling
  blank : e.currentIncarnation = "" → e.maxAssignmentGeneration = 0

/-- the two ways an entry accepts an assignment -/
inductive Advance (cfg : EdgeConfig) (e : TargetFenceLedger) (a : TargetAssignment) : TargetFenceLedger → Prop where
  | recovered (hlast : IsLast cfg e a) (hcurrent : e.currentIncarnation = a.incarnation) : Advance cfg e a e
  | newer {e'} (hgeneration : e.maxAssignmentGeneration < a.generation) (hrange : e.maxElectionCeiling < a.electionFloor)
      (hlast : IsLast cfg e' a) (hcurrent : e'.currentIncarnation = a.incarnation)
      (hretired : ∀ x ∈ e.retiredIncarnations, x ∈ e'.retiredIncarnations)
      (hreplaced : e.currentIncarnation ≠ "" → e.currentIncarnation ≠ a.incarnation →
        e.currentIncarnation ∈ e'.retiredIncarnations) : Advance cfg e a e'

variable {cfg : EdgeConfig} {a : TargetAssignment} {ledger ledger' : AssignmentLedger} {accepted : List TargetAssignment}
  {s : SupervisorState}

theorem consumeFence_advance {e e' : TargetFenceLedger} {fence : Fence} (hfence : a.fence = some fence) (ha : WellFormed a)
    (he : EntryOk e) (h : consumeFence e fence a (assignmentRecoveryDigest cfg a) = .ok e') :
    a.incarnation ∉ e.retiredIncarnations ∧ Advance cfg e a e' := by
  have hgen : a.generation = fence.targetAssignmentGeneration := by simp [TargetAssignment.generation, hfence]
  have hinc : a.incarnation = fence.targetControlIncarnationId := by simp [TargetAssignment.incarnation, hfence]
  obtain ⟨hfresh, h⟩ := refuse_then h
  refine ⟨hinc ▸ hfresh, ?_⟩
  by_cases hexact : exactRecovery e fence a (assignmentRecoveryDigest cfg a)
  · rw [if_pos hexact] at h
    cases h
    obtain ⟨hsame, hgeneration, hfloor, hceiling, hlease, hdigest⟩ := hexact
    refine .recovered ⟨hdigest, hlease, hgen.trans hgeneration, hfloor, hceiling⟩ ?_
    rcases hsame with hempty | hsame
    · -- an entry without incarnation has never granted anything
      have hzero := he.blank hempty
      have hpos := ha.generation
      omega
    · exact hsame.trans hinc.symm
  · rw [if_neg hexact] at h
    replace h := passed h
    obtain ⟨hnewer, h⟩ := refuse_then h
    obtain ⟨habove, h⟩ := refuse_then h
    cases h
    refine .newer (hgen ▸ not_le.1 hnewer) (not_le.1 habove) ⟨rfl, rfl, hgen, rfl, rfl⟩
      hinc.symm ?_ ?_
    · intro x hx
      simp only
      split_ifs
      · exact mem_cons_of_mem _ hx
      · exact hx
    · intro hne hother
      have hreplaced : e.replacedBy fence.targetControlIncarnationId := ⟨hne, hinc ▸ hother⟩
      simp only [if_pos hreplaced]
      exact mem_cons_self

section

variable {cfg : EdgeConfig} {e e' : TargetFenceLedger} {a b : TargetAssignment}

variable (h : Advance cfg e a e')
include h

theorem Advance.last : IsLast cfg e' a := by
  cases h with
  | recovered hlast => exact hlast
  | newer _ _ hlast => exact hlast

theorem Advance.current : e'.currentIncarnation = a.incarnation := by
  cases h with
  | recovered _ hcurrent => exact hcurrent
  | newer _ _ _ hcurrent => exact hcurrent

theorem Advance.retired {x : String} (hx : x ∈ e.retiredIncarnations) : x ∈ e'.retiredIncarnations := by
  cases h with
  | recovered => exact hx
  | newer _ _ _ _ hretired => exact hretired x hx

theorem Advance.entryOk (ha : WellFormed a) : EntryOk e' := by
  have hlast := h.last
  refine ⟨?_, ?_⟩
  · rw [← hlast.floor, ← hlast.ceiling]
    exact ha.range
  · intro hblank
    rw [h.current] at hblank
    exact absurd hblank ha.incarnation

/-- what was recorded stays recorded -/
theorem Advance.recorded (he : EntryOk e) (hb : Recorded cfg e b) : Recorded cfg e' b := by
  cases h with
  | recovered => exact hb
  | newer hgeneration hrange hlast =>
    right
    rw [← hlast.generation, ← hlast.floor]
    rcases hb with hb | ⟨hgen, hceil⟩
    · rw [hb.generation, hb.ceiling]
      exact ⟨hgeneration, hrange⟩
    · have := he.range
      exact ⟨by omega, by omega⟩

/-- an earlier grant is the same as the new one, or lies below it -/
theorem Advance.fenced (ha : WellFormed a) (he : EntryOk e) (hb : Recorded cfg e b) : SameGrant cfg b a ∨ Below b a := by
  cases h with
  | recovered hlast =>
    rcases hb with hb | ⟨hgen, hceil⟩
    · exact .inl ⟨hb.digest.trans hlast.digest.symm, hb.lease.trans hlast.lease.symm,
        hb.generation.trans hlast.generation.symm, hb.floor.trans hlast.floor.symm, hb.ceiling.trans hlast.ceiling.symm⟩
    · rw [← hlast.generation] at hgen
      rw [← hlast.floor] at hceil
      exact .inr ⟨hgen, hceil, ha.range⟩
  | newer hgeneration hrange =>
    rcases hb with hb | ⟨hgen, hceil⟩
    · exact .inr ⟨hb.generation ▸ hgeneration, hb.ceiling ▸ hrange, ha.range⟩
    · have := he.range
      exact .inr ⟨by omega, by omega, ha.range⟩

/-- a known incarnation other than the new one is retired -/
theorem Advance.replaced (hb : Known e b) (hne : b.incarnation ≠ "") (hother : b.incarnation ≠ a.incarnation) :
    b.incarnation ∈ e'.retiredIncarnations := by
  rcases hb with hb | hb
  · cases h with
    | recovered _ hcurrent => exact absurd (hb.trans hcurrent) hother
    | newer _ _ _ _ _ hreplaced =>
      rw [hb] at hne hother ⊢
      exact hreplaced hne hother
  · exact h.retired hb

end

/-! ## The ledger covers what was accepted -/

theorem entryOf_insert (ledger : AssignmentLedger) (targetId other : String) (e : TargetFenceLedger) :
    entryOf (ledger.insert targetId e) other = if other = targetId then e else entryOf ledger other := by
  unfold entryOf
  split_ifs with h
  · rw [h, AList.lookup_insert, Option.getD_some]
  · rw [AList.lookup_insert_ne h]

structure Covers (cfg : EdgeConfig) (ledger : AssignmentLedger) (accepted : List TargetAssignment) : Prop where
  entries : ∀ targetId, EntryOk (entryOf ledger targetId)
  recorded : ∀ a ∈ accepted, Recorded cfg (entryOf ledger a.targetId) a
  known : ∀ a ∈ accepted, Known (entryOf ledger a.targetId) a
  replaced : accepted.Pairwise fun a b => a.targetId = b.targetId → a.incarnation ≠ b.incarnation →
    a.incarnation ∈ (entryOf ledger a.targetId).retiredIncarnations

theorem covers_empty (cfg : EdgeConfig) : Covers cfg ∅ [] where
  entries _ := ⟨le_rfl, fun _ => rfl⟩
  recorded _ ha := absurd ha not_mem_nil
  known _ ha := absurd ha not_mem_nil
  replaced := List.Pairwise.nil

theorem candidate_advance (ha : WellFormed a) (he : EntryOk (entryOf ledger a.targetId))
    (h : candidate cfg ledger a = .ok ledger') :
    a.incarnation ∉ (entryOf ledger a.targetId).retiredIncarnations ∧
      ∃ e, Advance cfg (entryOf ledger a.targetId) a e ∧ ledger' = ledger.insert a.targetId e := by
  obtain ⟨fence, hfence, h⟩ := bind_ok.1 h
  obtain ⟨e, hconsume, h⟩ := bind_ok.1 h
  obtain ⟨hfresh, hadvance⟩ := consumeFence_advance (required_ok hfence) ha he hconsume
  exact ⟨hfresh, e, hadvance, (Except.ok.inj h).symm⟩

/-- **One accepted assignment.** -/
theorem Covers.advance (h : Covers cfg ledger accepted) (hformed : ∀ b ∈ accepted, WellFormed b) (ha : WellFormed a)
    (hcandidate : candidate cfg ledger a = .ok ledger') : Covers cfg ledger' (accepted ++ [a]) := by
  obtain ⟨-, e, hadvance, rfl⟩ := candidate_advance ha (h.entries _) hcandidate
  have hknown : ∀ b ∈ accepted, b.targetId = a.targetId → Known e b := by
    intro b hb htarget
    by_cases hsame : b.incarnation = a.incarnation
    · exact .inl (hsame.trans hadvance.current.symm)
    · exact .inr (hadvance.replaced (htarget ▸ h.known b hb) (hformed b hb).incarnation hsame)
  refine ⟨?_, ?_, ?_, ?_⟩
  · intro targetId
    rw [entryOf_insert]
    split_ifs
    · exact hadvance.entryOk ha
    · exact h.entries targetId
  · intro b hb
    rw [entryOf_insert]
    rcases Run.mem_snoc.1 hb with hb | rfl
    · split_ifs with htarget
      · exact hadvance.recorded (h.entries _) (htarget ▸ h.recorded b hb)
      · exact h.recorded b hb
    · rw [if_pos rfl]
      exact .inl hadvance.last
  · intro b hb
    rw [entryOf_insert]
    rcases Run.mem_snoc.1 hb with hb | rfl
    · split_ifs with htarget
      · exact hknown b hb htarget
      · exact h.known b hb
    · rw [if_pos rfl]
      exact .inl hadvance.current.symm
  · refine Run.pairwise_snoc.2 ⟨?_, ?_⟩
    · refine h.replaced.imp ?_
      intro b c hbc htarget hother
      rw [entryOf_insert]
      split_ifs with hsame
      · exact hadvance.retired (hsame ▸ hbc htarget hother)
      · exact hbc htarget hother
    · intro b hb htarget hother
      rw [entryOf_insert, if_pos htarget]
      exact hadvance.replaced (htarget ▸ h.known b hb) (hformed b hb).incarnation hother

theorem Fenced.advance (hfenced : Fenced cfg accepted) (h : Covers cfg ledger accepted) (ha : WellFormed a)
    (hcandidate : candidate cfg ledger a = .ok ledger') : Fenced cfg (accepted ++ [a]) := by
  obtain ⟨hfresh, e, hadvance, -⟩ := candidate_advance ha (h.entries _) hcandidate
  refine ⟨?_, ?_⟩
  · refine Run.pairwise_snoc.2 ⟨hfenced.grants, fun b hb htarget => ?_⟩
    exact hadvance.fenced ha (h.entries _) (htarget ▸ h.recorded b hb)
  · intro x y z hsub hxy hyz hother
    obtain ⟨front, back, hsplit, hfront, hback⟩ := List.sublist_append_iff.1 hsub
    rcases eq_nil_or_concat back with rfl | ⟨back, last, rfl⟩
    · rw [append_nil] at hsplit
      exact hfenced.replaced x y z (hsplit ▸ hfront) hxy hyz hother
    · -- the last of the three is the new one; the other two were accepted before
      obtain ⟨rfl, rfl⟩ : back = [] ∧ last = a := by
        have hlength := hback.length_le
        have hnil : back = [] := by
          exact eq_nil_of_length_eq_zero (by simpa using hlength)
        subst hnil
        exact ⟨rfl, List.mem_singleton.1 (hback.subset mem_cons_self)⟩
      obtain ⟨rfl, hlast⟩ := append_inj' (show [x, y] ++ [z] = front ++ [last] from hsplit) rfl
      obtain rfl := List.singleton_inj.1 hlast
      have hretired := List.pairwise_iff_forall_sublist.1 h.replaced hfront hxy hother
      rw [hxy.trans hyz] at hretired
      exact fun heq => hfresh (heq ▸ hretired)

/-! ## Every run -/

structure LedgerInv (cfg : EdgeConfig) (s : SupervisorState) : Prop where
  flights : ∀ f ∈ s.flights, WellFormed f.assignment
  accepted : ∀ a ∈ s.accepted, WellFormed a
  memory : Covers cfg s.ledger s.accepted
  disk : Covers cfg s.disk s.accepted
  fenced : Fenced cfg s.accepted

/-- fewer flights and the same ledgers keep the invariant -/
theorem LedgerInv.of_eq {t : SupervisorState} (h : LedgerInv cfg s) (hledger : t.ledger = s.ledger)
    (hdisk : t.disk = s.disk) (haccepted : t.accepted = s.accepted) (hflights : ∀ f ∈ t.flights, f ∈ s.flights) :
    LedgerInv cfg t where
  flights f hf := h.flights f (hflights f hf)
  accepted := haccepted ▸ h.accepted
  memory := by rw [hledger, haccepted]; exact h.memory
  disk := by rw [hdisk, haccepted]; exact h.disk
  fenced := haccepted ▸ h.fenced

theorem LedgerInv.consume {f : Flight} (h : LedgerInv cfg s) (hf : WellFormed f.assignment) (io : LedgerIo) :
    LedgerInv cfg (consumeAssignmentFence cfg s f io) := by
  unfold consumeAssignmentFence
  cases hcandidate : candidate cfg s.ledger f.assignment with
  | error => exact h.of_eq rfl rfl rfl fun _ hf => (mem_landed.1 hf).1
  | ok ledger =>
    have hcovers := h.memory.advance h.accepted hf hcandidate
    -- a write that is not completed still leaves a ledger that covers what was accepted
    have hbefore : Covers cfg ledger s.accepted :=
      { entries := hcovers.entries
        recorded := fun a ha => hcovers.recorded a (mem_append_left _ ha)
        known := fun a ha => hcovers.known a (mem_append_left _ ha)
        replaced := hcovers.replaced.sublist (sublist_append_left _ _) }
    have hdisk : LedgerInv cfg { s with disk := ledger } := ⟨h.flights, h.accepted, h.memory, hbefore, h.fenced⟩
    cases io with
    | failed => exact h.of_eq rfl rfl rfl fun _ hf => (mem_landed.1 hf).1
    | failedLate e | dropped => exact hdisk.of_eq rfl rfl rfl fun _ hf => (mem_landed.1 hf).1
    | done =>
      refine ⟨?_, ?_, hcovers, hcovers, h.fenced.advance h.memory hf hcandidate⟩
      · intro g hg
        rcases List.mem_cons.1 hg with rfl | hg
        · exact hf
        · exact h.flights g (mem_landed.1 hg).1
      · exact Run.forall_mem_snoc.2 ⟨h.accepted, hf⟩

/-- the actor's epoch is no part of what the ledger reads -/
theorem WellFormed.withEpoch (h : WellFormed a) (epoch : String) :
    WellFormed { a with fence := a.fence.map fun fence => { fence with actorRuntimeEpoch := epoch } } := by
  obtain ⟨fence, hfence⟩ := Option.isSome_iff_exists.1 h.fence
  have hincarnation := h.incarnation
  have hgeneration := h.generation
  refine ⟨?_, ?_, ?_, h.range⟩
  · simp [hfence]
  · simpa [TargetAssignment.incarnation, hfence] using hincarnation
  · simpa [TargetAssignment.generation, hfence] using hgeneration

theorem LedgerInv.begin (h : LedgerInv cfg s) (a : TargetAssignment) (epoch : String) :
    LedgerInv cfg (beginAssign cfg s a epoch).2 := by
  unfold beginAssign
  cases hadmission : admission cfg s a with
  | error => exact h
  | ok replay =>
    cases replay with
    | some => exact h
    | none =>
      have hformed := (admission_begin hadmission).1.withEpoch epoch
      refine ⟨?_, h.accepted, h.memory, h.disk, h.fenced⟩
      intro f hf
      rcases List.mem_cons.1 hf with rfl | hf
      · exact hformed
      · exact h.flights f hf

theorem LedgerInv.finish (h : LedgerInv cfg s) (f : Flight) (reply : EdgeResult Actor.SpawnReplies) :
    LedgerInv cfg (finishAssign cfg s f reply).2 := by
  have hclosed : LedgerInv cfg (s.closePrior f.assignment.targetId) := by
    obtain ⟨actors, hclose⟩ := closePrior_eq s f.assignment.targetId
    rw [hclose]
    exact h.of_eq rfl rfl rfl fun _ hg => hg
  cases reply with
  | error e | ok env => exact hclosed.of_eq rfl rfl rfl fun _ hf => (mem_landed.1 hf).1

theorem step_ledgerInv (cfg : EdgeConfig) (s : SupervisorState) (op : Op) (h : LedgerInv cfg s) :
    LedgerInv cfg (step cfg s op) := by
  unfold step
  split_ifs with hrun
  · cases op with
    | start =>
      simp only [perform]
      split_ifs
      · -- the new process has the ledger of the disk
        exact ⟨fun f hf => absurd hf not_mem_nil, h.accepted, h.disk, h.disk, h.fenced⟩
      · exact h
    | stop | shutdown => exact h.of_eq rfl rfl rfl fun _ hf => hf
    | assign a epoch => exact h.begin a epoch
    | fence targetId io =>
      simp only [perform]
      cases hflight : s.flight targetId with
      | none => exact h
      | some f =>
        simp only
        split_ifs
        · exact h
        · exact h.consume (h.flights f (flight_mem hflight)) io
    | spawn targetId reply =>
      simp only [perform]
      cases s.flight targetId with
      | none => exact h
      | some f =>
        simp only
        split_ifs
        · exact h.finish f reply
        · exact h
    | abandon => exact h.of_eq rfl rfl rfl fun _ hf => (mem_landed.1 hf).1
    | actor targetId =>
      simp only [perform]
      cases s.actors.lookup targetId with
      | none => exact h
      | some => exact h.of_eq rfl rfl rfl fun _ hf => hf
  · exact h

theorem run_ledgerInv (cfg : EdgeConfig) (ops : List Op) : LedgerInv cfg (run cfg ops) := by
  refine foldl_invariant (P := LedgerInv cfg) ⟨fun f hf => absurd hf not_mem_nil, fun a ha => absurd ha not_mem_nil,
    covers_empty cfg, covers_empty cfg, List.Pairwise.nil, ?_⟩ (fun _ op ih => step_ledgerInv cfg _ op ih) ops
  intro a b c hsub
  exact absurd (hsub.subset mem_cons_self) not_mem_nil

/-- **Assignment fencing.** In every run, any two accepted assignments of a target are the same grant, or the later one is
strictly newer with an election range above the whole earlier one; a replaced incarnation is not accepted again. -/
theorem ledger_fenced (cfg : EdgeConfig) (ops : List Op) : Fenced cfg (run cfg ops).accepted :=
  (run_ledgerInv cfg ops).fenced

end MasiEdge.Supervisor
