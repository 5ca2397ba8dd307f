/-
Which target owns an endpoint/device tuple.

A call of `assign` takes its tuple before the two parts that can fail and gives it back when one of them does. Giving back
means removing the key. That is right for a tuple nobody owned when the call began. If the target owned it already, through
the actor it still has, the failed call takes the tuple away from that actor, and another target can be assigned to it.

- `endpoint_exclusive`: in every run in which no call fails on a tuple its target owned before, every target with an actor
  owns the tuple of its assignment, two targets with actors never share one, and a failed call leaves the owners as they
  were.
- `shared_endpoint`: a run in which two actors are primary on one device.
-/
import MasiEdge.Actor.Fencing
import MasiEdge.Supervisor.Machine

namespace MasiEdge.Supervisor

open Run
open Actor (ActorState SpawnReplies)
open List

/-! ## The property and its condition -/

structure Exclusive (s : SupervisorState) : Prop where
  owned : ∀ t, (s.actors.lookup t).isSome = true →
    ∃ a, s.assignments.lookup t = some a ∧ s.endpointOwners.lookup a.endpointKey = some t
  apart : ∀ t u a b, t ≠ u → (s.actors.lookup t).isSome = true → (s.actors.lookup u).isSome = true →
    s.assignments.lookup t = some a → s.assignments.lookup u = some b → a.endpointKey ≠ b.endpointKey

/-- the ledger refuses the fence, or cannot be written -/
def ledgerFails (cfg : EdgeConfig) (s : SupervisorState) (f : Flight) (io : LedgerIo) : Bool :=
  match candidate cfg s.ledger f.assignment, io with
  | .error _, _ => true
  | .ok _, .failed _ => true
  | .ok _, .failedLate _ => true
  | .ok _, .dropped => false
  | .ok _, .done => false

/-- the call that the operation ends with an error -/
def failing (cfg : EdgeConfig) (s : SupervisorState) (op : Op) : Option Flight :=
  if s.running then
    match op with
    | .fence targetId io => (s.flight targetId).filter fun f => !f.fenced && ledgerFails cfg s f io
    | .spawn targetId reply => (s.flight targetId).filter fun f => f.fenced && !reply.isOk
    | _ => none
  else none

/-- a failed call leaves the owners as they were: nobody's key changed but its own, which is as before the call -/
def Restores (cfg : EdgeConfig) (s : SupervisorState) (op : Op) : Prop :=
  ∀ f, failing cfg s op = some f → ∀ key, (step cfg s op).endpointOwners.lookup key =
    if key = f.assignment.endpointKey then f.ownerBefore else s.endpointOwners.lookup key

/-- no call fails on a tuple that its target owned when the call began -/
def FailsOnlyOnFree (cfg : EdgeConfig) (s : SupervisorState) (op : Op) : Prop :=
  ∀ f, failing cfg s op = some f → f.ownerBefore = none

/-! ## The invariant -/

structure EndpointInv (s : SupervisorState) : Prop where
  owned : ∀ t a, s.assignments.lookup t = some a → s.endpointOwners.lookup a.endpointKey = some t
  assigned : ∀ t, (s.actors.lookup t).isSome = true → (s.assignments.lookup t).isSome = true
  taken : ∀ f ∈ s.flights, s.endpointOwners.lookup f.assignment.endpointKey = some f.assignment.targetId
  /-- a tuple that was free is not the one of the target's own actor -/
  free : ∀ f ∈ s.flights, f.ownerBefore = none →
    ∀ a, s.assignments.lookup f.assignment.targetId = some a → a.endpointKey ≠ f.assignment.endpointKey
  pending : ∀ f ∈ s.flights, f.assignment.targetId ∈ s.pendingTargets

variable {s : SupervisorState} {cfg : EdgeConfig} {f : Flight} {op : Op}

theorem EndpointInv.exclusive (h : EndpointInv s) : Exclusive s where
  owned t ht := by
    obtain ⟨a, ha⟩ := Option.isSome_iff_exists.1 (h.assigned t ht)
    exact ⟨a, ha, h.owned t a ha⟩
  apart t u a b hne _ _ ha hb hkey := by
    have howner := h.owned t a ha
    rw [hkey, h.owned u b hb] at howner
    exact hne (Option.some.inj howner).symm

section

variable (h : EndpointInv s)
include h

/-- the same owners and assignments, no new flight and no new actor -/
theorem EndpointInv.of_eq {t : SupervisorState} (howners : t.endpointOwners = s.endpointOwners)
    (hassignments : t.assignments = s.assignments) (hflights : ∀ f ∈ t.flights, f ∈ s.flights)
    (hpending : ∀ x ∈ s.pendingTargets, x ∈ t.pendingTargets)
    (hactors : ∀ x, (t.actors.lookup x).isSome = true → (s.actors.lookup x).isSome = true) : EndpointInv t where
  owned := by rw [howners, hassignments]; exact h.owned
  assigned x hx := hassignments ▸ h.assigned x (hactors x hx)
  taken f hf := howners ▸ h.taken f (hflights f hf)
  free f hf := hassignments ▸ h.free f (hflights f hf)
  pending f hf := hpending _ (h.pending f (hflights f hf))

theorem EndpointInv.landed (targetId : String) : EndpointInv (s.landed targetId) :=
  h.of_eq rfl rfl (fun _ hf => (mem_landed.1 hf).1) (fun _ hx => hx) fun _ hx => hx

/-- replacing an actor by another handle adds no target -/
theorem EndpointInv.actors {targetId : String} {old new : ActorHandle} (hold : s.actors.lookup targetId = some old) :
    EndpointInv { s with actors := s.actors.insert targetId new } := by
  refine h.of_eq rfl rfl (fun _ hf => hf) (fun _ hx => hx) ?_
  intro x hx
  by_cases hsame : x = targetId
  · rw [hsame, hold]
    rfl
  · rwa [AList.lookup_insert_ne hsame] at hx

/-- **Taking a tuple.** -/
theorem EndpointInv.begin (a : TargetAssignment) (epoch : String) : EndpointInv (beginAssign cfg s a epoch).2 := by
  unfold beginAssign
  cases hadmission : admission cfg s a with
  | error => exact h
  | ok replay =>
    cases replay with
    | some => exact h
    | none =>
      obtain ⟨-, -, howner⟩ := admission_begin hadmission
      -- whoever owned the tuple before is this target
      have hself : ∀ t, s.endpointOwners.lookup a.endpointKey = some t → t = a.targetId := by
        intro t ht
        rcases howner with hnone | hsome
        · rw [hnone] at ht
          cases ht
        · exact Option.some.inj (ht.symm.trans hsome)
      have hkeep : ∀ key t, s.endpointOwners.lookup key = some t →
          (s.endpointOwners.insert a.endpointKey a.targetId).lookup key = some t := by
        intro key t ht
        by_cases hkey : key = a.endpointKey
        · subst hkey
          rw [AList.lookup_insert, hself t ht]
        · rw [AList.lookup_insert_ne hkey]
          exact ht
      refine ⟨fun t b hb => hkeep _ _ (h.owned t b hb), h.assigned, ?_, ?_, ?_⟩
      · intro f hf
        rcases List.mem_cons.1 hf with rfl | hf
        · exact AList.lookup_insert _
        · exact hkeep _ _ (h.taken f hf)
      · intro f hf hfree b hb
        rcases List.mem_cons.1 hf with rfl | hf
        · intro hkey
          have howned := h.owned _ b hb
          rw [hkey] at howned
          exact absurd (hfree.symm.trans howned) (by simp)
        · exact h.free f hf hfree b hb
      · intro f hf
        rcases List.mem_cons.1 hf with rfl | hf
        · exact mem_cons_self
        · exact mem_cons_of_mem _ (h.pending f hf)

/-- **Giving a tuple back**, if it was free before. -/
theorem EndpointInv.giveBack (hf : f ∈ s.flights) (hfree : f.ownerBefore = none) :
    EndpointInv (s.giveBack f.assignment) := by
  have hother : ∀ {key t}, s.endpointOwners.lookup key = some t → key = f.assignment.endpointKey →
      t = f.assignment.targetId := by
    intro key t ht hkey
    rw [hkey, h.taken f hf] at ht
    exact (Option.some.inj ht).symm
  refine ⟨?_, h.assigned, ?_, ?_, ?_⟩
  · intro t a ha
    have hne : a.endpointKey ≠ f.assignment.endpointKey := by
      intro hkey
      obtain rfl := hother (h.owned t a ha) hkey
      exact h.free f hf hfree a ha hkey
    exact (AList.lookup_erase_ne hne).trans (h.owned t a ha)
  · intro g hg
    obtain ⟨hg, htarget⟩ := mem_landed.1 hg
    have hne : g.assignment.endpointKey ≠ f.assignment.endpointKey := fun hkey => htarget (hother (h.taken g hg) hkey)
    exact (AList.lookup_erase_ne hne).trans (h.taken g hg)
  · intro g hg
    exact h.free g (mem_landed.1 hg).1
  · intro g hg
    obtain ⟨hg, htarget⟩ := mem_landed.1 hg
    exact List.mem_filter.2 ⟨h.pending g hg, by simpa using htarget⟩

theorem EndpointInv.consume {io : LedgerIo} (hf : f ∈ s.flights)
    (hfree : ledgerFails cfg s f io = true → f.ownerBefore = none) : EndpointInv (consumeAssignmentFence cfg s f io) := by
  unfold consumeAssignmentFence
  unfold ledgerFails at hfree
  -- neither the ledgers nor the flag are read by the invariant
  have hsame : ∀ (ledger disk : AssignmentLedger) accepting accepted, EndpointInv
      { s with ledger, disk, acceptingAssignments := accepting, accepted } := fun _ _ _ _ =>
    h.of_eq rfl rfl (fun _ hg => hg) (fun _ hx => hx) fun _ hx => hx
  cases hcandidate : candidate cfg s.ledger f.assignment with
  | error => exact h.giveBack hf (hfree (by rw [hcandidate]))
  | ok ledger =>
    rw [hcandidate] at hfree
    cases io with
    | failed => exact (hsame s.ledger s.disk false s.accepted).giveBack hf (hfree rfl)
    | failedLate => exact (hsame s.ledger ledger false s.accepted).giveBack hf (hfree rfl)
    | dropped => exact (hsame s.ledger ledger s.acceptingAssignments s.accepted).landed _
    | done =>
      -- the flight stays, now fenced
      refine ⟨h.owned, h.assigned, ?_, ?_, ?_⟩
      · intro g hg
        rcases List.mem_cons.1 hg with rfl | hg
        · exact h.taken f hf
        · exact h.taken g (mem_landed.1 hg).1
      · intro g hg
        rcases List.mem_cons.1 hg with rfl | hg
        · exact h.free f hf
        · exact h.free g (mem_landed.1 hg).1
      · intro g hg
        rcases List.mem_cons.1 hg with rfl | hg
        · exact h.pending f hf
        · exact h.pending g (mem_landed.1 hg).1

theorem EndpointInv.closePrior (targetId : String) : EndpointInv (s.closePrior targetId) := by
  unfold SupervisorState.closePrior
  cases hprior : s.actors.lookup targetId with
  | none => exact h
  | some => exact h.actors hprior

/-- **A spawned actor** stands behind the tuple that its call took. -/
theorem EndpointInv.finish {reply : EdgeResult SpawnReplies} (hf : f ∈ s.flights)
    (hfree : reply.isOk = false → f.ownerBefore = none) : EndpointInv (finishAssign cfg s f reply).2 := by
  have hclosed := h.closePrior f.assignment.targetId
  have hmem : f ∈ (s.closePrior f.assignment.targetId).flights := by
    obtain ⟨actors, hclose⟩ := closePrior_eq s f.assignment.targetId
    rw [hclose]
    exact hf
  unfold finishAssign
  cases reply with
  | error => exact hclosed.giveBack hmem (hfree rfl)
  | ok =>
    simp only
    generalize s.closePrior f.assignment.targetId = c at hclosed hmem
    refine ⟨?_, ?_, ?_, ?_, ?_⟩
    · intro t a ha
      by_cases hsame : t = f.assignment.targetId
      · subst hsame
        rw [AList.lookup_insert] at ha
        cases ha
        exact hclosed.taken f hmem
      · rw [AList.lookup_insert_ne hsame] at ha
        exact hclosed.owned t a ha
    · intro t ht
      by_cases hsame : t = f.assignment.targetId
      · subst hsame
        rw [AList.lookup_insert]
        rfl
      · rw [AList.lookup_insert_ne hsame] at ht ⊢
        exact hclosed.assigned t ht
    · intro g hg
      exact hclosed.taken g (mem_landed.1 hg).1
    · intro g hg hgfree a ha
      obtain ⟨hg, htarget⟩ := mem_landed.1 hg
      rw [AList.lookup_insert_ne htarget] at ha
      exact hclosed.free g hg hgfree a ha
    · intro g hg
      obtain ⟨hg, htarget⟩ := mem_landed.1 hg
      exact List.mem_filter.2 ⟨hclosed.pending g hg, by simpa using htarget⟩

/-! ## Every run -/

theorem step_endpointInv (hcond : FailsOnlyOnFree cfg s op) : EndpointInv (step cfg s op) := by
  unfold step
  by_cases hrun : s.running = !op.isStart
  · rw [if_pos hrun]
    cases op with
    | start =>
      simp only [perform]
      split_ifs
      · exact ⟨fun t a ha => by simp [SupervisorState.opened] at ha, fun t ht => by simp [SupervisorState.opened] at ht,
          fun f hf => absurd hf not_mem_nil, fun f hf => absurd hf not_mem_nil,
          fun f hf => absurd hf not_mem_nil⟩
      · exact h
    | stop | shutdown => exact h.of_eq rfl rfl (fun _ hf => hf) (fun _ hx => hx) fun _ hx => hx
    | assign a epoch => exact h.begin a epoch
    | fence targetId =>
      simp only [perform]
      cases hflight : s.flight targetId with
      | none => exact h
      | some f =>
        simp only
        by_cases hfenced : f.fenced = true
        · rw [if_pos hfenced]
          exact h
        · rw [if_neg hfenced]
          refine h.consume (flight_mem hflight) ?_
          intro hfails
          refine hcond f ?_
          simp [failing, show s.running = true from hrun, hflight, hfenced, hfails]
    | spawn targetId =>
      simp only [perform]
      cases hflight : s.flight targetId with
      | none => exact h
      | some f =>
        simp only
        by_cases hfenced : f.fenced = true
        · rw [if_pos hfenced]
          refine h.finish (flight_mem hflight) ?_
          intro hfails
          refine hcond f ?_
          simp [failing, show s.running = true from hrun, hflight, hfenced, hfails]
        · rw [if_neg hfenced]
          exact h
    | abandon targetId => exact h.landed targetId
    | actor targetId =>
      simp only [perform]
      cases hhandle : s.actors.lookup targetId with
      | none => exact h
      | some => exact h.actors hhandle
  · rw [if_neg hrun]
    exact h

end

/-- a failed call removes its key and nothing else -/
theorem failing_erases (h : failing cfg s op = some f) :
    (step cfg s op).endpointOwners = s.endpointOwners.erase f.assignment.endpointKey := by
  unfold failing at h
  by_cases hrun : s.running = true
  · rw [if_pos hrun] at h
    unfold step
    cases op with
    | fence targetId io =>
      rw [if_pos (show s.running = !(Op.fence targetId io).isStart from hrun)]
      obtain ⟨hflight, hfails⟩ := Option.filter_eq_some_iff.1 h
      obtain ⟨hfenced, hfails⟩ := Bool.and_eq_true_iff.1 hfails
      have hfenced : ¬ f.fenced = true := by simpa using hfenced
      simp only [perform, hflight, if_neg hfenced]
      unfold ledgerFails at hfails
      unfold consumeAssignmentFence
      cases hcandidate : candidate cfg s.ledger f.assignment with
      | error => rfl
      | ok =>
        rw [hcandidate] at hfails
        cases io with
        | failed => rfl
        | failedLate => rfl
        | dropped => cases hfails
        | done => cases hfails
    | spawn targetId reply =>
      rw [if_pos (show s.running = !(Op.spawn targetId reply).isStart from hrun)]
      obtain ⟨hflight, hfails⟩ := Option.filter_eq_some_iff.1 h
      obtain ⟨hfenced, hfails⟩ := Bool.and_eq_true_iff.1 hfails
      simp only [perform, hflight, if_pos hfenced]
      cases reply with
      | ok => cases hfails
      | error =>
        obtain ⟨actors, hclose⟩ := closePrior_eq s f.assignment.targetId
        simp only [finishAssign, SupervisorState.giveBack, hclose]
    | _ => cases h
  · rw [if_neg hrun] at h
    cases h

theorem restores_of_free (hcond : FailsOnlyOnFree cfg s op) :
    Restores cfg s op := by
  intro f hf key
  rw [failing_erases hf, hcond f hf]
  split_ifs with hkey
  · rw [hkey, AList.lookup_erase]
  · rw [AList.lookup_erase_ne hkey]

theorem run_endpointInv {ops : List Op} (h : Along (fun pre op => FailsOnlyOnFree cfg (run cfg pre) op) ops) :
    EndpointInv (run cfg ops) :=
  h.invariant (P := EndpointInv) ⟨fun t a ha => by simp [SupervisorState.initial] at ha,
    fun t ht => by simp [SupervisorState.initial] at ht, fun f hf => absurd hf not_mem_nil,
    fun f hf => absurd hf not_mem_nil, fun f hf => absurd hf not_mem_nil⟩
    fun _ _ _ hop ih => step_endpointInv ih hop

/-- **Endpoint exclusivity.** In every run in which no call fails on a tuple that its target owned when the call began, the
owners stay exclusive, and every failed call leaves them as they were. -/
theorem endpoint_exclusive (cfg : EdgeConfig) (ops : List Op)
    (h : Along (fun pre op => FailsOnlyOnFree cfg (run cfg pre) op) ops) :
    Exclusive (run cfg ops) ∧ Along (fun pre op => Restores cfg (run cfg pre) op) ops :=
  ⟨(run_endpointInv h).exclusive, h.imp fun _ _ hcond => restores_of_free hcond⟩

/-! ## Two targets on one device -/

def zeroes : String := "sha256:0000000000000000000000000000000000000000000000000000000000000000"

def leafConfig : EdgeConfig where
  clientIdentities := [("p4-leaf", "leaf.example")]
  controlSinkIdentityRef := "sink"
  serverIdentityRef := "edge"
  maxTargets := 8
  hash := fun bytes => toString bytes.length
  encode := fun a => asBytes a.leaseId
  actor := Actor.staleContext

/-- an assignment to device 1 of the one endpoint -/
def leafAssignment (targetId leaseId : String) (generation floor : ℕ) : TargetAssignment where
  schemaVersion := "target-assignment/v1"
  targetId
  deviceId := 1
  role := "leaf"
  p4runtimeEndpoint := "https://leaf.example:9559"
  p4runtimeTls := some ⟨"leaf.example", "p4-leaf"⟩
  fence := some ⟨"control-1", generation, "", 1, 0, floor⟩
  leaseId
  issuedAtUnixMs := 0
  expiresAtUnixMs := 1000
  electionFloor := floor
  electionCeiling := floor + 9
  expectedPipeline := some ⟨"1.4.1", zeroes, zeroes, zeroes, 7, [continueOnError]⟩
  observationEpoch := 1
  resetEpoch := 1
  traceId := "trace-1"

/-- a spawn that finds empty logs and connects as primary -/
def leafSpawn : SpawnReplies := { Actor.staleSpawn with source := Source.SourceState.empty }

def assigned (a : TargetAssignment) (epoch : String) : List Op :=
  [.assign a epoch, .fence a.targetId .done, .spawn a.targetId (.ok leafSpawn)]

/-- leaf-1 has the device; a call for leaf-2 on another one fails in the ledger write -/
def separate : List Op :=
  .start (.ok ()) :: assigned (leafAssignment "leaf-1" "lease-1" 1 10) "actor:1" ++
    [.assign { leafAssignment "leaf-2" "lease-2" 1 10 with deviceId := 2 } "actor:2",
     .fence "leaf-2" (.failed (.io "write and fsync assignment ledger"))]

/-- the failing call found its tuple free -/
def freeAt (cfg : EdgeConfig) (s : SupervisorState) (op : Op) : Bool := (failing cfg s op).all fun f => f.ownerBefore.isNone

theorem separate_exclusive :
    ((run leafConfig separate).actors.lookup "leaf-1").isSome = true ∧ Exclusive (run leafConfig separate) := by
  have hfree : holdsAlong (step leafConfig) (freeAt leafConfig) SupervisorState.initial separate = true := by decide +kernel
  refine ⟨by decide +kernel, (endpoint_exclusive _ _ ?_).1⟩
  refine (along_of_holdsAlong hfree).imp ?_
  intro pre op hat f hf
  have hnone : (failing leafConfig (run leafConfig pre) op).all (fun f => f.ownerBefore.isNone) = true := hat
  rw [hf] at hnone
  simpa using hnone

/-- a stale call for leaf-1 fails while its actor is read-only; leaf-2 then gets the device; leaf-1 is renewed -/
def sharing : List Op :=
  .start (.ok ()) :: assigned (leafAssignment "leaf-1" "lease-1" 1 10) "actor:1" ++
    [.actor "leaf-1" (.advance 2000) false, .actor "leaf-1" (.maintain Actor.staleTick) true,
     .assign (leafAssignment "leaf-1" "lease-2" 1 10) "actor:2", .fence "leaf-1" .done] ++
    assigned (leafAssignment "leaf-2" "lease-3" 1 10) "actor:3" ++
    [.actor "leaf-1" (.renew ⟨"target-lease-renew/v1", "leaf-1", some ⟨"control-1", 1, "actor:1", 1, 0, 10⟩, "lease-1", 1000⟩ 0)
      true]

/-- the state an actor has published -/
def publishedState (s : SupervisorState) (targetId : String) : Option ActorState :=
  (s.actors.lookup targetId).map fun handle => handle.status.actorState

/-- **Two primary actors on one device.** The failed call took the tuple from the actor that leaf-1 still had. -/
theorem shared_endpoint :
    publishedState (run leafConfig sharing) "leaf-1" = some .primary ∧
      publishedState (run leafConfig sharing) "leaf-2" = some .primary ∧
      ((run leafConfig sharing).assignments.lookup "leaf-1").map TargetAssignment.endpointKey =
        ((run leafConfig sharing).assignments.lookup "leaf-2").map TargetAssignment.endpointKey ∧
      ¬ Exclusive (run leafConfig sharing) := by
  have hkey : ∀ t ∈ ["leaf-1", "leaf-2"], ((run leafConfig sharing).assignments.lookup t).map TargetAssignment.endpointKey =
      some ("https://leaf.example:9559", 1) := by
    decide +kernel
  refine ⟨by decide +kernel, by decide +kernel, (hkey _ (by simp)).trans (hkey _ (by simp)).symm, ?_⟩
  intro hexclusive
  obtain ⟨a, ha, hakey⟩ := Option.map_eq_some_iff.1 (hkey "leaf-1" (by simp))
  obtain ⟨b, hb, hbkey⟩ := Option.map_eq_some_iff.1 (hkey "leaf-2" (by simp))
  exact hexclusive.apart _ _ a b (by decide) (by decide +kernel) (by decide +kernel) ha hb (hakey.trans hbkey.symm)

end MasiEdge.Supervisor
