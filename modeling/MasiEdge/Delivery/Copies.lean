/-
How many bound copies of a record the input queue can hold.

Binding a route-neutral head appends a bound copy and then checkpoints the original, so a stop in between leaves both.
The next attempt looks for the copy among the records it replays, which are bounded in number and bytes.

- `one_bound_copy`: in every run in which a pending bound copy of a neutral head is replayed with it and carries the
  active route, and no window repeats the id of a batch whose input checkpoint is already made, no two pending bound
  records share an input id, and no batch is refused for a repeated identity.
- `second_bound_copy`: with a batch bound of two records and two neutral records queued, the copy of the first is not
  replayed with it. A checkpoint that fails once leaves two bound copies, and every later batch is refused.
-/
import MasiEdge.Delivery.Queue

namespace MasiEdge.Delivery

open Route Run
open List

/-! ## Conditions -/

/-- a bound copy of the neutral head that is pending is replayed with it, on the active route -/
def CopySeen (cfg : Config) (s : Actor) : Prop :=
  ∀ head rest route, NeutralHead cfg s head rest route →
    (∃ x ∈ s.input.pending, x.2.inputId = head.2.inputId ∧ x.2.isBound = true) →
    ∃ x ∈ rest, isCopyOn route head.2 x.2 = true

/-- a batch waits only for its result checkpoint -/
def InputSettled (s : Actor) (batch : InferenceResultBatch) : Prop :=
  (∃ item, HeadBatch s item batch) ∧ inputCheckpoint batch = s.input.checkpoint

/-- the records do not repeat an id of a batch whose input checkpoint is made -/
def NotRepeated (s : Actor) (records : List InferenceRecord) : Prop :=
  ∀ batch, InputSettled s batch → ∀ r ∈ records, r.inputId ∉ batch.records.map InferenceResultRecord.inputId

/-- what one operation must meet -/
def CopyCond (cfg : Config) (s : Actor) (op : Op) : Prop :=
  NotRepeated s (emittedBy cfg s op) ∧ ∀ env, op = .inputs env → CopySeen cfg s

/-! ## The invariant -/

/-- of two pending records with one id the first is neutral and the second its bound copy -/
def CopiesOrdered (queue : List (ℕ × InferenceRecord)) : Prop :=
  queue.Pairwise fun x y => x.2.inputId = y.2.inputId → x.2.isBound = false ∧ y.2.isBound = true

structure OneCopy (s : Actor) : Prop where
  copies : CopiesOrdered s.input.pending
  known : s.running = true → ∀ x ∈ s.input.pending, x.2.inputId ∈ s.knownInputIds
  settled : ∀ batch, InputSettled s batch →
    ∀ x ∈ s.input.pending, x.2.inputId ∉ batch.records.map InferenceResultRecord.inputId

variable {q : List (ℕ × InferenceRecord)} {s t : Actor} {batch : InferenceResultBatch} {rest records : List InferenceRecord}
  {cfg : Config} {item : ℕ × ResultWalRecord}

theorem CopiesOrdered.sublist {q' : List (ℕ × InferenceRecord)} (h : CopiesOrdered q) (hs : q'.Sublist q) :
    CopiesOrdered q' := List.Pairwise.sublist hs h

theorem CopiesOrdered.snoc {y : ℕ × InferenceRecord} (h : CopiesOrdered q)
    (hy : ∀ x ∈ q, x.2.inputId = y.2.inputId → x.2.isBound = false ∧ y.2.isBound = true) :
    CopiesOrdered (q ++ [y]) := by
  exact Run.pairwise_snoc.2 ⟨h, hy⟩

/-- bound records of the queue have distinct ids -/
theorem CopiesOrdered.bound_nodup (h : CopiesOrdered q) (hbound : ∀ x ∈ q, x.2.isBound = true) :
    (q.map fun x => x.2.inputId).Nodup := by
  refine List.pairwise_map.2 (List.Pairwise.imp_of_mem ?_ h)
  intro x y hx _ hxy hid
  have hneutral := (hxy hid).1
  rw [hbound x hx] at hneutral
  cases hneutral

theorem InputSettled.of_eq (h : InputSettled t batch) (hi : t.input.checkpoint = s.input.checkpoint)
    (hr : t.result = s.result) : InputSettled s batch := by
  obtain ⟨⟨item, hb⟩, hdone⟩ := h
  exact ⟨⟨item, hb.of_result hr⟩, hdone.trans hi⟩

theorem OneCopy.of_eq (h : OneCopy s) (hi : t.input = s.input) (hr : t.result = s.result)
    (hk : t.running = true → s.running = true ∧ t.knownInputIds = s.knownInputIds) : OneCopy t where
  copies := hi ▸ h.copies
  known hrun := by
    obtain ⟨hs, hids⟩ := hk hrun
    rw [hi, hids]
    exact h.known hs
  settled batch hb := by
    rw [hi]
    exact h.settled batch (hb.of_eq (by rw [hi]) hr)

/-- the state during an admission: the ids are known whether or not the process is up yet -/
structure Admitting (s : Actor) (records : List InferenceRecord) : Prop where
  copies : CopiesOrdered s.input.pending
  known : ∀ x ∈ s.input.pending, x.2.inputId ∈ s.knownInputIds
  settled : ∀ batch, InputSettled s batch →
    ∀ x ∈ s.input.pending, x.2.inputId ∉ batch.records.map InferenceResultRecord.inputId
  fresh : NotRepeated s records

theorem Admitting.skip {r : InferenceRecord} (h : Admitting s (r :: rest)) : Admitting s rest :=
  ⟨h.copies, h.known, h.settled, fun batch hb r' hr' => h.fresh batch hb r' (mem_cons_of_mem r hr')⟩

theorem Admitting.admitted {r n : InferenceRecord} (h : Admitting s (r :: rest)) (hn : Admits s r n) :
    Admitting (s.admitted n) rest := by
  have hsettled : ∀ batch, InputSettled (s.admitted n) batch → InputSettled s batch := fun _ hb => hb.of_eq rfl rfl
  have hpending : (s.admitted n).input.pending = s.input.pending ++ [(s.input.nextSequence, n)] := Log.pending_append _ _
  refine ⟨?_, ?_, ?_, fun batch hb r' hr' => h.fresh batch (hsettled batch hb) r' (mem_cons_of_mem r hr')⟩
  · rw [hpending]
    -- a pending id is known, and this one was not
    refine h.copies.snoc fun x hx hid => absurd (h.known x hx) ?_
    rw [hid, hn.inputId]
    exact hn.unknown
  · rw [hpending]
    exact Run.forall_mem_snoc.2 ⟨fun x hx => mem_cons_of_mem _ (h.known x hx), mem_cons_self⟩
  · rw [hpending]
    intro batch hb x hx
    rcases Run.mem_snoc.1 hx with hx | rfl
    · exact h.settled batch (hsettled batch hb) x hx
    · rw [hn.inputId]
      exact h.fresh batch (hsettled batch hb) r mem_cons_self

theorem OneCopy.admitting (h : OneCopy s) (hi : t.input = s.input) (hr : t.result = s.result)
    (hk : ∀ x ∈ s.input.pending, x.2.inputId ∈ t.knownInputIds) (hfresh : NotRepeated s records) : Admitting t records where
  copies := hi ▸ h.copies
  known := hi ▸ hk
  settled batch hb := by
    rw [hi]
    exact h.settled batch (hb.of_eq (by rw [hi]) hr)
  fresh batch hb := hfresh batch (hb.of_eq (by rw [hi]) hr)

/-! ## One step -/

/-- dropping from the front of the queue keeps the invariant when nothing is settled -/
theorem OneCopy.moved {l : Log InferenceRecord} {n : ℕ} (hcopies : CopiesOrdered l.pending)
    (hknown : s.running = true → ∀ x ∈ l.pending, x.2.inputId ∈ s.knownInputIds) (hmove : l.moveTo n = some t.input)
    (hrun : t.running = s.running) (hids : t.knownInputIds = s.knownInputIds)
    (hidle : s.result.checkpoint = s.result.lastSequence) (hr : t.result = s.result) : OneCopy t := by
  have hdrop := Log.pending_moveTo hmove
  refine ⟨?_, ?_, ?_⟩
  · rw [hdrop]
    exact hcopies.sublist (drop_sublist _ _)
  · rw [hdrop, hrun, hids]
    exact fun hup x hx => hknown hup x (mem_of_mem_drop hx)
  · rintro batch ⟨⟨item, hb⟩, -⟩
    exact (no_headBatch hidle hb hr).elim

section

variable (h : OneCopy s)
include h

/-- a bound copy goes behind its original when no other bound copy is pending -/
theorem OneCopy.copied {head : ℕ × InferenceRecord} {rest : List (ℕ × InferenceRecord)} {route : InferenceRoute}
    {n : InferenceRecord} (hhead : NeutralHead cfg s head rest route) (hseen : CopySeen cfg s)
    (hcopy : ∀ x ∈ rest, isCopyOn route head.2 x.2 = false) (hn : CopyOf s head.2 n) :
    CopiesOrdered (s.input.append n).pending ∧
      (s.running = true → ∀ x ∈ (s.input.append n).pending, x.2.inputId ∈ s.knownInputIds) := by
  rw [Log.pending_append]
  constructor
  · refine h.copies.snoc fun x hx hid => ⟨?_, hn.bound⟩
    by_contra hbound
    obtain ⟨y, hy, hon⟩ := hseen head rest route hhead ⟨x, hx, hid.trans hn.inputId, by simpa using hbound⟩
    rw [hcopy y hy] at hon
    cases hon
  · intro hrun x hx
    rcases Run.mem_snoc.1 hx with hx | rfl
    · exact h.known hrun x hx
    · rw [hn.inputId]
      exact h.known hrun head hhead.mem

theorem OneCopy.inputs (hq : Queue s) (hseen : CopySeen cfg s) (hc : InputsChange cfg s t) :
    OneCopy t := by
  cases hc with
  | quiet => exact h.of_eq rfl rfl fun hrun => ⟨hrun, rfl⟩
  | dropped hhead _ hmove => exact OneCopy.moved h.copies h.known hmove rfl rfl hhead.idle rfl
  | copied hhead hcopy hn =>
    obtain ⟨hcopies, hknown⟩ := h.copied hhead hseen hcopy hn
    refine ⟨hcopies, hknown, ?_⟩
    rintro batch ⟨⟨item, hb⟩, -⟩
    exact (no_headBatch hhead.idle hb rfl).elim
  | moved hhead hcopy hn hmove =>
    obtain ⟨hcopies, hknown⟩ := h.copied hhead hseen hcopy hn
    exact OneCopy.moved hcopies hknown hmove rfl rfl hhead.idle rfl
  | inferred _ _ hidle hreplay hbound hanswers =>
    refine ⟨h.copies, h.known, ?_⟩
    rintro batch ⟨⟨item, hb⟩, hdone⟩
    -- a batch just inferred still has its records in front of the checkpoint
    obtain rfl := inferred_head hidle hb rfl
    obtain ⟨k, hpos, hk, -, hperm⟩ := result_answers hreplay hbound hanswers s.result.nextSequence
    have hcheckpoint := hq.inputCheckpoint_eq hpos hk hperm
    have hdone : inputCheckpoint (stampResult cfg.hash _ s.result.nextSequence) = s.input.checkpoint := hdone
    omega

/-- after the input checkpoint of a batch none of its ids is pending -/
theorem OneCopy.taken {input : Log InferenceRecord} (hq : Queue s) (hhead : HeadBatch s item batch)
    (hinput : s.input.moveTo (inputCheckpoint batch) = some input) :
    ∀ x ∈ input.pending, x.2.inputId ∉ batch.records.map InferenceResultRecord.inputId := by
  rw [Log.pending_moveTo hinput]
  rcases hq.answered item batch hhead with ⟨k, hpos, hk, hbound, hperm⟩ | hdone
  · rw [hq.inputCheckpoint_eq hpos hk hperm, Nat.add_sub_cancel_left]
    intro x hx hid
    -- the id belongs to one of the first k records, which is bound and comes before x
    have hids := (hperm.map Cursor.inputId)
    rw [map_map, map_map] at hids
    obtain ⟨y, hy, hyx⟩ := List.mem_map.1 (hids.subset hid)
    have hpair : CopiesOrdered (s.input.pending.take k ++ s.input.pending.drop k) := by
      rw [take_append_drop]
      exact h.copies
    have hneutral := ((List.pairwise_append.1 hpair).2.2 y hy x hx hyx).1
    rw [hbound y hy] at hneutral
    cases hneutral
  · rw [hdone, Nat.sub_self, drop_zero]
    exact h.settled batch ⟨⟨item, hhead⟩, hdone⟩

theorem OneCopy.acked {result : Log ResultWalRecord} {sequence : ℕ} (hhead : HeadBatch s item batch)
    (hack : Acked s item result sequence) (hi : t.input = s.input) (hr : t.result = result) (hrun : t.running = s.running)
    (hk : t.knownInputIds = s.knownInputIds) : OneCopy t := by
  refine ⟨hi ▸ h.copies, ?_, ?_⟩
  · rw [hi, hrun, hk]
    exact h.known
  · rintro batch' ⟨⟨item', hb⟩, hdone⟩
    rw [hi] at hdone ⊢
    exact h.settled batch' ⟨⟨item', hhead.of_acked hack hb hr⟩, hdone⟩

theorem OneCopy.results (hq : Queue s) (hc : ResultsChange s t) : OneCopy t := by
  cases hc with
  | quiet => exact h
  | acked hhead hack | sourced hhead hack hacks hsource => exact h.acked hhead hack rfl rfl rfl rfl
  | taken hhead hack _ _ hinput =>
    have hgone := h.taken hq hhead hinput
    have hdrop := Log.pending_moveTo hinput
    refine ⟨?_, ?_, ?_⟩
    · rw [hdrop]
      exact h.copies.sublist (drop_sublist _ _)
    · rw [hdrop]
      exact fun hrun x hx => h.known hrun x (mem_of_mem_drop hx)
    · rintro batch' ⟨⟨item', hb⟩, -⟩
      obtain rfl := hhead.unique (hhead.of_acked hack hb rfl)
      exact hgone
  | settled hhead hack _ _ hinput hresult hknown =>
    have hgone := h.taken hq hhead hinput
    have hdrop := Log.pending_moveTo hinput
    refine ⟨?_, ?_, ?_⟩
    · rw [hdrop]
      exact h.copies.sublist (drop_sublist _ _)
    · intro hrun x hx
      have hold : x.2.inputId ∈ s.knownInputIds := by
        rw [hdrop] at hx
        exact h.known hrun x (mem_of_mem_drop hx)
      rcases hknown with rfl | rfl
      · exact hold
      · exact List.mem_filter.2 ⟨hold, by simpa using hgone x hx⟩
    · rintro batch' ⟨⟨item', hb⟩, -⟩
      exact absurd hb.stage (hq.settled hhead hack hresult item' (mem_of_mem_head? hb.head))

theorem step_oneCopy {op : Op} (hq : Queue s) (hcond : CopyCond cfg s op) :
    OneCopy (step cfg s op) := by
  have hkept : AdmissionKept Admitting := by
    refine ⟨fun _ _ _ ht => ht.skip, fun _ _ _ _ ht hn => ht.admitted hn, fun _ _ _ _ ht => ?_⟩
    exact ⟨ht.copies, ht.known, fun batch hb => ht.settled batch (hb.of_eq rfl rfl),
      fun batch hb => ht.fresh batch (hb.of_eq rfl rfl)⟩
  refine step_induct hkept h
    (fun t hsame => h.of_eq hsame.input hsame.result fun hup => ⟨hsame.running hup, hsame.known⟩)
    (fun _ => h.of_eq rfl rfl fun hup => by cases hup) ?_
    (fun _ _ _ ht => ⟨ht.copies, fun _ => ht.known, fun batch hb => ht.settled batch (hb.of_eq rfl rfl)⟩)
    (fun env henv => h.inputs hq (hcond.2 env henv) (processPendingInputs_change cfg s env))
    (fun env _ => h.results hq (processPendingResults_change cfg s env).1)
  intro t ht
  cases ht with
  | finish env admitEnv up source more | tick env up => exact h.admitting rfl rfl (h.known up) hcond.1
  | restart _ _ _ _ found =>
    exact h.admitting rfl rfl (fun x hx => (recoverKnown_ok found _).2 (.inr ⟨x, hx, rfl⟩)) hcond.1

end

theorem run_oneCopy {ops : List Op} (h : Along (fun pre op => CopyCond cfg (run cfg pre) op) ops) :
    OneCopy (run cfg ops) := by
  refine h.invariant (P := OneCopy) ?_ fun pre _ _ hop ih => step_oneCopy ih (run_queue cfg pre) hop
  refine ⟨List.Pairwise.nil, fun _ x hx => absurd hx not_mem_nil, ?_⟩
  rintro batch ⟨⟨item, -⟩, -⟩ x hx
  exact absurd hx not_mem_nil

/-! ## Main theorem -/

/-- the pending bound records have distinct input ids -/
def BoundIdsDistinct (s : Actor) : Prop :=
  ((s.input.pending.filter fun x => x.2.isBound).map fun x => x.2.inputId).Nodup
deriving Decidable

/-- event keys tell input ids apart, as they do unless digests collide -/
def KeysSeparate (records : List InferenceRecord) : Prop :=
  ∀ r ∈ records, ∀ r' ∈ records, r.eventIdempotencyKey = r'.eventIdempotencyKey → r.inputId = r'.inputId

/-- the next batch is not refused for a repeated identity -/
def NoConflict (cfg : Config) (s : Actor) : Prop :=
  KeysSeparate (pendingBatch cfg s) →
    ∀ now traceId, inferenceBatch cfg s.routes.router (pendingBatch cfg s) now traceId ≠ .error identityConflict

theorem inferenceBatch_conflict {router : Router} {now : ℤ} {traceId : String}
    (h : inferenceBatch cfg router records now traceId = .error identityConflict) :
    ∃ route, validateInferenceRecords cfg.hash route [] [] records = .error identityConflict := by
  replace h := passed_error h
  replace h := passed_error h
  cases hroute : router.route with
  | none =>
    rw [hroute] at h
    exact absurd (Except.error.inj h) (by decide)
  | some route =>
    rw [hroute] at h
    rcases bind_error.1 h with h | ⟨_, -, h⟩
    · exact ⟨route, h⟩
    replace h := passed_error h
    replace h := passed_error h
    replace h := passed_error h
    cases h

theorem OneCopy.boundIdsDistinct (h : OneCopy s) : BoundIdsDistinct s :=
  CopiesOrdered.bound_nodup (h.copies.sublist filter_sublist) fun _ hx => by simpa using (List.mem_filter.1 hx).2

theorem OneCopy.noConflict (h : OneCopy s) : NoConflict cfg s := by
  intro hkeys now traceId hconflict
  obtain ⟨route, hrefused⟩ := inferenceBatch_conflict hconflict
  have hids : ((pendingBatch cfg s).map InferenceRecord.inputId).Nodup := by
    unfold pendingBatch
    cases hreplay : replayed cfg s with
    | nil => exact nodup_nil
    | cons head =>
      by_cases hbound : head.2.isBound = true
      · obtain ⟨k, -, -, hall, hbatch⟩ := headBatch_eq hreplay hbound
        simp only [hbatch, map_map]
        exact CopiesOrdered.bound_nodup (h.copies.sublist (take_sublist k _)) hall
      · simp [headBatch, hbound]
  have hnodup : ((pendingBatch cfg s).map InferenceRecord.eventIdempotencyKey).Nodup := by
    refine (nodup_map_iff_inj_on (List.Nodup.of_map _ hids)).2 fun r hr r' hr' hkey => ?_
    exact inj_on_of_nodup_map hids hr hr' (hkeys r hr r' hr' hkey)
  exact validateInferenceRecords_no_conflict cfg.hash route [] [] _ ⟨hids, fun _ _ => not_mem_nil⟩
    ⟨hnodup, fun _ _ => not_mem_nil⟩ hrefused

/-- **At most one bound copy.** In every run whose steps meet the condition, the pending bound records have distinct
input ids and the next batch is not refused for a repeated identity. -/
theorem one_bound_copy (cfg : Config) (ops : List Op) (h : Along (fun pre op => CopyCond cfg (run cfg pre) op) ops) :
    BoundIdsDistinct (run cfg ops) ∧ NoConflict cfg (run cfg ops) :=
  ⟨(run_oneCopy h).boundIdsDistinct, (run_oneCopy h).noConflict⟩

/-- nothing waits for its result checkpoint and no bound record waits at all, so both conditions hold -/
def calm (s : Actor) : Bool := s.result.pending.isEmpty && s.input.pending.all fun x => !x.2.isBound

theorem CopyCond.of_calm {op : Op} (h : calm s = true) : CopyCond cfg s op := by
  obtain ⟨hresult, hneutral⟩ := Bool.and_eq_true_iff.1 h
  refine ⟨?_, ?_⟩
  · rintro batch ⟨⟨item, hb⟩, -⟩
    have hhead := hb.head
    rw [List.isEmpty_iff.1 hresult] at hhead
    cases hhead
  · rintro env - - rest route - ⟨x, hx, -, hbound⟩
    have hfalse := List.all_eq_true.1 hneutral x hx
    rw [hbound] at hfalse
    cases hfalse

/-- binding the head once, with its checkpoint made -/
def boundOnce : List Op := twoWindows ++ [.inputs ⟨600, .ok (), .done, .error (.io "pool"), 600, .ok ()⟩]

theorem boundOnce_one_copy :
    (∃ x ∈ (run (sampleConfig 2) boundOnce).input.pending, x.2.isBound = true) ∧
      BoundIdsDistinct (run (sampleConfig 2) boundOnce) ∧ NoConflict (sampleConfig 2) (run (sampleConfig 2) boundOnce) := by
  have hcalm : holdsAlong (step (sampleConfig 2)) (fun s _ => calm s) (Actor.initial (sampleConfig 2)) boundOnce = true := by
    decide +kernel
  refine ⟨by decide +kernel, one_bound_copy _ _ ?_⟩
  exact (along_of_holdsAlong hcalm).imp fun _ _ h => CopyCond.of_calm h

/-- the first checkpoint fails; the copy is then out of reach behind the second record -/
def boundTwice : List Op :=
  twoWindows ++ [.inputs ⟨600, .ok (), .failed (.io "checkpoint"), .error (.io "pool"), 600, .ok ()⟩,
    .inputs ⟨600, .ok (), .done, .error (.io "pool"), 600, .ok ()⟩,
    .inputs ⟨600, .ok (), .done, .error (.io "pool"), 600, .ok ()⟩]

/-- **A second bound copy.** After one failed checkpoint the same window is queued bound twice, and the batch that
contains both is refused whenever it is sent. -/
theorem second_bound_copy :
    ¬ BoundIdsDistinct (run (sampleConfig 2) boundTwice) ∧
      inferenceBatch (sampleConfig 2) (run (sampleConfig 2) boundTwice).routes.router
        (pendingBatch (sampleConfig 2) (run (sampleConfig 2) boundTwice)) 700 "infer:leaf-1" = .error identityConflict := by
  decide +kernel

end MasiEdge.Delivery
