/-
The order in which queued records reach the source checkpoint.

A batch asks for the largest source sequence among its records, and `DurableWal::checkpoint` refuses to move back. Binding
a route-neutral record moves it to the end of the queue, so the queue is not in source order; what is in source order, as
long as no record overtakes another, is the bound records followed by the neutral ones.

- `checkpoints_move`: in every run in which windows are finalized in source order and none is admitted already bound while
  a route-neutral record waits, the three checkpoints behind an acknowledged batch are all in range.
- `overtaken_batch_stuck`: a window admitted bound behind a neutral one is delivered first. The neutral one then asks for a
  source checkpoint below the current one.
-/
import MasiEdge.Delivery.Provenance

namespace MasiEdge.Delivery

open Route Run
open List Log

/-! ## Conditions -/

/-- the ids an emitted record is compared with when the operation admits it -/
def knownAt (s : Actor) (op : Op) : List String :=
  if op.isRestart then s.input.pending.map fun x => x.2.inputId else s.knownInputIds

/-- windows are finalized in source order: what is new comes after all that was ever queued, and in order -/
def InSourceOrder (cfg : Config) (s : Actor) (op : Op) : Prop :=
  (∀ r ∈ emittedBy cfg s op, r.inputId ∉ knownAt s op →
    ∀ e ∈ s.input.entries, e.sourceWalSequence ≤ r.sourceWalSequence) ∧
  (emittedBy cfg s op).Pairwise fun r r' => r'.inputId ∉ knownAt s op → r.sourceWalSequence ≤ r'.sourceWalSequence
deriving Decidable

/-- no new window is admitted under an active route while a route-neutral record waits -/
def NotOvertaking (cfg : Config) (s : Actor) (op : Op) : Prop :=
  op.isRestart = false → s.routes.router.state = .active → (∃ x ∈ s.input.pending, x.2.isBound = false) →
    ∀ r ∈ emittedBy cfg s op, r.inputId ∈ knownAt s op
deriving Decidable

/-! ## Delivery order -/

/-- the source sequences of the bound records, then of the neutral ones -/
def deliveryOrder (queue : List (ℕ × InferenceRecord)) : List ℕ :=
  (queue.filter fun x => x.2.isBound).map (fun x => x.2.sourceWalSequence) ++
    (queue.filter fun x => !x.2.isBound).map fun x => x.2.sourceWalSequence

variable {queue rest : List (ℕ × InferenceRecord)} {x head : ℕ × InferenceRecord} {s t : Actor} {cfg : Config}
  {route : InferenceRoute} {n r : InferenceRecord} {ids : List String}

theorem mem_deliveryOrder {n : ℕ} (h : n ∈ deliveryOrder queue) :
    ∃ x ∈ queue, x.2.sourceWalSequence = n := by
  rcases List.mem_append.1 h with h | h
  · obtain ⟨x, hx, rfl⟩ := List.mem_map.1 h
    exact ⟨x, (List.mem_filter.1 hx).1, rfl⟩
  · obtain ⟨x, hx, rfl⟩ := List.mem_map.1 h
    exact ⟨x, (List.mem_filter.1 hx).1, rfl⟩

theorem deliveryOrder_sublist {queue' : List (ℕ × InferenceRecord)} (h : queue'.Sublist queue) :
    (deliveryOrder queue').Sublist (deliveryOrder queue) :=
  ((h.filter _).map _).append ((h.filter _).map _)

/-- a bound record goes in front of the neutral ones -/
theorem deliveryOrder_bound (queue : List (ℕ × InferenceRecord)) (h : x.2.isBound = true) :
    deliveryOrder (queue ++ [x]) =
      (queue.filter fun x => x.2.isBound).map (fun x => x.2.sourceWalSequence) ++ x.2.sourceWalSequence ::
        (queue.filter fun x => !x.2.isBound).map fun x => x.2.sourceWalSequence := by
  simp [deliveryOrder, h]

/-- bound records at the head of the queue come first -/
theorem deliveryOrder_head (front back : List (ℕ × InferenceRecord)) (h : ∀ x ∈ front, x.2.isBound = true) :
    deliveryOrder (front ++ back) = front.map (fun x => x.2.sourceWalSequence) ++ deliveryOrder back := by
  have hall : (front.filter fun x => x.2.isBound) = front := List.filter_eq_self.2 h
  have hnone : (front.filter fun x => !x.2.isBound) = [] := List.filter_eq_nil_iff.2 fun x hx => by simp [h x hx]
  simp [deliveryOrder, filter_append, hall, hnone]

theorem mem_deliveryOrder_of_mem (h : x ∈ queue) :
    x.2.sourceWalSequence ∈ deliveryOrder queue := by
  by_cases hbound : x.2.isBound = true
  · exact mem_append_left _ (List.mem_map.2 ⟨x, List.mem_filter.2 ⟨h, hbound⟩, rfl⟩)
  · exact mem_append_right _ (List.mem_map.2 ⟨x, List.mem_filter.2 ⟨h, by simpa using hbound⟩, rfl⟩)

/-- repeating an element next to itself keeps a list sorted -/
theorem sorted_repeat {l r : List ℕ} {a : ℕ} (h : (l ++ a :: r).Pairwise (· ≤ ·)) :
    (l ++ a :: a :: r).Pairwise (· ≤ ·) := by
  obtain ⟨hl, hr, hlr⟩ := List.pairwise_append.1 h
  refine List.pairwise_append.2 ⟨hl, ?_, ?_⟩
  · refine List.pairwise_cons.2 ⟨?_, hr⟩
    intro b hb
    rcases List.mem_cons.1 hb with rfl | hb
    · exact le_rfl
    · exact (List.pairwise_cons.1 hr).1 b hb
  · intro b hb c hc
    rcases List.mem_cons.1 hc with rfl | hc
    · exact hlr b hb c mem_cons_self
    · exact hlr b hb c hc

/-! ## The invariant -/

structure Ordered (s : Actor) : Prop where
  sorted : (deliveryOrder s.input.pending).Pairwise (· ≤ ·)
  /-- without a batch in flight, nothing queued is below the source checkpoint -/
  free : (∀ item batch, ¬ HeadBatch s item batch) → ∀ x ∈ s.input.pending, s.source.wal.checkpoint ≤ x.2.sourceWalSequence
  /-- a batch in flight lies between the source checkpoint and what is queued behind it -/
  held : ∀ item batch, HeadBatch s item batch → s.source.wal.checkpoint ≤ sourceCheckpoint batch ∧
    ∀ x ∈ s.input.pending, inputCheckpoint batch < x.1 → sourceCheckpoint batch ≤ x.2.sourceWalSequence

theorem Ordered.of_eq (h : Ordered s) (hi : t.input = s.input) (hr : t.result = s.result)
    (hc : t.source.wal.checkpoint = s.source.wal.checkpoint) : Ordered t where
  sorted := hi ▸ h.sorted
  free hnone := by
    rw [hi, hc]
    refine h.free fun item batch hb => hnone item batch ?_
    exact hb.of_result hr.symm
  held item batch hb := by
    rw [hi, hc]
    exact h.held item batch (hb.of_result hr)

/-- the source checkpoint and the one a batch asks for are sources of input records, or 0 -/
structure Backed (s : Actor) : Prop where
  checkpoint : s.source.wal.checkpoint = 0 ∨ ∃ e ∈ s.input.entries, e.sourceWalSequence = s.source.wal.checkpoint
  batch : ∀ item batch, HeadBatch s item batch →
    sourceCheckpoint batch = 0 ∨ ∃ e ∈ s.input.entries, e.sourceWalSequence = sourceCheckpoint batch

theorem Provenance.backed (h : Provenance s) : Backed s :=
  ⟨h.checkpoint, fun _ _ hb => h.sourceCheckpoint hb⟩

theorem Backed.of_eq (h : Backed s) (hi : s.input.entries <+: t.input.entries) (hr : t.result = s.result)
    (hc : t.source.wal.checkpoint = s.source.wal.checkpoint) : Backed t where
  checkpoint := by
    rw [hc]
    exact h.checkpoint.imp_right fun ⟨e, he, hsrc⟩ => ⟨e, hi.subset he, hsrc⟩
  batch item batch hb := (h.batch item batch (hb.of_result hr)).imp_right fun ⟨e, he, hsrc⟩ => ⟨e, hi.subset he, hsrc⟩

/-- a record with the largest source so far keeps the order, bound or neutral -/
theorem Ordered.append (h : Ordered s) (hbacked : Backed s)
    (hlast : ∀ e ∈ s.input.entries, e.sourceWalSequence ≤ n.sourceWalSequence)
    (hplace : n.isBound = true → ∀ x ∈ s.input.pending, x.2.isBound = true) (hi : t.input = s.input.append n)
    (hr : t.result = s.result) (hsource : t.source = s.source) : Ordered t := by
  have hpending : t.input.pending = s.input.pending ++ [(s.input.nextSequence, n)] := by rw [hi, pending_append]
  have hbacking : ∀ m, (m = 0 ∨ ∃ e ∈ s.input.entries, e.sourceWalSequence = m) → m ≤ n.sourceWalSequence := by
    rintro m (rfl | ⟨e, he, rfl⟩)
    · exact Nat.zero_le _
    · exact hlast e he
  have hbelow : ∀ m ∈ deliveryOrder s.input.pending, m ≤ n.sourceWalSequence := by
    intro m hm
    obtain ⟨x, hx, rfl⟩ := mem_deliveryOrder hm
    exact hlast _ (mem_of_getElem? (mem_pending hx).2.2)
  refine ⟨?_, ?_, ?_⟩
  · have hend : (deliveryOrder s.input.pending ++ [n.sourceWalSequence]).Pairwise (· ≤ ·) := by
      exact Run.pairwise_snoc.2 ⟨h.sorted, hbelow⟩
    rw [hpending]
    by_cases hbound : n.isBound = true
    · -- nothing neutral waits, so the end of the bound records is the end
      have hnone : (s.input.pending.filter fun x => !x.2.isBound) = [] :=
        List.filter_eq_nil_iff.2 fun x hx => by simp [hplace hbound x hx]
      rw [deliveryOrder_bound _ hbound, hnone]
      simpa [deliveryOrder, hnone] using hend
    · simpa [deliveryOrder, hbound] using hend
  · intro hnone x hx
    rw [hsource]
    rw [hpending] at hx
    rcases Run.mem_snoc.1 hx with hx | rfl
    · exact h.free (fun item batch hb => hnone item batch (hb.of_result hr.symm)) x hx
    · exact hbacking _ hbacked.checkpoint
  · intro item batch hb
    have hb' : HeadBatch s item batch := hb.of_result hr
    obtain ⟨hlow, hbehind⟩ := h.held item batch hb'
    refine ⟨by rw [hsource]; exact hlow, ?_⟩
    rw [hpending]
    intro x hx hseq
    rcases Run.mem_snoc.1 hx with hx | rfl
    · exact hbehind x hx hseq
    · exact hbacking _ (hbacked.batch item batch hb')

/-! ## Admission -/

/-- the state during an admission; `ids` are those known at its start, `records` those still to come -/
structure InOrder (ids : List String) (s : Actor) (records : List InferenceRecord) : Prop where
  ordered : Ordered s
  backed : Backed s
  known : ids ⊆ s.knownInputIds
  neutral : ∀ r ∈ records, r.isBound = false
  after : ∀ r ∈ records, r.inputId ∉ ids → ∀ e ∈ s.input.entries, e.sourceWalSequence ≤ r.sourceWalSequence
  pairwise : records.Pairwise fun r r' => r'.inputId ∉ ids → r.sourceWalSequence ≤ r'.sourceWalSequence
  overtaking : s.routes.router.state = .active → (∃ x ∈ s.input.pending, x.2.isBound = false) →
    ∀ r ∈ records, r.inputId ∈ ids

theorem InOrder.skip {rest : List InferenceRecord}
    (h : InOrder ids s (r :: rest)) : InOrder ids s rest where
  ordered := h.ordered
  backed := h.backed
  known := h.known
  neutral r' hr' := h.neutral r' (mem_cons_of_mem r hr')
  after r' hr' := h.after r' (mem_cons_of_mem r hr')
  pairwise := (List.pairwise_cons.1 h.pairwise).2
  overtaking hactive hwait r' hr' := h.overtaking hactive hwait r' (mem_cons_of_mem r hr')

theorem InOrder.admitted {rest : List InferenceRecord}
    (h : InOrder ids s (r :: rest)) (hn : Admits s r n) : InOrder ids (s.admitted n) rest := by
  have hnew : r.inputId ∉ ids := fun hmem => hn.unknown (h.known hmem)
  have hpending : (s.admitted n).input.pending = s.input.pending ++ [(s.input.nextSequence, n)] := pending_append _ _
  have hlast : ∀ e ∈ s.input.entries, e.sourceWalSequence ≤ n.sourceWalSequence := by
    rw [hn.source]
    exact h.after r mem_cons_self hnew
  -- a bound record was bound by an active route, and then nothing neutral waits
  have hactive : n.isBound = true → s.routes.router.state = .active := by
    intro hbound
    by_contra hne
    have hneutral := hn.neutral hne
    rw [hbound, h.neutral r mem_cons_self] at hneutral
    cases hneutral
  have hplace : n.isBound = true → ∀ x ∈ s.input.pending, x.2.isBound = true := by
    intro hbound x hx
    by_contra hneutral
    exact hnew (h.overtaking (hactive hbound) ⟨x, hx, by simpa using hneutral⟩ r mem_cons_self)
  refine ⟨h.ordered.append h.backed hlast hplace rfl rfl rfl, ?_, ?_, ?_, ?_, ?_, ?_⟩
  · exact h.backed.of_eq (prefix_append _ _) rfl rfl
  · exact fun id hid => mem_cons_of_mem _ (h.known hid)
  · exact fun r' hr' => h.neutral r' (mem_cons_of_mem r hr')
  · intro r' hr' hunknown e he
    rcases Run.mem_snoc.1 he with he | rfl
    · exact h.after r' (mem_cons_of_mem r hr') hunknown e he
    · rw [hn.source]
      exact (List.pairwise_cons.1 h.pairwise).1 r' hr' hunknown
  · exact (List.pairwise_cons.1 h.pairwise).2
  · rintro hstate ⟨x, hx, hneutral⟩ r' hr'
    rw [hpending] at hx
    rcases Run.mem_snoc.1 hx with hx | rfl
    · exact h.overtaking hstate ⟨x, hx, hneutral⟩ r' (mem_cons_of_mem r hr')
    · rw [hn.bound hstate] at hneutral
      cases hneutral

/-- an admission starts in order when the operation meets the two conditions -/
theorem InOrder.start {op : Op} (h : Ordered s) (hp : Provenance s) (horder : InSourceOrder cfg s op)
    (hi : t.input = s.input) (hr : t.result = s.result) (hc : t.source.wal.checkpoint = s.source.wal.checkpoint)
    (hk : knownAt s op ⊆ t.knownInputIds)
    (hover : t.routes.router.state = .active → (∃ x ∈ s.input.pending, x.2.isBound = false) → ∀ r ∈ emittedBy cfg s op, r.inputId ∈ knownAt s op)
    : InOrder (knownAt s op) t (emittedBy cfg s op) where
  ordered := h.of_eq hi hr hc
  backed := hp.backed.of_eq (by rw [hi]) hr hc
  known := hk
  neutral r hmem := ((step_provenance cfg s op hp).emitted r (mem_of_mem_drop hmem)).2
  after := hi ▸ horder.1
  pairwise := horder.2
  overtaking := hi ▸ hover

/-! ## The other steps -/

theorem Ordered.dropped {l : Log InferenceRecord} {n : ℕ} (hsorted : (deliveryOrder l.pending).Pairwise (· ≤ ·))
    (hfree : ∀ x ∈ l.pending, s.source.wal.checkpoint ≤ x.2.sourceWalSequence) (hmove : l.moveTo n = some t.input)
    (hidle : s.result.checkpoint = s.result.lastSequence) (hr : t.result = s.result) (hc : t.source = s.source) :
    Ordered t := by
  have hdrop := pending_moveTo hmove
  refine ⟨?_, ?_, fun item batch hb => (no_headBatch hidle hb hr).elim⟩
  · rw [hdrop]
    exact hsorted.sublist (deliveryOrder_sublist (drop_sublist _ _))
  · intro _ x hx
    rw [hc]
    rw [hdrop] at hx
    exact hfree x (mem_of_mem_drop hx)

/-- a neutral head is first in the queue -/
theorem NeutralHead.pending (h : NeutralHead cfg s head rest route) : ∃ tail, s.input.pending = head :: tail := by
  obtain ⟨more, hmore⟩ := h.front
  exact ⟨rest ++ more, hmore.symm⟩

/-- the bound copy of the neutral head goes right before it in delivery order -/
theorem Ordered.copied (h : Ordered s) (hhead : NeutralHead cfg s head rest route)
    (hn : CopyOf s head.2 n) :
    (deliveryOrder (s.input.append n).pending).Pairwise (· ≤ ·) ∧
      ∀ x ∈ (s.input.append n).pending, s.source.wal.checkpoint ≤ x.2.sourceWalSequence := by
  have hfree := h.free fun item batch hb => no_headBatch hhead.idle hb rfl
  have hsorted := h.sorted
  obtain ⟨tail, htail⟩ := hhead.pending
  rw [pending_append]
  constructor
  · rw [deliveryOrder_bound _ hn.bound, hn.source]
    rw [htail] at hsorted ⊢
    simp only [deliveryOrder, filter_cons, hhead.neutral, Bool.not_false, if_true, Bool.false_eq_true, if_false,
      map_cons] at hsorted ⊢
    exact sorted_repeat hsorted
  · refine Run.forall_mem_snoc.2 ⟨hfree, ?_⟩
    rw [hn.source]
    exact hfree head hhead.mem

theorem Ordered.inputs (h : Ordered s) (hq : Queue s) (hc : InputsChange cfg s t) :
    Ordered t := by
  cases hc with
  | quiet => exact h.of_eq rfl rfl rfl
  | dropped hhead _ hmove =>
    exact .dropped h.sorted (h.free fun item batch hb => no_headBatch hhead.idle hb rfl) hmove hhead.idle rfl rfl
  | copied hhead _ hn =>
    obtain ⟨hsorted, hfree⟩ := h.copied hhead hn
    exact ⟨hsorted, fun _ => hfree, fun item batch hb => (no_headBatch hhead.idle hb rfl).elim⟩
  | moved hhead _ hn hmove =>
    obtain ⟨hsorted, hfree⟩ := h.copied hhead hn
    exact .dropped hsorted hfree hmove hhead.idle rfl rfl
  | @inferred _ _ result _ _ hidle hreplay hbound hanswers =>
    have hfree := h.free fun item batch hb => no_headBatch hidle hb rfl
    refine ⟨h.sorted, fun _ => hfree, ?_⟩
    intro item batch hb
    obtain rfl := inferred_head hidle hb rfl
    obtain ⟨k, hpos, hk, hall, hperm⟩ := result_answers hreplay hbound hanswers s.result.nextSequence
    have hinput := hq.inputCheckpoint_eq hpos hk hperm
    have hsources : sourceCheckpoint (stampResult cfg.hash result s.result.nextSequence) =
        maxOf ((s.input.pending.take k).map fun x => x.2.sourceWalSequence) := by
      have := hperm.map Cursor.sourceWalSequence
      rw [map_map, map_map] at this
      exact maxOf_perm this
    rw [hsources, hinput]
    constructor
    · -- the batch is not empty, and its first record is not below the checkpoint
      have hfirst : 0 < (s.input.pending.take k).length := by
        rw [length_take]
        omega
      have hmem := getElem_mem hfirst
      calc s.source.wal.checkpoint ≤ ((s.input.pending.take k)[0]).2.sourceWalSequence :=
            hfree _ (mem_of_mem_take hmem)
        _ ≤ _ := le_maxOf (mem_map_of_mem (f := fun x : ℕ × InferenceRecord => x.2.sourceWalSequence) hmem)
    · intro x hx hseq
      have hsplit : (deliveryOrder (s.input.pending.take k ++ s.input.pending.drop k)).Pairwise (· ≤ ·) := by
        rw [take_append_drop]
        exact h.sorted
      rw [deliveryOrder_head _ _ hall] at hsplit
      have hlater : x ∈ s.input.pending.drop k := mem_drop_pending hx hseq
      refine maxOf_le.2 fun m hm => ?_
      exact (List.pairwise_append.1 hsplit).2.2 m hm _ (mem_deliveryOrder_of_mem hlater)

/-- a batch stays at the head while it is acknowledged -/
theorem HeadBatch.acked {item : ℕ × ResultWalRecord} {batch : InferenceResultBatch} {result : Log ResultWalRecord}
    {sequence : ℕ} (h : HeadBatch s item batch) (hack : Acked s item result sequence) (hr : t.result = result) :
    HeadBatch t item batch := by
  obtain ⟨acks, hpending, -⟩ := hack.pending
  refine ⟨?_, h.stage, h.batch⟩
  rw [hr, hpending, head?_append, h.head]
  rfl

theorem Ordered.results (h : Ordered s) (hq : Queue s) (hc : ResultsChange s t) : Ordered t := by
  -- what the input checkpoint of a batch leaves is in order and behind the batch
  have htaken : ∀ {item : ℕ × ResultWalRecord} {batch : InferenceResultBatch} {input : Log InferenceRecord},
      HeadBatch s item batch → s.input.moveTo (inputCheckpoint batch) = some input →
      (deliveryOrder input.pending).Pairwise (· ≤ ·) ∧
        ∀ x ∈ input.pending, sourceCheckpoint batch ≤ x.2.sourceWalSequence := by
    intro item batch input hhead hinput
    have hdrop := pending_moveTo hinput
    constructor
    · rw [hdrop]
      exact h.sorted.sublist (deliveryOrder_sublist (drop_sublist _ _))
    · intro x hx
      have hseq := (mem_pending hx).1
      rw [(moveTo_eq_some hinput).2.2] at hseq
      rw [hdrop] at hx
      exact (h.held item batch hhead).2 x (mem_of_mem_drop hx) hseq
  cases hc with
  | quiet => exact h
  | @acked item batch result _ hhead hack =>
    have hstill : HeadBatch { s with result } item batch := hhead.acked hack rfl
    refine ⟨h.sorted, fun hnone => absurd hstill (hnone item batch), ?_⟩
    intro item' batch' hb
    exact h.held item' batch' (hhead.of_acked hack hb rfl)
  | @sourced item batch result _ wal hhead hack _ hsource =>
    have hstill : HeadBatch { s with result, source := { s.source with wal } } item batch := hhead.acked hack rfl
    refine ⟨h.sorted, fun hnone => absurd hstill (hnone item batch), ?_⟩
    intro item' batch' hb
    obtain rfl := hhead.unique (hhead.of_acked hack hb rfl)
    refine ⟨le_of_eq (moveTo_eq_some hsource).2.2, (h.held item batch hhead).2⟩
  | @taken item batch result _ wal input hhead hack _ hsource hinput =>
    have hstill : HeadBatch { s with result, source := { s.source with wal }, input } item batch := hhead.acked hack rfl
    obtain ⟨hsorted, hbehind⟩ := htaken hhead hinput
    refine ⟨hsorted, fun hnone => absurd hstill (hnone item batch), ?_⟩
    intro item' batch' hb
    obtain rfl := hhead.unique (hhead.of_acked hack hb rfl)
    exact ⟨le_of_eq (moveTo_eq_some hsource).2.2, fun x hx _ => hbehind x hx⟩
  | @settled _ batch _ _ wal _ _ _ hhead hack _ hsource hinput hresult _ =>
    obtain ⟨hsorted, hbehind⟩ := htaken hhead hinput
    refine ⟨hsorted, fun _ x hx => ?_, ?_⟩
    · rw [show wal.checkpoint = sourceCheckpoint batch from (moveTo_eq_some hsource).2.2]
      exact hbehind x hx
    · intro item' batch' hb
      exact absurd hb.stage (hq.settled hhead hack hresult item' (mem_of_mem_head? hb.head))

theorem step_ordered {op : Op} (h : Ordered s) (hq : Queue s) (hp : Provenance s) (horder : InSourceOrder cfg s op)
    (hover : NotOvertaking cfg s op) : Ordered (step cfg s op) := by
  have hkept : AdmissionKept (InOrder (knownAt s op)) := by
    refine ⟨fun _ _ _ ht => ht.skip, fun _ _ _ _ ht hn => ht.admitted hn, fun t rest windows emitted ht => ?_⟩
    exact ⟨ht.ordered.of_eq rfl rfl rfl, ht.backed.of_eq (prefix_refl _) rfl rfl, ht.known, ht.neutral, ht.after,
      ht.pairwise, ht.overtaking⟩
  refine step_induct hkept h (fun t hsame => h.of_eq hsame.input hsame.result hsame.source.checkpoint)
    (fun _ => h.of_eq rfl rfl rfl) ?_ (fun _ _ _ ht => ht.ordered.of_eq rfl rfl rfl)
    (fun env _ => h.inputs hq (processPendingInputs_change cfg s env))
    (fun env _ => h.results hq (processPendingResults_change cfg s env).1)
  intro t ht
  cases ht with
  | finish _ _ _ _ more => exact .start h hp horder rfl rfl more.checkpoint (fun _ hid => hid) (hover rfl)
  | tick => exact .start h hp horder rfl rfl rfl (fun _ hid => hid) (hover rfl)
  | restart _ _ _ _ found =>
    -- a new process has no active route
    refine .start h hp horder rfl rfl rfl ?_ nofun
    intro id hid
    obtain ⟨x, hx, rfl⟩ := List.mem_map.1 hid
    exact (recoverKnown_ok found _).2 (.inr ⟨x, hx, rfl⟩)

theorem run_ordered {ops : List Op} (horder : Along (fun pre op => InSourceOrder cfg (run cfg pre) op) ops)
    (hover : Along (fun pre op => NotOvertaking cfg (run cfg pre) op) ops) : Ordered (run cfg ops) := by
  induction ops using List.reverseRecOn with
  | nil =>
    refine ⟨List.Pairwise.nil, fun _ x hx => absurd hx not_mem_nil, ?_⟩
    intro item batch hb
    cases hb.head
  | append_singleton ops _ ih =>
    obtain ⟨horders, hop⟩ := (along_snoc _ _).1 horder
    obtain ⟨hovers, hnot⟩ := (along_snoc _ _).1 hover
    rw [run_snoc]
    exact step_ordered (ih horders hovers) (run_queue cfg ops) (run_provenance cfg ops) hop hnot

/-! ## Main theorem -/

/-- whenever the head batch is acknowledged, its three checkpoints are in range -/
def CheckpointsMove (cfg : Config) (s : Actor) : Prop :=
  ∀ item rest batch env ack sequence result,
    s.result.replay cfg.resultBytes 2 (cfg.limits.controlMessageBytes * 2) = item :: rest →
    durableBatch cfg item = .ok batch → obtainAck cfg s batch item.1 rest.head? env = (.ok (ack, sequence), result) →
    (s.source.wal.moveTo (sourceCheckpoint batch)).isSome ∧ (s.input.moveTo (inputCheckpoint batch)).isSome ∧
      (result.moveTo sequence).isSome

theorem Ordered.checkpointsMove (h : Ordered s) (hq : Queue s) (hp : Provenance s) :
    CheckpointsMove cfg s := by
  intro item rest batch env ack sequence result hreplay hbatch hobtain
  have hseen : item :: rest <+: s.result.pending := hreplay ▸ s.result.replay_prefix _ _ _
  have hack := ((obtainAck_change hseen hobtain).2 ack sequence rfl).1
  have hhead : HeadBatch s item batch := .of_durable hbatch hseen
  refine ⟨Log.moveTo_isSome.2 ⟨(h.held item batch hhead).1, ?_⟩, Log.moveTo_isSome.2 ?_, Log.moveTo_isSome.2 ?_⟩
  · rcases hp.sourceCheckpoint hhead with hzero | ⟨e, he, hsrc⟩
    · rw [hzero]
      exact Nat.zero_le _
    · rw [← hsrc]
      exact (hp.input e he).le_last
  · rcases hq.answered item batch hhead with ⟨k, hpos, hk, -, hperm⟩ | hdone
    · have hlength := s.input.length_pending
      rw [hq.inputCheckpoint_eq hpos hk hperm]
      omega
    · rw [hdone]
      exact ⟨le_rfl, s.input.inRange⟩
  · obtain ⟨acks, -, -, hcheckpoint, hlt, hle⟩ := hack.pending
    exact ⟨by omega, hle⟩

/-- **Checkpoints only move forward.** In every run in which windows are finalized in source order and none is admitted
bound while a route-neutral record waits, an acknowledged batch never asks for a checkpoint out of range. -/
theorem checkpoints_move (cfg : Config) (ops : List Op)
    (horder : Along (fun pre op => InSourceOrder cfg (run cfg pre) op) ops)
    (hover : Along (fun pre op => NotOvertaking cfg (run cfg pre) op) ops) : CheckpointsMove cfg (run cfg ops) :=
  (run_ordered horder hover).checkpointsMove (run_queue cfg ops) (run_provenance cfg ops)

/-- both windows are bound in turn and the first is inferred -/
def inTurn : List Op :=
  scripted (sampleConfig 1) (always twoWindows ++ [poolInputs (sampleConfig 1) .done, poolInputs (sampleConfig 1) .done,
    poolInputs (sampleConfig 1) .done])

theorem inTurn_checkpoints_move :
    (run (sampleConfig 1) inTurn).result.pending.length = 1 ∧ CheckpointsMove (sampleConfig 1) (run (sampleConfig 1) inTurn) := by
  refine ⟨by decide +kernel, checkpoints_move _ _ ?_ ?_⟩
  · exact along_of_decide (P := InSourceOrder (sampleConfig 1)) (step (sampleConfig 1)) _ (by decide +kernel)
  · exact along_of_decide (P := NotOvertaking (sampleConfig 1)) (step (sampleConfig 1)) _ (by decide +kernel)

/-- the acknowledged head batch asks for a source checkpoint below the current one -/
def regresses (cfg : Config) (s : Actor) (env : ResultReplies) : Bool :=
  match s.result.replay cfg.resultBytes 2 (cfg.limits.controlMessageBytes * 2) with
  | [] => false
  | item :: rest =>
    match durableBatch cfg item with
    | .error _ => false
    | .ok batch =>
      match obtainAck cfg s batch item.1 rest.head? env with
      | (.error _, _) => false
      | (.ok _, _) => sourceCheckpoint batch < s.source.wal.checkpoint

theorem regresses_stuck {env : ResultReplies} (h : regresses cfg s env = true) :
    ¬ CheckpointsMove cfg s := by
  intro hmove
  unfold regresses at h
  cases hreplay : s.result.replay cfg.resultBytes 2 (cfg.limits.controlMessageBytes * 2) with
  | nil => simp [hreplay] at h
  | cons item rest =>
    simp only [hreplay] at h
    cases hbatch : durableBatch cfg item with
    | error => simp [hbatch] at h
    | ok batch =>
      simp only [hbatch] at h
      rcases hobtain : obtainAck cfg s batch item.1 rest.head? env with ⟨e | ⟨ack, sequence⟩, result⟩
      · simp [hobtain] at h
      · simp only [hobtain, decide_eq_true_eq] at h
        have hrange := Log.moveTo_isSome.1 (hmove item rest batch env ack sequence result hreplay hbatch hobtain).1
        omega

/-- one window is queued neutral; the route becomes active, and the next freeze admits the second window bound. The
first is then bound behind it, and the second is delivered -/
def overtaken : List Op :=
  scripted (sampleConfig 1)
    (always (quietCycle 0 1 150 ++ quietCycle 1 2 250 ++ quietCycle 0 3 350 ++ activePool.map .route ++ quietCycle 1 4 450) ++
      [poolInputs (sampleConfig 1) .done, poolInputs (sampleConfig 1) .done, sinkResults (sampleConfig 1),
       poolInputs (sampleConfig 1) .done])

/-- the sink's acknowledgement of the batch that `overtaken` ends with -/
def lastAck : ResultReplies :=
  ⟨.ok (ackBatch (sampleConfig 1) (((run (sampleConfig 1) overtaken).result.pending.head?.bind fun x =>
    x.2.resultBatch).getD ⟨"", "", none, [], ""⟩)), .ok (), 900, .done, .done, .done⟩

/-- **An overtaken window is stuck.** All windows are finalized in source order, but the first one's batch asks for
source checkpoint 10 when the second one has already moved it to 15. -/
theorem overtaken_batch_stuck :
    Along (fun pre op => InSourceOrder (sampleConfig 1) (run (sampleConfig 1) pre) op) overtaken ∧
      (processPendingResults (sampleConfig 1) (run (sampleConfig 1) overtaken) lastAck).1 =
        .error (.precondition "CHECKPOINT_OUT_OF_RANGE" "checkpoint 10 outside [15,20]") ∧
      ¬ CheckpointsMove (sampleConfig 1) (run (sampleConfig 1) overtaken) := by
  have hback : regresses (sampleConfig 1) (run (sampleConfig 1) overtaken) lastAck = true := by decide +kernel
  refine ⟨?_, by decide +kernel, regresses_stuck hback⟩
  exact along_of_decide (P := InSourceOrder (sampleConfig 1)) (step (sampleConfig 1)) _ (by decide +kernel)

end MasiEdge.Delivery
