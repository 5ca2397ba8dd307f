/-
Where the source sequences of the delivery loop come from.

Every open window, every emitted and queued record carries the sequence of a source-WAL record, and the source checkpoint
is moved to such a sequence. The sequences are followed through admission, binding, inference and restarts, in every run
and without any condition.

- `run_provenance`: in every run each of these sequences is that of a finalized snapshot in the source WAL, every result
  record repeats the cursor of an input record, and the source checkpoint is 0 or the source of an input record
  (`results_traced`).
-/
import MasiEdge.Delivery.Queue

namespace MasiEdge.Delivery

open Codec Run Window
open Source (SourceWalRecord TelemetrySnapshot Fence Finalizes recoverRecords_finalizes)
open List Log

/-! ## The invariant -/

/-- the sequence is that of a finalized snapshot -/
def FinalizedAt (wal : Log SourceWalRecord) (n : ℕ) : Prop :=
  ∃ snapshot, Finalizes wal snapshot ∧ snapshot.sourceWalSequence = n

structure Provenance (s : Actor) : Prop where
  windows : ∀ w ∈ s.windows.openWindows, FinalizedAt s.source.wal w.latestSourceWalSequence
  emitted : ∀ r ∈ s.emitted, FinalizedAt s.source.wal r.sourceWalSequence ∧ r.isBound = false
  input : ∀ e ∈ s.input.entries, FinalizedAt s.source.wal e.sourceWalSequence
  cited : ∀ e ∈ s.result.entries, ∀ batch, e.resultBatch = some batch → ∀ r ∈ batch.records,
    ∃ i ∈ s.input.entries, i.cursor = r.cursor
  checkpoint : s.source.wal.checkpoint = 0 ∨ ∃ e ∈ s.input.entries, e.sourceWalSequence = s.source.wal.checkpoint

variable {wal : Log SourceWalRecord} {s t : Actor} {cfg : Config} {item : ℕ × ResultWalRecord} {batch : InferenceResultBatch}
  {n : ℕ}

theorem FinalizedAt.of_extended {wal' : Log SourceWalRecord} (h : FinalizedAt wal n)
    (hext : wal.entries <+: wal'.entries) : FinalizedAt wal' n := by
  obtain ⟨snapshot, hsnap, hn⟩ := h
  exact ⟨snapshot, hsnap.of_extended hext, hn⟩

theorem FinalizedAt.le_last (h : FinalizedAt wal n) : n ≤ wal.lastSequence := by
  obtain ⟨snapshot, hsnap, rfl⟩ := h
  exact hsnap.le_last

theorem FinalizedAt.max {m : ℕ} (hn : FinalizedAt wal n) (hm : FinalizedAt wal m) :
    FinalizedAt wal (max n m) := by
  rcases le_total n m with hle | hle
  · rwa [max_eq_right hle]
  · rwa [max_eq_left hle]

/-- the logs may grow and memory may be dropped -/
theorem Provenance.grow (h : Provenance s) (hsource : s.source.wal.entries <+: t.source.wal.entries)
    (hcheckpoint : t.source.wal.checkpoint = s.source.wal.checkpoint)
    (hwindows : t.windows.openWindows ⊆ s.windows.openWindows) (hemitted : t.emitted = s.emitted)
    (hinput : t.input.entries = s.input.entries) (hresult : t.result.entries = s.result.entries) : Provenance t where
  windows w hw := (h.windows w (hwindows hw)).of_extended hsource
  emitted r hr := by
    rw [hemitted] at hr
    exact ⟨(h.emitted r hr).1.of_extended hsource, (h.emitted r hr).2⟩
  input e he := by
    rw [hinput] at he
    exact (h.input e he).of_extended hsource
  cited := by
    rw [hinput, hresult]
    exact h.cited
  checkpoint := by
    rw [hinput, hcheckpoint]
    exact h.checkpoint

theorem Provenance.quiet (h : Provenance s) (hq : Quiet s t) : Provenance t :=
  h.grow hq.source.entries hq.source.checkpoint (by rw [hq.windows]; exact fun _ hw => hw) hq.emitted (by rw [hq.input])
    (by rw [hq.result])

/-- one more input record with the source of a finalized snapshot -/
theorem Provenance.append {n : InferenceRecord} (h : Provenance s) (hn : FinalizedAt s.source.wal n.sourceWalSequence)
    (hsource : t.source = s.source) (hwindows : t.windows = s.windows) (hemitted : t.emitted = s.emitted)
    (hinput : t.input.entries = s.input.entries ++ [n]) (hresult : t.result.entries = s.result.entries) :
    Provenance t where
  windows := by
    rw [hsource, hwindows]
    exact h.windows
  emitted := by
    rw [hsource, hemitted]
    exact h.emitted
  input e he := by
    rw [hsource]
    rw [hinput] at he
    rcases Run.mem_snoc.1 he with he | rfl
    · exact h.input e he
    · exact hn
  cited := by
    rw [hresult, hinput]
    intro e he batch hbatch r hr
    obtain ⟨i, hi, hcursor⟩ := h.cited e he batch hbatch r hr
    exact ⟨i, mem_append_left _ hi, hcursor⟩
  checkpoint := by
    rw [hsource, hinput]
    rcases h.checkpoint with hzero | ⟨e, he, hsrc⟩
    · exact .inl hzero
    · exact .inr ⟨e, mem_append_left _ he, hsrc⟩

/-! ## Admission -/

theorem toInferenceRecord_neutral (hash : Bytes → String) (w : WindowConfig) (x : OpenWindow) (moment mark : ℤ) :
    (toInferenceRecord hash w x moment mark).isBound = false := rfl

theorem admitSnapshot_source (cfg : Config) (s : Actor) (snapshot : TelemetrySnapshot) (env : AdmitReplies) :
    (admitSnapshot cfg s snapshot env).2.source = s.source := by
  unfold admitSnapshot
  cases push cfg.hash cfg.window s.windows snapshot env.now with
  | error => rfl
  | ok pushed =>
    dsimp only [admitAdvance]
    obtain ⟨input, known, h⟩ := admitWindowAdvance_frame cfg env 0 { s with windows := pushed.2, emitted := _ } _
    rw [h]

/-- admission of what the engine emitted on its way to `windows` -/
theorem Provenance.admitAdvance {advance : WindowAdvance} {windows : WindowEngine} (h : Provenance s)
    (hwindows : ∀ w ∈ windows.openWindows, FinalizedAt s.source.wal w.latestSourceWalSequence)
    (hrecords : ∀ r ∈ advance.inferenceRecords, FinalizedAt s.source.wal r.sourceWalSequence ∧ r.isBound = false)
    (env : AdmitReplies) : Provenance (admitAdvance cfg s advance windows env).2 := by
  have hstart : Provenance { s with windows, emitted := s.emitted ++ advance.inferenceRecords } := by
    refine ⟨hwindows, ?_, h.input, h.cited, h.checkpoint⟩
    intro r hr
    rcases List.mem_append.1 hr with hr | hr
    · exact h.emitted r hr
    · exact hrecords r hr
  refine (admitWindowAdvance_induct
    (P := fun t rest => Provenance t ∧ ∀ r ∈ rest, FinalizedAt t.source.wal r.sourceWalSequence) ?_ ?_ 0
    { s with windows, emitted := s.emitted ++ advance.inferenceRecords } advance.inferenceRecords []
    ⟨hstart, by simpa using fun r hr => (hrecords r hr).1⟩).1
  · intro t r rest ht
    exact ⟨ht.1, fun r' hr' => ht.2 r' (mem_cons_of_mem r hr')⟩
  · intro t r rest n ht hn
    refine ⟨ht.1.append ?_ rfl rfl rfl (append_entries _ n) rfl, fun r' hr' => ht.2 r' (mem_cons_of_mem r hr')⟩
    rw [hn.source]
    exact ht.2 r mem_cons_self

theorem Provenance.admitSnapshot (cfg : Config) {snapshot : TelemetrySnapshot} (h : Provenance s)
    (hsnap : Finalizes s.source.wal snapshot) (env : AdmitReplies) :
    Provenance (admitSnapshot cfg s snapshot env).2 := by
  unfold Delivery.admitSnapshot
  cases hpush : push cfg.hash cfg.window s.windows snapshot env.now with
  | error => exact h
  | ok =>
    have hnew : FinalizedAt s.source.wal snapshot.sourceWalSequence := ⟨snapshot, hsnap, rfl⟩
    -- the window the snapshot is added to: its old latest sequence or the snapshot's
    have hadd : FinalizedAt s.source.wal ((s.windows.target cfg.window snapshot).add snapshot).latestSourceWalSequence := by
      refine FinalizedAt.max ?_ hnew
      rcases target_cases cfg.window s.windows snapshot with ⟨hmem, -⟩ | hopened
      · exact h.windows _ hmem
      · rw [hopened]
        exact hnew
    obtain ⟨hopen, hrecords⟩ := push_windows (P := fun w => FinalizedAt s.source.wal w.latestSourceWalSequence) hpush
      h.windows hadd
    refine h.admitAdvance hopen ?_ env
    intro r hr
    obtain ⟨x, hx, moment, mark, rfl⟩ := hrecords r hr
    exact ⟨hx, toInferenceRecord_neutral _ _ _ _ _⟩

theorem Provenance.admitAgain (cfg : Config) (env : ℕ → AdmitReplies) {snapshots : List TelemetrySnapshot} (n : ℕ)
    (h : Provenance s) (hsnaps : ∀ x ∈ snapshots, Finalizes s.source.wal x) :
    Provenance (admitAgain cfg env n s snapshots).2 := by
  induction snapshots generalizing n s with
  | nil => exact h
  | cons snapshot _ ih =>
    have hnext := h.admitSnapshot cfg (hsnaps snapshot mem_cons_self) (env n)
    have hsource := admitSnapshot_source cfg s snapshot (env n)
    rw [Delivery.admitAgain]
    rcases hres : Delivery.admitSnapshot cfg s snapshot (env n) with ⟨e | u, t⟩
    · rw [hres] at hnext
      exact hnext
    · rw [hres] at hnext hsource
      refine ih (n + 1) hnext fun x hx => ?_
      rw [show t.source = s.source from hsource]
      exact hsnaps x (mem_cons_of_mem snapshot hx)

/-! ## The other steps -/

theorem Provenance.inputs (h : Provenance s) (hc : InputsChange cfg s t) : Provenance t := by
  have hmem : ∀ {x : ℕ × InferenceRecord}, x ∈ s.input.pending → x.2 ∈ s.input.entries := fun hx =>
    mem_of_getElem? (mem_pending hx).2.2
  cases hc with
  | quiet => exact h.grow (prefix_refl _) rfl (fun _ hw => hw) rfl rfl rfl
  | dropped _ _ hmove =>
    exact h.grow (prefix_refl _) rfl (fun _ hw => hw) rfl (moveTo_eq_some hmove).2.1 rfl
  | copied hhead _ hn =>
    exact h.append (hn.source ▸ h.input _ (hmem hhead.mem)) rfl rfl rfl rfl rfl
  | moved hhead _ hn hmove =>
    exact h.append (hn.source ▸ h.input _ (hmem hhead.mem)) rfl rfl rfl (moveTo_eq_some hmove).2.1 rfl
  | inferred _ _ _ hreplay hbound hanswers =>
    refine ⟨h.windows, h.emitted, h.input, ?_, h.checkpoint⟩
    intro e he batch hbatch r hr
    rcases Run.mem_snoc.1 he with he | rfl
    · exact h.cited e he batch hbatch r hr
    · -- the new batch answers queued records
      cases hbatch
      obtain ⟨k, -, -, -, hperm⟩ := result_answers hreplay hbound hanswers s.result.nextSequence
      obtain ⟨x, hx, hcursor⟩ := List.mem_map.1 (hperm.subset (mem_map_of_mem hr))
      exact ⟨x.2, hmem (mem_of_mem_take hx), hcursor⟩

/-- a head batch is in the result WAL -/
theorem HeadBatch.mem_entries (h : HeadBatch s item batch) : item.2 ∈ s.result.entries :=
  mem_of_getElem? (mem_pending (mem_of_mem_head? h.head)).2.2

/-- acknowledging adds no batch -/
theorem Acked.batches {result : Log ResultWalRecord} {sequence : ℕ} (h : Acked s item result sequence)
    {e : ResultWalRecord} (he : e ∈ result.entries) (hb : e.resultBatch = some batch) : e ∈ s.result.entries := by
  cases h with
  | replayed _ => exact he
  | committed =>
    rcases Run.mem_snoc.1 he with he | rfl
    · exact he
    · cases hb

/-- the source checkpoint of a batch is 0 or the source of an input record -/
theorem Provenance.sourceCheckpoint (h : Provenance s) (hhead : HeadBatch s item batch) :
    sourceCheckpoint batch = 0 ∨ ∃ e ∈ s.input.entries, e.sourceWalSequence = sourceCheckpoint batch := by
  by_cases hempty : batch.records = []
  · left
    simp [Delivery.sourceCheckpoint, hempty, maxOf]
  · right
    have hmax := maxOf_mem (l := batch.records.map InferenceResultRecord.sourceWalSequence) (by simpa using hempty)
    obtain ⟨r, hr, hsrc⟩ := List.mem_map.1 hmax
    obtain ⟨i, hi, hcursor⟩ := h.cited _ hhead.mem_entries batch hhead.batch r hr
    refine ⟨i, hi, Eq.trans ?_ hsrc⟩
    exact congrArg Cursor.sourceWalSequence hcursor

theorem Provenance.results (h : Provenance s) (hc : ResultsChange s t) : Provenance t := by
  have hacked : ∀ {item : ℕ × ResultWalRecord} {result : Log ResultWalRecord} {sequence : ℕ},
      Acked s item result sequence → ∀ e ∈ result.entries, ∀ batch, e.resultBatch = some batch → ∀ r ∈ batch.records,
        ∃ i ∈ s.input.entries, i.cursor = r.cursor :=
    fun hack e he batch hb => h.cited e (hack.batches he hb) batch hb
  -- the source checkpoint moves within the same entries
  have hmoved : ∀ {wal : Log SourceWalRecord} {n : ℕ}, s.source.wal.moveTo n = some wal →
      (∀ w ∈ s.windows.openWindows, FinalizedAt wal w.latestSourceWalSequence) ∧
        (∀ r ∈ s.emitted, FinalizedAt wal r.sourceWalSequence ∧ r.isBound = false) ∧
        (∀ e ∈ s.input.entries, FinalizedAt wal e.sourceWalSequence) ∧ wal.checkpoint = n := by
    intro wal n hmove
    obtain ⟨-, hentries, hcheckpoint⟩ := moveTo_eq_some hmove
    have hext : s.source.wal.entries <+: wal.entries := by rw [hentries]
    exact ⟨fun w hw => (h.windows w hw).of_extended hext,
      fun r hr => ⟨(h.emitted r hr).1.of_extended hext, (h.emitted r hr).2⟩,
      fun e he => (h.input e he).of_extended hext, hcheckpoint⟩
  cases hc with
  | quiet => exact h
  | acked _ hack => exact ⟨h.windows, h.emitted, h.input, hacked hack, h.checkpoint⟩
  | sourced hhead hack _ hsource =>
    obtain ⟨hw, he, hi, hcheckpoint⟩ := hmoved hsource
    exact ⟨hw, he, hi, hacked hack, hcheckpoint ▸ h.sourceCheckpoint hhead⟩
  | taken hhead hack _ hsource hinput =>
    obtain ⟨hw, he, hi, hcheckpoint⟩ := hmoved hsource
    have hentries := (moveTo_eq_some hinput).2.1
    exact ⟨hw, he, hentries ▸ hi, hentries ▸ hacked hack, hcheckpoint ▸ hentries ▸ h.sourceCheckpoint hhead⟩
  | settled hhead hack _ hsource hinput hresult =>
    obtain ⟨hw, he, hi, hcheckpoint⟩ := hmoved hsource
    have hentries := (moveTo_eq_some hinput).2.1
    have hbatches := (moveTo_eq_some hresult).2.1
    exact ⟨hw, he, hentries ▸ hi, hentries ▸ hbatches ▸ hacked hack, hcheckpoint ▸ hentries ▸ h.sourceCheckpoint hhead⟩

theorem Provenance.restarted (h : Provenance s) (fence : Option Fence) (env : ℕ → AdmitReplies) :
    Provenance (restarted cfg s fence env) := by
  have hnone : (WindowEngine.new).openWindows ⊆ s.windows.openWindows := fun _ hw => absurd hw not_mem_nil
  rcases restarted_cases cfg s fence env with hfresh | ⟨known, st, -, hst, running, routes, heq⟩
  · rw [hfresh]
    exact h.grow (prefix_refl _) rfl hnone rfl rfl rfl
  · rw [heq]
    have hrebuilt : Provenance (s.rebuilt fence known st) := h.grow (prefix_refl _) rfl hnone rfl rfl rfl
    have hagain := hrebuilt.admitAgain cfg env 0 (recoverRecords_finalizes hst)
    exact hagain.grow (prefix_refl _) rfl (fun _ hw => hw) rfl rfl rfl

/-! ## Every run -/

theorem step_provenance (cfg : Config) (s : Actor) (op : Op) (h : Provenance s) : Provenance (step cfg s op) := by
  unfold step
  split_ifs with hrun
  · by_cases hquiet : op.isQuiet = true
    · exact h.quiet (perform_quiet cfg s op hquiet)
    · cases op with
      | finish env admitEnv stop =>
        cases stop with
        | some => exact absurd rfl hquiet
        | none =>
          obtain ⟨source, hext, hsame | ⟨snapshot, hsnap, hdone⟩⟩ := finishSource_cases cfg s env admitEnv
          · simp only [perform, hsame]
            exact h.grow hext.entries hext.checkpoint (fun _ hw => hw) rfl rfl rfl
          · simp only [perform, hdone]
            have hmore : Provenance { s with source } := h.grow hext.entries hext.checkpoint (fun _ hw => hw) rfl rfl rfl
            exact hmore.admitSnapshot cfg hsnap admitEnv
      | tick env =>
        obtain ⟨hopen, hrecords⟩ := finalize_windows cfg.hash cfg.window s.windows env.now true
        refine h.admitAdvance (fun x hx => h.windows x (hopen x hx)) ?_ env
        intro r hr
        obtain ⟨x, hx, moment, mark, rfl⟩ := hrecords r hr
        exact ⟨h.windows x hx, toInferenceRecord_neutral _ _ _ _ _⟩
      | inputs env => exact h.inputs (processPendingInputs_change cfg s env)
      | results env => exact h.results (processPendingResults_change cfg s env).1
      | restart fence env => exact h.restarted fence env
      | _ => exact absurd rfl hquiet
  · exact h

/-- **Provenance.** In every run. -/
theorem run_provenance (cfg : Config) (ops : List Op) : Provenance (run cfg ops) :=
  foldl_invariant (P := Provenance) ⟨fun _ hw => absurd hw not_mem_nil, fun _ hr => absurd hr not_mem_nil,
    fun _ he => absurd he not_mem_nil, fun _ he => absurd he not_mem_nil, .inl rfl⟩
    (fun _ op ih => step_provenance cfg _ op ih) ops

/-- **Every result goes back to a finalized snapshot**, through the input it answers; so does the source checkpoint. -/
theorem results_traced (cfg : Config) (ops : List Op) : let s := run cfg ops
    (∀ e ∈ s.result.entries, ∀ batch, e.resultBatch = some batch → ∀ r ∈ batch.records,
      ∃ i ∈ s.input.entries, i.cursor = r.cursor ∧ FinalizedAt s.source.wal i.sourceWalSequence) ∧
    (s.source.wal.checkpoint = 0 ∨ FinalizedAt s.source.wal s.source.wal.checkpoint) := by
  have h := run_provenance cfg ops
  refine ⟨fun e he batch hbatch r hr => ?_, h.checkpoint.imp_right ?_⟩
  · obtain ⟨i, hi, hcursor⟩ := h.cited e he batch hbatch r hr
    exact ⟨i, hi, hcursor, h.input i hi⟩
  · rintro ⟨e, he, hsource⟩
    exact hsource ▸ h.input e he

end MasiEdge.Delivery
