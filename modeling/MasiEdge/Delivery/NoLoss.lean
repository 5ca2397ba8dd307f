/-
Whether a window that was emitted can be lost.

The window engine forgets a window when it emits its record, and only then is the record admitted to the input WAL. An
admission that is refused in the middle leaves the rest of the advance nowhere but in the source WAL, and the source
checkpoint of a later batch moves past it.

- `no_window_lost`: in every run in which every admission has room, each emitted record is in the input WAL, in particular
  every one the source checkpoint has reached.
- `refused_window_lost`: a record refused at the watermark is passed by the source checkpoint of the next window.
-/
import MasiEdge.Delivery.Provenance

namespace MasiEdge.Delivery

open Route Window Run
open Source (TelemetrySnapshot Fence)
open List

/-! ## Conditions -/

/-- none of the records is refused: no watermark, no failed append, room for their ids, and a route that binds them -/
def Room (cfg : Config) (s : Actor) (env : AdmitReplies) (records : List InferenceRecord) : Prop :=
  (∀ n < records.length, env.full n = false ∧ env.append n = .ok ()) ∧
    s.knownInputIds.length + records.length ≤ cfg.limits.pendingInputIdentities ∧
    ∀ r ∈ records, (bindForRoute cfg s r).isOk = true

instance (cfg : Config) (s : Actor) (env : AdmitReplies) (records : List InferenceRecord) :
    Decidable (Room cfg s env records) := by
  unfold Room
  infer_instance

/-- what one operation must meet -/
def Fits (cfg : Config) (s : Actor) (op : Op) : Prop :=
  match op with
  | .finish _ env none => Room cfg s env (emittedBy cfg s op)
  | .tick env => Room cfg s env (emittedBy cfg s op)
  | .restart _ env => (∀ k n, (env k).full n = false ∧ (env k).append n = .ok ()) ∧
      ∀ known, recoverKnown cfg [] s.input.pending = .ok known →
        known.length + (emittedBy cfg s op).length ≤ cfg.limits.pendingInputIdentities
  | _ => True

/-! ## Admission -/

/-- a record of that id has been appended to the input WAL -/
def Queued (s : Actor) (id : String) : Prop := ∃ e ∈ s.input.entries, e.inputId = id

variable {s t : Actor} {cfg : Config} {env : AdmitReplies} {es : List InferenceRecord}

theorem Queued.grow {id : String} (h : Queued s id) (hi : s.input.entries <+: t.input.entries) :
    Queued t id := by
  obtain ⟨e, he, hid⟩ := h
  exact ⟨e, hi.subset he, hid⟩

/-- an admission that takes every record -/
structure TakesAll (s t : Actor) (records : List InferenceRecord) : Prop where
  input : s.input.entries <+: t.input.entries
  count : t.knownInputIds.length ≤ s.knownInputIds.length + records.length
  known : ∀ id ∈ t.knownInputIds, Queued t id
  routes : t.routes = s.routes
  all : ∀ r ∈ records, Queued t r.inputId

theorem admitRecord_takes {r : InferenceRecord} {full : Bool} {io : EdgeResult Unit} (hfull : full = false)
    (hio : io = .ok ()) (hids : s.knownInputIds.length < cfg.limits.pendingInputIdentities)
    (hbind : (bindForRoute cfg s r).isOk = true) (hk : ∀ id ∈ s.knownInputIds, Queued s id) :
    ∃ t, admitRecord cfg s r full io = (.ok (), t) ∧ TakesAll s t [r] := by
  unfold admitRecord
  split_ifs with hknown
  · refine ⟨s, rfl, prefix_refl _, Nat.le_add_right _ _, hk, rfl, ?_⟩
    exact List.forall_mem_singleton.2 (hk _ hknown)
  · cases hb : bindForRoute cfg s r with
    | error => simp [hb, Except.isOk, Except.toBool] at hbind
    | ok bound =>
      have hprep : prepareInput cfg s r full = .ok { bound with inputWalSequence := s.input.nextSequence } := by
        unfold prepareInput
        rw [refuse_of_not (by simp [hfull]), ok_bind, refuse_of_not (by omega), ok_bind, hb, ok_bind]
        rfl
      have hid : bound.inputId = r.inputId := (bindForRoute_keeps hb).1
      have hgrow : s.input.entries <+:
          (s.input.append { bound with inputWalSequence := s.input.nextSequence }).entries := prefix_append _ _
      rw [hprep, hio]
      refine ⟨_, rfl, hgrow, ?_, ?_, rfl, ?_⟩
      · simp
      · intro id hmem
        rcases List.mem_cons.1 hmem with rfl | hmem
        · exact ⟨_, mem_append_right _ mem_cons_self, rfl⟩
        · exact (hk id hmem).grow hgrow
      · rw [forall_mem_singleton, ← hid]
        exact ⟨_, mem_append_right _ mem_cons_self, rfl⟩

/-- **An admission with room takes every record.** -/
theorem admitWindowAdvance_takes (n : ℕ) {records : List InferenceRecord}
    (henv : ∀ i < records.length, env.full (n + i) = false ∧ env.append (n + i) = .ok ())
    (hids : s.knownInputIds.length + records.length ≤ cfg.limits.pendingInputIdentities)
    (hbind : ∀ r ∈ records, (bindForRoute cfg s r).isOk = true) (hk : ∀ id ∈ s.knownInputIds, Queued s id) :
    TakesAll s (admitWindowAdvance cfg env n s records).2 records := by
  induction records generalizing n s with
  | nil => exact ⟨prefix_refl _, le_rfl, hk, rfl, fun r hr => absurd hr not_mem_nil⟩
  | cons r rest ih =>
    rw [length_cons] at hids
    obtain ⟨hfull, hio⟩ := henv 0 (by simp)
    obtain ⟨t, hres, hone⟩ := admitRecord_takes hfull hio (by omega) (hbind r mem_cons_self) hk
    have hcount := hone.count
    have hrest : TakesAll t (admitWindowAdvance cfg env (n + 1) t rest).2 rest := by
      refine ih (n + 1) ?_ ?_ ?_ hone.known
      · intro i hi
        have hnext := henv (i + 1) (by simpa using hi)
        rw [show n + 1 + i = n + (i + 1) by omega]
        exact hnext
      · simp only [length_singleton] at hcount
        omega
      · intro r' hr'
        rw [bindForRoute, hone.routes]
        exact hbind r' (mem_cons_of_mem r hr')
    have hnext : admitWindowAdvance cfg env n s (r :: rest) = admitWindowAdvance cfg env (n + 1) t rest := by
      simp only [Nat.add_zero] at hres
      rw [admitWindowAdvance, hres]
    rw [hnext]
    refine ⟨hone.input.trans hrest.input, ?_, hrest.known, hrest.routes.trans hone.routes, ?_⟩
    · have := hrest.count
      simp only [length_singleton] at hcount
      rw [length_cons]
      omega
    · intro r' hr'
      rcases List.mem_cons.1 hr' with rfl | hr'
      · exact (hone.all r' mem_cons_self).grow hrest.input
      · exact hrest.all r' hr'

/-! ## The invariant -/

/-- all that was emitted is in the input WAL, and so are the ids memory knows -/
structure Kept (s : Actor) : Prop where
  emitted : ∀ r ∈ s.emitted, Queued s r.inputId
  known : s.running = true → ∀ id ∈ s.knownInputIds, Queued s id

theorem Kept.of_eq (h : Kept s) (hi : s.input.entries <+: t.input.entries) (he : t.emitted = s.emitted)
    (hk : t.running = true → s.running = true ∧ t.knownInputIds ⊆ s.knownInputIds) : Kept t where
  emitted r hr := by
    rw [he] at hr
    exact (h.emitted r hr).grow hi
  known hrun id hid := by
    obtain ⟨hup, hsub⟩ := hk hrun
    exact (h.known hup id (hsub hid)).grow hi

/-- the state during an admission -/
structure Keeping (s : Actor) : Prop where
  emitted : ∀ r ∈ s.emitted, Queued s r.inputId
  known : ∀ id ∈ s.knownInputIds, Queued s id

theorem Keeping.kept (h : Keeping s) (hi : t.input = s.input) (he : t.emitted = s.emitted)
    (hk : t.knownInputIds = s.knownInputIds) : Kept t where
  emitted r hr := by
    rw [he] at hr
    exact (h.emitted r hr).grow (by rw [hi])
  known _ id hid := by
    rw [hk] at hid
    exact (h.known id hid).grow (by rw [hi])

/-- an admission with room keeps everything -/
theorem Keeping.admitAdvance {advance : WindowAdvance} (h : Keeping s) (windows : WindowEngine)
    (hroom : Room cfg s env advance.inferenceRecords) :
    Keeping (admitAdvance cfg s advance windows env).2 ∧
      TakesAll s (admitAdvance cfg s advance windows env).2 advance.inferenceRecords := by
  obtain ⟨henv, hids, hbind⟩ := hroom
  have htakes : TakesAll { s with windows, emitted := s.emitted ++ advance.inferenceRecords }
      (Delivery.admitAdvance cfg s advance windows env).2 advance.inferenceRecords := by
    refine admitWindowAdvance_takes 0 (by simpa using henv) hids ?_ h.known
    exact fun r hr => hbind r hr
  refine ⟨⟨?_, htakes.known⟩, htakes.input, htakes.count, htakes.known, htakes.routes, htakes.all⟩
  intro r hr
  rw [Delivery.admitAdvance_emitted] at hr
  rcases List.mem_append.1 hr with hr | hr
  · exact (h.emitted r hr).grow htakes.input
  · exact htakes.all r hr

theorem Keeping.admitSnapshot {snapshot : TelemetrySnapshot} (h : Keeping s)
    (hes : (admitSnapshot cfg s snapshot env).2.emitted = s.emitted ++ es) (hroom : Room cfg s env es) :
    Keeping (admitSnapshot cfg s snapshot env).2 ∧ TakesAll s (admitSnapshot cfg s snapshot env).2 es := by
  unfold Delivery.admitSnapshot at hes ⊢
  cases hpush : push cfg.hash cfg.window s.windows snapshot env.now with
  | error =>
    rw [hpush] at hes
    obtain rfl : es = [] := by simpa using hes
    exact ⟨h, prefix_refl _, le_rfl, h.known, rfl, fun r hr => absurd hr not_mem_nil⟩
  | ok pushed =>
    rw [hpush] at hes
    obtain rfl : pushed.1.inferenceRecords = es :=
      append_cancel_left ((admitAdvance_emitted cfg s pushed.1 pushed.2 env).symm.trans hes)
    exact h.admitAdvance pushed.2 hroom

/-- re-admission by a process without a route -/
theorem Keeping.admitAgain {env : ℕ → AdmitReplies} (n : ℕ) {snapshots : List TelemetrySnapshot} (h : Keeping s)
    (hroute : s.routes.router.state ≠ .active) (henv : ∀ k n, (env k).full n = false ∧ (env k).append n = .ok ())
    (hes : (admitAgain cfg env n s snapshots).2.emitted = s.emitted ++ es)
    (hids : s.knownInputIds.length + es.length ≤ cfg.limits.pendingInputIdentities) :
    Keeping (admitAgain cfg env n s snapshots).2 := by
  let Q (s : Actor) (es : List InferenceRecord) : Prop := Keeping s ∧ s.routes.router.state ≠ .active ∧
    s.knownInputIds.length + es.length ≤ cfg.limits.pendingInputIdentities
  refine (admitAgain_each (Q := Q) ?_ n s snapshots es hes ⟨h, hroute, hids⟩).1
  rintro n s snapshot es later hes ⟨h, hroute, hids⟩
  have hbind : ∀ r ∈ es, (bindForRoute cfg s r).isOk = true := by
    intro r _
    rw [bindForRoute, if_neg hroute]
    rfl
  rw [length_append] at hids
  obtain ⟨hkeep, htakes⟩ := h.admitSnapshot hes ⟨fun k _ => henv n k, by omega, hbind⟩
  have hcount := htakes.count
  refine ⟨hkeep, ?_, by omega⟩
  rw [htakes.routes]
  exact hroute

/-! ## One step -/

theorem Kept.inputs (h : Kept s) (hc : InputsChange cfg s t) : Kept t := by
  have hsame : ∀ t : Actor, t.running = s.running → t.knownInputIds = s.knownInputIds →
      (t.running = true → s.running = true ∧ t.knownInputIds ⊆ s.knownInputIds) := by
    intro t hrun hids hup
    exact ⟨hrun ▸ hup, by rw [hids]; exact fun _ hid => hid⟩
  cases hc with
  | quiet router | inferred router now hidle hreplay hbound hanswers =>
    exact h.of_eq (prefix_refl _) rfl (hsame _ rfl rfl)
  | dropped _ _ hmove =>
    exact h.of_eq (by rw [(Log.moveTo_eq_some hmove).2.1]) rfl (hsame _ rfl rfl)
  | copied => exact h.of_eq (prefix_append _ _) rfl (hsame _ rfl rfl)
  | moved _ _ _ hmove =>
    refine h.of_eq ?_ rfl (hsame _ rfl rfl)
    rw [(Log.moveTo_eq_some hmove).2.1]
    exact prefix_append _ _

theorem Kept.results (h : Kept s) (hc : ResultsChange s t) : Kept t := by
  cases hc with
  | quiet => exact h
  | acked hhead hack | sourced hhead hack hacks hsource =>
    exact h.of_eq (prefix_refl _) rfl fun hup => ⟨hup, fun _ hid => hid⟩
  | taken _ _ _ _ hinput =>
    exact h.of_eq (by rw [(Log.moveTo_eq_some hinput).2.1]) rfl fun hup => ⟨hup, fun _ hid => hid⟩
  | settled _ _ _ _ hinput _ hknown =>
    refine h.of_eq (by rw [(Log.moveTo_eq_some hinput).2.1]) rfl fun hup => ⟨hup, ?_⟩
    rcases hknown with rfl | rfl
    · exact fun _ hid => hid
    · exact fun _ hid => (List.mem_filter.1 hid).1

theorem Kept.restarted {fence : Option Fence} {env : ℕ → AdmitReplies} (h : Kept s)
    (hfits : Fits cfg s (.restart fence env)) : Kept (restarted cfg s fence env) := by
  obtain ⟨henv, hids⟩ := hfits
  rcases restarted_cases cfg s fence env with hfresh | ⟨known, st, hknown, -, running, routes, heq⟩
  · rw [hfresh]
    exact h.of_eq (prefix_refl _) rfl fun hup => by cases hup
  · have hstart : Keeping (s.rebuilt fence known st) := by
      refine ⟨h.emitted, ?_⟩
      intro id hid
      rcases (recoverKnown_ok hknown id).1 hid with hnone | ⟨x, hx, rfl⟩
      · exact absurd hnone not_mem_nil
      · exact ⟨x.2, mem_of_getElem? (Log.mem_pending hx).2.2, rfl⟩
    obtain ⟨es, hes⟩ := admitAgain_emitted cfg env 0 (s.rebuilt fence known st) st.finalized
    have hemitted : emittedBy cfg s (.restart fence env) = es := by
      refine emittedBy_eq ?_
      have hstep : step cfg s (.restart fence env) = Delivery.restarted cfg s fence env := by
        simp [step, perform, Op.isRestart]
      rw [hstep, heq]
      exact hes
    have hagain := hstart.admitAgain 0 (fun hactive => by cases hactive) henv hes (hemitted ▸ hids known hknown)
    rw [heq]
    exact hagain.kept rfl rfl rfl

theorem step_kept {op : Op} (h : Kept s) (hfits : Fits cfg s op) : Kept (step cfg s op) := by
  by_cases hrun : s.running = true ∨ op.isRestart = true
  · have hstep : step cfg s op = perform cfg s op := by rw [step, if_pos hrun]
    by_cases hquiet : op.isQuiet = true
    · rw [hstep]
      have hsame := perform_quiet cfg s op hquiet
      refine h.of_eq (by rw [hsame.input]) hsame.emitted fun hup => ⟨hsame.running hup, ?_⟩
      rw [hsame.known]
      exact fun _ hid => hid
    · cases op with
      | finish env admitEnv stop =>
        cases stop with
        | some => exact absurd rfl hquiet
        | none =>
          have hup : s.running = true := by simpa [Op.isRestart] using hrun
          rw [hstep]
          obtain ⟨source, -, hsame | ⟨snapshot, -, hdone⟩⟩ := finishSource_cases cfg s env admitEnv
          · simp only [perform, hsame]
            exact h.of_eq (prefix_refl _) rfl fun _ => ⟨hup, fun _ hid => hid⟩
          · obtain ⟨es, hes⟩ := admitSnapshot_emitted cfg { s with source } snapshot admitEnv
            have hemitted : emittedBy cfg s (.finish env admitEnv none) = es := by
              refine emittedBy_eq ?_
              rw [hstep]
              simp only [perform, hdone]
              exact hes
            have hroom : Room cfg { s with source } admitEnv es := hemitted ▸ hfits
            have hstart : Keeping { s with source } := ⟨h.emitted, h.known hup⟩
            simp only [perform, hdone]
            exact (hstart.admitSnapshot hes hroom).1.kept rfl rfl rfl
      | tick env =>
        have hup : s.running = true := by simpa [Op.isRestart] using hrun
        have hemitted : emittedBy cfg s (.tick env) = (tick cfg.hash cfg.window s.windows env.now).1.inferenceRecords :=
          emittedBy_eq (by rw [hstep]; exact admitAdvance_emitted cfg s _ _ env)
        have hroom : Room cfg s env (tick cfg.hash cfg.window s.windows env.now).1.inferenceRecords := hemitted ▸ hfits
        have hstart : Keeping s := ⟨h.emitted, h.known hup⟩
        rw [hstep]
        exact (hstart.admitAdvance _ hroom).1.kept rfl rfl rfl
      | inputs env =>
        rw [hstep]
        exact h.inputs (processPendingInputs_change cfg s env)
      | results env =>
        rw [hstep]
        exact h.results (processPendingResults_change cfg s env).1
      | restart =>
        rw [hstep]
        exact h.restarted hfits
      | _ => exact absurd rfl hquiet
  · rw [step, if_neg hrun]
    exact h

theorem run_kept {ops : List Op} (h : Along (fun pre op => Fits cfg (run cfg pre) op) ops) :
    Kept (run cfg ops) :=
  h.invariant (P := Kept) ⟨fun _ hr => absurd hr not_mem_nil, fun _ _ hid => absurd hid not_mem_nil⟩
    fun _ _ _ hop ih => step_kept ih hop

/-! ## Main theorem -/

/-- every emitted record that the source checkpoint has reached was appended to the input WAL -/
def NothingLost (s : Actor) : Prop :=
  ∀ r ∈ s.emitted, r.sourceWalSequence ≤ s.source.wal.checkpoint → Queued s r.inputId

/-- **No final window is lost**, in every run in which every admission has room. -/
theorem no_window_lost (cfg : Config) (ops : List Op) (h : Along (fun pre op => Fits cfg (run cfg pre) op) ops) :
    NothingLost (run cfg ops) := fun r hr _ => (run_kept h).emitted r hr

/-- the condition on a run without restarts -/
def fitsNow (cfg : Config) (s : Actor) (op : Op) : Bool :=
  match op with
  | .finish _ env none => Room cfg s env (emittedBy cfg s op)
  | .tick env => Room cfg s env (emittedBy cfg s op)
  | .restart _ _ => false
  | _ => true

theorem Fits.of_fitsNow {op : Op} (h : fitsNow cfg s op = true) : Fits cfg s op := by
  cases op with
  | finish env admitEnv stop =>
    cases stop with
    | none =>
      have hroom : Room cfg s admitEnv (emittedBy cfg s (.finish env admitEnv none)) := of_decide_eq_true h
      exact hroom
    | some => trivial
  | tick env =>
    have hroom : Room cfg s env (emittedBy cfg s (.tick env)) := of_decide_eq_true h
    exact hroom
  | restart => cases h
  | _ => trivial

/-- both windows are delivered -/
def bothDelivered : List Op :=
  scripted (sampleConfig 2) (always twoWindows ++ [poolInputs (sampleConfig 2) .done, poolInputs (sampleConfig 2) .done,
    poolInputs (sampleConfig 2) .done, sinkResults (sampleConfig 2)])

theorem bothDelivered_nothing_lost :
    (run (sampleConfig 2) bothDelivered).source.wal.checkpoint = 15 ∧ NothingLost (run (sampleConfig 2) bothDelivered) := by
  have hfits : holdsAlong (step (sampleConfig 2)) (fitsNow (sampleConfig 2)) (Actor.initial (sampleConfig 2)) bothDelivered =
      true := by decide +kernel
  exact ⟨by decide +kernel, no_window_lost _ _ ((along_of_holdsAlong hfits).imp fun _ _ h => Fits.of_fitsNow h)⟩

/-- the first window is admitted, the second refused at the watermark; the first is delivered, which frees the input WAL, and
the third is admitted and delivered -/
def refusedInBetween : List Op :=
  scripted (sampleConfig 2)
    (always (quietCycle 0 1 150 ++ quietCycle 1 2 250 ++ quietCycle 0 3 350 ++
        [.poll (quietPoll 1 4 450), .finish (quietFinish 1 4 450) ⟨450, fun _ => true, fun _ => .ok ()⟩ none] ++
        activePool.map .route) ++
      [poolInputs (sampleConfig 2) .done, poolInputs (sampleConfig 2) .done, sinkResults (sampleConfig 2)] ++
      always (quietCycle 0 5 550) ++ [poolInputs (sampleConfig 2) .done, sinkResults (sampleConfig 2)])

/-- **A refused window is lost.** The second window was refused while the first was pending; the source checkpoint of the
third passes it, and no record of it was ever appended. -/
theorem refused_window_lost : ¬ NothingLost (run (sampleConfig 2) refusedInBetween) := by
  have hlost : ∃ r ∈ (run (sampleConfig 2) refusedInBetween).emitted,
      r.sourceWalSequence ≤ (run (sampleConfig 2) refusedInBetween).source.wal.checkpoint ∧
        ∀ e ∈ (run (sampleConfig 2) refusedInBetween).input.entries, e.inputId ≠ r.inputId := by
    decide +kernel
  obtain ⟨r, hr, hpassed, hnone⟩ := hlost
  intro h
  obtain ⟨e, he, hid⟩ := h r hr hpassed
  exact hnone e he hid

end MasiEdge.Delivery
