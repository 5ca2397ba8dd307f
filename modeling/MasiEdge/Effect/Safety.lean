/-
Safety of the effect journal over whole runs.

- `single_effect`: in every run in which no append fails in a process that goes on (it may stop there), the un-checkpointed
  journal holds one operation, replay accepts it, and no `execute` issues writes while an earlier `WRITE_STARTED` has no
  durable result.
- `unknown_reconcilable_iff`: an `UNKNOWN` effect that waits for its acknowledgement is always also recovered, hence
  reconciled by maintenance, if and only if no live `execute` ends with an unknown outcome.

Both conditions are needed. `pending_effect_ack` is set after the second append only (`second_effect_journaled`), and the
live path never sets `recovered_effect` (`unknown_effect_stuck`).
-/
import MasiEdge.Effect.Journal

namespace MasiEdge.Effect

open Run
open Source (Fence)
open List Log

/-! ## What a journal must look like -/

/-- every `WRITE_STARTED` is followed by a result of the same operation -/
def Resolved (l : List EffectJournalRecord) : Prop :=
  ∀ pre x post, l = pre ++ x :: post → x.stage = .writeStarted → ∃ y ∈ post, y.key = x.key ∧ y.result.isSome = true

/-- what the actor writes -/
structure WellFormed (fw : Firewall) (targetId : String) (r : EffectJournalRecord) : Prop where
  schema : r.schemaVersion = "edge-effect-journal/v1"
  body : ∃ intent plan, r.intent = some intent ∧ r.plan = some plan ∧ intent.targetId = targetId ∧
    fw.fromContract plan = .ok ()
  started : r.stage = .writeStarted → r.result = none

/-- one operation awaits its acknowledgement, and the actor knows about it -/
structure Inv (fw : Firewall) (s : EffectState) : Prop where
  wellFormed : ∀ x ∈ s.journal.pending, WellFormed fw s.assignment.targetId x.2
  sameKey : ∀ x ∈ s.journal.pending, ∀ y ∈ s.journal.pending, x.2.key = y.2.key
  guarded : s.alive = true → s.hold = false → s.journal.pending ≠ [] → s.pending.isSome ∨ s.recovered.isSome
  recovered : ∀ r, s.recovered = some r → r.intent.targetId = s.assignment.targetId ∧ fw.fromContract r.plan = .ok () ∧
    ∀ x ∈ s.journal.pending, x.2.key = some r.intent.key
  last : s.recovered = none → ∀ p, s.pending = some p → p.journalSequence = s.journal.lastSequence ∧
    ∃ x ∈ s.journal.entries.getLast?, x.result.isSome = true
  resolved : Resolved (s.journal.entries.take s.journal.checkpoint)

theorem resolved_nil : Resolved [] := by
  intro pre x post h
  simp at h

theorem resolved_append {a b : List EffectJournalRecord} (ha : Resolved a) (hb : Resolved b) : Resolved (a ++ b) := by
  intro pre x post h hx
  rcases List.append_eq_append_iff.1 h with ⟨mid, rfl, hmid⟩ | ⟨mid, rfl, hmid⟩
  · exact hb mid x post hmid hx
  · cases mid with
    | nil => exact hb [] x post hmid.symm hx
    | cons _ mid =>
      obtain ⟨rfl, rfl⟩ := List.cons.inj hmid
      obtain ⟨y, hy, hk⟩ := ha pre x mid rfl hx
      exact ⟨y, mem_append_left _ hy, hk⟩

/-- one operation whose last record is a result is resolved -/
theorem resolved_of_last {l : List EffectJournalRecord} (hkey : ∀ x ∈ l, ∀ y ∈ l, x.key = y.key)
    (hstarted : ∀ x ∈ l, x.stage = .writeStarted → x.result = none)
    (hlast : ∀ x ∈ l.getLast?, x.result.isSome = true) : Resolved l := by
  intro pre x post h hx
  rcases eq_nil_or_concat post with rfl | ⟨post, y, rfl⟩
  · have hres := hlast x (by simp [h])
    rw [hstarted x (by simp [h]) hx] at hres
    simp at hres
  · rw [concat_eq_append] at h ⊢
    have hend : l.getLast? = some y := by rw [h, ← cons_append, ← append_assoc, getLast?_concat]
    exact ⟨y, by simp, hkey y (by simp [h]) x (by simp [h]), hlast y hend⟩

/-! ## Replay -/

/-- what replay holds after `items`: the last record decides, and the pending effect belongs to the same operation -/
structure Replayed (fw : Firewall) (items : List (ℕ × EffectJournalRecord)) (st : Replay) : Prop where
  empty : items = [] → st = ⟨none, none, none⟩
  last : ∀ x ∈ items.getLast?, ∃ intent plan, x.2.intent = some intent ∧ x.2.plan = some plan ∧
    st.key = some intent.key ∧ st.recovered = some ⟨intent, plan, x.2.result.map EffectResult.status⟩ ∧
    ∀ result, x.2.result = some result → st.pending = some (pendingOf fw intent result x.1)
  same : ∀ p, st.pending = some p → ∃ r, st.recovered = some r ∧ p.operationId = r.intent.operationId ∧
    p.effectIntentId = r.intent.effectIntentId

variable {fw : Firewall} {items : List (ℕ × EffectJournalRecord)} {st : Replay} {targetId token : String}
  {pending : Option PendingEffectAck} {recovered : Option RecoveredEffect} {s t : EffectState} {intent : EffectIntent}
  {plan : CompiledEffectPlan} {op : Op} {env : ExecuteReplies}

theorem Replayed.recovered_key (h : Replayed fw items st) (r : RecoveredEffect) (hr : st.recovered = some r) :
    st.key = some r.intent.key := by
  rcases eq_nil_or_concat items with rfl | ⟨init, y, rfl⟩
  · rw [h.empty rfl] at hr
    simp at hr
  · rw [concat_eq_append] at h
    obtain ⟨intent, plan, -, -, hkey, hrec, -⟩ := h.last y (by simp)
    rw [hrec, Option.some.injEq] at hr
    rw [hkey, ← hr]

theorem replayRecord_ok {st' : Replay} {x : ℕ × EffectJournalRecord} (h : replayRecord fw targetId st x = .ok st') :
    ∃ intent plan, x.2.intent = some intent ∧ x.2.plan = some plan ∧ (st.key.isSome → st.key = some intent.key) ∧
      st'.key = some intent.key ∧ st'.recovered = some ⟨intent, plan, x.2.result.map EffectResult.status⟩ ∧
      (∀ result, x.2.result = some result → st'.pending = some (pendingOf fw intent result x.1)) ∧
      (x.2.result = none → st'.pending = st.pending) := by
  obtain ⟨-, -, h⟩ := bind_ok.1 h
  cases hintent : x.2.intent with
  | none => simp [hintent] at h
  | some intent =>
    cases hplan : x.2.plan with
    | none => simp [hintent, hplan] at h
    | some plan =>
      simp only [hintent, hplan] at h
      obtain ⟨-, -, h⟩ := bind_ok.1 h
      obtain ⟨_, hkey, h⟩ := bind_ok.1 h
      obtain ⟨-, -, h⟩ := bind_ok.1 h
      have hkey := refuse_ok.1 hkey
      injection h with h
      subst h
      refine ⟨intent, plan, rfl, rfl, fun hs => ?_, rfl, rfl, fun result hr => by simp [hr], fun hr => by simp [hr]⟩
      by_contra hne
      exact hkey ⟨hs, hne⟩

theorem replayed_of_ok (h : replayJournal fw targetId items = .ok st) : Replayed fw items st := by
  refine runM_induction _ _ (Replayed fw) ⟨fun _ => rfl, by simp, by simp⟩ ?_ items st h
  intro items st x st' hrep hx
  obtain ⟨intent, plan, hintent, hplan, hfree, hkey, hrec, hres, hnone⟩ := replayRecord_ok hx
  refine { empty := by simp, last := ?_, same := ?_ }
  · intro y hy
    obtain rfl : x = y := by simpa using hy
    exact ⟨intent, plan, hintent, hplan, hkey, hrec, hres⟩
  · intro p hp
    refine ⟨_, hrec, ?_⟩
    cases hr : x.2.result with
    | some result =>
      rw [hres result hr, Option.some.injEq] at hp
      subst hp
      exact ⟨rfl, rfl⟩
    | none =>
      rw [hnone hr] at hp
      -- the pending effect is an earlier one, of the key that `x` had to match
      obtain ⟨r, hr, hop, hid⟩ := hrep.same p hp
      have hk := hrep.recovered_key r hr
      have hk' := hfree (by simp [hk])
      rw [hk, Option.some.injEq] at hk'
      simp only [EffectIntent.key, Prod.mk.injEq] at hk'
      exact ⟨hop.trans hk'.1, hid.trans hk'.2.1⟩

/-- records of one operation, as the actor writes them, are replayed -/
theorem replay_total (fw : Firewall) (targetId : String) (items : List (ℕ × EffectJournalRecord))
    (hwf : ∀ x ∈ items, WellFormed fw targetId x.2) (hkey : ∀ x ∈ items, ∀ y ∈ items, x.2.key = y.2.key) :
    ∃ st, replayJournal fw targetId items = .ok st := by
  induction items using List.reverseRecOn with
  | nil => exact ⟨_, rfl⟩
  | append_singleton items x ih =>
    obtain ⟨st, hst⟩ := ih (fun y hy => hwf y (mem_append_left _ hy))
      (fun y hy z hz => hkey y (mem_append_left _ hy) z (mem_append_left _ hz))
    have hx := hwf x (by simp)
    obtain ⟨intent, plan, hintent, hplan, htarget, hdecode⟩ := hx.body
    have hfree : ¬ (st.key.isSome ∧ st.key ≠ some intent.key) := by
      rintro ⟨hsome, hne⟩
      have hrep := replayed_of_ok hst
      rcases eq_nil_or_concat items with rfl | ⟨init, y, rfl⟩
      · rw [hrep.empty rfl] at hsome
        simp at hsome
      · rw [concat_eq_append] at hrep
        obtain ⟨i, p, hi, -, hk, -⟩ := hrep.last y (by simp)
        have hyx := hkey y (by simp) x (by simp)
        simp only [EffectJournalRecord.key, hi, hintent, Option.map_some] at hyx
        exact hne (hk.trans hyx)
    obtain ⟨st', hst'⟩ : ∃ st', replayRecord fw targetId st x = .ok st' := by
      simp only [replayRecord, hx.schema, ne_eq, not_true, refuse_of_not not_false, ok_bind, hintent, hplan, htarget,
        refuse_of_not hfree, hdecode]
      exact ⟨_, rfl⟩
    exact ⟨st', (runM_snoc _ _ _ _ _).2 ⟨st, hst, hst'⟩⟩

/-- what `recover_effect_journal` leaves in memory -/
theorem recoverEffectJournal_ok (h : recoverEffectJournal fw targetId items = .ok (pending, recovered)) :
    ∃ st, Replayed fw items st ∧ (st.recovered = none → pending = none ∧ recovered = none) ∧
      ∀ r, st.recovered = some r → pending = st.pending ∧
        recovered = if settled r.lastStatus then none else some r := by
  unfold recoverEffectJournal at h
  cases hst : replayJournal fw targetId items with
  | error => simp [hst] at h
  | ok st =>
    refine ⟨st, replayed_of_ok hst, ?_⟩
    cases hr : st.recovered with
    | none =>
      simp only [hst, hr, Except.ok.injEq, Prod.mk.injEq] at h
      exact ⟨fun _ => ⟨h.1.symm, h.2.symm⟩, by simp⟩
    | some r =>
      simp only [hst, hr, Except.ok.injEq, Prod.mk.injEq] at h
      refine ⟨by simp, ?_⟩
      intro r' hr'
      obtain rfl : r = r' := by simpa using hr'
      exact ⟨h.1.symm, h.2.symm⟩

/-! ## What a step can do -/

/-- `execute` goes ahead only when nothing is held, recovered or pending -/
theorem admitExecute_go (h : admitExecute fw s intent token env = .ok (.go plan)) :
    s.hold = false ∧ s.recovered = none ∧ s.pending = none ∧ intent.targetId = s.assignment.targetId ∧
      fw.fromContract plan = .ok () := by
  obtain ⟨_, hready, h⟩ := bind_ok.1 h
  obtain ⟨_, hfence, h⟩ := bind_ok.1 h
  obtain ⟨_, hhold, hready⟩ := bind_ok.1 hready
  obtain ⟨_, hrec, -⟩ := bind_ok.1 hready
  obtain ⟨_, htarget, -⟩ := bind_ok.1 hfence
  cases hp : s.pending with
  | some =>
    simp only [hp] at h
    split_ifs at h
    simp [pure, Except.pure] at h
  | none =>
    simp only [hp] at h
    obtain ⟨plan', hcheck, h⟩ := bind_ok.1 h
    obtain rfl : plan' = plan := by simpa [pure, Except.pure] using h
    unfold checkToken at hcheck
    cases hl : s.preflights.lookup token with
    | none => simp [hl] at hcheck
    | some record =>
      simp only [hl] at hcheck
      replace hcheck := passed hcheck
      replace hcheck := passed hcheck
      obtain ⟨_, hdecode, hcheck⟩ := bind_ok.1 hcheck
      obtain rfl : record.plan = plan' := by simpa [pure, Except.pure] using hcheck
      exact ⟨by simpa using hhold, by simpa using hrec, rfl, by simpa using htarget, hdecode⟩

/-- every way one operation changes the state, with what had to hold before -/
inductive Change (fw : Firewall) (s : EffectState) : Op → EffectState → Prop where
  | idle (op : Op) (preflights : List (String × PreflightRecord)) (hold alive : Bool)
    (hhold : hold = false → s.hold = false) (halive : alive = true → s.alive = true) :
    Change fw s op { s with preflights, hold, alive }
  /-- the writes were issued and the result did not become durable -/
  | started (intent : EffectIntent) (token : String) (env : ExecuteReplies) (plan : CompiledEffectPlan)
    (preflights : List (String × PreflightRecord)) (alive : Bool) (ready : s.alive = true)
    (go : admitExecute fw s intent token env = .ok (.go plan)) (io : env.startedIo = .ok)
    (lost : alive = false ∨ ∃ e, env.resultIo = .fail e) (open_ : env.resultIo ≠ .ok) :
    Change fw s (.execute intent token env)
      { s with preflights, alive, journal := s.journal.append (startedRecord intent plan env.now) }
  | executed (intent : EffectIntent) (token : String) (env : ExecuteReplies) (plan : CompiledEffectPlan)
    (preflights : List (String × PreflightRecord)) (ready : s.alive = true)
    (go : admitExecute fw s intent token env = .ok (.go plan)) (io : env.startedIo = .ok) (durable : env.resultIo = .ok)
    (result : EffectResult) (hresult : result = executeResult intent plan env.applied) :
    Change fw s (.execute intent token env)
      { s with
        preflights
        journal := (s.journal.append (startedRecord intent plan env.now)).append
          (resultRecord (resultStage result.status) intent plan result env.now)
        pending := some (pendingOf fw intent result (s.journal.append (startedRecord intent plan env.now)).nextSequence) }
  | acknowledged (request : AcknowledgeEffectRequest) (p : PendingEffectAck) (journal : Log EffectJournalRecord)
    (pending : s.pending = some p) (recovered : s.recovered = none)
    (moved : s.journal.moveTo p.journalSequence = some journal) :
    Change fw s (.acknowledge request .ok) { s with journal, pending := none }
  | reconciled (env : ReconcileReplies) (r : RecoveredEffect) (stage : JournalStage) (result : EffectResult)
    (recovered : s.recovered = some r) (hstage : stage ≠ .writeStarted)
    (verdict : result.status = .applied ∨ result.status = .unknown) :
    Change fw s (.reconcile env)
      { s with
        journal := s.journal.append (resultRecord stage r.intent r.plan result env.now)
        pending := some (pendingOf fw r.intent result s.journal.nextSequence)
        recovered := if result.status = .applied then none else some { r with lastStatus := some .unknown } }
  | restarted (fence : Option Fence) (hold : Bool) (pending : Option PendingEffectAck) (recovered : Option RecoveredEffect)
    (replayed : hold = true ∧ pending = none ∧ recovered = none ∨
      recoverEffectJournal fw s.assignment.targetId s.journal.pending = .ok (pending, recovered)) :
    Change fw s (.restart fence hold)
      { s with assignment := { s.assignment with fence }, pending, recovered, preflights := [], hold, alive := true }
  /-- the journal was rejected: no actor -/
  | rejected (fence : Option Fence) (hold : Bool) :
    Change fw s (.restart fence hold)
      { s with assignment := { s.assignment with fence }, pending := none, recovered := none, preflights := [], hold
               alive := false }

theorem Change.same : Change fw s op s :=
  .idle op s.preflights s.hold s.alive id id

theorem consumeToken_eq (fw : Firewall) (s : EffectState) (intent : EffectIntent) (token : String) (env : ExecuteReplies) :
    ∃ preflights, consumeToken fw s intent token env = { s with preflights } := by
  unfold consumeToken
  split_ifs
  · exact ⟨_, rfl⟩
  · exact ⟨s.preflights, rfl⟩

theorem execute_change (fw : Firewall) (s : EffectState) (intent : EffectIntent) (token : String) (env : ExecuteReplies)
    (ready : s.alive = true) : Change fw s (.execute intent token env) (execute fw s intent token env).2 := by
  obtain ⟨preflights, hconsume⟩ := consumeToken_eq fw s intent token env
  unfold execute
  rw [hconsume]
  cases hgo : admitExecute fw s intent token env with
  | error => exact .idle _ preflights s.hold s.alive id id
  | ok admission =>
    cases admission with
    | answer => exact .same
    | go plan =>
      cases hs : env.startedIo with
      | fail => exact .idle _ preflights s.hold s.alive id id
      | crash => exact .idle _ preflights s.hold false id (by simp)
      | ok =>
        simp only [appendThen, recordResult]
        cases hr : env.resultIo with
        | fail e => exact .started intent token env plan preflights s.alive ready hgo hs (.inr ⟨e, hr⟩) (by simp [hr])
        | crash => exact .started intent token env plan preflights false ready hgo hs (.inl rfl) (by simp [hr])
        | ok => exact .executed intent token env plan preflights ready hgo hs hr _ rfl

theorem acknowledge_change (fw : Firewall) (s : EffectState) (request : AcknowledgeEffectRequest) (io : Io) :
    Change fw s (.acknowledge request io) (acknowledgeEffect s request io).2 := by
  unfold acknowledgeEffect
  cases hcheck : checkAcknowledge s request with
  | error => exact .same
  | ok sequence =>
    have hp : ∃ p, s.pending = some p ∧ s.recovered = none ∧ p.journalSequence = sequence := by
      obtain ⟨_, -, h⟩ := bind_ok.1 hcheck
      replace h := passed h
      replace h := passed h
      replace h := passed h
      replace h := passed h
      cases hp : s.pending with
      | none => simp [hp] at h
      | some p =>
        simp only [hp] at h
        replace h := passed h
        obtain ⟨_, hrec, h⟩ := bind_ok.1 h
        have hrec := refuse_ok.1 hrec
        refine ⟨p, rfl, ?_, by simpa [pure, Except.pure] using h⟩
        simpa using fun hr => hrec (.inr hr)
    obtain ⟨p, hp, hrec, rfl⟩ := hp
    dsimp only
    cases hmove : s.journal.moveTo p.journalSequence with
    | none => exact .same
    | some journal =>
      cases io with
      | ok => exact .acknowledged request p journal hp hrec hmove
      | fail => exact .same
      | crash => exact .idle _ s.preflights s.hold false id (by simp)

theorem reconcileVerdict_status {readback : EdgeResult (String × ℕ)} {v : EffectStatus × String × ℕ × ℕ × String}
    (h : reconcileVerdict plan readback = .ok v) :
    v.1 = .applied ∨ v.1 = .unknown := by
  unfold reconcileVerdict at h
  split at h
  · injection h with h
    exact .inl (h ▸ rfl)
  · split_ifs at h
    injection h with h
    exact .inr (h ▸ rfl)
  · simp at h

theorem reconcile_change (fw : Firewall) (s : EffectState) (env : ReconcileReplies) :
    Change fw s (.reconcile env) (reconcileRecoveredEffect fw s env).2 := by
  unfold reconcileRecoveredEffect
  cases hr : s.recovered with
  | none => exact .same
  | some r =>
    dsimp only
    cases hv : reconcileVerdict r.plan env.readback with
    | error => exact .same
    | ok v =>
      have hstatus := reconcileVerdict_status hv
      obtain ⟨status, digest, observed, mismatched, reason⟩ := v
      dsimp only
      by_cases hsame : status = .unknown ∧ r.lastStatus = some .unknown
      · rw [if_pos hsame]
        exact .same
      · rw [if_neg hsame]
        cases hio : env.io with
        | fail => exact .same
        | crash => exact .idle _ s.preflights s.hold false id (by simp)
        | ok =>
          refine .reconciled env r _ _ hr ?_ hstatus
          split_ifs <;> simp

theorem restart_change (fw : Firewall) (s : EffectState) (fence : Option Fence) (hold : Bool) :
    Change fw s (.restart fence hold) (restart fw s fence hold) := by
  unfold restart
  cases hold with
  | true => exact .restarted fence true none none (.inl ⟨rfl, rfl, rfl⟩)
  | false =>
    cases h : recoverEffectJournal fw s.assignment.targetId s.journal.pending with
    | error => exact .rejected fence false
    | ok v => exact .restarted fence false v.1 v.2 (.inr h)

theorem step_change (fw : Firewall) (s : EffectState) (op : Op) : Change fw s op (step fw s op) := by
  by_cases halive : s.alive = true
  · have hrun : ¬ s.alive = false := by simp [halive]
    cases op with
    | preflight intent env =>
      simp only [step, if_neg hrun, preflight]
      cases preflightPlan fw s intent env with
      | error => exact .same
      | ok => exact .idle _ _ s.hold s.alive id id
    | execute intent token env =>
      simp only [step, if_neg hrun]
      exact execute_change fw s intent token env halive
    | acknowledge request io =>
      simp only [step, if_neg hrun]
      exact acknowledge_change fw s request io
    | reconcile env =>
      simp only [step, if_neg hrun]
      exact reconcile_change fw s env
    | dropPreflights =>
      simp only [step, if_neg hrun]
      exact .idle _ _ s.hold s.alive id id
    | retentionExpired =>
      simp only [step, if_neg hrun]
      exact .idle _ [] true s.alive (by simp) id
    | crash =>
      simp only [step, if_neg hrun]
      exact .idle _ s.preflights s.hold false id (by simp)
    | restart fence hold => exact restart_change fw s fence hold
  · cases op with
    | restart fence hold => exact restart_change fw s fence hold
    | _ =>
      simp only [step, Bool.eq_false_of_not_eq_true halive, if_true]
      exact .same

/-! ## One unacknowledged effect -/

/-- no append fails without stopping the process; one that does may leave its record in the file, where this journal has
none. A stop that leaves the record is an append that succeeds before the stop. -/
def AppendsDurable : Op → Prop
  | .execute _ _ env => (∀ e, env.startedIo ≠ .fail e) ∧ ∀ e, env.resultIo ≠ .fail e
  | .reconcile env => ∀ e, env.io ≠ .fail e
  | _ => True

theorem started_wellFormed (htarget : intent.targetId = targetId) (hdecode : fw.fromContract plan = .ok ()) (now : ℤ) :
    WellFormed fw targetId (startedRecord intent plan now) :=
  ⟨rfl, ⟨intent, plan, rfl, rfl, htarget, hdecode⟩, fun _ => rfl⟩

theorem result_wellFormed {stage : JournalStage} (htarget : intent.targetId = targetId)
    (hdecode : fw.fromContract plan = .ok ()) (hstage : stage ≠ .writeStarted) (result : EffectResult) (now : ℤ) :
    WellFormed fw targetId (resultRecord stage intent plan result now) :=
  ⟨rfl, ⟨intent, plan, rfl, rfl, htarget, hdecode⟩, fun h => absurd h hstage⟩

theorem resultStage_ne (status : EffectStatus) : resultStage status ≠ .writeStarted := by
  cases status <;> simp [resultStage]

/-- an admitted `execute` finds an acknowledged journal -/
theorem Inv.nothing_pending (h : Inv fw s) (halive : s.alive = true)
    (hgo : admitExecute fw s intent token env = .ok (.go plan)) : s.journal.pending = [] := by
  obtain ⟨hhold, hrec, hpend, -⟩ := admitExecute_go hgo
  by_contra hne
  rcases h.guarded halive hhold hne with hs | hs
  · simp [hpend] at hs
  · simp [hrec] at hs

theorem take_checkpoint_append (l : Log EffectJournalRecord) (r : EffectJournalRecord) :
    (l.append r).entries.take (l.append r).checkpoint = l.entries.take l.checkpoint :=
  take_append_of_le_length l.inRange

/-- once the last journaled record is a result, the whole journal is resolved -/
theorem Inv.resolved_entries (h : Inv fw s) (hlast : ∀ x ∈ s.journal.entries.getLast?, x.result.isSome = true) :
    Resolved s.journal.entries := by
  rw [← take_append_drop s.journal.checkpoint s.journal.entries]
  refine resolved_append h.resolved ?_
  have hmem : ∀ x ∈ s.journal.entries.drop s.journal.checkpoint, ∃ y ∈ s.journal.pending, y.2 = x := by
    intro x hx
    rw [← pending_map_snd] at hx
    simpa using hx
  refine resolved_of_last ?_ ?_ ?_
  · intro x hx y hy
    obtain ⟨x', hx', rfl⟩ := hmem x hx
    obtain ⟨y', hy', rfl⟩ := hmem y hy
    exact h.sameKey x' hx' y' hy'
  · intro x hx
    obtain ⟨x', hx', rfl⟩ := hmem x hx
    exact (h.wellFormed x' hx').started
  · intro x hx
    refine hlast x ?_
    rw [getLast?_drop] at hx
    split_ifs at hx
    · simp at hx
    · exact hx

theorem inv_initial (fw : Firewall) (assignment : Assignment) : Inv fw (EffectState.initial assignment) where
  wellFormed := by simp [EffectState.initial, pending_empty]
  sameKey := by simp [EffectState.initial, pending_empty]
  guarded := by simp [EffectState.initial, pending_empty]
  recovered := by simp [EffectState.initial]
  last := by simp [EffectState.initial]
  resolved := resolved_nil

/-- a restart that replays the journal knows about its operation again -/
theorem replay_inv (h : Inv fw s)
    (hok : recoverEffectJournal fw s.assignment.targetId s.journal.pending = .ok (pending, recovered))
    (fence : Option Fence) (hold : Bool) :
    Inv fw { s with assignment := { s.assignment with fence }, pending, recovered, preflights := [], hold, alive := true } := by
  obtain ⟨st, hrep, hnone, hsome⟩ := recoverEffectJournal_ok hok
  rcases hl : s.journal.pending.getLast? with _ | x
  · -- nothing to replay
    have hnil : s.journal.pending = [] := List.getLast?_eq_none_iff.1 hl
    rw [hnil] at hrep
    obtain ⟨rfl, rfl⟩ := hnone (by rw [hrep.empty rfl])
    exact ⟨by simp [hnil], by simp [hnil], by simp [hnil], by simp, by simp, h.resolved⟩
  · obtain ⟨intent, plan, hintent, hplan, -, hrec, hres⟩ := hrep.last x hl
    obtain ⟨rfl, rfl⟩ := hsome _ hrec
    have hx : x ∈ s.journal.pending := mem_of_getLast? hl
    have hseq := pending_getLast? hl
    -- a settled last record carries a result, which is the pending one
    have hset : settled (x.2.result.map EffectResult.status) = true →
        ∃ result, x.2.result = some result ∧ st.pending = some (pendingOf fw intent result x.1) := by
      intro hs
      cases hr : x.2.result with
      | none => simp [hr, settled] at hs
      | some result => exact ⟨result, rfl, hres result hr⟩
    refine { wellFormed := h.wellFormed, sameKey := h.sameKey, guarded := ?_, recovered := ?_, last := ?_
             resolved := h.resolved }
    · intro _ _ _
      by_cases hs : settled (x.2.result.map EffectResult.status) = true
      · obtain ⟨result, -, hp⟩ := hset hs
        exact .inl (by simp [hp])
      · exact .inr (by simp [hs])
    · intro r hr
      split_ifs at hr
      cases hr
      obtain ⟨i, p, hi, hp, htarget, hdecode⟩ := (h.wellFormed x hx).body
      obtain rfl : intent = i := by simpa [hintent] using hi
      obtain rfl : plan = p := by simpa [hplan] using hp
      refine ⟨htarget, hdecode, fun y hy => ?_⟩
      rw [h.sameKey y hy x hx, EffectJournalRecord.key, hintent]
      rfl
    · intro hr p hp
      split_ifs at hr with hs
      obtain ⟨result, hresult, hp'⟩ := hset hs
      cases hp.symm.trans hp'
      exact ⟨hseq.1, x.2, hseq.2, by simp [hresult]⟩

theorem step_inv (h : Inv fw s) (hchange : Change fw s op t) (hop : AppendsDurable op) : Inv fw t := by
  cases hchange with
  | idle _ _ _ _ hhold halive =>
    exact ⟨h.wellFormed, h.sameKey, fun ha hh => h.guarded (halive ha) (hhold hh), h.recovered, h.last, h.resolved⟩
  | started _ _ env plan _ alive ready hgo _ lost =>
    have hnil := h.nothing_pending ready hgo
    obtain ⟨-, hrec, hpend, htarget, hdecode⟩ := admitExecute_go hgo
    have hdead : alive = false := by
      rcases lost with hdead | ⟨e, he⟩
      · exact hdead
      · exact absurd he (hop.2 e)
    refine ⟨?_, ?_, by simp [hdead], by simp [hrec], by simp [hpend], ?_⟩
    · simpa [pending_append, hnil] using started_wellFormed htarget hdecode env.now
    · simp [pending_append, hnil]
    · exact (take_checkpoint_append s.journal _).symm ▸ h.resolved
  | executed intent _ env plan _ ready hgo _ _ result =>
    have hnil := h.nothing_pending ready hgo
    obtain ⟨-, hrec, -, htarget, hdecode⟩ := admitExecute_go hgo
    refine ⟨?_, ?_, by simp, by simp [hrec], ?_, ?_⟩
    · simpa [pending_append, hnil] using
        ⟨started_wellFormed htarget hdecode env.now, result_wellFormed htarget hdecode (resultStage_ne _) result env.now⟩
    · simp [pending_append, hnil, EffectJournalRecord.key, startedRecord, resultRecord]
    · intro _ p hp
      cases hp
      exact ⟨by simp [pendingOf, Log.append, Log.nextSequence, Log.lastSequence],
        resultRecord (resultStage result.status) intent plan result env.now, by simp [Log.append], rfl⟩
    · rw [take_checkpoint_append, take_checkpoint_append]
      exact h.resolved
  | acknowledged _ p journal hp hrec moved =>
    obtain ⟨hseq, x, hx, hres⟩ := h.last hrec p hp
    obtain ⟨-, hentries, hcheckpoint⟩ := moveTo_eq_some moved
    have hnil : journal.pending = [] := by
      rw [pending_eq_nil, hcheckpoint, hseq, Log.lastSequence, Log.lastSequence, hentries]
    refine ⟨by simp [hnil], by simp [hnil], by simp [hnil], by simp [hrec], by simp, ?_⟩
    have hall : journal.entries.take journal.checkpoint = s.journal.entries := by
      rw [hentries, hcheckpoint, hseq, Log.lastSequence, take_length]
    rw [hall]
    refine h.resolved_entries fun y hy => ?_
    cases hx.symm.trans hy
    exact hres
  | reconciled env r stage result hr hstage =>
    obtain ⟨htarget, hdecode, hkey⟩ := h.recovered r hr
    have hnew : ∀ y ∈ (s.journal.append (resultRecord stage r.intent r.plan result env.now)).pending,
        y.2.key = some r.intent.key := by
      rw [pending_append, forall_mem_append, forall_mem_singleton]
      exact ⟨hkey, rfl⟩
    refine ⟨?_, ?_, by simp, ?_, ?_, ?_⟩
    · rw [pending_append, forall_mem_append, forall_mem_singleton]
      exact ⟨h.wellFormed, result_wellFormed htarget hdecode hstage result env.now⟩
    · intro y hy z hz
      rw [hnew y hy, hnew z hz]
    · intro r' hr'
      split_ifs at hr'
      cases hr'
      exact ⟨htarget, hdecode, hnew⟩
    · intro _ p hp
      cases hp
      exact ⟨by simp [pendingOf, Log.append, Log.nextSequence, Log.lastSequence],
        resultRecord stage r.intent r.plan result env.now, by simp [Log.append], rfl⟩
    · rw [take_checkpoint_append]
      exact h.resolved
  | restarted fence hold _ _ replayed =>
    rcases replayed with ⟨rfl, rfl, rfl⟩ | hok
    · exact ⟨h.wellFormed, h.sameKey, by simp, by simp, by simp, h.resolved⟩
    · exact replay_inv h hok fence hold
  | rejected => exact ⟨h.wellFormed, h.sameKey, by simp, by simp, by simp, h.resolved⟩

theorem run_inv (fw : Firewall) (assignment : Assignment) (ops : List Op)
    (h : ∀ op ∈ ops, AppendsDurable op) : Inv fw (run fw assignment ops) := by
  have halong : Along (fun _ op => AppendsDurable op) ops := fun pre op post hsplit => h op (by simp [hsplit])
  exact halong.invariant (P := Inv fw) (inv_initial fw assignment) fun _ op _ hop ih => step_inv ih (step_change fw _ op) hop

/-- one operation in the un-checkpointed journal, which replay accepts, and no writes over an open `WRITE_STARTED` -/
structure SingleEffect (fw : Firewall) (s : EffectState) : Prop where
  sameKey : ∀ x ∈ s.journal.pending, ∀ y ∈ s.journal.pending, x.2.key = y.2.key
  recovers : ∃ v, recoverEffectJournal fw s.assignment.targetId s.journal.pending = .ok v
  resolved : ∀ intent token env, s.alive = true → issuesWrites fw s intent token env → Resolved s.journal.entries

theorem Inv.singleEffect (h : Inv fw s) : SingleEffect fw s where
  sameKey := h.sameKey
  recovers := by
    obtain ⟨st, hst⟩ := replay_total fw s.assignment.targetId s.journal.pending h.wellFormed h.sameKey
    simp only [recoverEffectJournal, hst]
    cases st.recovered with
    | none => exact ⟨_, rfl⟩
    | some => exact ⟨_, rfl⟩
  resolved := by
    rintro intent token env halive ⟨⟨plan, hgo⟩, -⟩
    have hall := Log.pending_eq_nil.1 (h.nothing_pending halive hgo)
    have hres := h.resolved
    rwa [hall, Log.lastSequence, take_length] at hres

/-- **Single unacknowledged effect.** In every run in which no journal append fails in a process that goes on, every reached
state holds one unacknowledged operation at most, its journal recovers, and `execute` issues writes only when every earlier
`WRITE_STARTED` has a durable result. -/
theorem single_effect (fw : Firewall) (assignment : Assignment) (ops : List Op) (h : ∀ op ∈ ops, AppendsDurable op) :
    SingleEffect fw (run fw assignment ops) := (run_inv fw assignment ops h).singleEffect

/-- a profile that accepts everything, for the concrete runs -/
def openFirewall : Firewall where
  validateIntent := fun _ => .ok ()
  compile := fun intent activeBank => .ok ⟨activeBank, 1 - activeBank, [], intent.effectDigest⟩
  fromContract := fun _ => .ok ()
  resultDigest := fun result => result.planDigest

def leafAssignment : Assignment := ⟨"leaf-1", none⟩

def intentOf (name : String) : EffectIntent :=
  { effectIntentId := "intent-" ++ name, operationId := "operation-" ++ name, targetId := "leaf-1", fence := none
    effectDigest := name, kind := .baselineActivate, overlayExpiries := [], deadlineUnixMs := 1000, traceId := "trace" }

def preflightOf (name token : String) : Op :=
  .preflight (intentOf name) ⟨.ok (), 1, 1, 100, .ok 0, token⟩

def executeOf (name token : String) (applied : EdgeResult (String × ℕ)) (resultIo : Io) : Op :=
  .execute (intentOf name) token ⟨.ok (), 2, 2, .ok, applied, resultIo⟩

theorem single_effect_after_execute :
    SingleEffect openFirewall (run openFirewall leafAssignment [preflightOf "a" "1", executeOf "a" "1" (.ok ("", 0)) .ok]) := by
  refine single_effect _ _ _ (List.forall_mem_cons.2 ⟨trivial, List.forall_mem_singleton.2 ?_⟩)
  exact ⟨by simp, by simp⟩

/-- the result append of `a` fails after its writes, and `b` is preflighted -/
def lostResult : EffectState :=
  run openFirewall leafAssignment
    [preflightOf "a" "1", executeOf "a" "1" (.ok ("", 0)) (.fail (.io "append WAL record")), preflightOf "b" "2"]

def secondEffect : EffectState := step openFirewall lostResult (executeOf "b" "2" (.ok ("", 0)) .ok)

/-- **A second operation is journaled.** Nothing remembers `a`: `b` is written over its open `WRITE_STARTED`, both are
journaled, and the journal is rejected for ever. -/
theorem second_effect_journaled :
    issuesWrites openFirewall lostResult (intentOf "b") "2" ⟨.ok (), 2, 2, .ok, .ok ("", 0), .ok⟩ ∧
      lostResult.journal.entries = [startedRecord (intentOf "a") ⟨0, 1, [], "a"⟩ 2] ∧
      secondEffect.journal.pending.map (fun x => x.2.key) =
        [some (intentOf "a").key, some (intentOf "b").key, some (intentOf "b").key] ∧
      recoverEffectJournal openFirewall "leaf-1" secondEffect.journal.pending =
        .error (.walCorrupt "multiple unacknowledged effect operations share one target journal") ∧
      ¬ SingleEffect openFirewall secondEffect := by
  have hreject : recoverEffectJournal openFirewall "leaf-1" secondEffect.journal.pending =
      .error (.walCorrupt "multiple unacknowledged effect operations share one target journal") := by decide +kernel
  refine ⟨⟨⟨⟨0, 1, [], "b"⟩, by rfl⟩, rfl⟩, by decide +kernel, by decide +kernel, hreject, ?_⟩
  rintro ⟨-, ⟨v, hv⟩, -⟩
  cases hreject.symm.trans hv

/-! ## Unknown effects -/

/-- an unknown effect that waits for its acknowledgement is also recovered, so that maintenance reconciles it -/
def Reconcilable (s : EffectState) : Prop :=
  ∀ p, s.pending = some p → p.result.status = .unknown →
    ∃ r, s.recovered = some r ∧ r.intent.operationId = p.operationId ∧ r.intent.effectIntentId = p.effectIntentId

/-- no live execution journals an unknown outcome -/
def OutcomeKnown (fw : Firewall) (s : EffectState) : Op → Prop
  | .execute intent token env =>
    s.alive = true → issuesWrites fw s intent token env → env.resultIo = .ok → ∀ m, env.applied ≠ .error (.unknownOutcome m)
  | _ => True

theorem executeResult_unknown (intent : EffectIntent) (plan : CompiledEffectPlan) (applied : EdgeResult (String × ℕ)) :
    (executeResult intent plan applied).status = .unknown ↔ ∃ m, applied = .error (.unknownOutcome m) := by
  unfold executeResult
  split
  · simp
  · simp
  · rename_i e he
    simp only [reduceCtorEq, Except.error.injEq, false_iff, not_exists]
    exact he

theorem replay_reconcilable (h : recoverEffectJournal fw targetId items = .ok (pending, recovered))
    (p : PendingEffectAck) (hp : pending = some p) (hunknown : p.result.status = .unknown) :
    ∃ r, recovered = some r ∧ r.intent.operationId = p.operationId ∧ r.intent.effectIntentId = p.effectIntentId := by
  obtain ⟨st, hrep, hnone, hsome⟩ := recoverEffectJournal_ok h
  rcases hl : items.getLast? with _ | x
  · obtain rfl : items = [] := List.getLast?_eq_none_iff.1 hl
    obtain ⟨rfl, -⟩ := hnone (by rw [hrep.empty rfl])
    simp at hp
  · obtain ⟨intent, plan, -, -, -, hrec, hres⟩ := hrep.last x hl
    obtain ⟨rfl, rfl⟩ := hsome _ hrec
    obtain ⟨r, hr, hop, hid⟩ := hrep.same p hp
    cases hr.symm.trans hrec
    -- the last record is a start, or it is the unknown result itself
    have hopen : settled (x.2.result.map EffectResult.status) = false := by
      cases hx : x.2.result with
      | none => rfl
      | some result =>
        cases hp.symm.trans (hres result hx)
        have hstatus : result.status = .unknown := hunknown
        simp [hstatus, settled]
    exact ⟨_, by rw [hopen]; rfl, hop.symm, hid.symm⟩

theorem step_reconcilable (h : Reconcilable s) (hchange : Change fw s op t)
    (hop : OutcomeKnown fw s op) : Reconcilable t := by
  cases hchange with
  | idle => exact h
  | started => exact h
  | executed intent _ env plan _ ready hgo hio durable _ hresult =>
    intro p hp hunknown
    cases hp
    obtain ⟨m, hm⟩ := (executeResult_unknown intent plan env.applied).1 (hresult ▸ hunknown)
    exact absurd hm (hop ready ⟨⟨plan, hgo⟩, hio⟩ durable m)
  | acknowledged _ p _ hp =>
    intro p hp
    simp at hp
  | reconciled _ r _ result =>
    intro p hp hunknown
    cases hp
    have hstatus : result.status = .unknown := hunknown
    exact ⟨{ r with lastStatus := some .unknown }, by simp [hstatus], rfl, rfl⟩
  | restarted _ _ _ _ replayed =>
    rcases replayed with ⟨-, rfl, rfl⟩ | hok
    · intro p hp
      simp at hp
    · exact replay_reconcilable hok
  | rejected =>
    intro p hp
    simp at hp

/-- after a live execution that ends unknown, the effect is pending and nothing is recovered -/
theorem step_stuck (h : ¬ OutcomeKnown fw s op) :
    ¬ Reconcilable (step fw s op) := by
  cases op with
  | execute intent token env =>
    simp only [OutcomeKnown, not_forall, not_not] at h
    obtain ⟨halive, ⟨⟨plan, hgo⟩, hio⟩, hdurable, m, hm⟩ := h
    have hrec := (admitExecute_go hgo).2.1
    obtain ⟨preflights, hconsume⟩ := consumeToken_eq fw s intent token env
    intro hall
    simp only [step, halive, Bool.true_eq_false, if_false, execute, hgo, hconsume, appendThen, hio, recordResult,
      hdurable] at hall
    obtain ⟨r, hr, -⟩ := hall _ rfl ((executeResult_unknown intent plan env.applied).2 ⟨m, hm⟩)
    simp [hrec] at hr
  | _ => exact absurd trivial h

/-- **Unknown effects stay reconcilable, exactly when no live execution journals an unknown outcome.** Reconciliation and
journal replay never lose the recovered effect; only `execute` makes an unknown effect pending without it. -/
theorem unknown_reconcilable_iff (fw : Firewall) (assignment : Assignment) (ops : List Op) :
    (∀ pre, pre <+: ops → Reconcilable (run fw assignment pre)) ↔
      Along (fun pre op => OutcomeKnown fw (run fw assignment pre) op) ops := by
  constructor
  · intro h pre op post hops
    by_contra hop
    have hpre : pre ++ [op] <+: ops := ⟨post, by simp [hops]⟩
    have hall := h _ hpre
    rw [run_snoc] at hall
    exact step_stuck hop hall
  · intro h pre hpre
    induction pre using List.reverseRecOn with
    | nil =>
      intro p hp
      simp [run, EffectState.initial] at hp
    | append_singleton pre op ih =>
      obtain ⟨post, hpost⟩ := hpre
      rw [run_snoc]
      refine step_reconcilable (ih ⟨op :: post, by simp [← hpost]⟩) (step_change fw _ op) ?_
      exact h pre op post (by simp [← hpost])

/-- **An unknown effect is stuck.** The writes of `a` end unconfirmed: the effect is pending as unknown and nothing is
recovered, so maintenance has nothing to reconcile. -/
theorem unknown_effect_stuck :
    let s := run openFirewall leafAssignment
      [preflightOf "a" "1", executeOf "a" "1" (.error (.unknownOutcome "write timed out")) .ok]
    s.pending.map (fun p => p.result.status) = some .unknown ∧ s.recovered = none ∧ ¬ Reconcilable s := by
  refine ⟨by decide +kernel, by decide +kernel, fun h => ?_⟩
  obtain ⟨r, hr, -⟩ := h _ rfl rfl
  cases hr

end MasiEdge.Effect
