/-
What the operations of the delivery loop can do to its WALs, and the invariant every run keeps.

- `admitWindowAdvance_induct`, `admitAgain_each`: an invariant of admission is checked for one admitted record.
- `processPendingInputs_change`, `processPendingResults_change`: all that these two can do, one constructor for each
  place at which they can stop.
- `run_queue`: in every run, without any condition, every input record is stamped with its own sequence, at most one
  result batch is pending, and that batch answers the bound records at the head of the input queue, or its input
  checkpoint has already been made.
-/
import Mathlib.Data.List.TakeWhile
import MasiEdge.Delivery.Machine
import MasiEdge.Route.Journal

namespace MasiEdge.Delivery

open Codec Route Run Window
open Source (SourceState TelemetrySnapshot Rebuilt Fence DataQuality PollReplies FinishReplies recoverRecords
  orCorrupt)
open List Log

/-! ## Largest sequences -/

variable {l : List ℕ} {env : AdmitReplies} {α : Type} {now : ℤ}

theorem maxOf_le {n : ℕ} : maxOf l ≤ n ↔ ∀ x ∈ l, x ≤ n := by
  induction l with
  | nil => simp [maxOf]
  | cons _ _ ih => simp [maxOf, ih]

theorem le_maxOf {x : ℕ} (h : x ∈ l) : x ≤ maxOf l := maxOf_le.1 le_rfl x h

theorem maxOf_mem (h : l ≠ []) : maxOf l ∈ l := by
  induction l with
  | nil => exact absurd rfl h
  | cons x rest ih =>
    rw [maxOf]
    rcases le_total x (maxOf rest) with hle | hle
    · by_cases hrest : rest = []
      · subst hrest
        simp [maxOf]
      · rw [max_eq_right hle]
        exact mem_cons_of_mem x (ih hrest)
    · rw [max_eq_left hle]
      exact mem_cons_self

theorem maxOf_perm {l' : List ℕ} (h : l.Perm l') : maxOf l = maxOf l' :=
  le_antisymm (maxOf_le.2 fun _ hx => le_maxOf (h.subset hx)) (maxOf_le.2 fun _ hx => le_maxOf (h.symm.subset hx))

/-! ## Checkpoints -/

theorem checkpoint_cases (l : Log α) (n : ℕ) (io : CheckpointIo) :
    (checkpoint l n io).2 = l ∨ l.moveTo n = some (checkpoint l n io).2 := by
  unfold checkpoint
  cases l.moveTo n with
  | none => exact .inl rfl
  | some =>
    cases io with
    | done => exact .inr rfl
    | failed => exact .inl rfl
    | failedLate => exact .inr rfl

theorem checkpoint_ok {l l' : Log α} {n : ℕ} {io : CheckpointIo} (h : checkpoint l n io = (.ok (), l')) :
    l.moveTo n = some l' := by
  unfold checkpoint at h
  cases hmove : l.moveTo n with
  | none => simp [hmove] at h
  | some =>
    rw [hmove] at h
    cases io with
    | done => rw [(Prod.mk.inj h).2]
    | failed => cases h
    | failedLate => cases h

/-! ## Admission -/

/-- `n` is what admission appends for the unknown record `r` -/
structure Admits (s : Actor) (r n : InferenceRecord) : Prop where
  unknown : r.inputId ∉ s.knownInputIds
  inputId : n.inputId = r.inputId
  source : n.sourceWalSequence = r.sourceWalSequence
  stamp : n.inputWalSequence = s.input.nextSequence
  /-- without an active route the record stays as it was -/
  neutral : s.routes.router.state ≠ .active → n.isBound = r.isBound
  bound : s.routes.router.state = .active → n.isBound = true

/-- the state with one more admitted record -/
def Actor.admitted (s : Actor) (n : InferenceRecord) : Actor :=
  { s with input := s.input.append n, knownInputIds := n.inputId :: s.knownInputIds }

variable {route : InferenceRoute} {s t : Actor} {cfg : Config} {P : Actor → List InferenceRecord → Prop}
  {head : ℕ × InferenceRecord} {rest : List (ℕ × InferenceRecord)}

theorem bindInferenceRecord_keeps {hash : Bytes → String} {record bound : InferenceRecord}
    (h : bindInferenceRecord hash record route = .ok bound) :
    bound.inputId = record.inputId ∧ bound.sourceWalSequence = record.sourceWalSequence ∧ bound.isBound = true := by
  obtain ⟨_, hroute, h⟩ := bind_ok.1 h
  replace h := passed h
  split_ifs at h with hbound
  · replace h := passed h
    cases h
    exact ⟨rfl, rfl, hbound⟩
  · cases h
    exact ⟨rfl, rfl, decide_eq_true (validateRoute_epoch hroute)⟩

theorem bindForRoute_keeps {r bound : InferenceRecord} (h : bindForRoute cfg s r = .ok bound) :
    bound.inputId = r.inputId ∧ bound.sourceWalSequence = r.sourceWalSequence ∧
      (s.routes.router.state ≠ .active → bound = r) ∧ (s.routes.router.state = .active → bound.isBound = true) := by
  unfold bindForRoute at h
  split_ifs at h with hactive
  · cases hroute : s.routes.router.route with
    | none => simp [hroute] at h
    | some =>
      rw [hroute] at h
      obtain ⟨hid, hsrc, hbound⟩ := bindInferenceRecord_keeps h
      exact ⟨hid, hsrc, fun hne => absurd hactive hne, fun _ => hbound⟩
  · cases h
    exact ⟨rfl, rfl, fun _ => rfl, fun h => absurd h hactive⟩

theorem prepareInput_ok {r n : InferenceRecord} {full : Bool} (hnew : r.inputId ∉ s.knownInputIds)
    (h : prepareInput cfg s r full = .ok n) : Admits s r n := by
  replace h := passed h
  replace h := passed h
  obtain ⟨bound, hbind, h⟩ := bind_ok.1 h
  cases h
  obtain ⟨hid, hsrc, hsame, hbound⟩ := bindForRoute_keeps hbind
  refine ⟨hnew, hid, hsrc, rfl, fun hne => ?_, hbound⟩
  rw [hsame hne]
  rfl

/-- admission of one record: skipped or refused, or appended -/
theorem admitRecord_cases (cfg : Config) (s : Actor) (r : InferenceRecord) (full : Bool) (io : EdgeResult Unit) :
    (admitRecord cfg s r full io).2 = s ∨ ∃ n, Admits s r n ∧ (admitRecord cfg s r full io).2 = s.admitted n := by
  unfold admitRecord
  split_ifs with hknown
  · exact .inl rfl
  · cases hprep : prepareInput cfg s r full with
    | error => exact .inl rfl
    | ok n =>
      cases io with
      | error => exact .inl rfl
      | ok => exact .inr ⟨n, prepareInput_ok hknown hprep, rfl⟩

/-- an invariant of admission that survives one skipped record survives any number -/
theorem skip_all (hskip : ∀ s r rest, P s (r :: rest) → P s rest) (s : Actor) (records later : List InferenceRecord)
    (h : P s (records ++ later)) : P s later := by
  induction records with
  | nil => exact h
  | cons r _ ih => exact ih (hskip s r _ h)

/-- **Admission, record by record.** `P` speaks of a state and the records still to come. -/
theorem admitWindowAdvance_induct (hskip : ∀ s r rest, P s (r :: rest) → P s rest)
    (hone : ∀ s r rest n, P s (r :: rest) → Admits s r n → P (s.admitted n) rest) (n : ℕ) (s : Actor)
    (records later : List InferenceRecord) (h : P s (records ++ later)) :
    P (admitWindowAdvance cfg env n s records).2 later := by
  induction records generalizing n s with
  | nil => exact h
  | cons r rest ih =>
    have hnext : P (admitRecord cfg s r (env.full n) (env.append n)).2 (rest ++ later) := by
      rcases admitRecord_cases cfg s r (env.full n) (env.append n) with hsame | ⟨m, hm, hadded⟩
      · rw [hsame]
        exact hskip s r _ h
      · rw [hadded]
        exact hone s r _ m h hm
    rw [admitWindowAdvance]
    rcases hres : admitRecord cfg s r (env.full n) (env.append n) with ⟨e | u, t⟩
    · rw [hres] at hnext
      exact skip_all hskip t rest later hnext
    · rw [hres] at hnext
      exact ih (n + 1) t hnext

/-- admission touches nothing but the input WAL and the known ids -/
theorem admitWindowAdvance_frame (cfg : Config) (env : AdmitReplies) (n : ℕ) (s : Actor) (records : List InferenceRecord) :
    ∃ input knownInputIds, (admitWindowAdvance cfg env n s records).2 = { s with input, knownInputIds } := by
  refine admitWindowAdvance_induct (P := fun t _ => ∃ input knownInputIds, t = { s with input, knownInputIds })
    (fun _ _ _ h => h) ?_ n s records [] ⟨s.input, s.knownInputIds, rfl⟩
  rintro _ r rest m ⟨input, known, rfl⟩ -
  exact ⟨_, _, rfl⟩

theorem admitAdvance_emitted (cfg : Config) (s : Actor) (advance : WindowAdvance) (windows : WindowEngine)
    (env : AdmitReplies) :
    (admitAdvance cfg s advance windows env).2.emitted = s.emitted ++ advance.inferenceRecords := by
  unfold admitAdvance
  obtain ⟨input, known, h⟩ := admitWindowAdvance_frame cfg env 0
    { s with windows, emitted := s.emitted ++ advance.inferenceRecords } advance.inferenceRecords
  rw [h]

theorem admitSnapshot_emitted (cfg : Config) (s : Actor) (snapshot : TelemetrySnapshot) (env : AdmitReplies) :
    ∃ es, (admitSnapshot cfg s snapshot env).2.emitted = s.emitted ++ es := by
  unfold admitSnapshot
  cases push cfg.hash cfg.window s.windows snapshot env.now with
  | error => exact ⟨[], (append_nil _).symm⟩
  | ok pushed => exact ⟨_, admitAdvance_emitted cfg s pushed.1 pushed.2 env⟩

theorem admitAgain_emitted (cfg : Config) (env : ℕ → AdmitReplies) (n : ℕ) (s : Actor) (snapshots : List TelemetrySnapshot) :
    ∃ es, (admitAgain cfg env n s snapshots).2.emitted = s.emitted ++ es := by
  induction snapshots generalizing n s with
  | nil => exact ⟨[], (append_nil _).symm⟩
  | cons snapshot _ ih =>
    obtain ⟨es, hes⟩ := admitSnapshot_emitted cfg s snapshot (env n)
    rw [admitAgain]
    rcases hres : admitSnapshot cfg s snapshot (env n) with ⟨e | u, t⟩
    · rw [hres] at hes
      exact ⟨es, hes⟩
    · rw [hres] at hes
      obtain ⟨later, hlater⟩ := ih (n + 1) t
      exact ⟨es ++ later, by rw [hlater, hes, append_assoc]⟩

/-- **Re-admission, snapshot by snapshot.** `Q` speaks of a state and the records that are still to be emitted. -/
theorem admitAgain_each {env : ℕ → AdmitReplies} {Q : Actor → List InferenceRecord → Prop}
    (hsnapshot : ∀ n s snapshot es later, (admitSnapshot cfg s snapshot (env n)).2.emitted = s.emitted ++ es →
      Q s (es ++ later) → Q (admitSnapshot cfg s snapshot (env n)).2 later) (n : ℕ) (s : Actor)
    (snapshots : List TelemetrySnapshot) (es : List InferenceRecord)
    (hes : (admitAgain cfg env n s snapshots).2.emitted = s.emitted ++ es) (h : Q s es) :
    Q (admitAgain cfg env n s snapshots).2 [] := by
  induction snapshots generalizing n s es with
  | nil =>
    obtain rfl : es = [] := by simpa [admitAgain] using hes
    exact h
  | cons snapshot rest ih =>
    obtain ⟨first, hfirst⟩ := admitSnapshot_emitted cfg s snapshot (env n)
    have hnext := hsnapshot n s snapshot first
    rw [admitAgain] at hes ⊢
    rcases hres : admitSnapshot cfg s snapshot (env n) with ⟨e | u, t⟩
    · rw [hres] at hes hfirst hnext
      obtain rfl : first = es := append_cancel_left (hfirst.symm.trans hes)
      exact hnext [] hfirst (by rwa [append_nil])
    · rw [hres] at hes hfirst hnext
      obtain ⟨later, hlater⟩ := admitAgain_emitted cfg env (n + 1) t rest
      have hall : s.emitted ++ (first ++ later) = s.emitted ++ es := by
        rw [← hes, hlater, hfirst, append_assoc]
      obtain rfl := append_cancel_left hall
      exact ih (n + 1) t later hlater (hnext later hfirst h)

/-- what admission keeps of a state and the records that are still to be admitted; the engine and the history are not part
of it -/
structure AdmissionKept (P : Actor → List InferenceRecord → Prop) : Prop where
  skip : ∀ s r rest, P s (r :: rest) → P s rest
  one : ∀ s r rest n, P s (r :: rest) → Admits s r n → P (s.admitted n) rest
  memory : ∀ s rest windows emitted, P s rest → P { s with windows, emitted } rest

section

variable (hP : AdmissionKept P)
include hP

theorem admitAdvance_induct (s : Actor) (advance : WindowAdvance) (windows : WindowEngine) (env : AdmitReplies) (later : List InferenceRecord)
    (h : P s (advance.inferenceRecords ++ later)) : P (admitAdvance cfg s advance windows env).2 later :=
  admitWindowAdvance_induct hP.skip hP.one 0 _ _ _ (hP.memory s _ windows _ h)

theorem admitSnapshot_induct (s : Actor) (snapshot : TelemetrySnapshot) (env : AdmitReplies) (es later : List InferenceRecord)
    (hes : (admitSnapshot cfg s snapshot env).2.emitted = s.emitted ++ es) (h : P s (es ++ later)) :
    P (admitSnapshot cfg s snapshot env).2 later := by
  unfold admitSnapshot at hes ⊢
  cases hpush : push cfg.hash cfg.window s.windows snapshot env.now with
  | error => exact skip_all hP.skip s es later h
  | ok pushed =>
    rw [hpush] at hes
    obtain rfl : pushed.1.inferenceRecords = es :=
      append_cancel_left ((admitAdvance_emitted cfg s pushed.1 pushed.2 env).symm.trans hes)
    exact admitAdvance_induct hP s pushed.1 pushed.2 env later h

end

/-! ## process_pending_inputs -/

/-- the queue replayed by `process_pending_inputs` -/
def replayed (cfg : Config) (s : Actor) : List (ℕ × InferenceRecord) :=
  s.input.replay cfg.inputBytes cfg.limits.inferenceBatchRecords cfg.limits.inferenceMessageBytes

/-- a neutral head under an active route -/
structure NeutralHead (cfg : Config) (s : Actor) (head : ℕ × InferenceRecord) (rest : List (ℕ × InferenceRecord))
    (route : InferenceRoute) : Prop where
  idle : s.result.checkpoint = s.result.lastSequence
  replay : replayed cfg s = head :: rest
  neutral : head.2.isBound = false
  active : s.routes.router.state = .active
  route : s.routes.router.route = some route

theorem NeutralHead.front (h : NeutralHead cfg s head rest route) : head :: rest <+: s.input.pending := by
  have hpre := s.input.replay_prefix cfg.inputBytes cfg.limits.inferenceBatchRecords cfg.limits.inferenceMessageBytes
  rwa [show s.input.replay _ _ _ = head :: rest from h.replay] at hpre

theorem NeutralHead.mem (h : NeutralHead cfg s head rest route) : head ∈ s.input.pending :=
  h.front.subset mem_cons_self

/-- `n` is the bound copy of a neutral record -/
structure CopyOf (s : Actor) (head n : InferenceRecord) : Prop where
  inputId : n.inputId = head.inputId
  source : n.sourceWalSequence = head.sourceWalSequence
  stamp : n.inputWalSequence = s.input.nextSequence
  bound : n.isBound = true

/-- all that `process_pending_inputs` can do -/
inductive InputsChange (cfg : Config) (s : Actor) : Actor → Prop where
  | quiet (router : Router) : InputsChange cfg s (withRouter s router)
  /-- a copy was replayed with the head: the head is checkpointed -/
  | dropped {head rest route input} (hhead : NeutralHead cfg s head rest route)
      (hcopy : ∃ x ∈ rest, isCopyOn route head.2 x.2 = true) (hmove : s.input.moveTo head.1 = some input) :
      InputsChange cfg s { s with input }
  /-- the copy is appended and the checkpoint fails -/
  | copied {head rest route n} (hhead : NeutralHead cfg s head rest route)
      (hcopy : ∀ x ∈ rest, isCopyOn route head.2 x.2 = false) (hn : CopyOf s head.2 n) :
      InputsChange cfg s { s with input := s.input.append n }
  | moved {head rest route n input} (hhead : NeutralHead cfg s head rest route)
      (hcopy : ∀ x ∈ rest, isCopyOn route head.2 x.2 = false) (hn : CopyOf s head.2 n)
      (hmove : (s.input.append n).moveTo head.1 = some input) : InputsChange cfg s { s with input }
  | inferred {head rest result} (router : Router) (now : ℤ) (hidle : s.result.checkpoint = s.result.lastSequence)
      (hreplay : replayed cfg s = head :: rest) (hbound : head.2.isBound = true)
      (hanswers : (result.records.map InferenceResultRecord.cursor).Perm
        ((headBatch head.2 (head :: rest)).map InferenceRecord.cursor)) :
      InputsChange cfg s { s with
        routes := { s.routes with router }
        result := s.result.append (batchDurable cfg s result now) }

theorem bindHead_change (env : InputReplies) (hidle : s.result.checkpoint = s.result.lastSequence)
    (hreplay : replayed cfg s = head :: rest) (hneutral : head.2.isBound = false) :
    InputsChange cfg s (bindHead cfg s head rest env).2 := by
  have hquiet : InputsChange cfg s s := .quiet s.routes.router
  unfold bindHead
  by_cases hactive : s.routes.router.state ≠ .active
  · rw [if_pos hactive]
    exact hquiet
  · rw [if_neg hactive]
    cases hroute : s.routes.router.route with
    | none => exact hquiet
    | some route =>
      have hhead : NeutralHead cfg s head rest route := ⟨hidle, hreplay, hneutral, not_not.1 hactive, hroute⟩
      simp only
      by_cases hany : (rest.any fun x => isCopyOn route head.2 x.2) = true
      · rw [if_pos hany]
        change InputsChange cfg s { s with input := (checkpoint s.input head.1 env.checkpoint).2 }
        rcases checkpoint_cases s.input head.1 env.checkpoint with hsame | hmove
        · rw [hsame]
          exact hquiet
        · exact .dropped hhead (List.any_eq_true.1 hany) hmove
      · rw [if_neg hany]
        have hnone : ∀ x ∈ rest, isCopyOn route head.2 x.2 = false := by
          intro x hx
          by_contra hcopied
          exact hany (List.any_eq_true.2 ⟨x, hx, by simpa using hcopied⟩)
        cases hbind : bindInferenceRecord cfg.hash head.2 route with
        | error => exact hquiet
        | ok bound =>
          cases happend : env.append with
          | error => exact hquiet
          | ok =>
            obtain ⟨hid, hsrc, hbound⟩ := bindInferenceRecord_keeps hbind
            have hcopyOf : CopyOf s head.2 { bound with inputWalSequence := s.input.nextSequence } :=
              ⟨hid, hsrc, rfl, hbound⟩
            change InputsChange cfg s { s with input := (checkpoint (s.input.append _) head.1 env.checkpoint).2 }
            rcases checkpoint_cases (s.input.append { bound with inputWalSequence := s.input.nextSequence }) head.1
              env.checkpoint with hsame | hmove
            · rw [hsame]
              exact .copied hhead hnone hcopyOf
            · exact .moved hhead hnone hcopyOf hmove

/-- an answered inference is a permutation of what was asked -/
theorem infer_answers {router router' : Router} {records : List InferenceRecord} {traceId : String}
    {response : EdgeResult InferenceResultBatch} {result : InferenceResultBatch}
    (h : infer cfg router records now traceId response = (.ok result, router')) :
    (result.records.map InferenceResultRecord.cursor).Perm (records.map InferenceRecord.cursor) := by
  unfold infer at h
  cases hbatch : inferenceBatch cfg router records now traceId with
  | error => simp [hbatch] at h
  | ok batch =>
    have hrecords : batch.records = records := by
      replace hbatch := passed hbatch
      replace hbatch := passed hbatch
      cases hroute : router.route with
      | none => simp [hroute] at hbatch
      | some =>
        rw [hroute] at hbatch
        replace hbatch := passed hbatch
        replace hbatch := passed hbatch
        replace hbatch := passed hbatch
        replace hbatch := passed hbatch
        rw [← Except.ok.inj hbatch]
    simp only [hbatch] at h
    cases response with
    | error => cases h
    | ok answer =>
      simp only [ok_bind] at h
      cases hvalid : validateResultBatch cfg.hash batch answer router.binding with
      | error =>
        rw [hvalid] at h
        cases h
      | ok =>
        rw [hvalid] at h
        obtain rfl : answer = result := Except.ok.inj (Prod.mk.inj h).1
        rw [← hrecords]
        exact validateResultBatch_answers hvalid

theorem processPendingInputs_change (cfg : Config) (s : Actor) (env : InputReplies) :
    InputsChange cfg s (processPendingInputs cfg s env).2 := by
  have hquiet : InputsChange cfg s s := .quiet s.routes.router
  unfold processPendingInputs
  by_cases hidle : (s.routes.router.state ≠ .active ∧ s.routes.router.state ≠ .draining) ∨
      s.result.checkpoint < s.result.lastSequence
  · rw [if_pos hidle]
    exact hquiet
  · rw [if_neg hidle]
    have hdone : s.result.checkpoint = s.result.lastSequence :=
      le_antisymm s.result.inRange (not_lt.1 (not_or.1 hidle).2)
    cases hreplay : s.input.replay cfg.inputBytes cfg.limits.inferenceBatchRecords cfg.limits.inferenceMessageBytes with
    | nil => exact hquiet
    | cons head rest =>
      simp only
      split_ifs with hstamp hbound
      · exact hquiet
      · unfold inferHead
        rcases hinfer : infer cfg s.routes.router (headBatch head.2 (head :: rest)) env.now
          ("infer:" ++ cfg.source.targetId) env.response with ⟨e | result, router⟩
        · exact .quiet router
        · cases happend : env.resultAppend with
          | error => exact .quiet router
          | ok => exact .inferred router env.recordedAt hdone hreplay hbound (infer_answers hinfer)
      · exact bindHead_change env hdone hreplay (by simpa using hbound)

/-! ## process_pending_results -/

/-- the batch at the head of the result WAL -/
structure HeadBatch (s : Actor) (item : ℕ × ResultWalRecord) (batch : InferenceResultBatch) : Prop where
  head : s.result.pending.head? = some item
  stage : item.2.stage = .batchDurable
  batch : item.2.resultBatch = some batch

/-- the result WAL once the batch's acknowledgement is durable, with the sequence to checkpoint -/
inductive Acked (s : Actor) (item : ℕ × ResultWalRecord) : Log ResultWalRecord → ℕ → Prop where
  | replayed {next tail} (h : s.result.pending = item :: next :: tail) : Acked s item s.result next.1
  | committed (ack : CanonicalAckBatch) (now : ℤ) :
      Acked s item (s.result.append (ackDurable ack item.1 now)) s.result.nextSequence

/-- all that `process_pending_results` can do -/
inductive ResultsChange (s : Actor) : Actor → Prop where
  | quiet : ResultsChange s s
  | acked {item batch result sequence} (hhead : HeadBatch s item batch) (hack : Acked s item result sequence) :
      ResultsChange s { s with result }
  | sourced {item batch result sequence wal} (hhead : HeadBatch s item batch) (hack : Acked s item result sequence)
      (hacks : ackPendingAt s (sourceCheckpoint batch) = false)
      (hsource : s.source.wal.moveTo (sourceCheckpoint batch) = some wal) :
      ResultsChange s { s with result, source := { s.source with wal } }
  | taken {item batch result sequence wal input} (hhead : HeadBatch s item batch) (hack : Acked s item result sequence)
      (hacks : ackPendingAt s (sourceCheckpoint batch) = false)
      (hsource : s.source.wal.moveTo (sourceCheckpoint batch) = some wal)
      (hinput : s.input.moveTo (inputCheckpoint batch) = some input) :
      ResultsChange s { s with result, source := { s.source with wal }, input }
  /-- the last checkpoint moved; with `knownInputIds` filtered unless it reported a failure -/
  | settled {item batch result sequence wal input result'} {knownInputIds : List String} (hhead : HeadBatch s item batch)
      (hack : Acked s item result sequence) (hacks : ackPendingAt s (sourceCheckpoint batch) = false)
      (hsource : s.source.wal.moveTo (sourceCheckpoint batch) = some wal)
      (hinput : s.input.moveTo (inputCheckpoint batch) = some input) (hresult : result.moveTo sequence = some result')
      (hknown : knownInputIds = s.knownInputIds ∨
        knownInputIds = s.knownInputIds.filter fun id => id ∉ batch.records.map InferenceResultRecord.inputId) :
      ResultsChange s { s with result := result', source := { s.source with wal }, input, knownInputIds }

variable {item item' : ℕ × ResultWalRecord} {batch batch' : InferenceResultBatch} {result : Log ResultWalRecord}
  {sequence : ℕ}

theorem durableBatch_ok (h : durableBatch cfg item = .ok batch) :
    item.2.stage = .batchDurable ∧ item.2.resultBatch = some batch := by
  obtain ⟨hstage, h⟩ := refuse_then h
  obtain ⟨b, hbatch, h⟩ := bind_ok.1 h
  replace h := passed h
  replace h := passed h
  cases h
  refine ⟨not_not.1 (not_or.1 (not_or.1 hstage).2).1, ?_⟩
  cases hb : item.2.resultBatch with
  | none => simp [orCorrupt, hb] at hbatch
  | some => simpa [orCorrupt, hb] using hbatch

theorem HeadBatch.of_durable {rest : List (ℕ × ResultWalRecord)} (hbatch : durableBatch cfg item = .ok batch)
    (hseen : item :: rest <+: s.result.pending) : HeadBatch s item batch := by
  obtain ⟨hstage, hresult⟩ := durableBatch_ok hbatch
  obtain ⟨more, hmore⟩ := hseen
  exact ⟨by rw [← hmore]; rfl, hstage, hresult⟩

/-- an obtained acknowledgement was accepted and is in the result WAL -/
theorem obtainAck_change {rest : List (ℕ × ResultWalRecord)} {env : ResultReplies}
    {answer : EdgeResult (CanonicalAckBatch × ℕ)} (hreplay : item :: rest <+: s.result.pending)
    (h : obtainAck cfg s batch item.1 rest.head? env = (answer, result)) :
    (result = s.result ∨ ∃ sequence, Acked s item result sequence) ∧
      ∀ ack sequence, answer = .ok (ack, sequence) → Acked s item result sequence ∧
        validateCanonicalAcks cfg.hash cfg.encodeAck batch ack = .ok () ∧ ∃ e ∈ result.entries, e.canonicalAck = some ack := by
  unfold obtainAck at h
  cases rest with
  | cons next tail =>
    obtain ⟨hanswer, rfl⟩ := Prod.mk.inj h
    refine ⟨.inl rfl, fun ack sequence hok => ?_⟩
    rw [hok] at hanswer
    replace hanswer := passed hanswer
    obtain ⟨found, hfound, hanswer⟩ := bind_ok.1 hanswer
    obtain ⟨_, hvalid, hanswer⟩ := bind_ok.1 hanswer
    cases hanswer
    have hentry := (mem_pending (hreplay.subset (mem_cons_of_mem item mem_cons_self))).2.2
    obtain ⟨more, hmore⟩ := hreplay
    have hpending : s.result.pending = item :: next :: (tail ++ more) := hmore.symm
    refine ⟨.replayed hpending, hvalid, next.2, mem_of_getElem? hentry, ?_⟩
    cases hack : next.2.canonicalAck with
    | none => simp [orCorrupt, hack] at hfound
    | some => simpa [orCorrupt, hack] using hfound
  | nil =>
    cases hcommit : commitResults cfg batch env.ack with
    | error =>
      rw [hcommit] at h
      cases h
      exact ⟨.inl rfl, fun _ _ hok => by cases hok⟩
    | ok ack =>
      cases happend : env.ackAppend with
      | error =>
        rw [hcommit, happend] at h
        cases h
        exact ⟨.inl rfl, fun _ _ hok => by cases hok⟩
      | ok =>
        rw [hcommit, happend] at h
        cases h
        refine ⟨.inr ⟨_, .committed ack env.recordedAt⟩, fun a n hok => ?_⟩
        cases hok
        replace hcommit := passed hcommit
        replace hcommit := passed hcommit
        obtain ⟨answered, -, hcommit⟩ := bind_ok.1 hcommit
        obtain ⟨_, hvalid, hcommit⟩ := bind_ok.1 hcommit
        cases hcommit
        exact ⟨.committed _ env.recordedAt, hvalid, _, mem_append_right _ (mem_singleton_self _), rfl⟩

theorem Acked.grown (h : Acked s item result sequence) : s.result.entries <+: result.entries := by
  cases h with
  | replayed _ => exact prefix_refl _
  | committed => exact prefix_append _ _

/-- the three checkpoints change no entry, and move the input checkpoint to the batch's or not at all -/
theorem settle_change (hhead : HeadBatch s item batch) (hack : Acked s item result sequence)
    (hacks : ackPendingAt s (sourceCheckpoint batch) = false) (env : ResultReplies) :
    ResultsChange s (settle { s with result } batch sequence env).2 ∧
      (settle { s with result } batch sequence env).2.result.entries = result.entries ∧
      ((settle { s with result } batch sequence env).2.input = s.input ∨
        s.input.moveTo (inputCheckpoint batch) = some (settle { s with result } batch sequence env).2.input) := by
  unfold settle
  have hsource := checkpoint_cases s.source.wal (sourceCheckpoint batch) env.source
  rcases hres : checkpoint s.source.wal (sourceCheckpoint batch) env.source with ⟨e | u, wal⟩
  · rw [hres] at hsource
    rcases hsource with rfl | hsource
    · exact ⟨.acked hhead hack, rfl, .inl rfl⟩
    · exact ⟨.sourced hhead hack hacks hsource, rfl, .inl rfl⟩
  · have hmoved := checkpoint_ok hres
    have hinput := checkpoint_cases s.input (inputCheckpoint batch) env.input
    simp only
    rcases hres' : checkpoint s.input (inputCheckpoint batch) env.input with ⟨e | u, input⟩
    · rw [hres'] at hinput
      rcases hinput with rfl | hinput
      · exact ⟨.sourced hhead hack hacks hmoved, rfl, .inl rfl⟩
      · exact ⟨.taken hhead hack hacks hmoved hinput, rfl, .inr hinput⟩
    · have htaken := checkpoint_ok hres'
      have hresult := checkpoint_cases result sequence env.result
      simp only
      rcases hres'' : checkpoint result sequence env.result with ⟨e | u, result'⟩
      · rw [hres''] at hresult
        rcases hresult with rfl | hresult
        · exact ⟨.taken hhead hack hacks hmoved htaken, rfl, .inr htaken⟩
        · exact ⟨.settled hhead hack hacks hmoved htaken hresult (.inl rfl), (moveTo_eq_some hresult).2.1, .inr htaken⟩
      · have hlast := checkpoint_ok hres''
        exact ⟨.settled hhead hack hacks hmoved htaken hlast (.inr rfl), (moveTo_eq_some hlast).2.1, .inr htaken⟩

/-- what `process_pending_results` can do; it moves the input checkpoint only for an acknowledgement it has accepted -/
theorem processPendingResults_change (cfg : Config) (s : Actor) (env : ResultReplies) :
    ResultsChange s (processPendingResults cfg s env).2 ∧
      s.result.entries <+: (processPendingResults cfg s env).2.result.entries ∧
      ((processPendingResults cfg s env).2.input = s.input ∨
        ∃ item batch ack, HeadBatch s item batch ∧ validateCanonicalAcks cfg.hash cfg.encodeAck batch ack = .ok () ∧
          (∃ e ∈ (processPendingResults cfg s env).2.result.entries, e.canonicalAck = some ack) ∧
          s.input.moveTo (inputCheckpoint batch) = some (processPendingResults cfg s env).2.input) := by
  unfold processPendingResults
  have hseen := s.result.replay_prefix cfg.resultBytes 2 (cfg.limits.controlMessageBytes * 2)
  cases hreplay : s.result.replay cfg.resultBytes 2 (cfg.limits.controlMessageBytes * 2) with
  | nil => exact ⟨.quiet, prefix_refl _, .inl rfl⟩
  | cons item rest =>
    rw [hreplay] at hseen
    simp only
    cases hbatch : durableBatch cfg item with
    | error => exact ⟨.quiet, prefix_refl _, .inl rfl⟩
    | ok batch =>
      have hhead : HeadBatch s item batch := .of_durable hbatch hseen
      rcases hobtain : obtainAck cfg s batch item.1 rest.head? env with ⟨e | ⟨ack, sequence⟩, result⟩
      · simp only [hobtain]
        obtain ⟨hlog, -⟩ := obtainAck_change hseen hobtain
        rcases hlog with rfl | ⟨n, hack⟩
        · exact ⟨.quiet, prefix_refl _, .inl trivial⟩
        · exact ⟨.acked hhead hack, hack.grown, .inl trivial⟩
      · obtain ⟨hack, hvalid, hdurable⟩ := (obtainAck_change hseen hobtain).2 ack sequence rfl
        simp only [hobtain]
        split_ifs with hdigest hacks
        · exact ⟨.acked hhead hack, hack.grown, .inl rfl⟩
        · exact ⟨.acked hhead hack, hack.grown, .inl rfl⟩
        · obtain ⟨hchange, hentries, hinput⟩ := settle_change hhead hack (by simpa using hacks) env
          refine ⟨hchange, ?_⟩
          rw [hentries]
          refine ⟨hack.grown, ?_⟩
          rcases hinput with hsame | hmove
          · exact .inl hsame
          · exact .inr ⟨item, batch, ack, hhead, hvalid, hdurable, hmove⟩

/-! ## The other operations -/

/-- an operation that only appends to the source WAL, changes the route, or ends the process -/
structure Quiet (s t : Actor) : Prop where
  input : t.input = s.input
  result : t.result = s.result
  known : t.knownInputIds = s.knownInputIds
  windows : t.windows = s.windows
  emitted : t.emitted = s.emitted
  source : Source.Extends s.source t.source
  running : t.running = true → s.running = true

theorem Quiet.of_source {source : SourceState} (h : Source.Extends s.source source) :
    Quiet s { s with source } := ⟨rfl, rfl, rfl, rfl, rfl, h, id⟩

theorem Quiet.of_routes (s : Actor) (routes : RouteActor) : Quiet s { s with routes } :=
  ⟨rfl, rfl, rfl, rfl, rfl, .refl _, id⟩

/-- the operations that are quiet -/
def Op.isQuiet : Op → Bool
  | .finish _ _ none => false
  | .tick _ => false
  | .inputs _ => false
  | .results _ => false
  | .restart _ _ => false
  | _ => true

theorem perform_quiet (cfg : Config) (s : Actor) (op : Op) (h : op.isQuiet = true) : Quiet s (perform cfg s op) := by
  cases op with
  | poll env => exact .of_source (Source.pollStart_extends _ _ env)
  | finish env _ stop =>
    cases stop with
    | none => cases h
    | some n => exact ⟨rfl, rfl, rfl, rfl, rfl, Source.finishStages_extends _ _ _ env n, fun hrun => by cases hrun⟩
  | digestHint hint now io => exact .of_source (Source.persistDigestHint_extends _ _ hint now io)
  | flushAcks ack now io => exact .of_source (Source.flushDigestAcks_extends _ ack now io)
  | packetHint length hint now io => exact .of_source (Source.persistPacketHint_extends _ length hint now io)
  | hintGap kind now io => exact .of_source (Source.persistHintGap_extends _ _ kind now io)
  | route => exact .of_routes s _
  | recoverRoute =>
    simp only [perform, recoverRoute]
    split
    · exact .of_routes s s.routes
    · split
      · exact .of_routes s _
      · exact .of_routes s _
  | crash => exact ⟨rfl, rfl, rfl, rfl, rfl, .refl _, fun hrun => by cases hrun⟩
  | tick => cases h
  | inputs => cases h
  | results => cases h
  | restart => cases h

/-- a finished freeze is quiet up to the admission of the snapshot it finalized -/
theorem finishSource_cases (cfg : Config) (s : Actor) (env : Source.FinishReplies) (admitEnv : AdmitReplies) :
    ∃ source, Source.Extends s.source source ∧
      ((finishSource cfg s env admitEnv).2 = { s with source } ∨
        ∃ snapshot, Source.Finalizes source.wal snapshot ∧
          (finishSource cfg s env admitEnv).2 = (admitSnapshot cfg { s with source } snapshot admitEnv).2) := by
  have hthree := Source.finishStages_extends cfg.hash (cfg.sourceFor s) s.source env 3
  unfold finishSource
  rcases hres : Source.finishStages cfg.hash (cfg.sourceFor s) s.source env 3 with ⟨e | u, source⟩
  · rw [hres] at hthree
    exact ⟨source, hthree, .inl rfl⟩
  · rw [hres] at hthree
    have hfour := hthree.trans (Source.finalizeStage_extends source env)
    simp only
    rcases hfin : Source.finalizeStage source env with ⟨e | u, final⟩
    · rw [hfin] at hfour
      exact ⟨final, hfour, .inl rfl⟩
    · rw [hfin] at hfour
      obtain ⟨recovery, snapshot, hrec, hsnap, hwal⟩ := Source.finalizeStage_ok hfin
      have hdone : finishedSnapshot source = some { snapshot with sourceWalSequence := source.wal.nextSequence } := by
        simp [finishedSnapshot, hrec, hsnap]
      rw [hdone]
      refine ⟨final, hfour, .inr ⟨_, ?_, rfl⟩⟩
      rw [hwal]
      refine ⟨Source.finalizedRecord recovery _ env.finalizedAt, Nat.succ_pos _, ?_, rfl, rfl⟩
      simp [Log.append, Log.nextSequence]

/-- a restarted process before it admits snapshots again -/
def Actor.rebuilt (s : Actor) (fence : Option Fence) (knownInputIds : List String) (st : Rebuilt) : Actor :=
  { s.fresh fence with knownInputIds, source := st.resume s.source.wal }

/-- replay fails on the WALs as they are, or the finalized snapshots are admitted again -/
theorem recoverSourceState_cases (cfg : Config) (s : Actor) (env : ℕ → AdmitReplies) :
    (∃ e, recoverSourceState cfg s env = (.error e, s)) ∨
      ∃ known st, recoverKnown cfg [] s.input.pending = .ok known ∧
        recoverRecords cfg.source s.source.wal.pending = .ok st ∧
        recoverSourceState cfg s env =
          admitAgain cfg env 0 { s with knownInputIds := known, source := st.resume s.source.wal } st.finalized := by
  unfold recoverSourceState
  cases hknown : recoverKnown cfg [] s.input.pending with
  | error e => exact .inl ⟨e, rfl⟩
  | ok known =>
    cases hst : recoverRecords cfg.source s.source.wal.pending with
    | error e => exact .inl ⟨e, rfl⟩
    | ok st => exact .inr ⟨known, st, rfl, rfl, rfl⟩

theorem restarted_cases (cfg : Config) (s : Actor) (fence : Option Fence) (env : ℕ → AdmitReplies) :
    restarted cfg s fence env = s.fresh fence ∨
      ∃ known st, recoverKnown cfg [] s.input.pending = .ok known ∧
        recoverRecords cfg.source s.source.wal.pending = .ok st ∧
        ∃ running routes, restarted cfg s fence env =
          { (admitAgain cfg env 0 (s.rebuilt fence known st) st.finalized).2 with running, routes } := by
  unfold restarted
  rcases recoverSourceState_cases cfg (s.fresh fence) env with ⟨e, h⟩ | ⟨known, st, hknown, hst, h⟩
  · rw [h]
    exact .inl rfl
  · have hagain : recoverSourceState cfg (s.fresh fence) env =
        admitAgain cfg env 0 (s.rebuilt fence known st) st.finalized := h
    rw [hagain]
    refine .inr ⟨known, st, hknown, hst, ?_⟩
    rcases admitAgain cfg env 0 (s.rebuilt fence known st) st.finalized with ⟨e | u, t⟩
    · exact ⟨t.running, t.routes, rfl⟩
    · simp only
      cases recoverRouteJournal t.routes.journal.pending with
      | error => exact ⟨t.running, t.routes, rfl⟩
      | ok record => exact ⟨true, { t.routes with routeRecovery := record }, rfl⟩

/-- the ids that are known after a restart: those before it and those of the pending records -/
theorem recoverKnown_ok {items : List (ℕ × InferenceRecord)} {known known' : List String}
    (h : recoverKnown cfg known items = .ok known') (id : String) :
    id ∈ known' ↔ id ∈ known ∨ ∃ x ∈ items, x.2.inputId = id := by
  induction items generalizing known with
  | nil =>
    cases h
    simp
  | cons item _ ih =>
    replace h := passed h
    replace h := passed h
    have hitem : id ∈ (if item.2.inputId ∈ known then known else item.2.inputId :: known) ↔
        id ∈ known ∨ item.2.inputId = id := by
      split_ifs with hmem
      · exact ⟨.inl, fun hid => hid.elim (fun h => h) fun heq => heq ▸ hmem⟩
      · rw [mem_cons, or_comm, eq_comm]
    rw [ih h, hitem, or_assoc]
    simp

/-- what the window engine emits during an operation -/
def emittedBy (cfg : Config) (s : Actor) (op : Op) : List InferenceRecord :=
  (step cfg s op).emitted.drop s.emitted.length

theorem emittedBy_eq {op : Op} {es : List InferenceRecord} (h : (step cfg s op).emitted = s.emitted ++ es) :
    emittedBy cfg s op = es := by
  rw [emittedBy, h, drop_left]

section

variable (hP : AdmissionKept P)
include hP

/-- **A finished freeze, record by record.** -/
theorem finish_induct {env : Source.FinishReplies} {admitEnv : AdmitReplies} (hrun : s.running = true)
    (h : ∀ source, Source.Extends s.source source →
      P { s with source } (emittedBy cfg s (.finish env admitEnv none))) :
    P (finishSource cfg s env admitEnv).2 [] := by
  have hstep : step cfg s (.finish env admitEnv none) = (finishSource cfg s env admitEnv).2 := by
    simp [step, hrun, perform]
  obtain ⟨source, hext, hsame | ⟨snapshot, -, hsnap⟩⟩ := finishSource_cases cfg s env admitEnv
  · rw [hsame]
    refine skip_all hP.skip _ (emittedBy cfg s (.finish env admitEnv none)) [] ?_
    rw [append_nil]
    exact h source hext
  · rw [hsnap]
    obtain ⟨es, hes⟩ := admitSnapshot_emitted cfg { s with source } snapshot admitEnv
    have hemitted : emittedBy cfg s (.finish env admitEnv none) = es :=
      emittedBy_eq (by rw [hstep, hsnap, hes])
    refine admitSnapshot_induct hP _ snapshot admitEnv es [] hes ?_
    rw [append_nil, ← hemitted]
    exact h source hext

/-- **An idle advance, record by record.** -/
theorem tick_induct (hrun : s.running = true) (h : P s (emittedBy cfg s (.tick env))) :
    P (tickWindows cfg s env).2 [] := by
  have hstep : step cfg s (.tick env) = (tickWindows cfg s env).2 := by simp [step, hrun, perform]
  have hemitted : emittedBy cfg s (.tick env) = (tick cfg.hash cfg.window s.windows env.now).1.inferenceRecords :=
    emittedBy_eq (by rw [hstep]; exact admitAdvance_emitted cfg s _ _ env)
  refine admitAdvance_induct hP s _ _ env [] ?_
  rw [append_nil, ← hemitted]
  exact h

/-- **A restart, record by record**, unless it fails on the WALs as they are. -/
theorem restart_induct (s : Actor) (fence : Option Fence) (env : ℕ → AdmitReplies)
    (h : ∀ known st, recoverKnown cfg [] s.input.pending = .ok known →
      recoverRecords cfg.source s.source.wal.pending = .ok st →
      P (s.rebuilt fence known st) (emittedBy cfg s (.restart fence env))) :
    restarted cfg s fence env = s.fresh fence ∨
      ∃ t running routes, P t [] ∧ restarted cfg s fence env = { t with running, routes } := by
  rcases restarted_cases cfg s fence env with hfresh | ⟨known, st, hknown, hst, running, routes, heq⟩
  · exact .inl hfresh
  · refine .inr ⟨_, running, routes, ?_, heq⟩
    obtain ⟨es, hes⟩ := admitAgain_emitted cfg env 0 (s.rebuilt fence known st) st.finalized
    have hstep : step cfg s (.restart fence env) = restarted cfg s fence env := by simp [step, perform, Op.isRestart]
    have hemitted : emittedBy cfg s (.restart fence env) = es :=
      emittedBy_eq (by rw [hstep, heq]; exact hes)
    exact admitAgain_each (fun n s snapshot => admitSnapshot_induct hP s snapshot (env n)) 0 _ _ es hes
      (hemitted ▸ h known st hknown hst)

/-- the states in which an operation begins to admit records -/
inductive Starts (cfg : Config) (s : Actor) : Op → Actor → Prop
  | finish (env : Source.FinishReplies) (admitEnv : AdmitReplies) (up : s.running = true) (source : SourceState)
      (more : Source.Extends s.source source) : Starts cfg s (.finish env admitEnv none) { s with source }
  | tick (env : AdmitReplies) (up : s.running = true) : Starts cfg s (.tick env) s
  | restart (fence : Option Fence) (env : ℕ → AdmitReplies) (known : List String) (st : Rebuilt)
      (found : recoverKnown cfg [] s.input.pending = .ok known)
      (recovered : recoverRecords cfg.source s.source.wal.pending = .ok st) :
      Starts cfg s (.restart fence env) (s.rebuilt fence known st)

/-- **One rule for a step.** What `P` says of admission becomes `Q` when nothing is left to admit. -/
theorem step_induct {op : Op} {Q : Actor → Prop} (h : Q s) (quiet : ∀ t, Quiet s t → Q t)
    (fresh : ∀ fence, Q (s.fresh fence)) (start : ∀ t, Starts cfg s op t → P t (emittedBy cfg s op))
    (done : ∀ t running routes, P t [] → Q { t with running, routes })
    (inputs : ∀ env, op = .inputs env → Q (processPendingInputs cfg s env).2)
    (results : ∀ env, op = .results env → Q (processPendingResults cfg s env).2) : Q (step cfg s op) := by
  unfold step
  split_ifs with hrun
  · by_cases hquiet : op.isQuiet = true
    · exact quiet _ (perform_quiet cfg s op hquiet)
    · cases op with
      | finish env admitEnv stop =>
        cases stop with
        | some => exact absurd rfl hquiet
        | none =>
          have hup : s.running = true := by simpa [Op.isRestart] using hrun
          exact done _ _ _ (finish_induct hP hup fun source more => start _ (.finish env admitEnv hup source more))
      | tick env =>
        have hup : s.running = true := by simpa [Op.isRestart] using hrun
        exact done _ _ _ (tick_induct hP hup (start _ (.tick env hup)))
      | inputs env => exact inputs env rfl
      | results env => exact results env rfl
      | restart fence env =>
        rcases restart_induct hP s fence env fun known st hknown hst =>
          start _ (.restart fence env known st hknown hst) with hfresh | ⟨t, running, routes, ht, heq⟩
        · simp only [perform, hfresh]
          exact fresh fence
        · simp only [perform, heq]
          exact done t running routes ht
      | _ => exact absurd rfl hquiet
  · exact h

end

/-! ## The queue invariant -/

/-- the batch answers the first k queued records, all bound; or its input checkpoint is made -/
def Answered (s : Actor) (batch : InferenceResultBatch) : Prop :=
  (∃ k, 0 < k ∧ k ≤ s.input.pending.length ∧ (∀ x ∈ s.input.pending.take k, x.2.isBound = true) ∧
    (batch.records.map InferenceResultRecord.cursor).Perm ((s.input.pending.take k).map fun x => x.2.cursor)) ∨
  inputCheckpoint batch = s.input.checkpoint

structure Queue (s : Actor) : Prop where
  stamped : ∀ i r, s.input.entries[i]? = some r → r.inputWalSequence = i + 1
  single : ∀ x ∈ s.result.pending.tail, x.2.stage ≠ .batchDurable
  answered : ∀ item batch, HeadBatch s item batch → Answered s batch

theorem HeadBatch.unique (h : HeadBatch s item batch) (h' : HeadBatch s item' batch') : batch = batch' := by
  obtain rfl : item = item' := Option.some.inj (h.head.symm.trans h'.head)
  exact Option.some.inj (h.batch.symm.trans h'.batch)

theorem HeadBatch.of_result (h : HeadBatch t item batch) (hr : t.result = s.result) : HeadBatch s item batch :=
  ⟨hr ▸ h.head, h.stage, h.batch⟩

theorem Answered.of_input (h : Answered s batch) (hi : t.input = s.input) :
    Answered t batch := by
  unfold Answered
  rw [hi]
  exact h

theorem Queue.of_eq (h : Queue s) (hi : t.input = s.input) (hr : t.result = s.result) : Queue t where
  stamped := hi ▸ h.stamped
  single := hr ▸ h.single
  answered item batch hb := (h.answered item batch (hb.of_result hr)).of_input hi

/-- a pending record is stamped with its sequence -/
theorem Queue.stamp (h : Queue s) {x : ℕ × InferenceRecord} (hx : x ∈ s.input.pending) :
    x.2.inputWalSequence = x.1 := by
  obtain ⟨hlo, -, hget⟩ := mem_pending hx
  have := h.stamped _ _ hget
  omega

/-- the input checkpoint that an answered batch asks for -/
theorem Queue.inputCheckpoint_eq (h : Queue s) {k : ℕ} (hpos : 0 < k) (hk : k ≤ s.input.pending.length)
    (hperm : (batch.records.map InferenceResultRecord.cursor).Perm ((s.input.pending.take k).map fun x => x.2.cursor)) :
    inputCheckpoint batch = s.input.checkpoint + k := by
  have hseqs : (batch.records.map InferenceResultRecord.inputWalSequence).Perm ((s.input.pending.take k).map Prod.fst) := by
    have := hperm.map Cursor.inputWalSequence
    rw [map_map, map_map] at this
    refine this.trans (List.Perm.of_eq (map_congr_left fun x hx => ?_))
    exact h.stamp (mem_of_mem_take hx)
  rw [inputCheckpoint, maxOf_perm hseqs]
  apply le_antisymm
  · refine maxOf_le.2 fun n hn => ?_
    obtain ⟨x, hx, rfl⟩ := List.mem_map.1 hn
    exact mem_take_pending hx
  · -- the last of the k has sequence checkpoint + k
    have hlast : k - 1 < (s.input.pending.take k).length := by
      rw [length_take]
      omega
    have hmem := le_maxOf (mem_map_of_mem (f := Prod.fst) (getElem_mem hlast))
    rw [getElem_take, pending_getElem] at hmem
    omega

theorem stamped_append {l : Log InferenceRecord} {n : InferenceRecord}
    (h : ∀ i r, l.entries[i]? = some r → r.inputWalSequence = i + 1) (hn : n.inputWalSequence = l.nextSequence) :
    ∀ i r, (l.append n).entries[i]? = some r → r.inputWalSequence = i + 1 := by
  intro i r hget
  rw [Log.append, getElem?_append] at hget
  split_ifs at hget with hi
  · exact h i r hget
  · have hzero : i - l.entries.length = 0 := by
      by_contra hne
      rw [getElem?_eq_none (by simpa using Nat.one_le_iff_ne_zero.2 hne)] at hget
      cases hget
    rw [hzero] at hget
    cases hget
    rw [hn, Log.nextSequence]
    omega

/-- appending to the input WAL keeps the answered batch answered -/
theorem Answered.append (h : Answered s batch) (n : InferenceRecord) (known : List String) :
    Answered { s with input := s.input.append n, knownInputIds := known } batch := by
  rcases h with ⟨k, hpos, hk, hbound, hperm⟩ | hdone
  · refine .inl ⟨k, hpos, ?_, ?_, ?_⟩
    · simp only [pending_append, length_append]
      omega
    · simp only [pending_append, take_append_of_le_length hk]
      exact hbound
    · simp only [pending_append, take_append_of_le_length hk]
      exact hperm
  · exact .inr hdone

theorem Queue.admitted {r n : InferenceRecord} (h : Queue s) (hn : Admits s r n) : Queue (s.admitted n) where
  stamped := stamped_append h.stamped hn.stamp
  single := h.single
  answered item batch hb := (h.answered item batch (hb.of_result rfl)).append n _

/-- no batch is pending when the result WAL is settled -/
theorem no_headBatch (h : s.result.checkpoint = s.result.lastSequence) (hb : HeadBatch t item batch)
    (hr : t.result = s.result) : False := by
  have hhead := hb.head
  rw [hr, Log.pending_eq_nil.2 h] at hhead
  cases hhead

/-- the batch sent to the pool is the first k queued records -/
theorem headBatch_eq (hreplay : replayed cfg s = head :: rest) (hbound : head.2.isBound = true) :
    ∃ k, 0 < k ∧ k ≤ s.input.pending.length ∧ (∀ x ∈ s.input.pending.take k, x.2.isBound = true) ∧
      headBatch head.2 (head :: rest) = (s.input.pending.take k).map Prod.snd := by
  have hqueue : headBatch head.2 (head :: rest) <+: s.input.pending.map Prod.snd := by
    have hpre := s.input.replay_prefix cfg.inputBytes cfg.limits.inferenceBatchRecords cfg.limits.inferenceMessageBytes
    rw [show s.input.replay _ _ _ = head :: rest from hreplay] at hpre
    exact (List.takeWhile_prefix _).trans (hpre.map Prod.snd)
  have htake := List.prefix_iff_eq_take.1 hqueue
  rw [← map_take] at htake
  refine ⟨(headBatch head.2 (head :: rest)).length, ?_, ?_, ?_, htake⟩
  · simp [headBatch, hbound]
  · simpa using hqueue.length_le
  · intro x hx
    have hmem : x.2 ∈ headBatch head.2 (head :: rest) := by
      rw [htake]
      exact mem_map_of_mem hx
    have := mem_takeWhile_imp hmem
    simp only [Bool.and_eq_true] at this
    exact this.1

/-- the durable batch differs from the answer in its stamps only -/
theorem stampResult_map {β : Type} (g : InferenceResultRecord → β) (hg : ∀ r n, g { r with resultWalSequence := n } = g r)
    (hash : Bytes → String) (result : InferenceResultBatch) (sequence : ℕ) :
    (stampResult hash result sequence).records.map g = result.records.map g := by
  simp [stampResult, Function.comp_def, hg]

/-- a result that answers the head batch answers the first k queued records -/
theorem result_answers {result : InferenceResultBatch} (hreplay : replayed cfg s = head :: rest)
    (hbound : head.2.isBound = true)
    (hanswers : (result.records.map InferenceResultRecord.cursor).Perm ((headBatch head.2 (head :: rest)).map InferenceRecord.cursor))
    (sequence : ℕ) :
    ∃ k, 0 < k ∧ k ≤ s.input.pending.length ∧ (∀ x ∈ s.input.pending.take k, x.2.isBound = true) ∧
      ((stampResult cfg.hash result sequence).records.map InferenceResultRecord.cursor).Perm
        ((s.input.pending.take k).map fun x => x.2.cursor) := by
  obtain ⟨k, hpos, hk, hall, hbatch⟩ := headBatch_eq hreplay hbound
  refine ⟨k, hpos, hk, hall, ?_⟩
  rw [stampResult_map _ fun _ _ => rfl]
  rw [hbatch, map_map] at hanswers
  exact hanswers

/-- the batch an inference has just made durable -/
theorem inferred_head {result : InferenceResultBatch} (hidle : s.result.checkpoint = s.result.lastSequence)
    (hb : HeadBatch t item batch) (hr : t.result = s.result.append (batchDurable cfg s result now)) :
    batch = stampResult cfg.hash result s.result.nextSequence := by
  have hpending : t.result.pending = [(s.result.nextSequence, batchDurable cfg s result now)] := by
    rw [hr, pending_append, Log.pending_eq_nil.2 hidle, nil_append]
  have hitem := hb.head
  rw [hpending, head?_cons, Option.some.injEq] at hitem
  subst hitem
  exact (Option.some.inj hb.batch).symm

theorem Queue.inputs (h : Queue s) (hc : InputsChange cfg s t) : Queue t := by
  cases hc with
  | quiet => exact h.of_eq rfl rfl
  | dropped hhead _ hmove =>
    obtain ⟨-, hentries, -⟩ := moveTo_eq_some hmove
    exact ⟨fun i r hr => h.stamped i r (hentries ▸ hr), h.single, fun item batch hb =>
      (no_headBatch hhead.idle hb rfl).elim⟩
  | copied hhead _ hn =>
    exact ⟨stamped_append h.stamped hn.stamp, h.single, fun item batch hb =>
      (no_headBatch hhead.idle hb rfl).elim⟩
  | moved hhead _ hn hmove =>
    obtain ⟨-, hentries, -⟩ := moveTo_eq_some hmove
    exact ⟨fun i r hr => stamped_append h.stamped hn.stamp i r (hentries ▸ hr), h.single, fun item batch hb =>
      (no_headBatch hhead.idle hb rfl).elim⟩
  | @inferred _ _ _ _ _ hidle hreplay hbound hanswers =>
    refine ⟨h.stamped, ?_, ?_⟩
    · simp only [pending_append, Log.pending_eq_nil.2 hidle, nil_append, tail_cons]
      exact fun x hx => absurd hx not_mem_nil
    · intro item batch hb
      obtain rfl := inferred_head hidle hb rfl
      exact .inl (result_answers hreplay hbound hanswers _)

/-- an acknowledgement goes behind the batch -/
theorem Acked.pending (h : Acked s item result sequence) :
    ∃ acks, result.pending = s.result.pending ++ acks ∧ (∀ x ∈ acks, x.2.stage ≠ .batchDurable) ∧
      result.checkpoint = s.result.checkpoint ∧ s.result.checkpoint < sequence ∧ sequence ≤ result.lastSequence := by
  cases h with
  | @replayed next _ h =>
    have hnext := mem_pending (show next ∈ s.result.pending from h ▸ by simp)
    exact ⟨[], by simp, by simp, rfl, hnext.1, hnext.2.1⟩
  | committed ack now =>
    refine ⟨[(s.result.nextSequence, ackDurable ack item.1 now)], pending_append _ _, ?_, rfl, ?_, ?_⟩
    · intro x hx
      obtain rfl := List.mem_singleton.1 hx
      exact nofun
    · have := s.result.inRange
      simp only [Log.nextSequence]
      omega
    · simp [Log.lastSequence, Log.nextSequence, Log.append]

/-- an acknowledged batch is still the head -/
theorem HeadBatch.of_acked (hhead : HeadBatch s item batch) (hack : Acked s item result sequence)
    (hb : HeadBatch t item' batch') (hr : t.result = result) : HeadBatch s item' batch' := by
  obtain ⟨acks, hpending, -⟩ := hack.pending
  obtain ⟨tail, htail⟩ : ∃ tail, s.result.pending = item :: tail := List.head?_eq_some_iff.1 hhead.head
  refine ⟨?_, hb.stage, hb.batch⟩
  have hitem := hb.head
  rw [hr, hpending, htail] at hitem
  rw [htail]
  exact hitem

theorem Queue.acked (h : Queue s) (hhead : HeadBatch s item batch) (hack : Acked s item result sequence)
    (hi : t.input = s.input) (hr : t.result = result) : Queue t := by
  obtain ⟨acks, hpending, hacks, -⟩ := hack.pending
  obtain ⟨tail, htail⟩ : ∃ tail, s.result.pending = item :: tail := List.head?_eq_some_iff.1 hhead.head
  refine ⟨hi ▸ h.stamped, ?_, ?_⟩
  · rw [hr, hpending, htail, cons_append, tail_cons]
    intro x hx
    rcases List.mem_append.1 hx with hx | hx
    · exact h.single x (by rw [htail]; exact hx)
    · exact hacks x hx
  · intro item' batch' hb
    exact (h.answered item' batch' (hhead.of_acked hack hb hr)).of_input hi

/-- once the result checkpoint is made, only acknowledgements can be left -/
theorem Queue.settled {result' : Log ResultWalRecord} (h : Queue s) (hhead : HeadBatch s item batch)
    (hack : Acked s item result sequence) (hresult : result.moveTo sequence = some result') :
    ∀ x ∈ result'.pending, x.2.stage ≠ .batchDurable := by
  have hq : Queue { s with result } := h.acked hhead hack rfl rfl
  obtain ⟨acks, -, -, hcheckpoint, hlt, -⟩ := hack.pending
  intro x hx
  refine hq.single x ?_
  rw [pending_moveTo hresult] at hx
  obtain ⟨d, hd⟩ : ∃ d, sequence - result.checkpoint = d + 1 := ⟨sequence - result.checkpoint - 1, by omega⟩
  rw [hd, ← drop_tail] at hx
  exact mem_of_mem_drop hx

theorem Queue.results (h : Queue s) (hc : ResultsChange s t) : Queue t := by
  cases hc with
  | quiet => exact h
  | acked hhead hack => exact h.acked hhead hack rfl rfl
  | sourced hhead hack => exact h.acked hhead hack rfl rfl
  | @taken _ batch result _ wal _ hhead hack _ _ hinput =>
    obtain ⟨-, hentries, hcheckpoint⟩ := moveTo_eq_some hinput
    have hq : Queue { s with result, source := { s.source with wal } } := h.acked hhead hack rfl rfl
    refine ⟨fun i r hr => h.stamped i r (hentries ▸ hr), hq.single, fun item' batch' hb => .inr ?_⟩
    -- the head batch is still the one whose checkpoint has just been made
    obtain rfl := hhead.unique (hhead.of_acked hack hb rfl)
    exact hcheckpoint.symm
  | @settled _ _ _ _ _ _ _ _ hhead hack _ _ hinput hresult _ =>
    obtain ⟨-, hentries, -⟩ := moveTo_eq_some hinput
    have hleft := h.settled hhead hack hresult
    refine ⟨fun i r hr => h.stamped i r (hentries ▸ hr), fun x hx => hleft x (mem_of_mem_tail hx), ?_⟩
    intro item' batch' hb
    exact absurd hb.stage (hleft item' (mem_of_mem_head? hb.head))

theorem step_queue (cfg : Config) (s : Actor) (op : Op) (h : Queue s) : Queue (step cfg s op) := by
  -- admission keeps the invariant whatever is emitted
  refine step_induct (P := fun t _ => Queue t) ⟨fun _ _ _ ht => ht, fun _ _ _ _ ht hn => ht.admitted hn,
    fun _ _ _ _ ht => ht.of_eq rfl rfl⟩ h (fun t hq => h.of_eq hq.input hq.result) (fun _ => h.of_eq rfl rfl) ?_
    (fun _ _ _ ht => ht.of_eq rfl rfl) (fun env _ => h.inputs (processPendingInputs_change cfg s env))
    (fun env _ => h.results (processPendingResults_change cfg s env).1)
  intro t ht
  cases ht with
  | finish => exact h.of_eq rfl rfl
  | tick => exact h
  | restart => exact h.of_eq rfl rfl

/-- **The queue of every run.** -/
theorem run_queue (cfg : Config) (ops : List Op) : Queue (run cfg ops) := by
  refine foldl_invariant (P := Queue) ⟨fun i r hr => by simp [Actor.initial, Log.empty] at hr, ?_, ?_⟩
    (fun _ op ih => step_queue cfg _ op ih) ops
  · simp [Actor.initial, pending_empty]
  · intro item batch hb
    have := hb.head
    simp [Actor.initial, pending_empty] at this

/-! ## A sample target

One target with an arbitrary bound on the batch, a toy digest, and a pool and a sink that answer whatever they are asked.
A script chooses each operation from the state it meets. -/

/-- the batch `process_pending_inputs` hands over next -/
def pendingBatch (cfg : Config) (s : Actor) : List InferenceRecord :=
  match replayed cfg s with
  | [] => []
  | head :: rest => headBatch head.2 (head :: rest)

def toyDigit (n : ℕ) : String :=
  ["0", "1", "2", "3", "4", "5", "6", "7", "8", "9", "a", "b", "c", "d", "e", "f"].getD (n % 16) "0"

/-- four hexadecimal digits of a polynomial checksum behind sixty zeros -/
def toyHash (bytes : Bytes) : String :=
  let h := bytes.foldl (fun h b => (h * 31 + b.toNat) % 65521) 7
  "000000000000000000000000000000000000000000000000000000000000" ++ toyDigit (h / 4096) ++ toyDigit (h / 256) ++
    toyDigit (h / 16) ++ toyDigit h

def sampleFence : Fence := ⟨"control-1", 1, "runtime-1", 1, 0, 1⟩

def sampleConfig (batchRecords : ℕ) : Config where
  source := ⟨"leaf-1", 1, "leaf", some sampleFence, zeroDigest, 0, 1000, 8⟩
  window :=
    { durationMs := 100, allowedLatenessMs := 0, idleSourceTimeoutMs := 50, maxOpen := 4
      featureContractDigest := zeroDigest
      durationPos := by decide, durationRange := by decide, latenessRange := by decide, idlePos := by decide
      idleRange := by decide, openPos := by decide, openBound := by decide, digestOk := by decide +kernel }
  route := poolConfig
  limits := ⟨batchRecords, 1000000, 1000, 16, 1000000, 16⟩
  hash := toyHash
  inputBytes := fun _ => 1
  batchBytes := fun _ => 1
  resultBytes := fun _ => 1
  resultBatchBytes := fun _ => 1
  encodeAck := fun ack => asBytes ack.resultBatchDigest

def quietAdmit (now : ℤ) : AdmitReplies := ⟨now, fun _ => false, fun _ => .ok ()⟩

/-- bank and epoch as the selector register holds them -/
def selectorOf (bank epoch : ℕ) : Source.Selector := ⟨(BitVec.ofNat 1 bank).toFin, (BitVec.ofNat 32 epoch).toFin⟩

def quietPoll (bank epoch : ℕ) (now : ℤ) : PollReplies := ⟨.ok (selectorOf bank epoch), .ok (0, 0), now, .ok ()⟩

def quietFinish (bank epoch : ℕ) (now : ℤ) : FinishReplies :=
  { selector := .ok (selectorOf bank epoch), selectorWrite := .ok (), selectorReadback := .ok true, frozenCounter := .ok (0, 0)
    frozenAt := now, frozenIo := .ok (), cells := .ok (List.replicate 256 (0, 0)), counter := .ok (0, 0)
    snapshotAt := now, snapshotIo := .ok (), clearWrite := .ok (), clearReadback := .ok (0, 0), clearedAt := now
    clearIo := .ok (), finalizedAt := now, finalIo := .ok () }

/-- one freeze of the bank without traffic -/
def quietCycle (bank epoch : ℕ) (now : ℤ) : List Op :=
  [.poll (quietPoll bank epoch now), .finish (quietFinish bank epoch now) (quietAdmit now) none]

/-- the pool's answer to one record -/
def answerRecord (hash : Bytes → String) (traceId : String) (r : InferenceRecord) : InferenceResultRecord :=
  { toRouteIdentity := r.toRouteIdentity, inputId := r.inputId, eventIdempotencyKey := r.eventIdempotencyKey
    inputDigest := r.inputDigest, outputDigest := sha256 hash [0, 0, 0, 0], scores := [0], predictedLabel := 0
    decision := "benign", outOfDistribution := false, abstain := false, quality := "valid", status := "OK"
    errorCode := "NONE", workerId := "worker-1", workerDigest := zeroDigest, sourceWalSequence := r.sourceWalSequence
    inputWalSequence := r.inputWalSequence, resultWalSequence := 0, decisionCode := 1
    qualityCode := DataQuality.valid.code, executionStatus := 1, windowId := r.windowId
    featureContractDigest := r.featureContractDigest, sourceRuntimeEpoch := r.sourceRuntimeEpoch
    sourceSequenceStart := r.sourceSequenceStart, sourceSequenceEnd := r.sourceSequenceEnd
    windowStartUnixMs := r.windowStartUnixMs, windowEndUnixMs := r.windowEndUnixMs
    finalizedAtUnixMs := r.finalizedAtUnixMs, targetId := r.targetId, samplingCoveragePpm := r.samplingCoveragePpm
    workerAttemptId := "attempt-1", inferenceStartedAtUnixMs := 1, inferenceCompletedAtUnixMs := 1, traceId }

def answerBatch (hash : Bytes → String) (traceId : String) (route : InferenceRoute) (records : List InferenceRecord) :
    InferenceResultBatch :=
  let batch : InferenceResultBatch :=
    { schemaVersion := "inference-central-grpc-batch/v1", requestId := requestIdentity hash route records
      route := some route, records := records.map (answerRecord hash traceId), batchDigest := "" }
  { batch with batchDigest := canonicalResultBatchDigest hash batch }

def ackBatch (cfg : Config) (batch : InferenceResultBatch) : CanonicalAckBatch :=
  let ack : CanonicalAckBatch :=
    { schemaVersion := "canonical-event-ack/v1", traceId := "trace-4", resultBatchDigest := batch.batchDigest
      ackBatchDigest := ""
      acknowledgements := batch.records.map fun r : InferenceResultRecord =>
        ⟨r.eventIdempotencyKey, r.inputDigest, r.outputDigest, "event-1", 1, "committed", "NONE", 1⟩ }
  { ack with ackBatchDigest := canonicalAckBatchDigest cfg.hash cfg.encodeAck ack }

/-- `process_pending_inputs` with a pool that answers the batch it gets -/
def poolInputs (cfg : Config) (io : CheckpointIo) (s : Actor) : Op :=
  .inputs ⟨900, .ok (), io,
    .ok (answerBatch cfg.hash ("infer:" ++ cfg.source.targetId) poolRoute (pendingBatch cfg s)), 900, .ok ()⟩

/-- `process_pending_results` with a sink that acknowledges the batch it gets -/
def sinkResults (cfg : Config) (s : Actor) : Op :=
  .results ⟨.ok (ackBatch cfg ((s.result.pending.head?.bind fun x => x.2.resultBatch).getD ⟨"", "", none, [], ""⟩)),
    .ok (), 900, .done, .done, .done⟩

def script (cfg : Config) : Actor → List (Actor → Op) → List Op
  | _, [] => []
  | s, act :: rest => act s :: script cfg (step cfg s (act s)) rest

/-- the operations of a script from the first state -/
def scripted (cfg : Config) (acts : List (Actor → Op)) : List Op := script cfg (Actor.initial cfg) acts

/-- operations that do not depend on the state -/
def always (ops : List Op) : List (Actor → Op) := ops.map fun op _ => op

/-- two windows become records while no route is active; then the route is committed -/
def twoWindows : List Op :=
  quietCycle 0 1 150 ++ quietCycle 1 2 250 ++ quietCycle 0 3 350 ++ [.tick (quietAdmit 500)] ++ activePool.map .route

end MasiEdge.Delivery
