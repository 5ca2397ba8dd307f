/-
Write fencing: which steps of the actor may call `P4Session::write`.

- `write_fencing`: in every run in which the lease covers each tick (and the spawn) that finds an open session and a pending
  source operation, every writing step starts before the lease deadline and outside `REVOKED`. So nothing writes between an
  expiry and the next successful renewal, and nothing ever writes after a revocation.
- `write_after_expiry`: without that condition a tick completes a pending source operation, and writes, after the expiry:
  the lease check of `maintain` keeps the session, and completion asks for a session only.
- `requery_answered_iff`: a query for a stored result is answered exactly while a write would still be admitted.

Effects and polls need no condition. Revocation closes the session, and no stage opens one for a revoked actor.
-/
import MasiEdge.Actor.Machine
import MasiEdge.Effect.Safety

namespace MasiEdge.Actor

open Run
open Source (SourceState FinishReplies)

/-! ## Stages of a tick -/

/-- a revoked actor has no session -/
def Inv (a : TargetActor) : Prop := a.state = .revoked → a.session = none

/-- what every stage of a tick respects: the lease, revocation, and that only a valid lease opens a session -/
structure Stage (a b : TargetActor) : Prop where
  clock : b.clock = a.clock
  deadline : b.leaseDeadline = a.leaseDeadline
  inv : Inv a → Inv b
  closed : a.session = none → a.state = .revoked → b.session = none ∧ b.state = .revoked
  opened : b.session.isSome → a.session.isSome ∨ a.clock < a.leaseDeadline

theorem Stage.refl (a : TargetActor) : Stage a a := ⟨rfl, rfl, id, fun h h' => ⟨h, h'⟩, Or.inl⟩

variable {a b : TargetActor} {ctx : Context} {env : SpawnReplies} {fw : Effect.Firewall} {x : Source.Outcome}
  {intent : EffectIntent} {now : ℤ}

theorem Stage.trans {c : TargetActor} (hab : Stage a b) (hbc : Stage b c) : Stage a c where
  clock := hbc.clock.trans hab.clock
  deadline := hbc.deadline.trans hab.deadline
  inv := fun h => hbc.inv (hab.inv h)
  closed := fun h h' => hbc.closed (hab.closed h h').1 (hab.closed h h').2
  opened := fun h => by
    rcases hbc.opened h with h | h
    · exact hab.opened h
    · rw [hab.clock, hab.deadline] at h
      exact .inr h

/-- a stage that keeps lease, state and session -/
theorem Stage.of_eq (hclock : b.clock = a.clock) (hdeadline : b.leaseDeadline = a.leaseDeadline)
    (hstate : b.state = a.state) (hsession : b.session = a.session) : Stage a b where
  clock := hclock
  deadline := hdeadline
  inv := fun h h' => by rw [hsession]; exact h (hstate ▸ h')
  closed := fun h h' => ⟨hsession.trans h, hstate.trans h'⟩
  opened := fun h => .inl (hsession ▸ h)

/-- a stage that runs with a session and then sets a state other than `REVOKED` -/
theorem Stage.of_session (hclock : b.clock = a.clock) (hdeadline : b.leaseDeadline = a.leaseDeadline)
    (hopen : a.session.isSome) (hstate : b.state ≠ .revoked) : Stage a b where
  clock := hclock
  deadline := hdeadline
  inv := fun _ h' => absurd h' hstate
  closed := fun h _ => by simp [h] at hopen
  opened := fun _ => .inl hopen

theorem afterSource_stage (a : TargetActor) (x : Source.Outcome) : Stage a (a.afterSource x) := by
  unfold TargetActor.afterSource
  split
  · exact .of_eq rfl rfl rfl rfl
  · exact .of_eq rfl rfl rfl rfl

theorem handleEvent_stage (ctx : Context) (a : TargetActor) (event : StreamEvent) (hopen : a.session.isSome) :
    Stage a (handleEvent ctx a event).1 := by
  cases event with
  | arbitration granted =>
    cases granted with
    | true => exact .refl a
    | false => exact .of_session rfl rfl hopen (by simp [handleEvent, TargetActor.disconnect])
  | digest => exact afterSource_stage a _
  | packet => exact afterSource_stage a _
  | error | closed => exact .of_session rfl rfl hopen (by simp [handleEvent, TargetActor.disconnect])
  | hintDropped =>
    simp only [handleEvent]
    split_ifs
    · exact (afterSource_stage a _).trans (.of_eq rfl rfl rfl rfl)
    · exact afterSource_stage a _

theorem drainStreamEvents_rule {R : TargetActor → TargetActor → Prop} (ctx : Context) (hrefl : ∀ a, R a a)
    (htrans : ∀ {a b c}, R a b → R b c → R a c)
    (hevent : ∀ a event, a.session.isSome → R a (handleEvent ctx a event).1) (n : ℕ) (a : TargetActor)
    (events : List StreamEvent) : R a (drainStreamEvents ctx n a events) := by
  induction events generalizing n a with
  | nil => cases n <;> exact hrefl a
  | cons event _ ih =>
    cases n with
    | zero => exact hrefl a
    | succ n =>
      rw [drainStreamEvents]
      split_ifs with hnone
      · exact hrefl a
      · have hnext := hevent a event (by simpa [Option.isSome_iff_ne_none] using hnone)
        split
        · rename_i b heq
          rw [heq] at hnext
          exact htrans hnext (ih n b)
        · rename_i b heq
          rw [heq] at hnext
          exact hnext

theorem expireLease_stage (ctx : Context) (a : TargetActor) : Stage a (expireLease ctx a) := by
  unfold expireLease
  split_ifs with h
  · exact ⟨rfl, rfl, fun _ h' => by simp [TargetActor.dropPreflights] at h', fun _ hr => absurd hr h.2, .inl⟩
  · exact .refl a

theorem reconnect_stage (a : TargetActor) (delay : ℕ) (connect : EdgeResult Session) :
    Stage a (reconnect a delay connect) := by
  unfold reconnect
  split_ifs with h
  · obtain ⟨-, -, hlease, hstate⟩ := h
    have hlt : a.clock < a.leaseDeadline := by omega
    cases connect with
    | ok => exact ⟨rfl, rfl, fun _ h' => by simp at h', fun _ hr => absurd hr hstate, fun _ => .inr hlt⟩
    | error => exact ⟨rfl, rfl, fun _ h' => by simp at h', fun _ hr => absurd hr hstate, .inl⟩
  · exact .refl a

theorem reconcileEffect_stage (ctx : Context) (a : TargetActor) (env : Effect.ReconcileReplies) :
    Stage a (reconcileEffect ctx a env) := by
  unfold reconcileEffect
  split_ifs with h
  · cases (Effect.reconcileRecoveredEffect ctx.firewall a.effect env).1 with
    | ok => exact .of_eq rfl rfl rfl rfl
    | error => exact .of_session rfl rfl h.1 (by simp)
  · exact .refl a

theorem completeSource_stage (ctx : Context) (a : TargetActor) (env : FinishReplies) (admitted : EdgeResult Unit) :
    Stage a (completeSource ctx a env admitted) := by
  unfold completeSource
  by_cases h : a.session.isSome ∧ a.source.recovery.isSome
  · rw [if_pos h]
    split
    · split_ifs
      · exact .of_session rfl rfl h.1 (by simp)
      · exact .of_eq rfl rfl rfl rfl
    · exact .of_session rfl rfl h.1 (by simp)
  · rw [if_neg h]
    exact .refl a

theorem housekeep_stage (ctx : Context) (a : TargetActor) (env : MaintainReplies) : Stage a (housekeep ctx a env) := by
  have hdrop : Stage a (a.dropPreflights ctx env.keep) := .of_eq rfl rfl rfl rfl
  exact (hdrop.trans (afterSource_stage _ _)).trans (.of_eq rfl rfl rfl rfl)

theorem pollTelemetry_stage (ctx : Context) (a : TargetActor) (env : MaintainReplies) : Stage a (pollTelemetry ctx a env) := by
  unfold pollTelemetry
  split_ifs
  · exact (afterSource_stage a _).trans (.of_eq rfl rfl rfl rfl)
  · exact (afterSource_stage a _).trans (.of_eq rfl rfl rfl rfl)
  · exact .of_eq rfl rfl rfl rfl
  · exact .of_eq rfl rfl rfl rfl

theorem beforeCompletion_stage (ctx : Context) (a : TargetActor) (env : MaintainReplies) :
    Stage a (beforeCompletion ctx a env) :=
  (((expireLease_stage ctx a).trans (drainStreamEvents_rule ctx .refl .trans (handleEvent_stage ctx) 256 _ env.events)).trans
    (reconnect_stage _ env.connectDelay env.connect)).trans (reconcileEffect_stage ctx _ env.reconcile)

theorem beforePoll_stage (ctx : Context) (a : TargetActor) (env : MaintainReplies) : Stage a (beforePoll ctx a env) :=
  ((beforeCompletion_stage ctx a env).trans (completeSource_stage ctx _ env.finish env.admitted)).trans
    (housekeep_stage ctx _ env)

/-! ## The source operation before completion -/

variable (cfg : Source.SourceConfig) (s : SourceState)

theorem appendThen_recovery (record : Source.SourceWalRecord) (io : EdgeResult Unit) (keep : SourceState → SourceState)
    (hkeep : ∀ t, (keep t).recovery = t.recovery) : (Source.appendThen s record io keep).2.recovery = s.recovery := by
  cases io with
  | error => rfl
  | ok => exact hkeep _

theorem andThen_recovery {f : SourceState → Source.Outcome} {r : Option Source.SourceRecovery}
    (hx : x.2.recovery = r) (hf : ∀ s, s.recovery = r → (f s).2.recovery = r) : (x.andThen f).2.recovery = r := by
  rcases x with ⟨_ | u, s⟩
  · exact hx
  · exact hf s hx

theorem persistHintGap_recovery (kind : String) (now : ℤ) (io : EdgeResult Unit) :
    (Source.persistHintGap cfg s kind now io).2.recovery = s.recovery :=
  appendThen_recovery s _ io _ fun _ => rfl

theorem flushDigestAcks_recovery (ack : EdgeResult Unit) (now : ℤ) (io : EdgeResult Unit) :
    (Source.flushDigestAcks s ack now io).2.recovery = s.recovery := by
  unfold Source.flushDigestAcks
  split
  · rfl
  · split
    · rfl
    · exact appendThen_recovery s _ io _ fun _ => rfl

theorem persistDigestHint_recovery (hint : Source.SupplementalHint) (now : ℤ) (io : EdgeResult Unit) :
    (Source.persistDigestHint cfg s hint now io).2.recovery = s.recovery := by
  unfold Source.persistDigestHint
  split_ifs
  · exact andThen_recovery (persistHintGap_recovery cfg s _ now io) fun _ h => h
  · exact appendThen_recovery s _ io _ fun _ => rfl

theorem afterSource_recovery (a : TargetActor) (hx : x.2.recovery = a.source.recovery) :
    (a.afterSource x).source.recovery = a.source.recovery := by
  rcases x with ⟨_ | u, s⟩
  · exact hx
  · exact hx

theorem handleEvent_recovery (ctx : Context) (a : TargetActor) (event : StreamEvent) :
    (handleEvent ctx a event).1.source.recovery = a.source.recovery := by
  cases event with
  | arbitration granted => cases granted <;> rfl
  | digest hint now io =>
    refine afterSource_recovery a (andThen_recovery (persistDigestHint_recovery ctx.source a.source hint now io) ?_)
    intro s hs
    rw [flushDigestAcks_recovery, hs]
  | packet _ hint now io =>
    refine afterSource_recovery a ?_
    unfold Source.persistPacketHint
    split_ifs
    · rfl
    · exact appendThen_recovery a.source _ io _ fun _ => rfl
  | error => rfl
  | hintDropped kind now io =>
    have hgap := afterSource_recovery a (persistHintGap_recovery ctx.source a.source kind now io)
    simp only [handleEvent]
    split_ifs
    · exact hgap
    · exact hgap
  | closed => rfl

theorem beforeCompletion_recovery (ctx : Context) (a : TargetActor) (env : MaintainReplies) :
    (beforeCompletion ctx a env).source.recovery = a.source.recovery := by
  have hexpire : (expireLease ctx a).source = a.source := by
    unfold expireLease
    split_ifs <;> rfl
  have hreconnect : ∀ b : TargetActor, (reconnect b env.connectDelay env.connect).source = b.source := by
    intro b
    unfold reconnect
    split_ifs
    · split <;> rfl
    · rfl
  have hreconcile : ∀ b : TargetActor, (reconcileEffect ctx b env.reconcile).source = b.source := by
    intro b
    unfold reconcileEffect
    split_ifs
    · split <;> rfl
    · rfl
  have hdrain := drainStreamEvents_rule (R := fun a b => b.source.recovery = a.source.recovery) ctx (fun _ => rfl)
    (fun h h' => h'.trans h) (fun a event _ => handleEvent_recovery ctx a event) 256 (expireLease ctx a) env.events
  rw [beforeCompletion, hreconcile, hreconnect, hdrain, hexpire]

/-! ## Steps -/

/-- only `holdExpiredRetention` touches the retention hold during a tick, and it never lifts it -/
theorem holdExpiredRetention_cases (ctx : Context) (a : TargetActor) (retention : EdgeResult Unit) :
    holdExpiredRetention ctx a retention = a ∨
      (holdExpiredRetention ctx a retention).session = none ∧ (holdExpiredRetention ctx a retention).state = .hold ∧
        (holdExpiredRetention ctx a retention).clock = a.clock ∧
        (holdExpiredRetention ctx a retention).leaseDeadline = a.leaseDeadline ∧
        (holdExpiredRetention ctx a retention).effect = Effect.step ctx.firewall a.effect .retentionExpired := by
  unfold holdExpiredRetention
  split
  · exact .inr ⟨rfl, rfl, rfl, rfl, rfl⟩
  · exact .inl rfl

theorem effect_hold {s : Effect.EffectState} {op : Effect.Op} (h : s.hold = true)
    (hop : ∀ fence hold, op ≠ .restart fence hold) : (Effect.step fw s op).hold = true := by
  have hchange := Effect.step_change fw s op
  generalize Effect.step fw s op = t at hchange
  cases hchange with
  | idle _ _ hold _ hhold =>
    cases hold with
    | true => rfl
    | false => exact absurd (hhold rfl) (by simp [h])
  | started | executed | acknowledged | reconciled => exact h
  | restarted fence hold => exact absurd rfl (hop fence hold)
  | rejected fence hold => exact absurd rfl (hop fence hold)

theorem maintain_cases (ctx : Context) (a : TargetActor) (env : MaintainReplies) :
    (holdExpiredRetention ctx a env.retention).effect.hold = true ∧
        maintain ctx a env = holdExpiredRetention ctx a env.retention ∨
      (holdExpiredRetention ctx a env.retention).effect.hold = false ∧
        Stage (holdExpiredRetention ctx a env.retention) (maintain ctx a env) := by
  unfold maintain
  dsimp only
  split_ifs with hhold halive
  · exact .inl ⟨hhold, rfl⟩
  · exact .inr ⟨by simpa using hhold, (beforePoll_stage ctx _ env).trans (pollTelemetry_stage ctx _ env)⟩
  · exact .inr ⟨by simpa using hhold, beforeCompletion_stage ctx _ env⟩

theorem step_inv (ctx : Context) (a : TargetActor) (op : Op) (h : Inv a) : Inv (step ctx a op) := by
  unfold step
  split_ifs with halive
  · exact h
  · cases op with
    | advance => exact h
    | arbitrated =>
      intro hr
      simp [h hr]
    | renew =>
      simp only [renew]
      split
      · exact h
      · split_ifs
        · intro hr
          simp at hr
        · exact h
    | revoke =>
      simp only [revoke]
      split
      · exact h
      · exact fun _ => rfl
    | preflight =>
      intro hr
      simp only [preflight]
      split_ifs
      · rw [h hr]
        rfl
      · exact h hr
    | execute => exact h
    | acknowledge => exact h
    | route => exact h
    | maintain env =>
      have hheld : Inv (holdExpiredRetention ctx a env.retention) := by
        rcases holdExpiredRetention_cases ctx a env.retention with heq | ⟨hnone, -⟩
        · exact heq.symm ▸ h
        · exact fun _ => hnone
      change Inv (maintain ctx a env)
      rcases maintain_cases ctx a env with ⟨-, heq⟩ | ⟨-, hstage⟩
      · rw [heq]
        exact hheld
      · exact hstage.inv hheld
    | shutdown => exact fun _ => rfl

theorem connected_inv (env : SpawnReplies) : Inv (connected env) := by
  intro hr
  unfold connected at hr ⊢
  cases hretention : env.retention with
  | some => rfl
  | none =>
    cases hconnect : env.connect with
    | ok => simp [hretention, hconnect] at hr
    | error => rfl

theorem run_inv (ctx : Context) (env : SpawnReplies) (ops : List Op) : Inv (run ctx env ops) := by
  refine foldl_invariant (P := Inv) ?_ (fun _ op ih => step_inv ctx _ op ih) ops
  have hreconciled := (reconcileEffect_stage ctx (connected env) env.reconcile).inv (connected_inv env)
  unfold spawn
  dsimp only
  split_ifs
  · exact (completeSource_stage ctx _ env.finish env.admitted).inv hreconciled
  · exact hreconciled

/-! ## Closed for good -/

/-- no session, and none will be opened: revoked, or held -/
def Closed (a : TargetActor) : Prop := a.session = none ∧ (a.state = .revoked ∨ a.effect.hold = true)

theorem step_closed (ctx : Context) (a : TargetActor) (op : Op) (h : Closed a) : Closed (step ctx a op) := by
  have ⟨hnone, hwhy⟩ := h
  have hkeep : ∀ op, (∀ fence hold, op ≠ .restart fence hold) →
      a.state = .revoked ∨ (Effect.step ctx.firewall a.effect op).hold = true :=
    fun op hop => hwhy.imp_right fun hh => effect_hold hh hop
  unfold step
  split_ifs with halive
  · exact h
  · cases op with
    | advance ms | route => exact h
    | arbitrated => exact ⟨by simp [hnone], hwhy⟩
    | renew =>
      simp only [renew]
      split
      · exact h
      · simp only [hnone, Option.any_none, Bool.false_eq_true, if_false]
        exact ⟨rfl, hwhy⟩
    | revoke =>
      simp only [revoke]
      split
      · exact h
      · exact ⟨rfl, .inl rfl⟩
    | preflight =>
      refine ⟨?_, hkeep _ (by simp)⟩
      simp [preflight, hnone]
    | execute intent token env | acknowledge request io => exact ⟨hnone, hkeep _ (by simp)⟩
    | maintain env =>
      change Closed (maintain ctx a env)
      rcases maintain_cases ctx a env with ⟨hhold, heq⟩ | ⟨hhold, hstage⟩
      · rw [heq]
        refine ⟨?_, .inr hhold⟩
        rcases holdExpiredRetention_cases ctx a env.retention with heq' | ⟨hnone', -⟩
        · exact heq'.symm ▸ hnone
        · exact hnone'
      · rcases holdExpiredRetention_cases ctx a env.retention with heq' | ⟨-, -, -, -, heffect⟩
        · rw [heq'] at hhold hstage
          have hrevoked : a.state = .revoked := hwhy.resolve_right (by simp [hhold])
          have hclosed := hstage.closed hnone hrevoked
          exact ⟨hclosed.1, .inl hclosed.2⟩
        · -- an expired retention holds the target
          have hlive : ¬ a.effect.alive = false := halive
          simp [heffect, Effect.step, hlive] at hhold
    | shutdown => exact ⟨rfl, .inl rfl⟩

theorem closed_no_writes (h : Closed a) (op : Op) : ¬ writes ctx a op := by
  obtain ⟨hnone, hwhy⟩ := h
  cases op with
  | execute =>
    rintro ⟨-, ⟨plan, hgo⟩, -⟩
    obtain ⟨_, hready, -⟩ := bind_ok.1 hgo
    replace hready := passed hready
    replace hready := passed hready
    replace hready := passed hready
    simp [hnone] at hready
  | maintain env =>
    rintro ⟨halive, hhold, -, hwrites⟩
    rcases holdExpiredRetention_cases ctx a env.retention with heq | ⟨-, -, -, -, heffect⟩
    · rw [heq] at hhold hwrites
      have hrevoked : a.state = .revoked := hwhy.resolve_right (by simp [hhold])
      rcases hwrites with ⟨hopen, -⟩ | ⟨⟨-, -, -, hopen, -⟩, -⟩
      · simp [((beforeCompletion_stage ctx a env).closed hnone hrevoked).1] at hopen
      · simp [((beforePoll_stage ctx a env).closed hnone hrevoked).1] at hopen
    · simp [heffect, Effect.step, halive] at hhold
  | _ => exact id

/-! ## Fencing -/

/-- the lease covers a tick that finds an open session and a pending source operation -/
def LeaseCovers (a : TargetActor) : Op → Prop
  | .maintain _ => a.effect.alive = true → a.session.isSome → a.source.recovery.isSome → a.clock < a.leaseDeadline
  | _ => True

/-- the lease covers a spawn that connects and recovers a pending source operation -/
def SpawnCovered (env : SpawnReplies) : Prop :=
  (connected env).session.isSome → env.source.recovery.isSome → env.clock < env.leaseDeadline

theorem writes_open {op : Op} (hinv : Inv a) (hcovers : LeaseCovers a op) (hwrites : writes ctx a op) :
    a.clock < a.leaseDeadline ∧ a.state ≠ .revoked := by
  refine ⟨?_, fun hrevoked => closed_no_writes ⟨hinv hrevoked, .inl hrevoked⟩ op hwrites⟩
  cases op with
  | execute =>
    obtain ⟨-, ⟨plan, hgo⟩, -⟩ := hwrites
    obtain ⟨_, hready, -⟩ := bind_ok.1 hgo
    replace hready := passed hready
    replace hready := passed hready
    obtain ⟨hlease, -⟩ := refuse_then hready
    exact (not_not.1 hlease).1
  | maintain env =>
    obtain ⟨halive, hhold, -, hwrites⟩ := hwrites
    rcases holdExpiredRetention_cases ctx a env.retention with heq | ⟨-, -, -, -, heffect⟩
    · rw [heq] at hwrites
      rcases hwrites with ⟨hopen, recovery, hrecovery, -⟩ | ⟨⟨-, hlease, -⟩, -⟩
      · -- completion: the session was open already, or this tick opened it under a valid lease
        rw [beforeCompletion_recovery] at hrecovery
        rcases (beforeCompletion_stage ctx a env).opened hopen with hsession | hlt
        · exact hcovers halive hsession (by simp [hrecovery])
        · exact hlt
      · have hstage := beforePoll_stage ctx a env
        have hlt := hlease.1
        rw [hstage.clock, hstage.deadline] at hlt
        exact Nat.lt_of_le_of_lt (Nat.le_add_right _ _) hlt
    · simp [heffect, Effect.step, halive] at hhold
  | _ => exact absurd hwrites id

/-- a renewal that succeeds -/
def Renews (ctx : Context) (a : TargetActor) (op : Op) : Prop :=
  ∃ request now remaining, op = .renew request now ∧ checkRenew ctx a request now = .ok remaining

theorem step_expired {op : Op} (h : a.leaseDeadline ≤ a.clock) (hop : ¬ Renews ctx a op) :
    (step ctx a op).leaseDeadline ≤ (step ctx a op).clock := by
  unfold step
  split_ifs with halive
  · exact h
  · cases op with
    | advance => exact h.trans (Nat.le_add_right _ _)
    | renew request now =>
      simp only [renew]
      cases hcheck : checkRenew ctx a request now with
      | error => exact h
      | ok remaining => exact absurd ⟨request, now, remaining, rfl, hcheck⟩ hop
    | revoke =>
      simp only [revoke]
      split
      · exact h
      · exact Nat.le_refl _
    | maintain env =>
      change (maintain ctx a env).leaseDeadline ≤ (maintain ctx a env).clock
      have hheld : (holdExpiredRetention ctx a env.retention).leaseDeadline ≤
          (holdExpiredRetention ctx a env.retention).clock := by
        rcases holdExpiredRetention_cases ctx a env.retention with heq | ⟨-, -, hclock, hdeadline, -⟩
        · rw [heq]
          exact h
        · rw [hclock, hdeadline]
          exact h
      rcases maintain_cases ctx a env with ⟨-, heq⟩ | ⟨-, hstage⟩
      · rw [heq]
        exact hheld
      · rw [hstage.clock, hstage.deadline]
        exact hheld
    | _ => exact h

/-- writes happen under the lease only -/
structure WriteFenced (ctx : Context) (env : SpawnReplies) (ops : List Op) : Prop where
  spawned : spawnWrites ctx env → env.clock < env.leaseDeadline
  leased : ∀ pre op post, ops = pre ++ op :: post → writes ctx (run ctx env pre) op →
    (run ctx env pre).clock < (run ctx env pre).leaseDeadline ∧ (run ctx env pre).state ≠ .revoked
  expired : ∀ pre mid op post, ops = pre ++ mid ++ op :: post →
    (run ctx env pre).leaseDeadline ≤ (run ctx env pre).clock →
    Along (fun p o => ¬ Renews ctx (run ctx env (pre ++ p)) o) mid → ¬ writes ctx (run ctx env (pre ++ mid)) op
  revoked : ∀ pre request mid op post, ops = pre ++ .revoke request :: mid ++ op :: post →
    (run ctx env pre).effect.alive = true → checkRevoke ctx (run ctx env pre) request = .ok () →
    ¬ writes ctx (run ctx env (pre ++ .revoke request :: mid)) op

theorem spawn_covered (h : SpawnCovered env) (hwrites : spawnWrites ctx env) :
    env.clock < env.leaseDeadline := by
  obtain ⟨-, hopen, recovery, hrecovery, -⟩ := hwrites
  have hstage := reconcileEffect_stage ctx (connected env) env.reconcile
  have hclock : (connected env).clock = env.clock ∧ (connected env).leaseDeadline = env.leaseDeadline ∧
      (connected env).source = env.source := by
    unfold connected
    split
    · exact ⟨rfl, rfl, rfl⟩
    · split <;> exact ⟨rfl, rfl, rfl⟩
  have hsource : (reconcileEffect ctx (connected env) env.reconcile).source = (connected env).source := by
    unfold reconcileEffect
    split_ifs
    · split <;> rfl
    · rfl
  rw [hsource, hclock.2.2] at hrecovery
  rcases hstage.opened hopen with hsession | hlt
  · exact h hsession (by simp [hrecovery])
  · rwa [hclock.1, hclock.2.1] at hlt

theorem run_expired {pre mid : List Op}
    (h : (run ctx env pre).leaseDeadline ≤ (run ctx env pre).clock)
    (hmid : Along (fun p o => ¬ Renews ctx (run ctx env (pre ++ p)) o) mid) :
    (run ctx env (pre ++ mid)).leaseDeadline ≤ (run ctx env (pre ++ mid)).clock := by
  induction mid using List.reverseRecOn with
  | nil => rwa [List.append_nil]
  | append_singleton mid op ih =>
    obtain ⟨hmid, hop⟩ := (along_snoc mid op).1 hmid
    rw [← List.append_assoc, run_snoc]
    exact step_expired (ih hmid) hop

theorem run_closed {pre mid : List Op} (h : Closed (run ctx env pre)) :
    Closed (run ctx env (pre ++ mid)) := by
  induction mid using List.reverseRecOn with
  | nil => rwa [List.append_nil]
  | append_singleton _ op ih =>
    rw [← List.append_assoc, run_snoc]
    exact step_closed ctx _ op ih

/-- **Write fencing.** When the lease covers the spawn and every tick that finds an open session and a pending source
operation, every writing step starts under the lease and outside `REVOKED`; nothing writes between an expiry and a successful
renewal, and nothing writes after a revocation. -/
theorem write_fencing (ctx : Context) (env : SpawnReplies) (ops : List Op) (hspawn : SpawnCovered env)
    (hops : Along (fun pre op => LeaseCovers (run ctx env pre) op) ops) : WriteFenced ctx env ops := by
  have hleased : ∀ pre op post, ops = pre ++ op :: post → writes ctx (run ctx env pre) op →
      (run ctx env pre).clock < (run ctx env pre).leaseDeadline ∧ (run ctx env pre).state ≠ .revoked :=
    fun pre op post heq => writes_open (run_inv ctx env pre) (hops pre op post heq)
  refine ⟨spawn_covered hspawn, hleased, ?_, ?_⟩
  · intro pre mid op post heq hexpired hmid hwrites
    exact Nat.not_lt.2 (run_expired hexpired hmid) (hleased _ op post heq hwrites).1
  · intro pre request mid op post heq halive hcheck
    have hclosed : Closed (run ctx env (pre ++ [.revoke request])) := by
      simp only [run_snoc, step, halive, Bool.true_eq_false, if_false, revoke, hcheck]
      exact ⟨rfl, .inl rfl⟩
    have hrun : Closed (run ctx env (pre ++ [.revoke request] ++ mid)) := run_closed hclosed
    rw [List.append_assoc, List.singleton_append] at hrun
    exact closed_no_writes hrun op

/-- a target whose freeze was journaled before a restart -/
def staleContext : Context where
  hash := fun _ => ""
  source := ⟨"leaf-1", 1, "primary", none, "", 0, 0, 8⟩
  firewall := Effect.openFirewall
  leaseId := "lease-1"
  telemetryPollIntervalMs := 1000

def unreadable : FinishReplies :=
  { selector := .error (.remote "P4_READ_FAILED" ""), selectorWrite := .ok (), selectorReadback := .ok true
    frozenCounter := .ok (5, 500), frozenAt := 20, frozenIo := .ok (), cells := .ok [], counter := .ok (5, 500)
    snapshotAt := 20, snapshotIo := .ok (), clearWrite := .ok (), clearReadback := .ok (0, 0), clearedAt := 20
    clearIo := .ok (), finalizedAt := 20, finalIo := .ok () }

def stalePoll : Source.PollReplies := ⟨.ok ⟨0, 3⟩, .ok (5, 500), 10, .ok ()⟩

/-- a spawn that connects but cannot read the selector: the operation stays pending and the session open -/
def staleSpawn : SpawnReplies :=
  { leaseDeadline := 1000, clock := 0, retention := none, connect := .ok ⟨true, true⟩
    source := (Source.pollStart staleContext.source SourceState.empty stalePoll).2
    effect := Effect.EffectState.initial Effect.leafAssignment
    reconcile := ⟨.ok ("", 0), 20, .ok⟩
    finish := unreadable
    admitted := .ok () }

/-- a tick that finds the selector in the durable pre-state -/
def staleTick : MaintainReplies :=
  { retention := .ok (), events := [], connectDelay := 0, connect := .ok ⟨true, true⟩
    reconcile := ⟨.ok ("", 0), 20, .ok⟩
    finish := { unreadable with selector := .ok ⟨0, 3⟩ }
    admitted := .ok (), ack := .ok (), ackAt := 20, ackIo := .ok (), keep := fun _ => true, background := none
    pollDelay := 0, atWatermark := false, poll := stalePoll, pollFinish := unreadable, pollAdmitted := .ok ()
    observation := none }

theorem write_fencing_before_expiry : WriteFenced staleContext staleSpawn [.maintain staleTick] := by
  refine write_fencing _ _ _ (fun _ _ => by decide) ?_
  exact (along_snoc [] _).2 ⟨along_nil _, fun _ _ _ => by decide +kernel⟩

/-- **A write after the expiry.** The lease ends at 1000. At 2000 the tick makes the actor read-only, keeps its primary
session, and flips the telemetry selector to complete the pending operation. -/
theorem write_after_expiry :
    (run staleContext staleSpawn [.advance 2000]).leaseDeadline = 1000 ∧
      (run staleContext staleSpawn [.advance 2000]).clock = 2000 ∧
      (run staleContext staleSpawn [.advance 2000]).session = some ⟨true, true⟩ ∧
      writes staleContext (run staleContext staleSpawn [.advance 2000]) (.maintain staleTick) ∧
      ¬ WriteFenced staleContext staleSpawn [.advance 2000, .maintain staleTick] := by
  have hwrites : writes staleContext (run staleContext staleSpawn [.advance 2000]) (.maintain staleTick) :=
    ⟨rfl, rfl, rfl, .inl ⟨rfl, _, rfl, .inl ⟨⟨0, 3⟩, rfl, rfl, rfl, rfl, by decide, by decide⟩⟩⟩
  refine ⟨rfl, rfl, rfl, hwrites, fun h => ?_⟩
  have hlt := (h.leased [.advance 2000] _ [] rfl hwrites).1
  revert hlt
  decide +kernel

/-! ## Asking for a result again -/

open Effect (EffectIntent)

/-- what `ExecuteEffect` answers -/
def executeReply (ctx : Context) (a : TargetActor) (intent : EffectIntent) (token : String) (env : Effect.ExecuteReplies) :
    EdgeResult Effect.EffectResult :=
  if a.effect.alive = false then .error (.actorUnavailable "process stopped")
  else (Effect.execute ctx.firewall a.effect intent token { env with link := linkReady a }).1

/-- `QueryEffectReadback` is `ExecuteEffect` without a token -/
def queryEffect (ctx : Context) (a : TargetActor) (intent : EffectIntent) (env : Effect.ExecuteReplies) :
    EdgeResult Effect.EffectResult := executeReply ctx a intent "" env

/-- the actor could write for the intent at this time -/
structure WriteReady (ctx : Context) (a : TargetActor) (intent : EffectIntent) (now : ℤ) : Prop where
  running : a.effect.alive = true
  retained : a.effect.hold = false
  reconciled : a.effect.recovered = none
  leased : a.leaseValid 0
  primary : a.state = .primary ∧ ∃ session, a.session = some session ∧ session.primary = true ∧ session.pipelineExact = true
  target : intent.targetId = a.effect.assignment.targetId
  fence : intent.fence = a.effect.assignment.fence
  deadline : now < intent.deadlineUnixMs
  overlays : intent.kind = .overlayUpsert → ∀ expires ∈ intent.overlayExpiries, now < expires ∧ expires - now ≤ 1800000
  valid : ctx.firewall.validateIntent intent = .ok ()

theorem linkReady_ok (a : TargetActor) :
    linkReady a = .ok () ↔ a.leaseValid 0 ∧ a.state = .primary ∧
      ∃ session, a.session = some session ∧ session.primary = true ∧ session.pipelineExact = true := by
  unfold linkReady
  cases a.session with
  | none => simp [bind_ok]
  | some => simp [bind_ok, and_assoc]

theorem checkOverlayExpiry_ok {expiries : List ℤ} {u : Unit} :
    Effect.checkOverlayExpiry now expiries = .ok u ↔ ∀ expires ∈ expiries, now < expires ∧ expires - now ≤ 1800000 := by
  induction expiries with
  | nil => simp [Effect.checkOverlayExpiry]
  | cons _ _ ih => simp [Effect.checkOverlayExpiry, bind_ok, ih, and_assoc]

theorem verifyIntentFence_ok {s : Effect.EffectState} :
    Effect.verifyIntentFence fw s intent now = .ok () ↔
      intent.targetId = s.assignment.targetId ∧ intent.fence = s.assignment.fence ∧ now < intent.deadlineUnixMs ∧
        (intent.kind = .overlayUpsert → ∀ expires ∈ intent.overlayExpiries, now < expires ∧ expires - now ≤ 1800000) ∧
        fw.validateIntent intent = .ok () := by
  by_cases hkind : intent.kind = .overlayUpsert
  · simp [Effect.verifyIntentFence, bind_ok, checkOverlayExpiry_ok, hkind]
  · simp [Effect.verifyIntentFence, bind_ok, hkind]

theorem writeReady_iff :
    WriteReady ctx a intent now ↔ a.effect.alive = true ∧ Effect.requireWriteReady a.effect (linkReady a) = .ok () ∧
      Effect.verifyIntentFence ctx.firewall a.effect intent now = .ok () := by
  have hready : Effect.requireWriteReady a.effect (linkReady a) = .ok () ↔
      a.effect.hold = false ∧ a.effect.recovered = none ∧ linkReady a = .ok () := by
    simp [Effect.requireWriteReady, bind_ok]
  rw [hready, linkReady_ok, verifyIntentFence_ok]
  constructor
  · rintro ⟨h1, h2, h3, h4, h5, h6, h7, h8, h9, h10⟩
    exact ⟨h1, ⟨h2, h3, h4, h5⟩, h6, h7, h8, h9, h10⟩
  · rintro ⟨h1, ⟨h2, h3, h4, h5⟩, h6, h7, h8, h9, h10⟩
    exact ⟨h1, h2, h3, h4, h5, h6, h7, h8, h9, h10⟩

/-- **A pending result is repeated only to a caller that could write.** Whoever asks for it again, after the deadline, without a
lease or after a restart under another fence, is refused before the pending result is looked at. -/
theorem requery_answered_iff {ctx : Context} {a : TargetActor} {intent : EffectIntent} {p : Effect.PendingEffectAck}
    (hpending : a.effect.pending = some p) (hoperation : p.operationId = intent.operationId)
    (hintent : p.effectIntentId = intent.effectIntentId) (env : Effect.ExecuteReplies) :
    (queryEffect ctx a intent env = .ok p.result ∧ ¬ writes ctx a (.execute intent "" env)) ↔
      WriteReady ctx a intent env.now := by
  have hexecute : ∀ r, Effect.admitExecute ctx.firewall a.effect intent "" { env with link := linkReady a } = .ok r ↔
      (Effect.requireWriteReady a.effect (linkReady a) = .ok () ∧
        Effect.verifyIntentFence ctx.firewall a.effect intent env.now = .ok ()) ∧ .answer p.result = r := by
    intro r
    simp [Effect.admitExecute, bind_ok, hpending, hoperation, hintent, pure, Except.pure, and_assoc, Unique.exists_iff]
  rw [writeReady_iff, queryEffect, executeReply]
  constructor
  · rintro ⟨hreply, -⟩
    split at hreply
    · cases hreply
    · rename_i halive
      refine ⟨by simpa using halive, ?_⟩
      unfold Effect.execute at hreply
      cases hadmitted : Effect.admitExecute ctx.firewall a.effect intent "" { env with link := linkReady a } with
      | ok r => exact ((hexecute r).1 hadmitted).1
      | error =>
        rw [hadmitted] at hreply
        cases hreply
  · rintro ⟨halive, hready⟩
    have hanswer := (hexecute _).2 ⟨hready, rfl⟩
    refine ⟨by simp [halive, Effect.execute, hanswer], ?_⟩
    rintro ⟨-, ⟨plan, hgo⟩, -⟩
    cases hanswer.symm.trans hgo

/-- an actor that has executed an effect and waits for its acknowledgement, `ms` after -/
def waiting (ms : ℕ) : TargetActor :=
  run staleContext { staleSpawn with source := SourceState.empty }
    [.preflight (Effect.intentOf "a") ⟨.ok (), 1, 1, 100, .ok 0, "1"⟩ none,
      .execute (Effect.intentOf "a") "1" ⟨.ok (), 2, 2, .ok, .ok ("", 0), .ok⟩, .advance ms]

def waitingResult : Effect.PendingEffectAck :=
  Effect.pendingOf Effect.openFirewall (Effect.intentOf "a")
    (Effect.executeResult (Effect.intentOf "a") ⟨0, 1, [], "a"⟩ (.ok ("", 0))) 2

/-- the replies to a query at this time -/
def askedAt (now : ℤ) : Effect.ExecuteReplies := ⟨.ok (), now, 0, .ok, .ok ("", 0), .ok⟩

/-- before the deadline and under the lease the result is repeated -/
theorem requery_in_time : queryEffect staleContext (waiting 0) (Effect.intentOf "a") (askedAt 999) = .ok waitingResult.result := by
  have hpending : (waiting 0).effect.pending = some waitingResult := by decide +kernel
  refine ((requery_answered_iff hpending rfl rfl (askedAt 999)).2 ?_).1
  exact ⟨by decide +kernel, by decide +kernel, by decide +kernel, by decide +kernel, ⟨by decide +kernel, ⟨true, true⟩, by decide +kernel, rfl, rfl⟩,
    by decide +kernel, by decide +kernel, by decide +kernel, by decide +kernel, rfl⟩

/-- **The result is there and is not told.** The query is refused after the deadline of the intent, and after the lease. -/
theorem requery_too_late :
    (waiting 0).effect.pending = some waitingResult ∧ (waiting 1000).effect.pending = some waitingResult ∧
      queryEffect staleContext (waiting 0) (Effect.intentOf "a") (askedAt 1000) = .error (.deadline "effect deadline elapsed") ∧
      queryEffect staleContext (waiting 1000) (Effect.intentOf "a") (askedAt 999) =
        .error (.precondition "LEASE_EXPIRED" "target lease expired") := by
  decide +kernel

end MasiEdge.Actor
