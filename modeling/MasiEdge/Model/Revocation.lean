/-
Revocation of a model revision against rollouts, rollbacks and recoveries.

The qualification of a revision is read once, at the start of `Rollout`. Several transactions and three calls to Edge lie
between that and the swap, and the swap does not look at the revision again. `ReconcileOperation` never looks at it: what it
completes is an operation that some `Rollout` has started. So a revocation is only safe while no call is on its way to the
revision and no operation that waits for recovery has it as its target.

* `revoked_stays`: nothing takes a revocation back;
* `run_usable`: every command that may make a revision current finds it usable, in every run with quiet revocations;
* `revoked_never_swapped`: no later swap makes a revoked revision current, in every such run;
* `revoked_revision_swapped`: a revocation between the check and the swap.
-/
import MasiEdge.Model.Bindings

namespace MasiEdge.Model

open Control Process Run

/-! ## Revisions -/

/-- the revision is registered and not revoked -/
def Usable (db : Db) (id : String) : Prop := ∃ rev, db.revision? id = some rev ∧ rev.qualificationStatus ≠ .revoked

/-- the revision is revoked -/
def Revoked (db : Db) (id : String) : Prop := ∃ rev, db.revision? id = some rev ∧ rev.qualificationStatus = .revoked

variable {db db' : Db} {id : String} {x : Admin} {s s' : Store} {w : ModelWorld} {rev : ModelRevision} {c : Cmd}

theorem Revoked.not_usable (h : Revoked db id) : ¬ Usable db id := by
  rintro ⟨rev, hrev, husable⟩
  obtain ⟨rev', hrev', hrevoked⟩ := h
  rw [hrev] at hrev'
  cases hrev'
  exact husable hrevoked

theorem loadRevision_ok {req : RolloutRequest} (h : loadRevision req db = .ok rev) :
    Usable db req.targetRevisionId := by
  unfold loadRevision at h
  split at h
  · cases h
  · rename_i found hfound
    obtain ⟨_, hqualified, -⟩ := bind_ok.1 h
    have hqualified := reject_ok.1 hqualified
    push Not at hqualified
    exact ⟨found, hfound, by rw [hqualified]; decide⟩

theorem revokeRevision_revision? (revokedId : String) (db : Db) (id : String) :
    (revokeRevision revokedId db).revision? id =
      if id = revokedId then (db.revision? revokedId).map ModelRevision.revoke else db.revision? id := by
  have hkey : ∀ r : ModelRevision, r.modelRevisionId = revokedId → r.revoke.modelRevisionId = revokedId := fun _ h => h
  exact Table.lookup_modify hkey db.revisions id

theorem revokeRevision_revoked (revokedId : String) (h : Revoked db id) :
    Revoked (revokeRevision revokedId db) id := by
  obtain ⟨rev, hrev, hstatus⟩ := h
  rw [Revoked, revokeRevision_revision?]
  split
  · rename_i hid
    subst hid
    exact ⟨rev.revoke, by rw [hrev]; rfl, rfl⟩
  · exact ⟨rev, hrev, hstatus⟩

/-! ## What the other services do -/

/-- what every service keeps: the operations, and the groups that are there -/
structure Admin.Frame (db db' : Db) : Prop where
  operations : db'.operations = db.operations
  templates : ∀ id group, db.group? id = some group → db'.group? id = some group

variable (sv : Services)

theorem admin_frame (x : Admin) (db : Db) : Admin.Frame db (x.exec sv db) := by
  have hwrote := admin_wrote sv x db
  generalize x.exec sv db = db' at hwrote
  cases hwrote with
  | grouped => exact ⟨rfl, fun _ _ h => Table.lookup_append_of_some h _⟩
  | _ => exact ⟨rfl, fun _ _ h => h⟩

/-- a revision stays what it is, unless it is the one that is revoked -/
theorem admin_revision? (hx : ∀ revokedId, x = .revoke revokedId → revokedId ≠ id)
    (h : db.revision? id = some rev) : (x.exec sv db).revision? id = some rev := by
  have hwrote := admin_wrote sv x db
  generalize x.exec sv db = db' at hwrote
  cases hwrote with
  | registered r => exact Table.lookup_append_of_some h [r]
  | revoked revokedId =>
    have hne : id ≠ revokedId := fun heq => hx revokedId rfl heq.symm
    rw [revokeRevision_revision?, if_neg hne]
    exact h
  | _ => exact h

theorem admin_usable (hx : ∀ revokedId, x = .revoke revokedId → revokedId ≠ id) (h : Usable db id) :
    Usable (x.exec sv db) id := by
  obtain ⟨rev, hrev, hstatus⟩ := h
  exact ⟨rev, admin_revision? sv hx hrev, hstatus⟩

theorem admin_revoked (x : Admin) (h : Revoked db id) : Revoked (x.exec sv db) id := by
  by_cases hx : x = .revoke id
  · subst hx
    exact revokeRevision_revoked id h
  · obtain ⟨rev, hrev, hstatus⟩ := h
    exact ⟨rev, admin_revision? sv (fun revokedId heq hid => hx (heq.trans (by rw [hid]))) hrev, hstatus⟩

/-! ## Targets -/

/-- the target an operation was frozen to -/
def Db.operationTarget? (db : Db) (id : String) : Option String := (db.operation? id).map RolloutOperation.targetRevisionId

def Db.groupTarget? (db : Db) (id : String) : Option String := (db.group? id).map (·.template.targetRevisionId)

/-- the revision a call may make current -/
def Job.target? (db : Db) : Job → Option String
  | .rollout req => some req.targetRevisionId
  | .reconcile operationId => db.operationTarget? operationId
  | .advance groupId => db.groupTarget? groupId

/-- targets that are frozen stay as they are -/
structure Frozen (db db' : Db) : Prop where
  operations : ∀ id target, db.operationTarget? id = some target → db'.operationTarget? id = some target
  groups : ∀ id target, db.groupTarget? id = some target → db'.groupTarget? id = some target

theorem Frozen.refl (db : Db) : Frozen db db := ⟨fun _ _ h => h, fun _ _ h => h⟩

theorem Frozen.trans {a b c : Db} (h₁ : Frozen a b) (h₂ : Frozen b c) : Frozen a c :=
  ⟨fun id t h => h₂.operations id t (h₁.operations id t h), fun id t h => h₂.groups id t (h₁.groups id t h)⟩

theorem Frozen.target? (h : Frozen db db') {job : Job} {target : String} (hjob : job.target? db = some target) :
    job.target? db' = some target := by
  cases job with
  | rollout => exact hjob
  | reconcile id => exact h.operations id target hjob
  | advance id => exact h.groups id target hjob

theorem Recorded.frozen (h : Recorded c s s') : Frozen s.db s'.db := by
  refine ⟨fun id target hid => ?_, fun id target hid => ?_⟩
  · cases h.operations id with
    | same hsame => rw [Db.operationTarget?, hsame]; exact hid
    | appended _ _ _ new =>
      rw [Db.operationTarget?, new] at hid
      cases hid
    | settled _ _ _ _ old hop =>
      rw [Db.operationTarget?, old] at hid
      rw [Db.operationTarget?, hop]
      exact hid
  · have htemplate := h.templates id
    rw [Db.groupTarget?] at hid ⊢
    obtain ⟨group, hgroup, htarget⟩ := Option.map_eq_some_iff.1 hid
    rw [hgroup] at htemplate
    obtain ⟨group', hgroup', heq⟩ := Option.map_eq_some_iff.1 htemplate
    rw [hgroup', Option.map_some, heq]
    exact congrArg some htarget

theorem Admin.Frame.frozen (h : Admin.Frame db db') : Frozen db db' := by
  refine ⟨fun id target hid => ?_, fun id target hid => ?_⟩
  · rw [Db.operationTarget?, Db.operation?, h.operations]
    exact hid
  · obtain ⟨group, hgroup, htarget⟩ := Option.map_eq_some_iff.1 hid
    rw [Db.groupTarget?, h.templates id group hgroup]
    exact congrArg some htarget

/-! ## The discipline of the calls -/

/-- an operation that waits for recovery has a usable target -/
def PendingUsable (db : Db) : Prop :=
  ∀ id op, db.operation? id = some op → op.status = .resumePending → Usable db op.targetRevisionId

/-- what a command may make current, now or by a later recovery, is usable -/
def UsableTarget : Cmd → Store → Prop
  | .casSwap req _ _ _, s => Usable s.db req.targetRevisionId
  | .setStatus id status _, s => status = .resumePending →
      ∀ op, s.db.operation? id = some op → Usable s.db op.targetRevisionId
  | .appendOperation op, _ => op.status ≠ .resumePending
  | _, _ => True

/-- nobody revokes the target of a call that is under way -/
def revocationContract (sv : Services) (job : Job) : Contract commands Store Env where
  act := Cmd.act sv
  inv s := PendingUsable s.db
  rely s t := Frozen s.db t.db ∧ ∀ target, job.target? s.db = some target → Usable s.db target → Usable t.db target
  guard := UsableTarget
  refl s := ⟨.refl s.db, fun _ _ h => h⟩
  trans h₁ h₂ := ⟨h₁.1.trans h₂.1, fun target hjob h => h₂.2 target (h₁.1.target? hjob) (h₁.2 target hjob h)⟩

theorem Recorded.usable (h : Recorded c s s') (hid : Usable s.db id) : Usable s'.db id := by
  rw [Usable, Db.revision?, h.revisions]
  exact hid

theorem Recorded.pending (h : Recorded c s s') (hguard : UsableTarget c s) (hinv : PendingUsable s.db) :
    PendingUsable s'.db := by
  intro id op hop hstatus
  apply h.usable
  cases h.operations id with
  | same hsame => exact hinv id op (hsame ▸ hop) hstatus
  | appended _ made _ _ happended =>
    subst made
    rw [hop] at happended
    cases happended
    exact absurd hstatus hguard
  | settled old _ _ made found hsettled =>
    subst made
    rw [hop] at hsettled
    cases hsettled
    exact hguard hstatus old found

def revocationDiscipline (sv : Services) : Discipline (manager sv) where
  contract := revocationContract sv
  act _ := rfl
  inv s := PendingUsable s.db
  sameInv _ := rfl
  keeps _ e c s hinv hguard _ :=
    have h := act_recorded sv e c s
    ⟨h.pending hguard hinv, fun _ _ => ⟨h.frozen, fun _ _ hid => h.usable hid⟩⟩

section

variable {sv : Services} {job : Job} {s : Store}

/-- the target of a call stays its target -/
theorem stable_frozen (sv : Services) (job : Job) (target : String) :
    Stable (revocationContract sv job) fun s => job.target? s.db = some target :=
  ⟨fun _ _ h hs => h.1.target? hs, fun e c s _ _ hs => (act_recorded sv e c s).frozen.target? hs⟩

/-- a target that is usable stays so while the call is under way -/
theorem stable_usable (sv : Services) (job : Job) (target : String) :
    Stable (revocationContract sv job) fun s => job.target? s.db = some target ∧ Usable s.db target :=
  ⟨fun _ _ h hs => ⟨h.1.target? hs.1, h.2 target hs.1 hs.2⟩,
    fun e c s _ _ hs => ⟨(act_recorded sv e c s).frozen.target? hs.1, (act_recorded sv e c s).usable hs.2⟩⟩

/-- an operation that the call has appended keeps its target -/
theorem stable_owned (sv : Services) (job : Job) (target operationId : String) :
    Stable (revocationContract sv job) fun s =>
      (job.target? s.db = some target ∧ Usable s.db target) ∧ s.db.operationTarget? operationId = some target :=
  ⟨fun _ _ h hs => ⟨(stable_usable sv job target).rely _ _ h hs.1, h.1.operations _ _ hs.2⟩,
    fun e c s hinv hguard hs => ⟨(stable_usable sv job target).act e c s hinv hguard hs.1,
      (act_recorded sv e c s).frozen.operations _ _ hs.2⟩⟩

theorem appendOperation_target (sv : Services) {env : Env} {op : RolloutOperation} {t : Store}
    (h : (Cmd.act sv env (.appendOperation op) t).1 = .ok ()) :
    (Cmd.act sv env (.appendOperation op) t).2.db.operationTarget? op.operationId = some op.targetRevisionId := by
  obtain ⟨db', htx, hstore⟩ := transact_ok h
  obtain ⟨db'', hdb, hpair⟩ := bind_ok.1 htx
  cases hpair
  obtain ⟨hnew, rfl⟩ := appendOperation_ok hdb
  have hlookup := Table.lookup_append_new hnew op.operationId
  rw [if_pos rfl] at hlookup
  change (transact _ _ _ t).2.db.operationTarget? _ = _
  rw [hstore]
  show (Table.lookup _ _ _).map _ = _
  rw [hlookup]
  rfl

/-- the commands of a rollout whose operation is appended -/
theorem owns_usable {f : Frame} (hc : f.Owns sv c) (husable : Usable s.db f.req.targetRevisionId)
    (howned : s.db.operationTarget? f.req.operationId = some f.req.targetRevisionId) : UsableTarget c s := by
  cases c with
  | casSwap =>
    obtain ⟨rfl, -⟩ := hc
    exact husable
  | setStatus id =>
    intro _ op hop
    have hid : f.req.operationId = id := hc.symm
    rw [Db.operationTarget?, hid, hop] at howned
    rw [Option.some.inj howned]
    exact husable
  | appendOperation =>
    subst hc
    intro hstatus
    cases hstatus
  | _ => trivial

theorem execute_usable (f : Frame) (hs : job.target? s.db = some f.req.targetRevisionId)
    (husable : Usable s.db f.req.targetRevisionId) : Safe (revocationContract sv job) (f.execute sv) s := by
  have hissues := execute_issues sv f
  refine safe_attempt_of (stable_usable sv job f.req.targetRevisionId) ⟨hs, husable⟩ ?_ (fun _ _ _ => trivial) ?_
  · intro env t _ _ _ hanswer hnext
    -- the row is there now, so setting its status is setting the status of this target
    have howned := appendOperation_target sv hanswer
    refine safe_of_issues (stable_owned sv job f.req.targetRevisionId f.req.operationId) ⟨hnext, howned⟩ ?_
    exact (hissues.2 (.ok ())).imp fun c hc t _ ht => owns_usable hc ht.1.2 ht.2
  · intro t _ _ hstatus
    cases hstatus

/-- only the workload is filled in -/
theorem freezeWorkload_request {now : ℤ} {req req' : RolloutRequest} (h : freezeWorkload now req db = .ok req') :
    req' = { req with edgeWorkloadRef := req'.edgeWorkloadRef } := by
  replace h := passed h
  obtain ⟨workload, -, h⟩ := bind_ok.1 h
  replace h := passed h
  cases h
  rfl

/-- a rollout finds its target usable when it loads it, and from then on -/
theorem rollout_usable (req : RolloutRequest) (hs : job.target? s.db = some req.targetRevisionId) :
    Safe (revocationContract sv job) (rollout sv req) s := by
  have hfrozen := stable_frozen sv job req.targetRevisionId
  have husable := stable_usable sv job req.targetRevisionId
  refine safe_attempt_of hfrozen hs ?_
  intro _ _ (frozen : RolloutRequest) _ _ hreq hs
  have htarget : frozen.targetRevisionId = req.targetRevisionId := by rw [freezeWorkload_request (query_ok hreq)]
  refine safe_attempt_of hfrozen hs ?_
  intro env t (rev : ModelRevision) _ _ hrev hs
  have hloaded : Usable t.db req.targetRevisionId := htarget ▸ loadRevision_ok (query_ok hrev)
  have hstore : ((revocationContract sv job).act env (.loadRevision frozen) t).2 = t := query_store _
  rw [hstore] at hs ⊢
  refine safe_attempt_of husable ⟨hs, hloaded⟩ ?_
  intro _ _ (b : ShardBinding) _ _ _ hs
  refine safe_attempt_of husable hs ?_
  intro _ _ _ _ _ _ hs
  rw [← htarget] at hs
  unfold Frame.start
  split
  · trivial
  · rename_i resolved hresolved
    rw [resolveTarget_request hresolved]
    split
    · trivial
    · exact execute_usable _ hs.1 hs.2

/-- a recovery relies on what the rollout has checked -/
theorem reconcile_usable (operationId : String) (s : Store) :
    Safe (revocationContract sv (.reconcile operationId)) (reconcileOperation operationId) s := by
  refine safe_attempt_of stable_true trivial ?_
  intro env t (op : RolloutOperation) hinv _ hop _
  have hfound : t.db.operation? operationId = some op := queryRow_ok.1 (query_ok hop)
  have hstore : ((revocationContract sv (.reconcile operationId)).act env (.loadOperation operationId) t).2 = t :=
    query_store _
  rw [hstore]
  split
  · exact safe_attempt fun _ _ _ _ => trivial
  · split
    · trivial
    · rename_i hpending
      push Not at hpending
      have htarget : Job.target? t.db (.reconcile operationId) = some op.targetRevisionId := by
        rw [Job.target?, Db.operationTarget?, hfound]
        rfl
      refine safe_of_issues (stable_usable sv (.reconcile operationId) op.targetRevisionId)
        ⟨htarget, hinv operationId op hfound hpending⟩ ?_
      refine (recoverPending_issues op.request).imp fun c hc t _ ht => ?_
      cases c with
      | casSwap req =>
        rw [show req = op.request from hc]
        exact ht.2
      | setStatus =>
        intro hstatus
        rw [hc.2] at hstatus
        cases hstatus
      | appendOperation => exact hc.elim
      | _ => trivial

theorem groups_usable (c : Cmd) (hc : c.Groups) (s : Store) : UsableTarget c s := by
  cases c with
  | casSwap => exact hc.elim
  | setStatus => exact hc.elim
  | appendOperation => exact hc.elim
  | _ => trivial

theorem body_usable (sv : Services) (job : Job) (s : Store) : Safe (revocationContract sv job) (job.body sv) s := by
  cases job with
  | rollout req => exact rollout_usable req rfl
  | reconcile id => exact reconcile_usable id s
  | advance groupId =>
    refine safe_attempt_of stable_true trivial ?_
    intro env t (group : RolloutGroup) _ _ hgroup _
    have hfound : t.db.group? groupId = some group := queryRow_ok.1 (query_ok hgroup)
    have hstore : ((revocationContract sv (.advance groupId)).act env (.loadGroup groupId) t).2 = t := query_store _
    rw [hstore]
    have htarget : Job.target? t.db (.advance groupId) = some group.template.targetRevisionId := by
      rw [Job.target?, Db.groupTarget?, hfound]
      rfl
    refine advanceRounds_safe (stable_frozen sv _ _) rfl (fun c hc => groups_usable c hc.groups) (fun child t s _ _ hs => ?_) _
      htarget
    exact rollout_usable _ hs

end

/-! ## Quiet revocations -/

/-- no call under way, and no operation that waits for recovery, has the revision as its target -/
def Quiet (w : ModelWorld) (id : String) : Prop :=
  (∀ t ∈ w.threads, t.cmd? ≠ none → t.job.target? w.store.db ≠ some id) ∧
    ∀ op ∈ w.store.db.operations, op.status = .resumePending → op.targetRevisionId ≠ id
deriving Decidable

/-- a revocation comes when its revision is quiet -/
def QuietRevocation (w : ModelWorld) : Event → Prop
  | .outside (.revoke id) => Quiet w id
  | _ => True

instance (w : ModelWorld) (op : Event) : Decidable (QuietRevocation w op) := by
  unfold QuietRevocation
  split <;> infer_instance

theorem admin_respects {sv : Services} (hinv : PendingUsable w.store.db) (hquiet : QuietRevocation w (.outside x)) :
    Respects (revocationDiscipline sv) w (.outside x) := by
  have hframe := admin_frame sv x w.store.db
  refine ⟨fun id op hop hstatus => ?_, fun t ht hunderWay => ⟨hframe.frozen, fun target hjob husable => ?_⟩⟩
  · have hop : w.store.db.operation? id = some op := by
      have hlookup : Table.lookup RolloutOperation.operationId (x.exec sv w.store.db).operations id = some op := hop
      rw [hframe.operations] at hlookup
      exact hlookup
    refine admin_usable sv (fun revokedId hx heq => ?_) (hinv id op hop hstatus)
    subst hx
    exact hquiet.2 op (Table.mem_of_lookup hop) hstatus heq.symm
  · refine admin_usable sv (fun revokedId hx heq => ?_) husable
    subst hx
    exact hquiet.1 t ht hunderWay (heq ▸ hjob)

/-- **Every command that may make a revision current finds it usable**, in every run with quiet revocations. -/
theorem run_usable (db₀ : Db) (hinit : PendingUsable db₀) {ops : List Event}
    (hops : Along (fun pre op => QuietRevocation (runFrom sv db₀ pre) op) ops) :
    Sound (revocationDiscipline sv) (runFrom sv db₀ ops) := by
  refine Sound.run hinit fun pre op post hsplit hsound => ?_
  have hop := hops pre op post hsplit
  cases op with
  | spawn job => exact ⟨body_usable sv job _, fun h => h.elim⟩
  | advance => exact fun _ _ _ => trivial
  | crash => trivial
  | outside => exact admin_respects hsound.inv hop

/-! ## After a revocation -/

/-- nothing takes a revocation back -/
theorem revoked_stays (h : Revoked w.store.db id) (op : Event) : Revoked (Process.step (manager sv) w op).store.db id := by
  refine step_store (P := fun s : Store => Revoked s.db id) h (fun x _ => admin_revoked sv x h) fun _ e _ c _ _ _ _ _ => ?_
  have hsame : ((manager sv).act e c w.store).2.db.revisions = _ := (act_recorded sv e c w.store).revisions
  rw [Revoked, Db.revision?, hsame]
  exact h

/-- what a step adds to the swaps makes a usable revision current -/
theorem step_swaps {sv : Services} (hsound : Sound (revocationDiscipline sv) w) (op : Event) :
    ∃ later, (Process.step (manager sv) w op).store.swaps = w.store.swaps ++ later ∧
      ∀ x ∈ later, Usable w.store.db x.after.currentRevisionId := by
  let P : Store → Prop := fun s =>
    ∃ later, s.swaps = w.store.swaps ++ later ∧ ∀ x ∈ later, Usable w.store.db x.after.currentRevisionId
  have hnone : ∀ s : Store, s.swaps = w.store.swaps → P s := fun s hs => ⟨[], by simp [hs], fun x hx => by cases hx⟩
  refine step_store (P := P) (hnone _ rfl) (fun x _ => hnone _ rfl) ?_
  rintro index e t c k rfl found live next
  cases act_rebound sv e c w.store with
  | kept _ swaps => exact hnone _ swaps
  | swapped req _ _ _ made _ _ swaps =>
    obtain ⟨observationId, digest, rfl⟩ := made
    have hguard : Usable w.store.db req.targetRevisionId := hsound.guard (List.mem_of_getElem? found) live next
    exact ⟨_, swaps, List.forall_mem_singleton.2 hguard⟩

/-- **A revoked revision is not made current.** Take any run of registrations, revocations, rollouts, rollbacks, recoveries
and group advances, with any replies, failures and crashes, in which every revocation comes when no call under way and no
operation that waits for recovery has the revision as its target. From the moment a revision is revoked it stays revoked, and
no swap that commits later makes it current. -/
theorem revoked_never_swapped (sv : Services) (db₀ : Db) (hinit : PendingUsable db₀) (pre post : List Event)
    (hops : Along (fun ops op => QuietRevocation (runFrom sv db₀ ops) op) (pre ++ post)) (id : String)
    (hrevoked : Revoked (runFrom sv db₀ pre).store.db id) :
    Revoked (runFrom sv db₀ (pre ++ post)).store.db id ∧
      ∃ later, (runFrom sv db₀ (pre ++ post)).store.swaps = (runFrom sv db₀ pre).store.swaps ++ later ∧
        ∀ x ∈ later, x.after.currentRevisionId ≠ id := by
  induction post using List.reverseRecOn with
  | nil =>
    rw [List.append_nil]
    exact ⟨hrevoked, [], by simp, fun x hx => by cases hx⟩
  | append_singleton _ op ih =>
    rw [← List.append_assoc] at hops ⊢
    obtain ⟨hbefore, -⟩ := (along_snoc _ _).1 hops
    obtain ⟨hstill, later, hswaps, hlater⟩ := ih hbefore
    obtain ⟨new, hadded, hnew⟩ := step_swaps (run_usable sv db₀ hinit hbefore) op
    rw [runFrom, Process.run_snoc]
    refine ⟨revoked_stays sv hstill op, later ++ new, ?_, fun x hx => ?_⟩
    · refine hadded.trans ?_
      rw [hswaps, List.append_assoc]
    · rcases List.mem_append.1 hx with hx | hx
      · exact hlater x hx
      · intro heq
        exact hstill.not_usable (heq ▸ hnew x hx)

/-- a rollout to another revision after the revocation -/
def laterRollout : List Event := applying 0 (sampleRequest "rollout-c" .rollout 3 "revision-c") 2

theorem quiet_revocation_holds :
    (runFrom plainServices sampleDb ([.outside (.revoke "revision-b")] ++ laterRollout)).store.swaps.map
        (·.after.currentRevisionId) = ["revision-c"] ∧
      Revoked (runFrom plainServices sampleDb ([.outside (.revoke "revision-b")] ++ laterRollout)).store.db "revision-b" := by
  have hinit : PendingUsable sampleDb := fun id op hop => by cases hop
  have hrevoked : Revoked (runFrom plainServices sampleDb [.outside (.revoke "revision-b")]).store.db "revision-b" :=
    ⟨(sampleRevision "revision-b" 'b').revoke, by decide +kernel, rfl⟩
  refine ⟨by decide +kernel, (revoked_never_swapped plainServices sampleDb hinit [.outside (.revoke "revision-b")] laterRollout
    ?_ "revision-b" hrevoked).1⟩
  exact along_of_decide (P := QuietRevocation) (Process.step (manager plainServices)) ⟨⟨sampleDb, [], []⟩, []⟩ (by decide +kernel)

/-- a rollout up to and with `PrepareRoute`, and then the revocation of its target -/
def overtakenOps : List Event :=
  preparing 0 (sampleRequest "rollout-b" .rollout 2 "revision-b") 2 ++ [.outside (.revoke "revision-b")]

/-- the rollout goes on: Edge commits the route and the binding is swapped -/
def swapAfterRevocation : List Event := [.advance 0 (edgeEnv "ready" 2)] ++ advances 0 2

/-- a rollout that is left resume_pending, and then the revocation of its target -/
def pendingRevokedOps : List Event :=
  pending 0 (sampleRequest "rollout-b" .rollout 2 "revision-b") 2 ++ [.outside (.revoke "revision-b")]

/-- **A revocation is overtaken.** In both runs the revision is revoked while nothing is swapped yet. The call that had
checked it goes on and makes it current; and so does a recovery that starts only after the revocation. -/
theorem revoked_revision_swapped :
    let checked := runFrom plainServices sampleDb overtakenOps
    let swapped := runFrom plainServices sampleDb (overtakenOps ++ swapAfterRevocation)
    let waiting := runFrom plainServices sampleDb pendingRevokedOps
    let recovered := runFrom plainServices sampleDb (pendingRevokedOps ++ recovering 1 "rollout-b" 2)
    (checked.store.db.revision? "revision-b").map (·.qualificationStatus) = some .revoked ∧
      checked.store.swaps = [] ∧ swapped.store.swaps.map (·.after.currentRevisionId) = ["revision-b"] ∧
      (waiting.store.db.revision? "revision-b").map (·.qualificationStatus) = some .revoked ∧
      waiting.store.swaps = [] ∧ recovered.store.swaps.map (·.after.currentRevisionId) = ["revision-b"] ∧
      (recovered.store.db.binding? "shard-1").map (·.currentRevisionId) = some "revision-b" ∧
      (recovered.store.db.revision? "revision-b").map (·.qualificationStatus) = some .revoked := by
  decide +kernel

end MasiEdge.Model
