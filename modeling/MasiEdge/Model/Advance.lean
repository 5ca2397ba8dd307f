/-
The calls of a rollout group, and what a run of them keeps.

A call goes through the children one by one. While its child is running, the row of the operation changes with each status the
rollout records; at the end the child gets the result of the rollout, and that is the status of its row. This needs that every
statement of the call is answered: a status that is not recorded, or a refusal that is not the rollout's own, makes the two
differ.

* `rollout_agrees`: a rollout ends with the result that its operation has;
* `rounds_end`: a call that finds no child running ends the group;
* `run_orderly`: both in every run in which the calls come one at a time, are answered and are not stopped;
* `group_faithful`: the laws of a group in such a run;
* `concurrent_advance_unfaithful`: two calls at a time, one that is stopped, and a recovery of a child.
-/
import MasiEdge.Model.Group

namespace MasiEdge.Model

open Control Process Run List

/-! ## Contracts -/

def GroupEnded (groupId : String) (db : Db) : Prop := ∃ g, db.group? groupId = some g ∧ g.status.Ended

/-- a call of the group finds its rows as it has left them, and is answered; the other calls keep away from them -/
def groupContract (sv : Services) (groupId : String) (ids : List String) (job : Job) : Contract commands Store Env where
  act := Cmd.act sv
  inv s := GroupInv groupId ids s.db
  rely s t := job = .advance groupId → Same groupId ids s.db t.db
  guard c s := if job = .advance groupId then Steady groupId c s.db else Elsewhere groupId ids c
  env e := job = .advance groupId → e.fate = .answered
  refl _ _ := .refl _
  trans h₁ h₂ hjob := (h₁ hjob).trans (h₂ hjob)

/-- the contract of the calls of the group itself -/
abbrev ownContract (sv : Services) (groupId : String) (ids : List String) : Contract commands Store Env :=
  groupContract sv groupId ids (.advance groupId)

variable (sv : Services) {g : RolloutGroup}

theorem groupContract_keeps {groupId : String} {ids : List String} (hnodup : ids.Nodup) (job : Job) (e : Env) (c : Cmd)
    (s : Store) (hinv : GroupInv groupId ids s.db) (hguard : (groupContract sv groupId ids job).guard c s) :
    GroupInv groupId ids (c.act sv e s).2.db ∧ (job ≠ .advance groupId → Same groupId ids s.db (c.act sv e s).2.db) := by
  simp only [groupContract] at hguard
  split at hguard
  · rename_i hjob
    exact ⟨own_inv sv e hinv hnodup hguard, fun hne => absurd hjob hne⟩
  · have hsame := act_same sv e hguard s
    exact ⟨hinv.same hsame, fun _ => hsame⟩

def groupDiscipline (sv : Services) (groupId : String) {ids : List String} (hnodup : ids.Nodup) : Discipline (manager sv) where
  contract := groupContract sv groupId ids
  post job _ s := job = .advance groupId → GroupEnded groupId s.db
  exclusive job := job = .advance groupId
  act _ := rfl
  inv s := GroupInv groupId ids s.db
  sameInv _ := rfl
  keeps job e c s hinv hguard _ := by
    obtain ⟨hnext, hsame⟩ := groupContract_keeps sv hnodup job e c s hinv hguard
    -- a call of the group that is under way is not the one that acts
    exact ⟨hnext, fun other hother hjob => hsame fun heq => hother (hjob.trans heq.symm) heq⟩

/-! ## The rollout of a child -/

/-- the child at the cursor is running, and this is the row of its operation -/
structure Rolling (groupId : String) (ids : List String) (i : ℕ) (id : String) (row : Option RolloutOperation) (db : Db) :
    Prop where
  inv : GroupInv groupId ids db
  running : Running groupId db i id
  row : db.operation? id = row

/-- the rollout has come to the result that its operation has -/
def Rolled (groupId : String) (ids : List String) (i : ℕ) (id : String) (result : Result) (s : Store) : Prop :=
  ∃ row, Rolling groupId ids i id row s.db ∧ Agrees (childStatus result) row

/-- the command changes neither operations nor groups -/
def Cmd.Aside : Cmd → Prop
  | .appendOperation _ => False
  | .setStatus _ _ _ => False
  | .startChild _ _ => False
  | .rollGroup _ => False
  | .finishGroupChild _ _ _ _ _ _ => False
  | _ => True

section

variable {sv : Services} {groupId : String} {ids : List String} {i : ℕ} {id : String} {row : Option RolloutOperation}
  {op : RolloutOperation} {s : Store} {db db' : Db} {c : Cmd} {α : Type}

theorem Cmd.Aside.steady (h : c.Aside) : Steady groupId c db := by
  cases c <;> trivial

theorem Cmd.Aside.elsewhere (h : c.Aside) : Elsewhere groupId ids c := by
  cases c <;> trivial

theorem own_guard (h : Steady groupId c s.db) : (ownContract sv groupId ids).guard c s := by
  simp only [ownContract, groupContract, if_pos]
  exact h

theorem Running.same (h : Running groupId db i id) (hsame : Same groupId ids db db') : Running groupId db' i id := by
  obtain ⟨⟨g, hg, hopen⟩, hchild⟩ := h
  exact ⟨⟨g, hsame.group.trans hg, hopen⟩, by rw [hsame.children]; exact hchild⟩

theorem Running.mem (h : Running groupId db i id) (hinv : GroupInv groupId ids db) : id ∈ ids := by
  obtain ⟨c, hc, -, rfl⟩ := h.child
  exact hinv.mem_ids (mem_of_getElem? hc)

theorem Rolling.same (h : Rolling groupId ids i id row db) (hsame : Same groupId ids db db') :
    Rolling groupId ids i id row db' :=
  ⟨h.inv.same hsame, h.running.same hsame, (hsame.rows id (h.running.mem h.inv)).trans h.row⟩

/-- the row of the running child is the only thing that changes -/
theorem Rolling.row_changed (h : Rolling groupId ids i id row db) {operations : List RolloutOperation}
    {row' : Option RolloutOperation}
    (hrow : Table.lookup RolloutOperation.operationId operations id = row')
    (hinv : GroupInv groupId ids { db with operations }) : Rolling groupId ids i id row' { db with operations } :=
  ⟨hinv, ⟨h.running.group, h.running.child⟩, hrow⟩

variable {post : α → Store → Prop} {k : GoResult Unit → Proc commands α}

/-- a command that has nothing to do with the child -/
theorem ensures_aside (hc : c.Aside) {k : GoResult c.Val → Proc commands α} (hs : Rolling groupId ids i id row s.db)
    (hk : ∀ e t, Rolling groupId ids i id row (c.act sv e t).2.db →
      Ensures (ownContract sv groupId ids) post (k (c.act sv e t).1) (c.act sv e t).2) :
    Ensures (ownContract sv groupId ids) post (.ask c k) s := by
  refine ensures_ask fun t hst _ => ⟨own_guard hc.steady, fun e _ => hk e t ?_⟩
  exact (hs.same (hst rfl)).same (act_same sv e hc.elsewhere t)

theorem attempt_aside {onError : String → Proc commands α} {k : c.Val → Proc commands α}
    (hs : Rolling groupId ids i id row s.db)
    (he : ∀ e t, Rolling groupId ids i id row t.db → Ensures (ownContract sv groupId ids) post (onError e) t)
    (hk : ∀ e t a, Rolling groupId ids i id row (c.act sv e t).2.db → (c.act sv e t).1 = .ok a →
      Ensures (ownContract sv groupId ids) post (k a) (c.act sv e t).2)
    (hc : c.Aside := by trivial) : Ensures (ownContract sv groupId ids) post (attempt c onError k) s := by
  refine ensures_aside hc hs fun e t ht => ?_
  cases h : (c.act sv e t).1 with
  | ok a => exact hk e t a ht h
  | error err => exact he err _ ht

/-- a statement of the call that is answered as its tables say -/
theorem ensures_answered (hnodup : ids.Nodup) {k : GoResult c.Val → Proc commands α} {F : Db → Prop} {G : c.Val → Db → Prop}
    (hF : ∀ db db', Same groupId ids db db' → F db → F db') (hs : F s.db) (hsteady : ∀ db, F db → Steady groupId c db)
    (hact : ∀ e t, e.fate = .answered → F t.db → GroupInv groupId ids (c.act sv e t).2.db →
      ∃ a db', c.act sv e t = (.ok a, { t with db := db' }) ∧ G a db')
    (hk : ∀ a t, G a t.db → Ensures (ownContract sv groupId ids) post (k (.ok a)) t) :
    Ensures (ownContract sv groupId ids) post (.ask c k) s := by
  refine ensures_ask fun t hst hinv => ?_
  have ht := hF _ _ (hst rfl) hs
  refine ⟨own_guard (hsteady _ ht), fun e he => ?_⟩
  obtain ⟨a, db', hact, hG⟩ := hact e t (he rfl) ht (own_inv sv e hinv hnodup (hsteady _ ht))
  show Ensures _ post (k (c.act sv e t).1) (c.act sv e t).2
  rw [hact]
  exact hk a _ hG

/-- a status is recorded in the row of the child -/
theorem ensures_settle (hs : Rolling groupId ids i id (some op) s.db) (hnodup : ids.Nodup) (status : OperationStatus)
    (reason : String)
    (hk : ∀ t, Rolling groupId ids i id (some (op.settle status reason)) t.db →
      Ensures (ownContract sv groupId ids) post (k (.ok ())) t) :
    Ensures (ownContract sv groupId ids) post (.ask (.setStatus id status reason) k) s := by
  refine ensures_answered hnodup (G := fun _ => Rolling groupId ids i id (some (op.settle status reason)))
    (fun _ _ hsame h => h.same hsame) hs (fun db h => ⟨i, h.running⟩) (fun e t he ht hinv => ?_) fun _ => hk
  have hact : Cmd.act sv e (.setStatus id status reason) t = _ :=
    execute_answered he (setOperationStatus_found ht.row status reason)
  rw [hact] at hinv
  exact ⟨(), _, hact, ht.row_changed (settled_operation ht.row status reason) hinv⟩

/-- the operation of the child is appended -/
theorem ensures_append (hs : Rolling groupId ids i op.operationId none s.db) (hnodup : ids.Nodup)
    (hk : ∀ t, Rolling groupId ids i op.operationId (some op) t.db → Ensures (ownContract sv groupId ids) post (k (.ok ())) t) :
    Ensures (ownContract sv groupId ids) post (.ask (.appendOperation op) k) s := by
  refine ensures_answered hnodup (G := fun _ => Rolling groupId ids i op.operationId (some op))
    (fun _ _ hsame h => h.same hsame) hs (fun db h => ⟨i, h.running⟩) (fun e t he ht hinv => ?_) fun _ => hk
  have happend : appendOperation op t.db = .ok { t.db with operations := t.db.operations ++ [op] } := by
    rw [appendOperation, wrap_ok, ht.row]
  have hact : Cmd.act sv e (.appendOperation op) t = _ := execute_answered he happend
  have hrow : Table.lookup RolloutOperation.operationId (t.db.operations ++ [op]) op.operationId = some op :=
    (Table.lookup_append_new ht.row op.operationId).trans (if_pos rfl)
  rw [hact] at hinv
  exact ⟨(), _, hact, ht.row_changed hrow hinv⟩

end

section

variable {sv : Services} {groupId : String} {ids : List String} {i : ℕ} {op : RolloutOperation} {f : Frame} {s : Store}

/-- the end of a rollout whose last status was recorded -/
theorem rolled_of_settled {id : String} {status : OperationStatus} {reason : String} {result : Result}
    (hs : Rolling groupId ids i id (some (op.settle status reason)) s.db)
    (hresult : ∀ op : RolloutOperation, op.status = status → Agrees (childStatus result) (some op)) :
    Rolled groupId ids i id result s := ⟨_, hs, hresult _ rfl⟩

/-- the rollout of the frame ends in this way -/
def Frame.Rolls (f : Frame) (sv : Services) (groupId : String) (ids : List String) (i : ℕ) (p : Program) (s : Store) : Prop :=
  Ensures (ownContract sv groupId ids) (Rolled groupId ids i f.req.operationId) p s

variable (hnodup : ids.Nodup)

include hnodup

section

variable (hs : Rolling groupId ids i f.req.operationId (some op) s.db)

include hs

theorem fail_agrees {reason : String} {cause : Option String} : f.Rolls sv groupId ids i (f.fail reason cause) s := by
  refine ensures_settle hs hnodup .failed reason fun t ht => rolled_of_settled ht fun op hop => ?_
  rintro _ ⟨⟩
  exact hop

theorem withdrawn_agrees {reason : String} {cause : Option String} :
    f.Rolls sv groupId ids i (f.withdrawn reason cause) s := by
  refine ensures_aside (by trivial) hs fun e t ht => ?_
  refine ensures_settle ht hnodup .resumePending reason fun t ht => rolled_of_settled ht fun op hop => ?_
  exact ⟨op, rfl, hop⟩

theorem unconfirmed_agrees (b : ShardBinding) (reason : String) (cause : Option String) :
    f.Rolls sv groupId ids i (f.unconfirmed b reason cause) s := by
  refine ensures_aside (by trivial) hs fun e t ht => ?_
  refine ensures_settle ht hnodup .resumePending _ fun t ht => rolled_of_settled ht fun op hop => ?_
  exact ⟨op, rfl, hop⟩

variable (pool : Pool)

theorem handshake_agrees (b : ShardBinding) : f.Rolls sv groupId ids i (f.handshake pool b) s := by
  refine ensures_settle hs hnodup _ _ fun t ht => ?_
  refine attempt_aside ht (fun e t ht => unconfirmed_agrees hnodup ht b _ _) ?_
  intro e t (resumed : RouteReadback) ht _
  split
  · refine ensures_settle ht hnodup .applied _ fun t ht => rolled_of_settled ht fun op hop => ?_
    rintro _ ⟨⟩
    exact hop
  · exact unconfirmed_agrees hnodup ht b _ _

variable (observationId : String)

theorem commit_agrees : f.Rolls sv groupId ids i (f.commit pool observationId) s := by
  refine ensures_settle hs hnodup _ _ fun t ht => ?_
  refine attempt_aside ht (fun e t ht => withdrawn_agrees hnodup ht) ?_
  intro e t (b : ShardBinding) ht _
  exact handshake_agrees hnodup ht pool b

theorem moveRoute_agrees (readback : Readback) (observationId : String) :
    f.Rolls sv groupId ids i (f.moveRoute pool readback observationId) s := by
  refine ensures_settle hs hnodup _ _ fun t ht => ?_
  refine attempt_aside ht (fun e t ht => withdrawn_agrees hnodup ht) ?_
  intro e t (prepared : RouteReadback) ht _
  split
  · exact withdrawn_agrees hnodup ht
  · refine attempt_aside ht (fun e t ht => withdrawn_agrees hnodup ht) ?_
    intro e t (committed : RouteReadback) ht _
    split
    · exact withdrawn_agrees hnodup ht
    · exact commit_agrees hnodup ht pool observationId

theorem deploy_agrees : f.Rolls sv groupId ids i (f.deploy sv pool) s := by
  refine attempt_aside hs (fun e t ht => fail_agrees hnodup ht) fun e t _ ht _ => ?_
  refine ensures_settle ht hnodup _ _ fun t ht => ?_
  refine attempt_aside ht (fun e t ht => fail_agrees hnodup ht) ?_
  intro e t (readback : Readback) ht _
  refine attempt_aside ht (fun e t ht => fail_agrees hnodup ht) ?_
  intro e t (capacity : CapacityResult) ht _
  split
  · exact fail_agrees hnodup ht
  · refine attempt_aside ht (fun e t ht => fail_agrees hnodup ht) ?_
    intro e t (observationId : String) ht _
    exact moveRoute_agrees hnodup ht pool readback observationId

end

theorem execute_agrees (hs : Rolling groupId ids i f.req.operationId none s.db) :
    f.Rolls sv groupId ids i (f.execute sv) s := by
  have hnew : Rolling groupId ids i (newOperation sv f.req f.binding).operationId none s.db := hs
  refine ensures_append hnew hnodup fun t ht => ?_
  refine attempt_aside ht (fun e t ht => fail_agrees hnodup ht) ?_
  intro e t (pool : Pool) ht _
  refine ensures_settle ht hnodup _ _ fun t ht => ?_
  refine attempt_aside ht (fun e t ht => fail_agrees hnodup ht) ?_
  intro e t (reusable : Option (String × Readback × CapacityResult)) ht _
  split
  · unfold Frame.reuse
    split
    · exact fail_agrees hnodup ht
    · exact moveRoute_agrees hnodup ht pool _ _
  · exact deploy_agrees hnodup ht pool

omit hnodup in
/-- a rollout that was refused has no operation -/
theorem refused_agrees {id : String} (hs : Rolling groupId ids i id none s.db) (e : String) :
    Ensures (ownContract sv groupId ids) (Rolled groupId ids i id) (.done (refused e)) s :=
  ⟨none, hs, fun _ h => (by cases h)⟩

theorem start_agrees (hs : Rolling groupId ids i f.req.operationId none s.db) :
    f.Rolls sv groupId ids i (f.start sv) s := by
  unfold Frame.start
  split
  · exact refused_agrees hs _
  · rename_i req hreq
    have hid : req.operationId = f.req.operationId := by rw [resolveTarget_request hreq]
    split
    · exact ⟨none, hs, fun _ h => (by cases h)⟩
    · rw [Frame.Rolls, ← hid]
      rw [← hid] at hs
      exact execute_agrees (f := { f with req }) hnodup hs

/-- **The rollout of a child ends with the result that its operation has**, whatever Edge and the adapters answer. -/
theorem rollout_agrees {req : RolloutRequest} (hs : Rolling groupId ids i req.operationId none s.db) :
    Ensures (ownContract sv groupId ids) (Rolled groupId ids i req.operationId) (rollout sv req) s := by
  refine attempt_aside hs (fun e t ht => refused_agrees ht e) ?_
  intro e t (frozen : RolloutRequest) ht hfrozen
  have hid : frozen.operationId = req.operationId := by rw [freezeWorkload_request (query_ok hfrozen)]
  refine attempt_aside ht (fun e t ht => refused_agrees ht e) ?_
  intro e t (rev : ModelRevision) ht _
  refine attempt_aside ht (fun e t ht => refused_agrees ht e) ?_
  intro e t (b : ShardBinding) ht _
  refine attempt_aside ht (fun e t ht => refused_agrees ht e) ?_
  intro e t _ ht _
  rw [← hid] at ht ⊢
  exact start_agrees (f := ⟨frozen, rev, b⟩) hnodup ht

end

/-! ## The rounds of a call -/

/-- no child is running -/
def Idle (groupId : String) (db : Db) : Prop := ∀ c ∈ db.shardsOf groupId, c.status ≠ .running

/-- between two rounds, with so many left -/
structure Resting (groupId : String) (ids : List String) (rounds : ℕ) (db : Db) : Prop where
  inv : GroupInv groupId ids db
  idle : Idle groupId db
  left : ∀ g, db.group? groupId = some g → ids.length < rounds + g.nextIndex

section

variable {sv : Services} {groupId : String} {ids : List String} {rounds i : ℕ} {id : String} {s : Store} {db db' : Db}
  {row : Option RolloutOperation}

theorem Idle.same (h : Idle groupId db) (hsame : Same groupId ids db db') : Idle groupId db' := by
  unfold Idle
  rw [hsame.children]
  exact h

theorem Resting.same (h : Resting groupId ids rounds db) (hsame : Same groupId ids db db') : Resting groupId ids rounds db' :=
  ⟨h.inv.same hsame, h.idle.same hsame, by rw [hsame.group]; exact h.left⟩

theorem GroupInv.length (h : GroupInv groupId ids db) : (db.shardsOf groupId).length = ids.length := by
  rw [← h.frozen, length_map]

/-- a group that has ended has no running child -/
theorem GroupInv.ended_idle (h : GroupInv groupId ids db) (hended : GroupEnded groupId db) : Idle groupId db := by
  obtain ⟨g, hg, hended⟩ := hended
  obtain ⟨g', hg', hplaced⟩ := h.placed
  rw [hg] at hg'
  cases hg'
  intro c hc hrunning
  obtain ⟨j, hj⟩ := getElem?_of_mem hc
  rcases Nat.lt_trichotomy j g.nextIndex with hlt | rfl | hgt
  · have hbefore := hplaced.before j c hj hlt
    rw [hrunning] at hbefore
    cases hbefore
  · have hcursor := hplaced.cursor c hj
    rw [if_pos hended, hrunning] at hcursor
    rcases hcursor with h | h <;> cases h
  · have hafter := hplaced.after j c hj hgt
    rw [if_pos hended, hrunning] at hafter
    cases hafter

/-- the child at the cursor of an open group -/
theorem Resting.child (h : Resting groupId ids rounds db) (hg : db.group? groupId = some g)
    (hopen : ¬ g.status.Ended) :
    ∃ c, (db.shardsOf groupId)[g.nextIndex]? = some c ∧ c.status = .planned ∧ db.operation? c.operationId = none := by
  obtain ⟨g', hg', hplaced⟩ := h.inv.placed
  rw [hg] at hg'
  cases hg'
  have hin := hplaced.more hopen
  have hc : (db.shardsOf groupId)[g.nextIndex]? = some ((db.shardsOf groupId)[g.nextIndex]) := getElem?_eq_getElem hin
  have hmem := mem_of_getElem? hc
  have hcursor := hplaced.cursor _ hc
  rw [if_neg hopen] at hcursor
  have hplanned := hcursor.resolve_right (h.idle _ hmem)
  have hagrees := h.inv.faithful _ hmem
  rw [hplanned] at hagrees
  exact ⟨_, hc, hplanned, hagrees⟩

/-- the child is started -/
theorem startChild_rolling (h : GroupInv groupId ids db) (hopen : Open groupId db i) {c : GroupShard}
    (hc : (db.shardsOf groupId)[i]? = some c) (hplanned : c.status = .planned) (hrow : db.operation? c.operationId = none) :
    Rolling groupId ids i c.operationId none (startChild groupId i db) := by
  refine ⟨startChild_inv h hopen, ⟨hopen, c.start, ?_, rfl, rfl⟩, hrow⟩
  have hmap : (startChild groupId i db).shardsOf groupId =
      (db.shardsOf groupId).map (changeOne groupId i .planned GroupShard.start) :=
    shardsOf_map db groupId (changeOne_keeps groupId i .planned start_keeps)
  obtain ⟨hgroup, hindex⟩ := h.child hc
  rw [hmap, getElem?_map, hc, Option.map_some, changeOne, if_pos ⟨hgroup, hindex, hplanned⟩]

/-- the group is rolling -/
theorem rollGroup_rolling (h : Rolling groupId ids i id row db) : Rolling groupId ids i id row (rollGroup groupId db) := by
  obtain ⟨g, hg, -, hindex⟩ := h.running.group
  have hroll : ∀ g : RolloutGroup, g.roll.groupId = g.groupId := fun _ => rfl
  refine ⟨rollGroup_inv h.inv h.running.group, ⟨⟨g.roll, group?_modify_self hroll hg, ?_, hindex⟩, h.running.child⟩, h.row⟩
  simp only [RolloutGroup.roll, GroupStatus.Ended]
  split <;> simp

/-- while a child is running the others are not -/
theorem Rolling.others (h : Rolling groupId ids i id row db) {j : ℕ} {c : GroupShard}
    (hc : (db.shardsOf groupId)[j]? = some c) (hji : j ≠ i) : c.status ≠ .running := by
  obtain ⟨g, -, hended, hindex, hplaced⟩ := h.inv.open h.running.group
  intro hrunning
  rcases Nat.lt_or_gt_of_ne hji with hlt | hgt
  · have hbefore := hplaced.before j c hc (by omega)
    rw [hrunning] at hbefore
    cases hbefore
  · have hafter := hplaced.after j c hc (by omega)
    rw [if_neg hended, hrunning] at hafter
    cases hafter

theorem childStatus_terminal (result : Result) :
    childStatus result = .applied ∨ childStatus result = .failed ∨ childStatus result = .resumePending := by
  unfold childStatus
  split
  · exact .inr (.inl rfl)
  · split
    · exact .inl rfl
    · exact .inr (.inr rfl)
    · exact .inr (.inl rfl)

/-- what the end of a round leaves: the next round, or a group that has ended -/
theorem finish_round (h : Rolling groupId ids i id row db) {status : ChildStatus}
    (hterminal : status = .applied ∨ status = .failed ∨ status = .resumePending) (reason : String) (generation epoch : ℤ) :
    ∃ db', finishGroupChild groupId i status reason generation epoch db = .ok db' ∧
      if status = .applied then Idle groupId db' ∧ ∀ g, db'.group? groupId = some g → g.nextIndex = i + 1
      else GroupEnded groupId db' := by
  obtain ⟨g, hg, -, hindex⟩ := h.running.group
  obtain ⟨child, hchild, hrunning, -⟩ := h.running.child
  have hmem := mem_of_getElem? hchild
  obtain ⟨hgroup, hshard⟩ := h.inv.child hchild
  have hfound : ∃ c ∈ db.groupShards, c.groupId = groupId ∧ c.shardIndex = i ∧ c.status = .running :=
    ⟨child, (List.mem_filter.1 hmem).1, hgroup, hshard, hrunning⟩
  by_cases happlied : status = .applied
  · subst happlied
    refine ⟨_, bind_ok.2 ⟨(), reject_ok.2 (not_not.2 hfound), rfl⟩, ?_⟩
    constructor
    · intro c' hc'
      obtain ⟨j, hj⟩ := getElem?_of_mem hc'
      have hmap := shardsOf_map db groupId
        (changeOne_keeps groupId i .running (finish_keeps .applied reason generation epoch))
      have hj : ((db.shardsOf groupId).map (changeOne groupId i .running
        (GroupShard.finish .applied reason generation epoch)))[j]? = some c' := (congrArg (·[j]?) hmap).symm.trans hj
      obtain ⟨c, hc, rfl⟩ := h.inv.changed hj
      split
      · intro hstatus
        cases hstatus
      · rename_i hother
        by_cases hji : j = i
        · exact fun hstatus => hother ⟨hji, hstatus⟩
        · exact h.others hc hji
    · intro g' hg'
      have hself := group?_modify_self (RolloutGroup.advance_groupId i
        ((changeChild groupId i .running (GroupShard.finish .applied reason generation epoch) db).shardsOf groupId).length) hg
      have heq := hself.symm.trans hg'
      cases heq
      simp [RolloutGroup.advance, hindex]
  · refine ⟨_, bind_ok.2 ⟨(), reject_ok.2 (not_not.2 hfound), if_neg happlied⟩, ?_⟩
    rw [if_neg happlied]
    have hfail : ∀ g : RolloutGroup, (g.fail i reason).groupId = g.groupId := fun _ => rfl
    refine ⟨g.fail i reason, group?_modify_self hfail hg, ?_⟩
    simp only [RolloutGroup.fail, GroupStatus.Ended]
    split <;> simp

/-- the group is loaded -/
theorem ensures_loadGroup {α : Type} {post : α → Store → Prop} {k : GoResult RolloutGroup → Proc commands α}
    (hnodup : ids.Nodup)
    (hs : Resting groupId ids rounds s.db)
    (hk : ∀ g t, Resting groupId ids rounds t.db → t.db.group? groupId = some g →
      Ensures (ownContract sv groupId ids) post (k (.ok g)) t) :
    Ensures (ownContract sv groupId ids) post (.ask (.loadGroup groupId) k) s := by
  refine ensures_answered hnodup (c := .loadGroup groupId)
    (G := fun (g : RolloutGroup) db => Resting groupId ids rounds db ∧ db.group? groupId = some g)
    (fun _ _ hsame h => h.same hsame) hs (fun _ _ => trivial) (fun e t he ht _ => ?_) fun g t ht => hk g t ht.1 ht.2
  obtain ⟨g, hg, -⟩ := ht.inv.placed
  exact ⟨g, t.db, query_answered (q := fun db => queryRow (db.group? groupId)) he (queryRow_ok.2 hg), ht, hg⟩

/-- one child from its start to its result -/
theorem ensures_round {α : Type} {post : α → Store → Prop} {template : RolloutRequest} {onError : String → Proc commands α}
    {k : Result → Proc commands α} (hnodup : ids.Nodup) {child : GroupShard}
    (hs : Resting groupId ids rounds s.db) (hg : s.db.group? groupId = some g) (hopen : ¬ g.status.Ended)
    (hchild : (s.db.shardsOf groupId)[g.nextIndex]? = some child)
    (hk : ∀ result t, GroupInv groupId ids t.db →
      (if childStatus result = .applied then
        Idle groupId t.db ∧ ∀ g', t.db.group? groupId = some g' → g'.nextIndex = g.nextIndex + 1
        else GroupEnded groupId t.db) →
      Ensures (ownContract sv groupId ids) post (k result) t) :
    Ensures (ownContract sv groupId ids) post
      (attempt (.startChild groupId g.nextIndex) onError fun _ =>
        attempt (.rollGroup groupId) onError fun _ =>
        (rollout sv (childRequest template child)).bind fun result =>
        attempt (.finishGroupChild groupId g.nextIndex (childStatus result) (childReason result)
          (childGeneration result) (childEpoch result)) onError fun _ => k result) s := by
  refine ensures_answered hnodup (c := .startChild groupId g.nextIndex)
    (F := fun db => (Resting groupId ids rounds db ∧ db.group? groupId = some g) ∧
      (db.shardsOf groupId)[g.nextIndex]? = some child)
    (G := fun _ => Rolling groupId ids g.nextIndex child.operationId none)
    (fun _ _ hsame h => ⟨⟨h.1.1.same hsame, hsame.group.trans h.1.2⟩, by rw [hsame.children]; exact h.2⟩)
    ⟨⟨hs, hg⟩, hchild⟩ (fun _ h => ⟨rfl, g, h.1.2, hopen, rfl⟩) (fun e t he ht _ => ?_) fun _ t ht => ?_
  · obtain ⟨c, hc, hplanned, hrow⟩ := ht.1.1.child ht.1.2 hopen
    rw [ht.2] at hc
    cases hc
    exact ⟨(), _, execute_answered he rfl, startChild_rolling ht.1.1.inv ⟨g, ht.1.2, hopen, rfl⟩ ht.2 hplanned hrow⟩
  refine ensures_answered hnodup (c := .rollGroup groupId)
    (G := fun _ => Rolling groupId ids g.nextIndex child.operationId none) (fun _ _ hsame h => h.same hsame) ht
    (fun _ h => ⟨rfl, _, h.running.group⟩)
    (fun e t he ht _ => ⟨(), _, execute_answered he rfl, rollGroup_rolling ht⟩) fun _ t ht => ?_
  refine ensures_bind (rollout_agrees hnodup ht) ?_
  rintro result t ⟨row, ht, hagrees⟩
  refine ensures_answered hnodup (c := .finishGroupChild groupId g.nextIndex (childStatus result) _ _ _)
    (G := fun _ db => GroupInv groupId ids db ∧ if childStatus result = .applied then
      Idle groupId db ∧ ∀ g', db.group? groupId = some g' → g'.nextIndex = g.nextIndex + 1
      else GroupEnded groupId db)
    (fun _ _ hsame h => h.same hsame) ht
    (fun db h => ⟨rfl, ⟨_, h.running, by rw [h.row]; exact hagrees⟩, childStatus_terminal result⟩)
    (fun e t he ht hinv => ?_) fun _ t ht => hk result t ht.1 ht.2
  obtain ⟨db', hfinish, hround⟩ := finish_round ht (childStatus_terminal result) (childReason result)
    (childGeneration result) (childEpoch result)
  have hact : Cmd.act sv e (.finishGroupChild groupId g.nextIndex (childStatus result) (childReason result)
    (childGeneration result) (childEpoch result)) t = _ := execute_answered he hfinish
  rw [hact] at hinv
  exact ⟨(), db', hact, hinv, hround⟩

/-- **A call ends its group**, whatever the rollouts of the children come to. The rounds are enough for all of them. -/
theorem rounds_end (hnodup : ids.Nodup) (template : RolloutRequest) (hs : Resting groupId ids rounds s.db) :
    Ensures (ownContract sv groupId ids) (fun _ t => GroupEnded groupId t.db)
      (advanceRounds sv groupId template rounds) s := by
  induction rounds generalizing s with
  | zero =>
    obtain ⟨g, hg, hplaced⟩ := hs.inv.placed
    have hleft := hs.left g hg
    have hbound := hplaced.bound
    rw [hs.inv.length] at hbound
    omega
  | succ rounds ih =>
    refine ensures_loadGroup hnodup hs fun g t ht hg => ?_
    have hleft := ht.left g hg
    refine ensures_answered hnodup (c := .loadGroupShards groupId)
      (F := fun db => Resting groupId ids (rounds + 1) db ∧ db.group? groupId = some g)
      (G := fun (cs : List GroupShard) db =>
        (Resting groupId ids (rounds + 1) db ∧ db.group? groupId = some g) ∧ cs = db.shardsOf groupId)
      (fun _ _ hsame h => ⟨h.1.same hsame, hsame.group.trans h.2⟩) ⟨ht, hg⟩ (fun _ _ => trivial)
      (fun e t he ht _ => ⟨t.db.shardsOf groupId, t.db,
        query_answered (q := fun db => .ok (db.shardsOf groupId)) he rfl, ht, rfl⟩) ?_
    rintro (cs : List GroupShard) t ⟨⟨ht, hg⟩, rfl⟩
    show Ensures _ _ (if g.status.Ended then _ else _) t
    split
    · rename_i hended
      exact ⟨g, hg, hended⟩
    · rename_i hopen
      obtain ⟨child, hchild, hplanned, -⟩ := ht.child hg hopen
      rw [hchild]
      dsimp only
      rw [if_neg (not_not.2 hplanned)]
      refine ensures_round hnodup ht hg hopen hchild fun result t hinv hround => ?_
      by_cases happlied : childStatus result = .applied
      · rw [if_pos happlied] at hround
        rw [if_neg (not_not.2 happlied)]
        refine ih ⟨hinv, hround.1, fun g' hg' => ?_⟩
        rw [hround.2 g' hg']
        omega
      · rw [if_neg happlied] at hround
        rw [if_pos happlied]
        exact hround

theorem advance_ends (hnodup : ids.Nodup) (hcount : ids.length ≤ 256) (hinv : GroupInv groupId ids s.db)
    (hidle : Idle groupId s.db) :
    Ensures (ownContract sv groupId ids) (fun _ t => GroupEnded groupId t.db)
      (advanceRolloutGroup sv groupId) s := by
  have hs : Resting groupId ids 257 s.db := ⟨hinv, hidle, fun g _ => by omega⟩
  exact ensures_loadGroup hnodup hs fun g t ht _ => rounds_end hnodup g.template ht

end

/-! ## The other calls -/

section

variable {sv : Services} {groupId : String} {ids : List String} {job : Job}

theorem other_guard (hjob : job ≠ .advance groupId) {c : Cmd} (hc : Elsewhere groupId ids c) (s : Store) :
    (groupContract sv groupId ids job).guard c s := by
  simp only [groupContract, if_neg hjob]
  exact hc

theorem owns_elsewhere {f : Frame} (hid : f.req.operationId ∉ ids) {c : Cmd} (hc : f.Owns sv c) : Elsewhere groupId ids c := by
  cases c with
  | appendOperation =>
    subst hc
    exact hid
  | setStatus =>
    subst hc
    exact hid
  | startChild => exact hc.elim
  | rollGroup => exact hc.elim
  | finishGroupChild => exact hc.elim
  | _ => trivial

theorem recovers_elsewhere {req : RolloutRequest} (hid : req.operationId ∉ ids) {c : Cmd} (hc : Recovers req c) :
    Elsewhere groupId ids c := by
  cases c with
  | appendOperation op | startChild g i | rollGroup g | finishGroupChild g i status reason generation epoch => exact hc.elim
  | setStatus =>
    obtain ⟨rfl, -⟩ := hc
    exact hid
  | _ => trivial

theorem rollout_elsewhere (hjob : job ≠ .advance groupId) {req : RolloutRequest} (hid : req.operationId ∉ ids) (s : Store) :
    Safe (groupContract sv groupId ids job) (rollout sv req) s := by
  have hquery : ∀ c : Cmd, c.Aside → ∀ t, (groupContract sv groupId ids job).guard c t :=
    fun c hc t => other_guard hjob hc.elsewhere t
  refine safe_attempt ?_ (hquery (.freezeWorkload req) trivial)
  intro env t (frozen : RolloutRequest) hfrozen
  have hid : frozen.operationId ∉ ids := by
    rw [freezeWorkload_request (query_ok hfrozen)]
    exact hid
  refine safe_attempt ?_ (hquery (.loadRevision frozen) trivial)
  intro env t (rev : ModelRevision) _
  refine safe_attempt ?_ (hquery (.loadBinding frozen rev) trivial)
  intro env t (b : ShardBinding) _
  refine safe_attempt ?_ (hquery (.checkPoolProfiles frozen rev) trivial)
  intro env t _ _
  refine safe_of_issues stable_true trivial (start_issues sv ⟨frozen, rev, b⟩ fun req hreq c hc t _ _ => ?_)
  refine other_guard hjob (owns_elsewhere ?_ hc) t
  rw [resolveTarget_request hreq]
  exact hid

theorem reconcile_elsewhere {id : String} (hid : id ∉ ids) (s : Store) :
    Safe (groupContract sv groupId ids (.reconcile id)) (reconcileOperation id) s := by
  have hjob : Job.reconcile id ≠ .advance groupId := nofun
  have hquery : ∀ c : Cmd, c.Aside → ∀ t, (groupContract sv groupId ids (.reconcile id)).guard c t :=
    fun c hc t => other_guard hjob hc.elsewhere t
  refine safe_attempt ?_ (hquery (.loadOperation id) trivial)
  intro env t (op : RolloutOperation) hop
  have hkey : op.operationId = id := Table.lookup_key (queryRow_ok.1 (query_ok hop))
  split
  · exact safe_attempt (fun _ _ _ _ => trivial) (hquery (.loadAppliedBinding _ _) trivial)
  · split
    · trivial
    · refine safe_of_issues stable_true trivial ((recoverPending_issues op.request).imp fun c hc t _ _ => ?_)
      refine other_guard hjob (recovers_elsewhere ?_ hc) t
      rw [← hkey] at hid
      exact hid

/-- the children of another group have operations of their own -/
theorem advance_elsewhere {other : String} (hne : other ≠ groupId) (s : Store) :
    Safe (groupContract sv groupId ids (.advance other)) (advanceRolloutGroup sv other) s := by
  have hjob : Job.advance other ≠ .advance groupId := fun h => hne (by cases h; rfl)
  have habout : ∀ c : Cmd, c.About other → ∀ t, (groupContract sv groupId ids (.advance other)).guard c t := by
    intro c hc t
    apply other_guard hjob
    cases c <;> first | trivial | exact fun heq => hne (hc.symm.trans heq)
  refine safe_attempt (fun env t group _ => ?_) (habout (.loadGroup other) rfl)
  refine advanceRounds_safe stable_true rfl habout (fun child t s hinv hchild _ => ?_) _ trivial
  apply rollout_elsewhere hjob
  have hgroup : child.groupId = other := mem_shardsOf hchild
  exact hinv.separate child (List.mem_filter.1 hchild).1 (hgroup.trans_ne hne)

end

/-! ## Orderly runs -/

/-- a call of the group is under way -/
def UnderWay (groupId : String) (w : ModelWorld) : Prop := ∃ t ∈ w.threads, t.cmd? ≠ none ∧ t.job = .advance groupId
deriving Decidable

/-- the calls of the group come one at a time, are answered and are not stopped, and nobody else takes the operations of its
children -/
def Orderly (groupId : String) (ids : List String) (w : ModelWorld) : Event → Prop
  | .spawn (.advance g) => g = groupId → ¬ UnderWay groupId w
  | .spawn (.rollout req) => req.operationId ∉ ids
  | .spawn (.reconcile id) => id ∉ ids
  | .advance index e => ∀ t ∈ w.threads[index]?, t.cmd? ≠ none → t.job = .advance groupId → e.fate = .answered
  | .crash index => ∀ t ∈ w.threads[index]?, t.cmd? ≠ none → t.job ≠ .advance groupId
  | .outside _ => True

instance (groupId : String) (ids : List String) (w : ModelWorld) (op : Event) : Decidable (Orderly groupId ids w op) := by
  unfold Orderly
  split <;> infer_instance

/-- the world keeps the discipline of the group, and a child is running only while a call is under way -/
structure Tended (sv : Services) (groupId : String) {ids : List String} (hnodup : ids.Nodup) (w : ModelWorld) : Prop where
  sound : Sound (groupDiscipline sv groupId hnodup) w
  idle : ¬ UnderWay groupId w → Idle groupId w.store.db

section

variable {sv : Services} {groupId : String} {ids : List String} {hnodup : ids.Nodup} {w w' : ModelWorld} {op : Event}

theorem Tended.inv (h : Tended sv groupId hnodup w) : GroupInv groupId ids w.store.db := h.sound.inv

theorem orderly_respects (hcount : ids.length ≤ 256) (h : Tended sv groupId hnodup w) (hop : Orderly groupId ids w op) :
    Respects (groupDiscipline sv groupId hnodup) w op := by
  cases op with
  | spawn job =>
    cases job with
    | rollout req =>
      have hjob : Job.rollout req ≠ .advance groupId := nofun
      exact ⟨(rollout_elsewhere hjob hop _).imp fun _ _ _ heq => absurd heq hjob, fun hexclusive => absurd hexclusive hjob⟩
    | reconcile id =>
      have hjob : Job.reconcile id ≠ .advance groupId := nofun
      exact ⟨(reconcile_elsewhere hop _).imp fun _ _ _ heq => absurd heq hjob, fun hexclusive => absurd hexclusive hjob⟩
    | advance g =>
      by_cases hg : g = groupId
      · subst hg
        refine ⟨(advance_ends hnodup hcount h.inv (h.idle (hop rfl))).imp fun _ _ hended _ => hended, ?_⟩
        exact fun _ t ht hcmd hjob => hop rfl ⟨t, ht, hcmd, hjob⟩
      · have hjob : Job.advance g ≠ .advance groupId := fun h => hg (by cases h; rfl)
        exact ⟨(advance_elsewhere hg _).imp fun _ _ _ heq => absurd heq hjob, fun hexclusive => absurd hexclusive hjob⟩
  | advance => exact hop
  | crash => trivial
  | outside x =>
    have hsame := admin_same sv x h.inv
    exact ⟨h.inv.same hsame, fun _ _ _ _ => hsame⟩

/-- a call stays under way while others are changed -/
theorem UnderWay.set (h : UnderWay groupId w) {index : ℕ} {t t' : Thread commands Job Result}
    (found : w.threads[index]? = some t) (ht : ¬ (t.cmd? ≠ none ∧ t.job = .advance groupId)) (s' : Store) :
    UnderWay groupId ⟨s', w.threads.set index t'⟩ := by
  obtain ⟨u, hu, hway⟩ := h
  obtain ⟨n, hn⟩ := getElem?_of_mem hu
  have hne : index ≠ n := by
    rintro rfl
    rw [found] at hn
    cases hn
    exact ht hway
  exact ⟨u, mem_of_getElem? ((getElem?_set_ne hne).trans hn), hway⟩

theorem Tended.step (hcount : ids.length ≤ 256) (h : Tended sv groupId hnodup w) (hop : Orderly groupId ids w op)
    (hstep : Stepped (manager sv) w op w') : Tended sv groupId hnodup w' := by
  have hsound := h.sound.step (orderly_respects hcount h hop) hstep
  refine ⟨hsound, fun hway => ?_⟩
  cases hstep with
  | idle => exact h.idle hway
  | spawned => exact h.idle fun ⟨t, ht, hcall⟩ => hway ⟨t, mem_append_left _ ht, hcall⟩
  | changed x => exact (h.idle hway).same (admin_same sv x h.inv)
  | stopped _ t found =>
    refine h.idle fun hbefore => hway ?_
    exact hbefore.set found (fun hcall => hop t found hcall.1 hcall.2) _
  | advanced _ e t c k found live next =>
    have hcmd : t.cmd? ≠ none := by simp [Thread.cmd?_ask live next]
    have hmem := mem_of_getElem? found
    by_cases hjob : t.job = .advance groupId
    · -- it was a call of the group, and it is no longer under way: it has come to its end
      have hfound := getElem?_set_self (a := { t with proc := k ((manager sv).act e c w.store).1 })
        (List.getElem?_eq_some_iff.1 found).1
      cases hproc : k ((manager sv).act e c w.store).1 with
      | ask =>
        refine absurd ⟨_, mem_of_getElem? hfound, ?_, hjob⟩ hway
        simp [Thread.cmd?, live, hproc]
      | done =>
        have hended := h.sound.finishes hmem live next (hop t found hcmd) hproc hjob
        exact GroupInv.ended_idle hsound.inv hended
    · have hguard := h.sound.guard hmem live next
      obtain ⟨-, hsame⟩ := groupContract_keeps sv hnodup t.job e c w.store h.inv hguard
      exact (h.idle fun hbefore => hway (hbefore.set found (fun hcall => hjob hcall.2) _)).same (hsame hjob)

/-- **An orderly run keeps the group in order.** -/
theorem run_orderly {db₀ : Db} (hcount : ids.length ≤ 256) (hinv : GroupInv groupId ids db₀) (hidle : Idle groupId db₀)
    {ops : List Event} (hops : Along (fun pre op => Orderly groupId ids (runFrom sv db₀ pre) op) ops) :
    Tended sv groupId hnodup (runFrom sv db₀ ops) := by
  refine hops.invariant (P := Tended sv groupId hnodup) ?_ fun _ op _ hop ih =>
    ih.step hcount hop (step_stepped (manager sv) _ op)
  exact ⟨.initial hinv, fun _ => hidle⟩

end

/-! ## One operation for each child -/

/-- how often an operation was started: its rows are never removed -/
def Db.started (db : Db) (id : String) : ℕ := (db.operations.filter fun op => decide (op.operationId = id)).length

variable {id : String}

theorem act_started (e : Env) (c : Cmd) {s : Store} (h : s.db.started id ≤ 1) : (c.act sv e s).2.db.started id ≤ 1 := by
  have hwrote := act_wrote sv e c s
  generalize (c.act sv e s).2 = s' at hwrote
  cases hwrote with
  | appended op new =>
    simp only [Db.started, filter_append, length_append]
    by_cases hid : op.operationId = id
    · subst hid
      have hnone : s.db.operations.filter (fun row => decide (row.operationId = op.operationId)) = [] := by
        rw [filter_eq_nil_iff]
        intro row hrow
        simpa using Table.lookup_eq_none.1 new row hrow
      simp [hnone]
    · simpa [hid, Db.started] using h
  | settled =>
    refine Eq.trans_le ?_ h
    simp only [Db.started, Table.modify, filter_map, length_map]
    congr 1
    apply filter_congr
    intro op _
    simp only [Function.comp_apply]
    split <;> rfl
  | swapped =>
    rw [writeSwap_frame]
    exact h
  | _ => exact h

/-- **An operation is started at most once**, in every run. -/
theorem run_started {db₀ : Db} (h : db₀.started id ≤ 1) (ops : List Event) :
    (runFrom sv db₀ ops).store.db.started id ≤ 1 := by
  induction ops using List.reverseRecOn with
  | nil => exact h
  | append_singleton ops _ ih =>
    rw [runFrom, Process.run_snoc]
    refine step_store (P := fun s : Store => s.db.started id ≤ 1) ih (fun x _ => ?_) fun _ e _ c _ _ _ _ _ =>
      act_started sv e c ih
    show (x.exec sv (runFrom sv db₀ ops).store.db).started id ≤ 1
    rw [Db.started, (admin_frame sv x _).operations]
    exact ih

/-! ## The laws of a group -/

def childIds (sv : Services) (req : RolloutGroupRequest) : List String := (newChildren sv req).map GroupShard.operationId

/-- the tables right after a group was created; its children refer to it, and their operations have no rows yet -/
structure Created (sv : Services) (req : RolloutGroupRequest) (db db₀ : Db) : Prop where
  made : createRolloutGroup sv req db = .ok db₀
  new : db.group? req.groupId = none
  children : ∀ c ∈ db.groupShards, c.groupId ≠ req.groupId
  operations : ∀ id ∈ childIds sv req, db.operation? id = none

/-- what holds of a group and its operations -/
structure GroupLaws (sv : Services) (groupId : String) (ids : List String) (w : ModelWorld) : Prop where
  /-- the status of a child is that of its operation -/
  agrees : ∀ c ∈ w.store.db.shardsOf groupId, Agrees c.status (w.store.db.operation? c.operationId)
  /-- a child is running only while a call is under way -/
  idle : ¬ UnderWay groupId w → Idle groupId w.store.db
  /-- an operation is there only if the children before are applied -/
  ordered : ∀ (i j : ℕ) (c c' : GroupShard), (w.store.db.shardsOf groupId)[i]? = some c →
    (w.store.db.shardsOf groupId)[j]? = some c' → i < j → w.store.db.operation? c'.operationId ≠ none → c.status = .applied
  once : ∀ id ∈ ids, w.store.db.started id ≤ 1
  /-- the next call ends the group -/
  advances : ¬ UnderWay groupId w → ∀ env : Cmd → Env, (∀ c, (env c).fate = .answered) →
    GroupEnded groupId ((advanceRolloutGroup sv groupId).alone (actIn sv env) w.store).2.db
  /-- the call that is under way ends it -/
  continues : ∀ t ∈ w.threads, t.cmd? ≠ none → t.job = .advance groupId → ∀ env : Cmd → Env, (∀ c, (env c).fate = .answered) →
    GroupEnded groupId (t.proc.alone (actIn sv env) w.store).2.db

section

variable {sv : Services} {req : RolloutGroupRequest} {db db₀ : Db}

theorem newChildren_get {i : ℕ} {c : GroupShard} (h : (newChildren sv req)[i]? = some c) :
    c.status = .planned ∧ c.shardIndex = i := by
  rw [newChildren, getElem?_mapIdx] at h
  obtain ⟨shard, -, rfl⟩ := Option.map_eq_some_iff.1 h
  exact ⟨rfl, rfl⟩

theorem newChildren_planned {c : GroupShard} (h : c ∈ newChildren sv req) : c.status = .planned := by
  obtain ⟨i, hi⟩ := getElem?_of_mem h
  exact (newChildren_get hi).1

section

variable (h : Created sv req db db₀)
include h

theorem Created.tables : ((db.groupShards ++ newChildren sv req).map GroupShard.operationId).Nodup ∧
    db₀ = { db with groups := db.groups ++ [newGroup sv req], groupShards := db.groupShards ++ newChildren sv req } := by
  rcases (createRolloutGroup_ok h.made).2 with ⟨hfound, -⟩ | ⟨-, hunique, hmade⟩
  · exact absurd h.new hfound
  · exact ⟨hunique, hmade⟩

theorem Created.nodup : (childIds sv req).Nodup := by
  have hunique := h.tables.1
  rw [map_append, nodup_append] at hunique
  exact hunique.2.1

theorem Created.count : (childIds sv req).length ≤ 256 := by
  rw [childIds, length_map, newChildren, length_mapIdx]
  exact (createRolloutGroup_ok h.made).1.2

theorem Created.shardsOf : db₀.shardsOf req.groupId = newChildren sv req := by
  rw [h.tables.2, Db.shardsOf, filter_append]
  have hold : db.groupShards.filter (fun c => decide (c.groupId = req.groupId)) = [] := by
    rw [filter_eq_nil_iff]
    intro c hc
    simpa using h.children c hc
  have hnew : (newChildren sv req).filter (fun c => decide (c.groupId = req.groupId)) = newChildren sv req := by
    rw [filter_eq_self]
    intro c hc
    simpa using newChildren_groupId hc
  rw [hold, hnew, nil_append]

/-- a new group is in order -/
theorem Created.inv : GroupInv req.groupId (childIds sv req) db₀ := by
  obtain ⟨hunique, htables⟩ := h.tables
  have hgroup : db₀.group? req.groupId = some (newGroup sv req) := by
    rw [htables]
    exact (Table.lookup_append_new (r := newGroup sv req) h.new req.groupId).trans (if_pos rfl)
  have hopen : ¬ (newGroup sv req).status.Ended := by simp [newGroup, GroupStatus.Ended]
  have hlength : (newChildren sv req).length = req.orderedShards.length := length_mapIdx
  refine ⟨⟨newGroup sv req, hgroup, ?_⟩, ?_, ?_, ?_, ?_⟩
  · rw [h.shardsOf]
    refine ⟨Nat.zero_le _, fun _ => ?_, fun i c _ hi => absurd hi (Nat.not_lt_zero i), fun c hc => ?_, fun i c hc _ => ?_⟩
    · rw [hlength]
      exact (createRolloutGroup_ok h.made).1.1
    · rw [if_neg hopen]
      exact .inl (newChildren_get hc).1
    · rw [if_neg hopen]
      exact (newChildren_get hc).1
  · rw [h.shardsOf]
    rfl
  · rw [h.shardsOf]
    exact fun i c hc => (newChildren_get hc).2
  · rw [h.shardsOf]
    intro c hc
    have hrow : db₀.operation? c.operationId = none := by
      rw [htables]
      exact h.operations _ (mem_map_of_mem hc)
    rw [newChildren_planned hc]
    exact hrow
  · intro c hc hne hmem
    rw [htables] at hc
    rcases List.mem_append.1 hc with hc | hc
    · rw [map_append, nodup_append] at hunique
      exact hunique.2.2 _ (mem_map_of_mem hc) _ hmem rfl
    · exact hne (newChildren_groupId hc)

theorem Created.idle : Idle req.groupId db₀ := by
  intro c hc
  rw [h.shardsOf] at hc
  rw [newChildren_planned hc]
  exact fun hstatus => by cases hstatus

theorem Created.started (hid : id ∈ childIds sv req) : db₀.started id ≤ 1 := by
  rw [h.tables.2]
  have hnone : db.operations.filter (fun op => decide (op.operationId = id)) = [] := by
    rw [filter_eq_nil_iff]
    intro op hop
    simpa using Table.lookup_eq_none.1 (h.operations id hid) op hop
  simp [Db.started, hnone]

end

/-- the rows of an orderly group are ordered -/
theorem GroupInv.ordered {groupId : String} {ids : List String} (h : GroupInv groupId ids db) {i j : ℕ} {c c' : GroupShard}
    (hc : (db.shardsOf groupId)[i]? = some c) (hc' : (db.shardsOf groupId)[j]? = some c') (hij : i < j)
    (hrow : db.operation? c'.operationId ≠ none) : c.status = .applied := by
  obtain ⟨g, -, hplaced⟩ := h.placed
  refine hplaced.before i c hc ?_
  by_contra hge
  have hafter := hplaced.after j c' hc' (by omega)
  have hagrees := h.faithful c' (mem_of_getElem? hc')
  rw [hafter] at hagrees
  split at hagrees
  · exact hrow hagrees
  · exact hrow hagrees

/-- **Faithful groups.** In every run from the creation of a group, with any shards, replies of Edge and the adapters, and other
calls in between, in which the calls of the group come one at a time, are answered by the database and are not stopped, and no
other call takes the operations of its children: the status of each child is that of its operation; an operation is there only
if the children before it are applied; it was started at most once; and the next call, or the one that is under way, ends the
group. -/
theorem group_faithful (sv : Services) (req : RolloutGroupRequest) (db db₀ : Db) (hcreated : Created sv req db db₀)
    (ops : List Event) (hops : Along (fun pre op => Orderly req.groupId (childIds sv req) (runFrom sv db₀ pre) op) ops) :
    GroupLaws sv req.groupId (childIds sv req) (runFrom sv db₀ ops) := by
  have hnodup := hcreated.nodup
  have htended : Tended sv req.groupId hnodup (runFrom sv db₀ ops) :=
    run_orderly hcreated.count hcreated.inv hcreated.idle hops
  have hkeeps : ∀ e c s, GroupInv req.groupId (childIds sv req) s.db →
      (ownContract sv req.groupId (childIds sv req)).guard c s → (ownContract sv req.groupId (childIds sv req)).env e →
      GroupInv req.groupId (childIds sv req) (c.act sv e s).2.db :=
    fun e c s hinv hguard _ => (groupContract_keeps sv hnodup _ e c s hinv hguard).1
  refine ⟨htended.inv.faithful, htended.idle, fun i j c c' hc hc' hij => htended.inv.ordered hc hc' hij,
    fun id hid => run_started sv (hcreated.started hid) ops, fun hway env henv => ?_, fun t ht hcmd hjob env henv => ?_⟩
  · exact (advance_ends hnodup hcreated.count htended.inv (htended.idle hway)).alone htended.inv hkeeps fun c _ => henv c
  · have hsafe := htended.sound.safe t ht hcmd
    rw [hjob] at hsafe
    exact hsafe.alone htended.inv hkeeps (fun c _ => henv c) rfl

end

/-! ## One call, two calls, and calls that are stopped -/

def sampleGroup : RolloutGroupRequest := ⟨"group-1", ["shard-1"], sampleRequest "" .rollout 2 "revision-b"⟩

/-- the sample tables with a group of one shard -/
def groupDb : Db :=
  { sampleDb with groups := [newGroup plainServices sampleGroup], groupShards := newChildren plainServices sampleGroup }

/-- the rest of a rollout from its operation to its end, with `PrepareRoute` and `CommitRoute` answered -/
def moving (index : ℕ) (routeEpoch : ℤ) : List Event :=
  advances index 4 ++ [.advance index (edgeEnv "draining" routeEpoch), .advance index (edgeEnv "ready" routeEpoch)] ++
    advances index 3 ++ [.advance index (edgeEnv "active" routeEpoch)] ++ advances index 1

/-- the status of each child and of its operation -/
def childAndOperation (w : ModelWorld) : List (ChildStatus × Option OperationStatus) :=
  (w.store.db.shardsOf "group-1").map fun c => (c.status, (w.store.db.operation? c.operationId).map RolloutOperation.status)

/-- a second shard of the pool -/
def pairDb : Db :=
  { sampleDb with
    bindings := [sampleBinding, { sampleBinding with shardId := "shard-2" }]
    assignments := [sampleAssignment, { sampleAssignment with targetId := "shard-2" }] }

/-- the hash tells the children apart -/
def pairServices : Services :=
  { plainServices with
    hash := fun text =>
      if text = asBytes "group-1|shard-2" then String.ofList (List.replicate 64 '1') else plainServices.hash text }

def pairGroup : RolloutGroupRequest := { sampleGroup with orderedShards := ["shard-1", "shard-2"] }

def pairGroupDb : Db :=
  { pairDb with groups := [newGroup pairServices pairGroup], groupShards := newChildren pairServices pairGroup }

/-- Edge answers for this shard -/
def answering (shardId : String) : Event → Event
  | .advance index env => .advance index { env with edge := env.edge.map fun route => { route with shardId } }
  | op => op

/-- one call, with nobody else -/
def advanceOps : List Event :=
  .spawn (.advance "group-1") :: advances 0 10 ++ moving 0 2 ++ advances 0 10 ++ (moving 0 2).map (answering "shard-2") ++
    advances 0 3

theorem orderly_advance_holds :
    childAndOperation (runFrom pairServices pairGroupDb advanceOps) = [(.applied, some .applied), (.applied, some .applied)] ∧
      GroupLaws pairServices "group-1" (childIds pairServices pairGroup) (runFrom pairServices pairGroupDb advanceOps) := by
  have hcreated : Created pairServices pairGroup pairDb pairGroupDb :=
    ⟨by decide +kernel, rfl, fun _ hc => (by cases hc), fun _ _ => rfl⟩
  refine ⟨by decide +kernel, group_faithful pairServices pairGroup pairDb pairGroupDb hcreated advanceOps ?_⟩
  exact along_of_decide (P := Orderly "group-1" (childIds pairServices pairGroup)) (Process.step (manager pairServices))
    ⟨⟨pairGroupDb, [], []⟩, []⟩ (by decide +kernel)

/-- a call that finds the child of the cursor started changes nothing, however it is answered -/
theorem advance_refused (env : Cmd → Env) {groupId : String} {s : Store} {child : GroupShard}
    (hg : s.db.group? groupId = some g) (hopen : ¬ g.status.Ended)
    (hchild : (s.db.shardsOf groupId)[g.nextIndex]? = some child) (hstarted : child.status ≠ .planned) :
    ((advanceRolloutGroup sv groupId).alone (actIn sv env) s).2 = s := by
  have hgroup : (actIn sv env (.loadGroup groupId) s).2 = s := query_store _
  have hshards : (actIn sv env (.loadGroupShards groupId) s).2 = s := query_store _
  refine alone_attempt (Q := fun t => t = s) (fun _ => hgroup) fun (g₁ : RolloutGroup) _ => ?_
  rw [hgroup]
  refine alone_attempt (Q := fun t => t = s) (fun _ => hgroup) fun (g₂ : RolloutGroup) hg₂ => ?_
  rw [hgroup]
  have heq : g₂ = g := by
    have hfound := queryRow_ok.1 (query_ok hg₂)
    rw [hg] at hfound
    exact (Option.some.inj hfound).symm
  subst heq
  refine alone_attempt (Q := fun t => t = s) (fun _ => hshards) fun (cs : List GroupShard) hcs => ?_
  rw [hshards]
  have hcs : s.db.shardsOf groupId = cs := by
    have hloaded := query_ok hcs
    exact Except.ok.inj hloaded
  subst hcs
  rw [if_neg hopen, hchild]
  dsimp only
  rw [if_pos hstarted]
  rfl

/-- two calls load the group before either starts the child -/
def concurrentOps : List Event :=
  [.spawn (.advance "group-1"), .spawn (.advance "group-1")] ++ advances 0 3 ++ advances 1 3 ++ advances 0 2 ++ advances 1 2 ++
    advances 0 5 ++ advances 1 6 ++ moving 0 2 ++ advances 0 1

/-- a call is stopped after it has started the child -/
def stoppedOps : List Event := .spawn (.advance "group-1") :: advances 0 4 ++ [.crash 0]

/-- the rollout of the child is left resume_pending, and is then recovered -/
def recoveredOps : List Event :=
  .spawn (.advance "group-1") :: advances 0 14 ++ [.advance 0 (edgeEnv "draining" 2)] ++ advances 0 4 ++
    recovering 1 (groupOperationId plainServices "group-1" "shard-1") 2

/-- **Groups that are not faithful.** Of two calls at a time one records the refusal of its own rollout: the child is failed and
its operation is applied. A call that is stopped leaves its child running, and every later call is refused, whatever is
answered. And a child whose operation was recovered stays resume_pending. -/
theorem concurrent_advance_unfaithful :
    childAndOperation (runFrom plainServices groupDb concurrentOps) = [(.failed, some .applied)] ∧
      (childAndOperation (runFrom plainServices groupDb stoppedOps) = [(.running, none)] ∧
        ¬ GroupEnded "group-1" (runFrom plainServices groupDb stoppedOps).store.db ∧
        ∀ env, ((advanceRolloutGroup plainServices "group-1").alone (actIn plainServices env)
          (runFrom plainServices groupDb stoppedOps).store).2 = (runFrom plainServices groupDb stoppedOps).store) ∧
      childAndOperation (runFrom plainServices groupDb recoveredOps) = [(.resumePending, some .applied)] := by
  refine ⟨by decide +kernel, ⟨by decide +kernel, ?_, fun env => ?_⟩, by decide +kernel⟩
  · have hopen : ∀ g ∈ (runFrom plainServices groupDb stoppedOps).store.db.group? "group-1", ¬ g.status.Ended := by
      decide +kernel
    rintro ⟨g, hg, hended⟩
    exact hopen g hg hended
  · have hg : (runFrom plainServices groupDb stoppedOps).store.db.group? "group-1" =
        some (newGroup plainServices sampleGroup) := by decide +kernel
    have hchild : ((runFrom plainServices groupDb stoppedOps).store.db.shardsOf "group-1")[0]? =
        some (newChild plainServices "group-1" 0 "shard-1").start := by decide +kernel
    exact advance_refused plainServices env hg (by decide) hchild (by decide)

end MasiEdge.Model
