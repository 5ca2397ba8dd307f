/-
What the calls of the model manager may write.

`Wrote` says once what any command does to the store. Two views of it are used by the proofs: `Rebound`, for the bindings,
where a command changes nothing but flags or makes one swap that is noted, and `Recorded`, for the operations.
`Frame.Owns` and `Recovers` say which commands a call may ask for at all, once it knows its request: a call swaps for its own
request, from the binding it has loaded, and sets the status of its own operation.

* `act_wrote`: every command, whatever its fate; `act_rebound`, `act_recorded`: what follows for bindings and operations;
* `admin_wrote`: the other services;
* `execute_issues`, `recoverPending_issues`: every command of a call.
-/
import MasiEdge.Model.Machine

namespace MasiEdge.Model

open Control Process

/-! ## Statements -/

section

variable {α : Type} {fate : Fate} {s : Store}

theorem transact_store (fate : Fate) (s : Store) (tx : Db → GoResult (Db × α)) (note : Db → α → Store → Store) :
    (transact fate tx note s).2 = s ∨
      ∃ db a, tx s.db = .ok (db, a) ∧ (transact fate tx note s).2 = note s.db a { s with db } := by
  unfold transact
  split
  · exact .inl rfl
  · exact .inl rfl
  · rename_i h
    exact .inr ⟨_, _, h, rfl⟩
  · rename_i h
    exact .inr ⟨_, _, h, rfl⟩

theorem transact_ok {tx : Db → GoResult (Db × α)} {note : Db → α → Store → Store} {a : α}
    (h : (transact fate tx note s).1 = .ok a) :
    ∃ db, tx s.db = .ok (db, a) ∧ (transact fate tx note s).2 = note s.db a { s with db } := by
  unfold transact at h ⊢
  split at h
  · cases h
  · cases h
  · rename_i htx
    cases h
    exact ⟨_, htx, rfl⟩
  · cases h

theorem execute_store (fate : Fate) (s : Store) (tx : Db → GoResult Db) :
    (execute fate tx s).2 = s ∨ ∃ db, tx s.db = .ok db ∧ (execute fate tx s).2 = { s with db } := by
  rcases transact_store fate s (fun db => do return (← tx db, ())) fun _ _ s => s with h | ⟨db, _, h, hs⟩
  · exact .inl h
  · obtain ⟨db', hdb, h⟩ := bind_ok.1 h
    cases h
    exact .inr ⟨_, hdb, hs⟩

@[simp] theorem query_store (q : Db → GoResult α) : (query fate q s).2 = s := by
  rcases transact_store fate s (fun db => do return (db, ← q db)) fun _ _ s => s with h | ⟨db, _, h, hs⟩
  · exact h
  · obtain ⟨a, -, h⟩ := bind_ok.1 h
    cases h
    exact hs

theorem query_ok {q : Db → GoResult α} {a : α} (h : (query fate q s).1 = .ok a) : q s.db = .ok a := by
  obtain ⟨db, h, -⟩ := transact_ok h
  obtain ⟨a', ha, h⟩ := bind_ok.1 h
  cases h
  exact ha

variable {R : Store → Prop}

/-- what holds of the store holds after a statement, whatever its fate, if its transaction keeps it -/
theorem transact_keeps {tx : Db → GoResult (Db × α)} {note : Db → α → Store → Store} (hs : R s)
    (h : ∀ db' a, tx s.db = .ok (db', a) → R (note s.db a { s with db := db' })) : R (transact fate tx note s).2 := by
  rcases transact_store fate s tx note with hstore | ⟨db', a, htx, hstore⟩
  · rw [hstore]
    exact hs
  · rw [hstore]
    exact h db' a htx

theorem execute_keeps {tx : Db → GoResult Db} (hs : R s) (h : ∀ db', tx s.db = .ok db' → R { s with db := db' }) :
    R (execute fate tx s).2 := by
  rcases execute_store fate s tx with hstore | ⟨db', htx, hstore⟩
  · rw [hstore]
    exact hs
  · rw [hstore]
    exact h db' htx

theorem query_keeps {q : Db → GoResult α} (hs : R s) : R (query fate q s).2 := by
  rw [query_store]
  exact hs

end

/-! ## What a command writes -/

/-- a binding but for its flags -/
def ShardBinding.core (b : ShardBinding) : ShardBinding := { b with resumeState := .current, loaded := true, ready := true }

section

variable {sv : Services} {db db' : Db}

theorem appendOperation_ok {op : RolloutOperation} (h : appendOperation op db = .ok db') :
    db.operation? op.operationId = none ∧ db' = { db with operations := db.operations ++ [op] } := by
  have h := wrap_ok.1 h
  split at h
  · rename_i hnone
    cases h
    exact ⟨hnone, rfl⟩
  · replace h := passed h
    cases h

theorem setOperationStatus_ok {id reason : String} {status : OperationStatus}
    (h : setOperationStatus id status reason db = .ok db') :
    db' = { db with
      operations := Table.modify RolloutOperation.operationId db.operations id (·.settle status reason) } := by
  replace h := passed h
  cases h
  rfl

theorem upsertPoolGeneration_ok {req : RolloutRequest} {rev : ModelRevision} {g : ℤ} {pool : Pool}
    (h : upsertPoolGeneration sv req rev g db = .ok (db', pool)) :
    (pool = newPool sv req rev g pool.row ∧ pool.row.digests = poolDigests sv req rev ∧ pool.row.key = req.poolKey) ∧
      (db' = db ∨ db.poolGeneration? req.poolKey = none ∧
        db' = { db with poolGenerations := db.poolGenerations ++ [newPoolGeneration sv req rev] }) := by
  have h := wrap_ok.1 h
  dsimp only at h
  split at h
  · rename_i hnone
    replace h := passed h
    cases h
    exact ⟨⟨rfl, rfl, rfl⟩, .inr ⟨hnone, rfl⟩⟩
  · rename_i existing hfound
    obtain ⟨_, hsame, h⟩ := bind_ok.1 h
    cases h
    have hsame := reject_ok.1 hsame
    rw [not_or, not_or] at hsame
    exact ⟨⟨rfl, not_not.1 hsame.2.1, Table.lookup_key hfound⟩, .inl rfl⟩

theorem appendObservation_frame {event : ObservationEvent} (h : appendObservation event db = .ok db') :
    db' = { db with observationEvents := db'.observationEvents } := by
  unfold appendObservation at h
  split at h
  · cases h
    rfl
  · replace h := passed h
    cases h
    rfl

theorem advanceObservation_frame {row : CurrentObservation} (h : advanceObservation row db = .ok db') :
    db' = { db with observations := db'.observations } := by
  unfold advanceObservation at h
  split at h
  · cases h
    rfl
  · split at h
    · cases h
      rfl
    · replace h := passed h
      cases h
      rfl

theorem writeSwap_frame (req : RolloutRequest) (b : ShardBinding) (casDigest : String) (db : Db) :
    writeSwap req b casDigest db = { db with
      bindings := (writeSwap req b casDigest db).bindings
      poolGenerations := (writeSwap req b casDigest db).poolGenerations
      pools := (writeSwap req b casDigest db).pools } := by
  unfold writeSwap
  split
  · rw [followPool_frame, drainPrevious_frame]
  · rw [followPool_frame]

theorem RolloutGroup.advance_groupId (index count : ℕ) (g : RolloutGroup) : (g.advance index count).groupId = g.groupId := by
  unfold RolloutGroup.advance
  split <;> rfl

end

/-- the commands of a group between its rollouts -/
def Cmd.Groups : Cmd → Prop
  | .loadGroup _ => True
  | .loadGroupShards _ => True
  | .startChild _ _ => True
  | .rollGroup _ => True
  | .finishGroupChild _ _ _ _ _ _ => True
  | _ => False

/-- those of one group -/
def Cmd.About (groupId : String) : Cmd → Prop
  | .loadGroup g => g = groupId
  | .loadGroupShards g => g = groupId
  | .startChild g _ => g = groupId
  | .rollGroup g => g = groupId
  | .finishGroupChild g _ _ _ _ _ => g = groupId
  | _ => False

theorem Cmd.About.groups {groupId : String} {c : Cmd} (h : c.About groupId) : c.Groups := by
  cases c <;> trivial

/-- everything a command can do to the store -/
inductive Wrote (sv : Services) (s : Store) : Cmd → Store → Prop
  | nothing (c) : Wrote sv s c s
  | appended (op : RolloutOperation) (new : s.db.operation? op.operationId = none) :
      Wrote sv s (.appendOperation op) { s with db := { s.db with operations := s.db.operations ++ [op] } }
  | settled (id : String) (status : OperationStatus) (reason : String) :
      Wrote sv s (.setStatus id status reason) { s with db := { s.db with
        operations := Table.modify RolloutOperation.operationId s.db.operations id (·.settle status reason) } }
  | upserted (req : RolloutRequest) (rev : ModelRevision) (g : ℤ) (new : s.db.poolGeneration? req.poolKey = none) :
      Wrote sv s (.upsertPool req rev g) { s with db := { s.db with
        poolGenerations := s.db.poolGenerations ++ [newPoolGeneration sv req rev] } }
  | observed (c) (key : PoolKey) (observations : List CurrentObservation) (observationEvents : List ObservationEvent) :
      Wrote sv s c { s with db := { s.db with
        poolGenerations := Table.modify PoolGeneration.key s.db.poolGenerations key PoolGeneration.qualify
        observations, observationEvents } }
  | swapped (req : RolloutRequest) (old b : ShardBinding) (observationId digest casDigest : String)
      (swappable : Swappable s.db req old b) :
      Wrote sv s (.casSwap req old observationId digest) { s with
        db := writeSwap req b casDigest s.db
        swaps := s.swaps ++ [⟨req.operationId, req.kind, b, b.swap req casDigest⟩] }
  | flagged (c) (shardId : String) (f : ShardBinding → ShardBinding) (key : ∀ b, (f b).shardId = b.shardId)
      (core : ∀ b, (f b).core = b.core) :
      Wrote sv s c { s with db := { s.db with
        bindings := Table.modify ShardBinding.shardId s.db.bindings shardId f } }
  | answered (call : EdgeCall) (r : RouteReadback) :
      Wrote sv s (.edge call) { s with answers := s.answers ++ [(call, r)] }
  | grouped (c : Cmd) (group : c.Groups) (groupId : String) (f : RolloutGroup → RolloutGroup)
      (groupShards : List GroupShard) (key : ∀ g, (f g).groupId = g.groupId)
      (template : ∀ g, (f g).template = g.template) :
      Wrote sv s c { s with db := { s.db with
        groups := Table.modify RolloutGroup.groupId s.db.groups groupId f, groupShards } }

variable (sv : Services) {may : RolloutRequest → ShardBinding → Prop} {F : Store → Prop}

/-- **What a command writes**, whatever its fate. -/
theorem act_wrote (e : Env) (c : Cmd) (s : Store) : Wrote sv s c (c.act sv e s).2 := by
  cases c with
  | appendOperation op =>
    refine execute_keeps (R := Wrote sv s _) (.nothing _) fun db' h => ?_
    obtain ⟨hnew, rfl⟩ := appendOperation_ok h
    exact .appended op hnew
  | setStatus id status reason =>
    refine execute_keeps (R := Wrote sv s _) (.nothing _) fun db' h => ?_
    rw [setOperationStatus_ok h]
    exact .settled id status reason
  | upsertPool req rev g =>
    refine transact_keeps (R := Wrote sv s _) (.nothing _) fun db' pool h => ?_
    rcases (upsertPoolGeneration_ok h).2 with rfl | ⟨hnew, rfl⟩
    · exact .nothing _
    · exact .upserted req rev g hnew
  | recordObservation =>
    refine transact_keeps (R := Wrote sv s _) (.nothing _) fun db' a h => ?_
    replace h := passed h
    obtain ⟨db₁, h₁, h⟩ := bind_ok.1 (wrap_ok.1 h)
    obtain ⟨db₂, h₂, h⟩ := bind_ok.1 h
    obtain ⟨db₃, h₃, h⟩ := bind_ok.1 h
    cases h
    replace h₃ := passed h₃
    cases h₃
    rw [advanceObservation_frame h₂, appendObservation_frame h₁]
    exact .observed _ _ _ _
  | casSwap req old observationId digest =>
    refine transact_keeps (R := Wrote sv s _) (.nothing _) fun db' a h => ?_
    obtain ⟨b, casDigest, hswap, rfl, rfl⟩ := casSwapBinding_ok h
    rw [noteSwap, hswap.found]
    exact .swapped req old b observationId digest casDigest hswap
  | markUnavailable req binding | markResumePending req binding | projectCurrent req binding =>
    refine execute_keeps (R := Wrote sv s _) (.nothing _) fun db' h => ?_
    replace h := passed h
    cases h
    exact .flagged _ _ _ (fun _ => rfl) fun _ => rfl
  | edge call =>
    simp only [Cmd.act, noteAnswer]
    split
    · exact .answered call _
    · exact .nothing _
  | startChild groupId index =>
    refine execute_keeps (R := Wrote sv s _) (.nothing _) fun db' h => ?_
    cases h
    have hgroups : Wrote sv s (.startChild groupId index) _ :=
      .grouped (.startChild groupId index) trivial groupId id (startChild groupId index s.db).groupShards (fun _ => rfl) fun _ => rfl
    simp only [Table.modify, id, ite_self, List.map_id'] at hgroups
    exact hgroups
  | rollGroup groupId =>
    refine execute_keeps (R := Wrote sv s _) (.nothing _) fun db' h => ?_
    cases h
    exact .grouped (.rollGroup groupId) trivial groupId RolloutGroup.roll _ (fun _ => rfl) fun _ => rfl
  | finishGroupChild groupId index status reason g e =>
    refine execute_keeps (R := Wrote sv s _) (.nothing _) fun db' h => ?_
    replace h := passed h
    split at h
    · cases h
      exact .grouped (.finishGroupChild groupId index status reason g e) trivial groupId _ _
        (RolloutGroup.advance_groupId index _) fun _ => by unfold RolloutGroup.advance; split <;> rfl
    · cases h
      exact .grouped (.finishGroupChild groupId index status reason g e) trivial groupId (RolloutGroup.fail index reason) _
        (fun _ => rfl) fun _ => rfl
  | stagePool pool | startReplicas pool | warmupAndCapacity pool => exact .nothing _
  | _ => exact query_keeps (R := Wrote sv s _) (.nothing _)

/-! ## Bindings -/

/-- the command is a swap for the request, from the binding that was loaded -/
def Cmd.Swaps (c : Cmd) (req : RolloutRequest) (old : ShardBinding) : Prop :=
  ∃ observationId digest, c = .casSwap req old observationId digest

/-- what is done to the bindings and to the list of swaps, where a swap is one that may be made -/
inductive Rebound (may : RolloutRequest → ShardBinding → Prop) (s s' : Store) : Prop
  | kept (bindings : ∀ shardId, (s'.db.binding? shardId).map ShardBinding.core = (s.db.binding? shardId).map ShardBinding.core)
      (swaps : s'.swaps = s.swaps)
  | swapped (req : RolloutRequest) (old b : ShardBinding) (casDigest : String) (made : may req old)
      (swappable : Swappable s.db req old b)
      (bindings : ∀ shardId, s'.db.binding? shardId =
        if shardId = req.shardId then some (b.swap req casDigest) else s.db.binding? shardId)
      (swaps : s'.swaps = s.swaps ++ [⟨req.operationId, req.kind, b, b.swap req casDigest⟩])

/-- the bindings are not touched at all -/
theorem Rebound.of_bindings {s s' : Store} (h : s'.db.bindings = s.db.bindings) (hs : s'.swaps = s.swaps) :
    Rebound may s s' :=
  .kept (fun shardId => by rw [Db.binding?, Db.binding?, h]) hs

/-- **What a command does to the bindings.** -/
theorem act_rebound (e : Env) (c : Cmd) (s : Store) : Rebound c.Swaps s (c.act sv e s).2 := by
  have hwrote := act_wrote sv e c s
  generalize (c.act sv e s).2 = s' at hwrote
  cases hwrote with
  | swapped req old b _ _ casDigest swappable =>
    refine .swapped req old b casDigest ⟨_, _, rfl⟩ swappable (fun x => ?_) rfl
    have hkey : ∀ b : ShardBinding, (b.swap req casDigest).shardId = b.shardId := fun _ => rfl
    have hlookup := binding?_modify s.db hkey req.shardId x
    rw [Db.binding?, writeSwap_bindings, hlookup, swappable.found]
    rfl
  | flagged _ shardId _ key core => exact .kept (Table.lookup_modify_column key core s.db.bindings shardId) rfl
  | _ => exact .of_bindings rfl rfl

/-! ## Operations -/

/-- what a command does to one operation -/
inductive Reported (c : Cmd) (id : String) (before after : Option RolloutOperation) : Prop
  | same (h : after = before)
  | appended (op : RolloutOperation) (made : c = .appendOperation op) (key : op.operationId = id) (new : before = none)
      (h : after = some op)
  | settled (op : RolloutOperation) (status : OperationStatus) (reason : String) (made : c = .setStatus id status reason)
      (old : before = some op) (h : after = some (op.settle status reason))

/-- what a command does to the operations; revisions and templates of groups it leaves alone -/
structure Recorded (c : Cmd) (s s' : Store) : Prop where
  revisions : s'.db.revisions = s.db.revisions
  templates : ∀ id, (s'.db.group? id).map RolloutGroup.template = (s.db.group? id).map RolloutGroup.template
  operations : ∀ id, Reported c id (s.db.operation? id) (s'.db.operation? id)

theorem Recorded.of_tables {c : Cmd} {s s' : Store} (revisions : s'.db.revisions = s.db.revisions)
    (groups : s'.db.groups = s.db.groups) (operations : s'.db.operations = s.db.operations) : Recorded c s s' :=
  ⟨revisions, fun id => by rw [Db.group?, Db.group?, groups],
    fun id => .same (by rw [Db.operation?, Db.operation?, operations])⟩

/-- **What a command does to the operations.** -/
theorem act_recorded (e : Env) (c : Cmd) (s : Store) : Recorded c s (c.act sv e s).2 := by
  have hwrote := act_wrote sv e c s
  generalize (c.act sv e s).2 = s' at hwrote
  cases hwrote with
  | appended op new =>
    refine ⟨rfl, fun _ => rfl, fun id => ?_⟩
    have hlookup : Db.operation? { s.db with operations := s.db.operations ++ [op] } id =
      if id = op.operationId then some op else s.db.operation? id := Table.lookup_append_new new id
    by_cases hid : id = op.operationId
    · rw [if_pos hid] at hlookup
      exact .appended op rfl hid.symm (hid ▸ new) hlookup
    · rw [if_neg hid] at hlookup
      exact .same hlookup
  | settled operationId status reason =>
    refine ⟨rfl, fun _ => rfl, fun id => ?_⟩
    have hkey : ∀ op : RolloutOperation, op.operationId = operationId → (op.settle status reason).operationId = operationId :=
      fun _ hop => hop
    have hlookup := Table.lookup_modify hkey s.db.operations id
    by_cases hid : id = operationId
    · subst hid
      rw [if_pos rfl] at hlookup
      cases hop : s.db.operation? id with
      | none =>
        rw [Db.operation?] at hop
        rw [hop] at hlookup
        exact .same hlookup
      | some op =>
        rw [Db.operation?] at hop
        rw [hop] at hlookup
        exact .settled op status reason rfl rfl hlookup
    · rw [if_neg hid] at hlookup
      exact .same hlookup
  | swapped =>
    rw [writeSwap_frame]
    exact .of_tables rfl rfl rfl
  | grouped _ _ groupId _ _ key template =>
    exact ⟨rfl, Table.lookup_modify_column key template s.db.groups groupId, fun _ => .same rfl⟩
  | _ => exact .of_tables rfl rfl rfl

/-! ## What the other services write -/

/-- everything another service can do to the tables -/
inductive Administered (sv : Services) (db : Db) : Admin → Db → Prop
  | nothing (x) : Administered sv db x db
  | registered (rev : ModelRevision) : Administered sv db (.register rev) { db with revisions := db.revisions ++ [rev] }
  | revoked (id : String) : Administered sv db (.revoke id) (revokeRevision id db)
  | controlled (x) (control : ControlState) : Administered sv db x { db with control }
  | assigned (rows : List Target.AssignmentRow) : Administered sv db (.assign rows) { db with assignments := rows }
  | grouped (req : RolloutGroupRequest) (new : db.group? req.groupId = none)
      (unique : ((db.groupShards ++ newChildren sv req).map GroupShard.operationId).Nodup) :
      Administered sv db (.createGroup req)
        { db with groups := db.groups ++ [newGroup sv req], groupShards := db.groupShards ++ newChildren sv req }

/-- what the creation of a group has checked, and what it has written -/
theorem createRolloutGroup_ok {sv : Services} {req : RolloutGroupRequest} {db db' : Db}
    (h : createRolloutGroup sv req db = .ok db') :
    (0 < req.orderedShards.length ∧ req.orderedShards.length ≤ 256) ∧
      ((db.group? req.groupId ≠ none ∧ db' = db) ∨ (db.group? req.groupId = none ∧
        ((db.groupShards ++ newChildren sv req).map GroupShard.operationId).Nodup ∧ db' = { db with
          groups := db.groups ++ [newGroup sv req], groupShards := db.groupShards ++ newChildren sv req })) := by
  obtain ⟨_, hcheck, h⟩ := bind_ok.1 h
  obtain ⟨_, hbounds, -⟩ := bind_ok.1 hcheck
  have hbounds := reject_ok.1 hbounds
  push Not at hbounds
  refine ⟨⟨List.length_pos_iff.2 hbounds.2.2.1, hbounds.2.2.2⟩, ?_⟩
  obtain ⟨_, -, h⟩ := bind_ok.1 (wrap_ok.1 h)
  split at h
  · rename_i hfound
    replace h := passed h
    cases h
    exact .inl ⟨by simp [hfound], rfl⟩
  · rename_i hnew
    replace h := passed h
    replace h := passed h
    obtain ⟨hunique, h⟩ := reject_then h
    cases h
    exact .inr ⟨hnew, not_not.1 hunique, rfl⟩

/-- **What another service writes.** -/
theorem admin_wrote (x : Admin) (db : Db) : Administered sv db x (x.exec sv db) := by
  cases x with
  | register rev =>
    simp only [Admin.exec, registerRevision]
    split
    · exact .nothing _
    · exact .registered rev
  | revoke id => exact .revoked id
  | rotate =>
    simp only [Admin.exec, rotateIncarnation]
    split
    · exact .nothing _
    · exact .controlled _ _
  | enableWriter =>
    simp only [Admin.exec, enableWriter]
    split
    · exact .controlled _ _
    · exact .nothing _
  | assign rows => exact .assigned rows
  | createGroup req =>
    simp only [Admin.exec]
    split
    · rename_i db' h
      rcases (createRolloutGroup_ok h).2 with ⟨-, rfl⟩ | ⟨hnew, hunique, rfl⟩
      · exact .nothing _
      · exact .grouped req hnew hunique
    · exact .nothing _

/-! ## The commands of a call -/

section

variable {P : Cmd → Prop} {α : Type}

theorem issues_attempt {c : Cmd} {onError : String → Proc commands α} {k : c.Val → Proc commands α} (hc : P c)
    (hk : ∀ a, (k a).Issues P) (he : ∀ e, (onError e).Issues P := by exact fun _ => trivial) :
    (attempt c onError k).Issues P := by
  refine ⟨hc, fun r => ?_⟩
  cases r with
  | ok a => exact hk a
  | error e => exact he e

theorem issues_ignore {c : Cmd} {k : Proc commands α} (hc : P c) (hk : k.Issues P) : (ignore c k).Issues P :=
  ⟨hc, fun _ => hk⟩

end

section

variable {α : Type} {C : Contract commands Store Env} {c : Cmd} {onError : String → Proc commands α}
  {k : c.Val → Proc commands α} {s : Store}

/-- a command under a stable fact -/
theorem safe_attempt_of (hF : Stable C F) (hs : F s)
    (hk : ∀ env t a, C.inv t → F t → (C.act env c t).1 = .ok a → F (C.act env c t).2 → Safe C (k a) (C.act env c t).2)
    (he : ∀ e t, F t → Safe C (onError e) t := by exact fun _ _ _ => trivial)
    (hguard : ∀ t, C.inv t → F t → C.guard c t := by exact fun _ _ _ => trivial) : Safe C (attempt c onError k) s := by
  refine ensures_ask fun t hst hinv => ?_
  have ht := hF.rely s t hst hs
  have hallowed := hguard t hinv ht
  refine ⟨hallowed, fun env _ => ?_⟩
  have hnext := hF.act env c t hinv hallowed ht
  cases h : (C.act env c t).1 with
  | ok a => exact hk env t a hinv ht h hnext
  | error e => exact he e _ hnext

/-- a command that is always allowed -/
theorem safe_attempt (hk : ∀ env t a, (C.act env c t).1 = .ok a → Safe C (k a) (C.act env c t).2)
    (hguard : ∀ t, C.guard c t := by exact fun _ => trivial) (he : ∀ e t, Safe C (onError e) t := by exact fun _ _ => trivial) :
    Safe C (attempt c onError k) s :=
  safe_attempt_of stable_true trivial (fun env t a _ _ h _ => hk env t a h) (fun e t _ => he e t) fun t _ _ => hguard t

end

/-- the rounds of a group are safe if the rollouts of its children are -/
theorem advanceRounds_safe {C : Contract commands Store Env} (hF : Stable C F) {sv : Services}
    (hact : C.act = Cmd.act sv) {template : RolloutRequest} {groupId : String}
    (hguard : ∀ c : Cmd, c.About groupId → ∀ t, C.guard c t)
    (hrollout : ∀ child t s, C.inv t → child ∈ t.db.shardsOf groupId → F s →
      Safe C (rollout sv (childRequest template child)) s) (rounds : ℕ)
    {s : Store} (hs : F s) : Safe C (advanceRounds sv groupId template rounds) s := by
  induction rounds generalizing s with
  | zero => trivial
  | succ _ ih =>
    have hallowed : ∀ c : Cmd, c.About groupId → ∀ t, C.inv t → F t → C.guard c t := fun c hc t _ _ => hguard c hc t
    refine safe_attempt_of hF hs (fun _ _ group _ _ _ hs => ?_) (fun _ _ _ => trivial) (hallowed (.loadGroup _) rfl)
    refine safe_attempt_of hF hs (fun env t shards hinv _ hshards hs => ?_) (fun _ _ _ => trivial)
      (hallowed (.loadGroupShards _) rfl)
    have hloaded : .ok (t.db.shardsOf groupId) = (.ok shards : GoResult (List GroupShard)) := by
      rw [hact] at hshards
      exact query_ok hshards
    cases hloaded
    split
    · trivial
    · split
      · trivial
      · rename_i child hchild
        split
        · trivial
        · refine safe_attempt_of hF hs (fun _ _ _ _ _ _ hs => ?_) (fun _ _ _ => trivial) (hallowed (.startChild _ _) rfl)
          refine safe_attempt_of hF hs (fun _ _ _ _ _ _ hs => ?_) (fun _ _ _ => trivial) (hallowed (.rollGroup _) rfl)
          refine safe_bind hF hs (hrollout child t _ hinv (List.mem_of_getElem? hchild) hs) fun result t ht => ?_
          refine safe_attempt_of hF ht (fun _ _ _ _ _ _ hs => ?_) (fun _ _ _ => trivial)
            (hallowed (.finishGroupChild _ _ _ _ _ _) rfl)
          split
          · trivial
          · exact ih hs

/-- the commands of a rollout that has loaded its revision and its binding -/
def Frame.Owns (sv : Services) (f : Frame) : Cmd → Prop
  | .appendOperation op => op = newOperation sv f.req f.binding
  | .setStatus operationId _ _ => operationId = f.req.operationId
  | .upsertPool req rev _ => req = f.req ∧ rev = f.rev
  | .casSwap req old _ _ => req = f.req ∧ old = f.binding
  | .markUnavailable req binding => req = f.req ∧ binding = f.binding
  | .markResumePending req _ => req = f.req
  | .projectCurrent _ _ => False
  | .startChild _ _ => False
  | .rollGroup _ => False
  | .finishGroupChild _ _ _ _ _ _ => False
  | _ => True

section

variable (sv : Services) (f : Frame)

theorem fail_issues {reason : String} {cause : Option String} : (f.fail reason cause).Issues (f.Owns sv) :=
  issues_ignore rfl trivial

theorem withdrawn_issues {reason : String} {cause : Option String} : (f.withdrawn reason cause).Issues (f.Owns sv) :=
  issues_ignore ⟨rfl, rfl⟩ (issues_ignore rfl trivial)

theorem unconfirmed_issues (b : ShardBinding) (reason : String) (cause : Option String) :
    (f.unconfirmed b reason cause).Issues (f.Owns sv) :=
  issues_ignore rfl (issues_ignore rfl trivial)

variable (pool : Pool)

theorem handshake_issues (b : ShardBinding) : (f.handshake pool b).Issues (f.Owns sv) := by
  refine issues_attempt rfl (fun _ => ?_) fun e => issues_ignore rfl trivial
  refine issues_attempt trivial (fun resumed => ?_) fun e => unconfirmed_issues sv f b _ _
  split
  · exact issues_attempt rfl fun _ => trivial
  · exact unconfirmed_issues sv f b _ _

variable (observationId : String)

theorem commit_issues : (f.commit pool observationId).Issues (f.Owns sv) := by
  refine issues_attempt rfl (fun _ => ?_) fun e => withdrawn_issues sv f
  refine issues_attempt ⟨rfl, rfl⟩ (fun newBinding => ?_) fun e => withdrawn_issues sv f
  exact handshake_issues sv f pool newBinding

theorem moveRoute_issues (readback : Readback) (observationId : String) :
    (f.moveRoute pool readback observationId).Issues (f.Owns sv) := by
  refine issues_attempt rfl (fun _ => ?_) fun e => fail_issues sv f
  refine issues_attempt trivial (fun prepared => ?_) fun e => withdrawn_issues sv f
  split
  · exact withdrawn_issues sv f
  · refine issues_attempt trivial (fun committed => ?_) fun e => withdrawn_issues sv f
    split
    · exact withdrawn_issues sv f
    · exact commit_issues sv f pool observationId

theorem deploy_issues : (f.deploy sv pool).Issues (f.Owns sv) := by
  refine issues_attempt trivial (fun _ => ?_) fun e => fail_issues sv f
  refine issues_attempt rfl (fun _ => ?_) fun e => fail_issues sv f
  refine issues_attempt trivial (fun readback => ?_) fun e => fail_issues sv f
  refine issues_attempt trivial (fun capacity => ?_) fun e => fail_issues sv f
  split
  · exact fail_issues sv f
  · refine issues_attempt trivial (fun observationId => ?_) fun e => fail_issues sv f
    exact moveRoute_issues sv f pool readback observationId

theorem execute_issues : (f.execute sv).Issues (f.Owns sv) := by
  refine issues_attempt rfl fun _ => ?_
  refine issues_attempt ⟨rfl, rfl⟩ (fun pool => ?_) fun e => fail_issues sv f
  refine issues_attempt rfl (fun _ => ?_) fun e => fail_issues sv f
  refine issues_attempt trivial (fun reusable => ?_) fun e => fail_issues sv f
  split
  · unfold Frame.reuse
    split
    · exact fail_issues sv f
    · exact moveRoute_issues sv f pool _ _
  · exact deploy_issues sv f pool

/-- the commands of a rollout once its target is resolved -/
theorem start_issues {P : Cmd → Prop}
    (h : ∀ req, resolveTarget f.req f.binding = .ok req → ∀ c, Frame.Owns sv { f with req } c → P c) :
    (f.start sv).Issues P := by
  unfold Frame.start
  split
  · trivial
  · rename_i req hreq
    split
    · trivial
    · exact (execute_issues sv { f with req }).imp (h req hreq)

end

/-- the commands of a recovery that has loaded its operation -/
def Recovers (req : RolloutRequest) : Cmd → Prop
  | .appendOperation _ => False
  | .setStatus operationId status _ => operationId = req.operationId ∧ status = .applied
  | .upsertPool _ _ _ => False
  | .casSwap r _ _ _ => r = req
  | .markUnavailable _ _ => False
  | .markResumePending r _ => r = req
  | .projectCurrent r _ => r = req
  | .startChild _ _ => False
  | .rollGroup _ => False
  | .finishGroupChild _ _ _ _ _ _ => False
  | _ => True

variable (req : RolloutRequest)

theorem recoverUnconfirmed_issues (b : ShardBinding) (cause : Option String) :
    (recoverUnconfirmed req b cause).Issues (Recovers req) := issues_ignore rfl trivial

variable (pool : Pool)

theorem recoverResume_issues (b : ShardBinding) : (recoverResume req pool b).Issues (Recovers req) := by
  refine issues_attempt trivial (fun resumed => ?_) fun e => recoverUnconfirmed_issues req b _
  split
  · refine issues_attempt rfl fun _ => ?_
    exact issues_attempt ⟨rfl, rfl⟩ fun _ => trivial
  · exact recoverUnconfirmed_issues req b _

theorem recoverPending_issues : (recoverPending req).Issues (Recovers req) := by
  unfold recoverPending
  split
  · trivial
  · refine issues_attempt trivial fun pool => ?_
    refine issues_attempt trivial fun observed => ?_
    refine issues_attempt trivial fun b => ?_
    unfold recoverBinding
    split
    · trivial
    · split
      · refine issues_attempt trivial fun committed => ?_
        split
        · trivial
        · refine issues_attempt rfl fun newBinding => ?_
          exact recoverResume_issues req pool newBinding
      · exact recoverResume_issues req pool b

end MasiEdge.Model
