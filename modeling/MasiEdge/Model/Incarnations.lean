/-
The writer after a restore (`incarnation.go`, the fence of `ingest.go`).

A rotation closes the writer and makes an incarnation active that was never used. `EnableWriter` opens it once every shard is
bound under that incarnation. But a shard is bound again only by a swap, which needs an open writer and a binding under the
active incarnation, and keeps the incarnation of the binding.

* `writer_reopens_iff`: the writer can be reopened exactly if there are no shards, and nothing passes the fence;
* `restored_writer_stays_closed`: a run with one shard.
-/
import MasiEdge.Model.Bindings

namespace MasiEdge.Model

open Process Run

/-- the world, and the ids of `model_control_incarnations` -/
structure Restored where
  world : ModelWorld
  ids : List String

abbrev Restored.db (r : Restored) : Db := r.world.store.db

/-- the id is new, which the primary key asks for, and the one it replaces is active -/
def Restored.Accepts (r : Restored) (replaced id : String) : Prop :=
  id ∉ r.ids ∧ (replaced ≠ "" → r.db.control.activeIncarnationId = some replaced)
deriving Decidable

def Restored.step (sv : Services) (r : Restored) : Event → Restored
  | .outside (.rotate replaced id) =>
    if r.Accepts replaced id then ⟨Process.step (manager sv) r.world (.outside (.rotate replaced id)), r.ids ++ [id]⟩ else r
  | op => { r with world := Process.step (manager sv) r.world op }

/-- a rotation and what follows it -/
def Restored.after (sv : Services) (r : Restored) (replaced id : String) (ops : List Event) : Restored :=
  ops.foldl (Restored.step sv) (r.step sv (.outside (.rotate replaced id)))

/-- the foreign keys to `model_control_incarnations` -/
structure Restored.Keyed (r : Restored) : Prop where
  bindings : ∀ b ∈ r.db.bindings, b.modelControlIncarnationId ∈ r.ids
  active : ∀ id ∈ r.db.control.activeIncarnationId, id ∈ r.ids

/-- `EnableWriter` has succeeded, and every shard is current -/
def Reopened (id : String) (db : Db) : Prop :=
  db.control.Writes id ∧ ∀ b ∈ db.bindings, b.modelControlIncarnationId = id ∧ b.resumeState = .current

/-- what is compared of an inference result -/
structure ResultFence where
  shardId : String
  scope : String
  key : PoolKey
  bindingGeneration : ℤ
  routeEpoch : ℤ
  digests : PoolDigests

/-- the fence of `ingestOne`, asked before a result is inserted -/
def BindingExact (result : ResultFence) (db : Db) : Prop :=
  ∃ b ∈ db.bindings, ∃ pg ∈ db.poolGenerations,
    pg.key = ⟨b.logicalPoolId, b.modelControlIncarnationId, b.currentGeneration⟩ ∧ pg.key = result.key ∧
    b.shardId = result.shardId ∧ b.scope = result.scope ∧ db.control.Writes b.modelControlIncarnationId ∧
    b.currentBindingGeneration = result.bindingGeneration ∧ b.routeEpoch = result.routeEpoch ∧ b.resumeState = .current ∧
    pg.status = .active ∧ pg.capacityQualified = true ∧ pg.digests = result.digests

/-! ## What stays closed -/

/-- the shards are bound as they were, and nothing that was registered is active -/
structure Restored.Fenced (r : Restored) (s : Store) : Prop where
  bindings : s.db.bindings.map ShardBinding.modelControlIncarnationId =
    r.db.bindings.map ShardBinding.modelControlIncarnationId
  active : ∀ id ∈ s.db.control.activeIncarnationId, id ∉ r.ids
  swaps : s.swaps = r.world.store.swaps

section

variable {sv : Services} {r t : Restored} {s : Store} {replaced id : String} {b : ShardBinding}

/-- only a rotation changes the active incarnation -/
theorem Restored.Fenced.outside (h : r.Fenced s) {x : Admin} (hnew : ∀ replaced id, x = .rotate replaced id → id ∉ r.ids) :
    r.Fenced ((manager sv).outside x s) := by
  refine ⟨(congrArg _ (admin_keeps sv x s.db).1).trans h.bindings, fun id hid => ?_, h.swaps⟩
  change id ∈ (x.exec sv s.db).control.activeIncarnationId at hid
  cases x with
  | rotate replaced =>
    simp only [Admin.exec, rotateIncarnation] at hid
    split at hid
    · exact h.active id hid
    · cases hid
      exact hnew replaced id rfl
  | revoke _ | assign _ => exact h.active id hid
  | register _ | enableWriter _ =>
    simp only [Admin.exec, registerRevision, enableWriter] at hid
    split at hid <;> exact h.active id hid
  | createGroup =>
    simp only [Admin.exec] at hid
    split at hid
    · rename_i db' hcreated
      rcases (createRolloutGroup_ok hcreated).2 with ⟨-, rfl⟩ | ⟨-, -, rfl⟩ <;> exact h.active id hid
    · exact h.active id hid

variable (hkeys : r.Keyed)
include hkeys

/-- no binding is under the active incarnation -/
theorem Restored.Fenced.not_writes (h : r.Fenced s) (hb : b ∈ s.db.bindings) :
    ¬ s.db.control.Writes b.modelControlIncarnationId := by
  intro hwrites
  have hrow : b.modelControlIncarnationId ∈ r.db.bindings.map ShardBinding.modelControlIncarnationId := by
    rw [← h.bindings]
    exact List.mem_map_of_mem hb
  obtain ⟨old, hold, heq⟩ := List.mem_map.1 hrow
  exact h.active _ hwrites.2 (heq ▸ hkeys.bindings old hold)

/-- so no command swaps -/
theorem Restored.Fenced.act (h : r.Fenced s) (e : Env) (c : Cmd) : r.Fenced (c.act sv e s).2 := by
  have hwrote := act_wrote sv e c s
  generalize (c.act sv e s).2 = s' at hwrote
  cases hwrote with
  | swapped _ _ _ _ _ _ swappable =>
    exact absurd swappable.writes (h.not_writes hkeys (Table.mem_of_lookup swappable.found))
  | flagged _ _ _ _ core =>
    refine ⟨?_, h.active, h.swaps⟩
    rw [← h.bindings, Table.modify, List.map_map]
    refine List.map_congr_left fun b _ => ?_
    have hcore := congrArg ShardBinding.modelControlIncarnationId (core b)
    dsimp only [Function.comp]
    split
    · exact hcore
    · rfl
  | _ => exact ⟨h.bindings, h.active, h.swaps⟩

theorem Restored.Fenced.step (h : r.Fenced t.world.store) (hids : r.ids ⊆ t.ids) (op : Event) :
    r.Fenced (t.step sv op).world.store ∧ r.ids ⊆ (t.step sv op).ids := by
  have hstep : (∀ replaced id, op = .outside (.rotate replaced id) → id ∉ r.ids) →
      r.Fenced (Process.step (manager sv) t.world op).store := fun hnew =>
    step_store (P := r.Fenced) h (fun x hx => h.outside fun replaced id hr => hnew replaced id (hr ▸ hx))
      fun _ e _ c _ _ _ _ _ => h.act hkeys e c
  unfold Restored.step
  split
  · split_ifs with haccepted
    · refine ⟨hstep fun _ id heq hid => haccepted.1 ?_, fun i hi => List.mem_append_left _ (hids hi)⟩
      cases heq
      exact hids hid
    · exact ⟨h, hids⟩
  · rename_i hop
    exact ⟨hstep fun replaced id heq => (hop replaced id heq).elim, hids⟩

variable (sv) (haccepted : r.Accepts replaced id)
include haccepted

omit hkeys in
/-- what an accepted rotation leaves -/
theorem rotate_step : r.step sv (.outside (.rotate replaced id)) =
    ⟨{ r.world with store := { r.world.store with db := { r.db with control := ⟨some id, false⟩ } } }, r.ids ++ [id]⟩ := by
  have hdb : rotateIncarnation replaced id r.db = { r.db with control := ⟨some id, false⟩ } :=
    if_neg fun hne => hne.2 (haccepted.2 hne.1)
  rw [Restored.step, if_pos haccepted, ← hdb]
  rfl

theorem after_fenced (ops : List Event) : r.Fenced (r.after sv replaced id ops).world.store := by
  refine (foldl_invariant (P := fun t : Restored => r.Fenced t.world.store ∧ r.ids ⊆ t.ids) ?_
    (fun _ op ht => ht.1.step hkeys ht.2 op) ops).1
  rw [rotate_step sv haccepted]
  refine ⟨⟨rfl, fun i hi => ?_, rfl⟩, List.subset_append_left _ _⟩
  cases hi
  exact haccepted.1

/-- a shard keeps the writer closed -/
theorem bindings_of_reopened {ops : List Event} (h : Reopened id (r.after sv replaced id ops).db) : r.db.bindings = [] := by
  have hfenced := after_fenced sv hkeys haccepted ops
  have hnone : (r.after sv replaced id ops).db.bindings = [] := by
    refine List.eq_nil_iff_forall_not_mem.2 fun b hb => hfenced.not_writes hkeys hb ?_
    rw [(h.2 b hb).1]
    exact h.1
  have hrows := hfenced.bindings
  rw [hnone] at hrows
  exact List.map_eq_nil_iff.1 hrows.symm

/-- **The writer after a restore.** From every state that the foreign keys allow, with any calls under way, and after every
accepted rotation: some run reopens the writer of the new incarnation with every shard current under it exactly if there is no
shard. In every run no swap commits, no inference result passes the fence, and the replaced incarnation is never active again. -/
theorem writer_reopens_iff :
    ((∃ ops, Reopened id (r.after sv replaced id ops).db) ↔ r.db.bindings = []) ∧
      ∀ ops, let t := r.after sv replaced id ops
        t.world.store.swaps = r.world.store.swaps ∧ (∀ result, ¬ BindingExact result t.db) ∧
          ∀ old ∈ r.db.control.activeIncarnationId, t.db.control.activeIncarnationId ≠ some old := by
  refine ⟨⟨fun ⟨ops, h⟩ => bindings_of_reopened sv hkeys haccepted h, fun hnone => ?_⟩, fun ops => ?_⟩
  · refine ⟨[.outside (.enableWriter id)], ?_⟩
    change Reopened id (enableWriter id (r.step sv (.outside (.rotate replaced id))).db)
    rw [rotate_step sv haccepted]
    simp [enableWriter, Reopened, hnone, ControlState.Writes]
  · have hfenced := after_fenced sv hkeys haccepted ops
    refine ⟨hfenced.swaps, ?_, fun old hold hactive => hfenced.active old hactive (hkeys.active old hold)⟩
    rintro result ⟨b, hb, pg, -, -, -, -, -, hwrites, -⟩
    exact hfenced.not_writes hkeys hb hwrites

end

/-- bindings under the first incarnation -/
def restored (bindings : List ShardBinding) : Restored :=
  ⟨⟨⟨{ sampleDb with bindings }, [], []⟩, []⟩, ["incarnation-1"]⟩

theorem reopened_without_shards :
    ∃ ops, Reopened "incarnation-2" ((restored []).after plainServices "incarnation-1" "incarnation-2" ops).db :=
  (writer_reopens_iff plainServices (r := restored []) ⟨by decide, by decide⟩ (by decide)).1.2 rfl

/-- **One shard keeps the writer closed for good.** -/
theorem restored_writer_stays_closed :
    (restored [sampleBinding]).Accepts "incarnation-1" "incarnation-2" ∧ ∀ ops,
      ¬ Reopened "incarnation-2" ((restored [sampleBinding]).after plainServices "incarnation-1" "incarnation-2" ops).db := by
  have haccepted : (restored [sampleBinding]).Accepts "incarnation-1" "incarnation-2" := by decide
  refine ⟨haccepted, fun ops h => ?_⟩
  have hnone := bindings_of_reopened plainServices ⟨by decide, by decide⟩ haccepted h
  cases hnone

end MasiEdge.Model
