/-
The rows of a rollout group.

`AdvanceRolloutGroup` takes the shards of a group in their order. It marks the child running, runs a whole `Rollout` outside of
any transaction, and then records the result. Nothing keeps a second call from doing the same: the update to running is not
checked for the row it should have changed. The operation of the child is appended once, so the second `Rollout` is refused, and
that refusal is recorded as the result of the child. A call that is stopped leaves its child running, and no later call goes on
from there.

So the group is faithful to its operations if its calls come one at a time and are not interrupted. Here is what each command
does to the rows of one group; the calls are followed in the next module.

* `GroupInv`: the children around the cursor of their group, each in agreement with its operation;
* `act_same`, `admin_same`: what the other calls and the other services do leaves the group alone;
* `own_inv`: what a call of the group may do keeps the rows in order.
-/
import MasiEdge.Model.Recovery

namespace MasiEdge.Model

open Control List

/-! ## The rows of a group -/

/-- the status of a child is that of its operation; a child is failed or applied without one if its rollout was refused, or
found the shard at the target -/
def Agrees (status : ChildStatus) (row : Option RolloutOperation) : Prop :=
  match status with
  | .planned => row = none
  | .blocked => row = none
  | .running => True
  | .applied => ∀ op ∈ row, op.status = .applied
  | .failed => ∀ op ∈ row, op.status = .failed
  | .resumePending => ∃ op ∈ row, op.status = .resumePending

instance (status : ChildStatus) (row : Option RolloutOperation) : Decidable (Agrees status row) := by
  cases status <;> unfold Agrees <;> infer_instance

/-- the children around the cursor of their group -/
structure Placed (g : RolloutGroup) (cs : List GroupShard) : Prop where
  bound : g.nextIndex ≤ cs.length
  more : ¬ g.status.Ended → g.nextIndex < cs.length
  before : ∀ i c, cs[i]? = some c → i < g.nextIndex → c.status = .applied
  cursor : ∀ c, cs[g.nextIndex]? = some c →
    if g.status.Ended then c.status = .failed ∨ c.status = .resumePending else c.status = .planned ∨ c.status = .running
  after : ∀ i c, cs[i]? = some c → g.nextIndex < i → c.status = if g.status.Ended then .blocked else .planned

/-- the rows of a group with the operations of its children -/
structure GroupInv (groupId : String) (ids : List String) (db : Db) : Prop where
  placed : ∃ g, db.group? groupId = some g ∧ Placed g (db.shardsOf groupId)
  frozen : (db.shardsOf groupId).map GroupShard.operationId = ids
  indexed : ∀ (i : ℕ) (c : GroupShard), (db.shardsOf groupId)[i]? = some c → c.shardIndex = i
  faithful : ∀ c ∈ db.shardsOf groupId, Agrees c.status (db.operation? c.operationId)
  separate : ∀ c ∈ db.groupShards, c.groupId ≠ groupId → c.operationId ∉ ids

/-- nothing of the group is changed -/
structure Same (groupId : String) (ids : List String) (db db' : Db) : Prop where
  group : db'.group? groupId = db.group? groupId
  children : db'.shardsOf groupId = db.shardsOf groupId
  rows : ∀ id ∈ ids, db'.operation? id = db.operation? id
  others : ∀ c ∈ db'.groupShards, c.groupId ≠ groupId → c.operationId ∉ ids ∨ ∃ c' ∈ db.groupShards,
    c'.groupId ≠ groupId ∧ c'.operationId = c.operationId

section

variable {groupId : String} {ids : List String} {db db' : Db} {f : GroupShard → GroupShard}

theorem Same.of_tables (groups : db'.groups = db.groups) (shards : db'.groupShards = db.groupShards)
    (rows : ∀ id ∈ ids, db'.operation? id = db.operation? id) : Same groupId ids db db' :=
  ⟨by rw [Db.group?, groups, Db.group?], by rw [Db.shardsOf, shards, Db.shardsOf], rows,
    fun c hc hne => .inr ⟨c, shards ▸ hc, hne, rfl⟩⟩

theorem Same.refl (db : Db) : Same groupId ids db db := .of_tables rfl rfl fun _ _ => rfl

theorem Same.trans {db'' : Db} (h₁ : Same groupId ids db db') (h₂ : Same groupId ids db' db'') : Same groupId ids db db'' := by
  refine ⟨h₂.group.trans h₁.group, h₂.children.trans h₁.children, fun id hid => (h₂.rows id hid).trans (h₁.rows id hid),
    fun c hc hne => ?_⟩
  rcases h₂.others c hc hne with h | ⟨c', hc', hne', heq⟩
  · exact .inl h
  · rw [← heq]
    exact h₁.others c' hc' hne'

theorem GroupInv.mem_ids (h : GroupInv groupId ids db) {c : GroupShard} (hc : c ∈ db.shardsOf groupId) :
    c.operationId ∈ ids := by
  rw [← h.frozen]
  exact mem_map_of_mem hc

theorem GroupInv.same (h : GroupInv groupId ids db) (hsame : Same groupId ids db db') : GroupInv groupId ids db' := by
  obtain ⟨g, hg, hplaced⟩ := h.placed
  refine ⟨⟨g, hsame.group.trans hg, ?_⟩, ?_, ?_, fun c hc => ?_, fun c hc hne => ?_⟩
  · rw [hsame.children]
    exact hplaced
  · rw [hsame.children]
    exact h.frozen
  · rw [hsame.children]
    exact h.indexed
  · rw [hsame.children] at hc
    rw [hsame.rows _ (h.mem_ids hc)]
    exact h.faithful c hc
  · rcases hsame.others c hc hne with hnew | ⟨c', hc', hne', heq⟩
    · exact hnew
    · rw [← heq]
      exact h.separate c' hc' hne'

/-- an update of a child that leaves what identifies it -/
structure Keeps (f : GroupShard → GroupShard) : Prop where
  group : ∀ c, (f c).groupId = c.groupId
  index : ∀ c, (f c).shardIndex = c.shardIndex
  operation : ∀ c, (f c).operationId = c.operationId

theorem shardsOf_map (db : Db) (groupId : String) (hf : Keeps f) :
    (db.groupShards.map f).filter (fun c => decide (c.groupId = groupId)) = (db.shardsOf groupId).map f := by
  rw [filter_map, Db.shardsOf]
  congr 1
  apply filter_congr
  intro c _
  simp [hf.group]

end

/-! ## The commands of the other calls -/

/-- the command is about another group, and about other operations -/
def Elsewhere (groupId : String) (ids : List String) : Cmd → Prop
  | .appendOperation op => op.operationId ∉ ids
  | .setStatus id _ _ => id ∉ ids
  | .startChild g _ => g ≠ groupId
  | .rollGroup g => g ≠ groupId
  | .finishGroupChild g _ _ _ _ _ => g ≠ groupId
  | _ => True

section

variable {groupId other : String} {ids : List String} {db db' : Db} {f : GroupShard → GroupShard} {groups : List RolloutGroup}

/-- an update of the children of another group -/
theorem same_of_children (hne : other ≠ groupId) (hf : Keeps f) (hother : ∀ c, c.groupId ≠ other → f c = c)
    (hgroups : Table.lookup RolloutGroup.groupId groups groupId = db.group? groupId) :
    Same groupId ids db { db with groups, groupShards := db.groupShards.map f } := by
  refine ⟨hgroups, ?_, fun _ _ => rfl, fun c hc hc' => ?_⟩
  · refine (shardsOf_map db groupId hf).trans ?_
    have hsame : ∀ c ∈ db.shardsOf groupId, f c = id c := by
      intro c hc
      have hc := of_decide_eq_true (List.mem_filter.1 hc).2
      exact hother c fun heq => hne (heq.symm.trans hc)
    rw [map_congr_left hsame, map_id]
  · obtain ⟨c', hmem, rfl⟩ := List.mem_map.1 hc
    exact .inr ⟨c', hmem, by rwa [hf.group] at hc', (hf.operation c').symm⟩

theorem group?_modify_other (hne : other ≠ groupId) {f : RolloutGroup → RolloutGroup} (hf : ∀ g, (f g).groupId = g.groupId)
    (groups : List RolloutGroup) :
    Table.lookup RolloutGroup.groupId (Table.modify RolloutGroup.groupId groups other f) groupId =
      Table.lookup RolloutGroup.groupId groups groupId := by
  rw [Table.lookup_modify fun g hg => (hf g).trans hg, if_neg fun h => hne h.symm]

/-- the update that `changeChild` runs over the children -/
def changeOne (groupId : String) (index : ℕ) (status : ChildStatus) (f : GroupShard → GroupShard) (c : GroupShard) : GroupShard :=
  if c.groupId = groupId ∧ c.shardIndex = index ∧ c.status = status then f c else c

theorem changeOne_keeps (groupId : String) (index : ℕ) (status : ChildStatus) (hf : Keeps f) :
    Keeps (changeOne groupId index status f) := by
  constructor <;> intro c <;> unfold changeOne <;> split
  · exact hf.group c
  · rfl
  · exact hf.index c
  · rfl
  · exact hf.operation c
  · rfl

theorem start_keeps : Keeps GroupShard.start := ⟨fun _ => rfl, fun _ => rfl, fun _ => rfl⟩

theorem finish_keeps (status : ChildStatus) (reason : String) (generation epoch : ℤ) :
    Keeps (GroupShard.finish status reason generation epoch) := ⟨fun _ => rfl, fun _ => rfl, fun _ => rfl⟩

theorem block_keeps (groupId : String) (index : ℕ) : Keeps (GroupShard.block groupId index) := by
  constructor <;> intro c <;> unfold GroupShard.block <;> split <;> rfl

theorem Keeps.comp {g : GroupShard → GroupShard} (hg : Keeps g) (hf : Keeps f) : Keeps fun c => g (f c) :=
  ⟨fun c => (hg.group _).trans (hf.group c), fun c => (hg.index _).trans (hf.index c),
    fun c => (hg.operation _).trans (hf.operation c)⟩

theorem changeChild_same (hne : other ≠ groupId) (hf : Keeps f) (index : ℕ) (status : ChildStatus)
    (hgroups : Table.lookup RolloutGroup.groupId groups groupId = db.group? groupId) :
    Same groupId ids db { changeChild other index status f db with groups } :=
  same_of_children hne (changeOne_keeps other index status hf) (fun _ hc => if_neg fun h => hc h.1) hgroups

theorem finishGroupChild_same (hne : other ≠ groupId) {index : ℕ} {status : ChildStatus} {reason : String} {g e : ℤ}
    (h : finishGroupChild other index status reason g e db = .ok db') : Same groupId ids db db' := by
  replace h := passed h
  have hfinish := finish_keeps status reason g e
  split at h
  · cases h
    exact changeChild_same hne hfinish index .running
      (group?_modify_other hne (RolloutGroup.advance_groupId index _) db.groups)
  · cases h
    have hfail : ∀ g : RolloutGroup, (g.fail index reason).groupId = g.groupId := fun _ => rfl
    have hchanged : Same groupId ids db (changeChild other index .running (GroupShard.finish status reason g e) db) :=
      changeChild_same hne hfinish index .running rfl
    refine hchanged.trans ?_
    exact same_of_children hne (block_keeps other index) (fun _ hother => if_neg fun hc => hother hc.1)
      (group?_modify_other hne hfail db.groups)

end

variable {ids : List String} {groupId : String} {g : RolloutGroup} {sv : Services}

/-- what is not about groups at all -/
theorem Wrote.same {s s' : Store} {c : Cmd} (h : Wrote sv s c s') (hc : Elsewhere groupId ids c)
    (hgroups : ¬ c.Groups) : Same groupId ids s.db s'.db := by
  cases h with
  | appended op new =>
    refine .of_tables rfl rfl fun id hid => ?_
    have hne : id ≠ op.operationId := fun heq => hc (heq ▸ hid)
    exact (Table.lookup_append_new new id).trans (if_neg hne)
  | settled operationId status reason =>
    refine .of_tables rfl rfl fun id hid => ?_
    have hkey : ∀ op : RolloutOperation, op.operationId = operationId → (op.settle status reason).operationId = operationId :=
      fun _ hop => hop
    have hne : id ≠ operationId := fun heq => hc (heq ▸ hid)
    exact (Table.lookup_modify hkey s.db.operations id).trans (if_neg hne)
  | swapped =>
    rw [writeSwap_frame]
    exact .of_tables rfl rfl fun _ _ => rfl
  | grouped _ group => exact absurd group hgroups
  | _ => exact .of_tables rfl rfl fun _ _ => rfl

/-- **What another call does leaves the group alone.** -/
theorem act_same (sv : Services) (e : Env) {c : Cmd} (hc : Elsewhere groupId ids c) (s : Store) :
    Same groupId ids s.db (c.act sv e s).2.db := by
  cases c with
  | startChild _ index =>
    refine execute_keeps (R := fun t => Same groupId ids s.db t.db) (.refl _) fun db' h => ?_
    cases h
    exact changeChild_same hc start_keeps index .planned rfl
  | rollGroup =>
    refine execute_keeps (R := fun t => Same groupId ids s.db t.db) (.refl _) fun db' h => ?_
    cases h
    have hroll : ∀ g : RolloutGroup, g.roll.groupId = g.groupId := fun _ => rfl
    exact ⟨group?_modify_other hc hroll s.db.groups, rfl, fun _ _ => rfl, fun c hc hne => .inr ⟨c, hc, hne, rfl⟩⟩
  | finishGroupChild =>
    exact execute_keeps (R := fun t => Same groupId ids s.db t.db) (.refl _) fun db' h => finishGroupChild_same hc h
  | loadGroup g | loadGroupShards g => exact query_keeps (R := fun t => Same groupId ids s.db t.db) (.refl _)
  | _ => exact (act_wrote sv e _ s).same hc fun h => h

theorem newChildren_groupId {req : RolloutGroupRequest} {c : GroupShard} (h : c ∈ newChildren sv req) :
    c.groupId = req.groupId := by
  obtain ⟨i, -, rfl⟩ := List.mem_mapIdx.1 h
  rfl

/-- the other services leave it alone; a group that is created has operations of its own -/
theorem admin_same (sv : Services) (x : Admin) {db : Db} (hinv : GroupInv groupId ids db) :
    Same groupId ids db (x.exec sv db) := by
  have hwrote := admin_wrote sv x db
  generalize x.exec sv db = db' at hwrote
  cases hwrote with
  | grouped req new unique =>
    obtain ⟨g, hg, -⟩ := hinv.placed
    have hne : req.groupId ≠ groupId := by
      rintro rfl
      rw [new] at hg
      cases hg
    have hnone : (newChildren sv req).filter (fun c => decide (c.groupId = groupId)) = [] := by
      rw [filter_eq_nil_iff]
      intro c hc
      simpa [newChildren_groupId hc] using hne
    refine ⟨Table.lookup_append_of_some hg _ |>.trans hg.symm, ?_, fun _ _ => rfl, fun c hc hc' => ?_⟩
    · show (db.groupShards ++ newChildren sv req).filter _ = _
      rw [filter_append, hnone, append_nil]
      rfl
    · rcases List.mem_append.1 hc with hc | hc
      · exact .inr ⟨c, hc, hc', rfl⟩
      · refine .inl fun hid => ?_
        rw [map_append, nodup_append] at unique
        rw [← hinv.frozen] at hid
        obtain ⟨c', hc'', heq⟩ := List.mem_map.1 hid
        exact unique.2.2 _ (mem_map_of_mem (List.mem_filter.1 hc'').1) _ (mem_map_of_mem hc) heq
  | _ => exact .of_tables rfl rfl fun _ _ => rfl

/-! ## The commands of its own calls -/

/-- the group is open and its cursor is at the index -/
def Open (groupId : String) (db : Db) (i : ℕ) : Prop :=
  ∃ g, db.group? groupId = some g ∧ ¬ g.status.Ended ∧ g.nextIndex = i

/-- the child at the cursor is running, with the operation -/
structure Running (groupId : String) (db : Db) (i : ℕ) (id : String) : Prop where
  group : Open groupId db i
  child : ∃ c, (db.shardsOf groupId)[i]? = some c ∧ c.status = .running ∧ c.operationId = id

/-- what a call of the group may do to it -/
def Steady (groupId : String) : Cmd → Db → Prop
  | .appendOperation op, db => ∃ i, Running groupId db i op.operationId
  | .setStatus id _ _, db => ∃ i, Running groupId db i id
  | .startChild g i, db => g = groupId ∧ Open groupId db i
  | .rollGroup g, db => g = groupId ∧ ∃ i, Open groupId db i
  | .finishGroupChild g i status _ _ _, db => g = groupId ∧ (∃ id, Running groupId db i id ∧ Agrees status (db.operation? id)) ∧
      (status = .applied ∨ status = .failed ∨ status = .resumePending)
  | _, _ => True

variable {groupId id : String} {ids : List String} {db db' : Db} {c : GroupShard} {i : ℕ} {status : ChildStatus}
  {f : GroupShard → GroupShard}

theorem mem_shardsOf (h : c ∈ db.shardsOf groupId) : c.groupId = groupId :=
  of_decide_eq_true (List.mem_filter.1 h).2

section

variable (h : GroupInv groupId ids db)
include h

/-- the child at an index of the group -/
theorem GroupInv.child (hc : (db.shardsOf groupId)[i]? = some c) :
    c.groupId = groupId ∧ c.shardIndex = i := ⟨mem_shardsOf (mem_of_getElem? hc), h.indexed i c hc⟩

/-- what stands at an index after one child was changed -/
theorem GroupInv.changed {j : ℕ} {c' : GroupShard}
    (hc' : ((db.shardsOf groupId).map (changeOne groupId i status f))[j]? = some c') :
    ∃ c, (db.shardsOf groupId)[j]? = some c ∧ c' = if j = i ∧ c.status = status then f c else c := by
  rw [getElem?_map] at hc'
  obtain ⟨c, hc, rfl⟩ := Option.map_eq_some_iff.1 hc'
  obtain ⟨hgroup, hindex⟩ := h.child hc
  exact ⟨c, hc, by simp [changeOne, hgroup, hindex]⟩

/-- the operation of the running child may change -/
theorem GroupInv.row (hnodup : ids.Nodup) (hrun : Running groupId db i id) (groups : db'.groups = db.groups)
    (shards : db'.groupShards = db.groupShards) (rows : ∀ id' ∈ ids, id' ≠ id → db'.operation? id' = db.operation? id') :
    GroupInv groupId ids db' := by
  have hchildren : db'.shardsOf groupId = db.shardsOf groupId := by rw [Db.shardsOf, shards, Db.shardsOf]
  obtain ⟨g, hg, hplaced⟩ := h.placed
  refine ⟨⟨g, by rw [Db.group?, groups]; exact hg, hchildren ▸ hplaced⟩, hchildren ▸ h.frozen, hchildren ▸ h.indexed,
    fun c hc => ?_, shards ▸ h.separate⟩
  rw [hchildren] at hc
  by_cases hid : c.operationId = id
  · -- the ids are distinct, so this is the running child
    obtain ⟨c₀, hc₀, hstatus, hid₀⟩ := hrun.child
    have heq : c = c₀ := inj_on_of_nodup_map (h.frozen ▸ hnodup) hc (mem_of_getElem? hc₀) (hid.trans hid₀.symm)
    rw [heq, hstatus]
    trivial
  · rw [rows _ (h.mem_ids hc) hid]
    exact h.faithful c hc

/-- an update of the children of the group, with its cursor -/
theorem GroupInv.update (hf : Keeps f) {groups : List RolloutGroup}
    (hg : Table.lookup RolloutGroup.groupId groups groupId = some g) (hplaced : Placed g ((db.shardsOf groupId).map f))
    (hfaithful : ∀ c ∈ db.shardsOf groupId, Agrees (f c).status (db.operation? c.operationId)) :
    GroupInv groupId ids { db with groups, groupShards := db.groupShards.map f } := by
  have hchildren : Db.shardsOf { db with groups, groupShards := db.groupShards.map f } groupId =
      (db.shardsOf groupId).map f := shardsOf_map db groupId hf
  refine ⟨⟨g, hg, hchildren ▸ hplaced⟩, ?_, ?_, ?_, ?_⟩
  · rw [hchildren, map_map, ← h.frozen]
    congr 1
    funext c
    exact hf.operation c
  · intro i c hc
    rw [hchildren, getElem?_map] at hc
    obtain ⟨old, hold, rfl⟩ := Option.map_eq_some_iff.1 hc
    rw [hf.index]
    exact h.indexed i old hold
  · intro c hc
    rw [hchildren] at hc
    obtain ⟨old, hold, rfl⟩ := List.mem_map.1 hc
    rw [hf.operation]
    exact hfaithful old hold
  · intro c hc hne
    obtain ⟨old, hold, rfl⟩ := List.mem_map.1 hc
    rw [hf.group] at hne
    rw [hf.operation]
    exact h.separate old hold hne

/-- the group of an index of the cursor, and its children around it -/
theorem GroupInv.open (hopen : Open groupId db i) :
    ∃ g, db.group? groupId = some g ∧ ¬ g.status.Ended ∧ g.nextIndex = i ∧ Placed g (db.shardsOf groupId) := by
  obtain ⟨g, hg, hended, hindex⟩ := hopen
  obtain ⟨g', hg', hplaced⟩ := h.placed
  rw [hg] at hg'
  cases hg'
  exact ⟨g, hg, hended, hindex, hplaced⟩

theorem startChild_inv (hopen : Open groupId db i) : GroupInv groupId ids (startChild groupId i db) := by
  obtain ⟨g, hg, hended, hindex, hplaced⟩ := h.open hopen
  refine h.update (changeOne_keeps groupId i .planned start_keeps) hg ?_ ?_
  · refine ⟨by simpa using hplaced.bound, by simpa using hplaced.more, fun j c' hc' hj => ?_, fun c' hc' => ?_,
      fun j c' hc' hj => ?_⟩
    · obtain ⟨c, hc, rfl⟩ := h.changed hc'
      rw [if_neg (by omega)]
      exact hplaced.before j c hc hj
    · obtain ⟨c, hc, rfl⟩ := h.changed hc'
      have hcursor := hplaced.cursor c hc
      rw [if_neg hended] at hcursor ⊢
      split
      · exact .inr rfl
      · exact hcursor
    · obtain ⟨c, hc, rfl⟩ := h.changed hc'
      rw [if_neg (by omega : ¬ (j = i ∧ _))]
      exact hplaced.after j c hc hj
  · intro c hc
    unfold changeOne
    split
    · trivial
    · exact h.faithful c hc

end

theorem group?_modify_self {f : RolloutGroup → RolloutGroup} (hf : ∀ g, (f g).groupId = g.groupId) {groups : List RolloutGroup}
    (hg : Table.lookup RolloutGroup.groupId groups groupId = some g) :
    Table.lookup RolloutGroup.groupId (Table.modify RolloutGroup.groupId groups groupId f) groupId = some (f g) := by
  rw [Table.lookup_modify fun g hg => (hf g).trans hg, if_pos rfl, hg]
  rfl

theorem rollGroup_inv (h : GroupInv groupId ids db) (hopen : Open groupId db i) :
    GroupInv groupId ids (rollGroup groupId db) := by
  obtain ⟨g, hg, hended, -, hplaced⟩ := h.open hopen
  have hroll : ∀ g : RolloutGroup, g.roll.groupId = g.groupId := fun _ => rfl
  have hopened : ¬ g.roll.status.Ended := by
    simp only [RolloutGroup.roll, GroupStatus.Ended]
    split <;> simp
  refine ⟨⟨g.roll, group?_modify_self hroll hg, ?_⟩, h.frozen, h.indexed, h.faithful, h.separate⟩
  · refine ⟨hplaced.bound, fun _ => hplaced.more hended, hplaced.before, fun c hc => ?_, fun j c hc hj => ?_⟩
    · have hcursor := hplaced.cursor c hc
      rw [if_neg hended] at hcursor
      rw [if_neg hopened]
      exact hcursor
    · have hafter := hplaced.after j c hc hj
      rw [if_neg hended] at hafter
      rw [if_neg hopened]
      exact hafter

/-- the row of the child at the cursor is that of the operation -/
theorem Running.faithful (h : GroupInv groupId ids db) (hrun : Running groupId db i id)
    (hagrees : Agrees status (db.operation? id)) (hf : ∀ c, (f c).status = status) (hc : c ∈ db.shardsOf groupId) :
    Agrees (changeOne groupId i .running f c).status (db.operation? c.operationId) := by
  obtain ⟨child, hchild, -, hid⟩ := hrun.child
  obtain ⟨j, hj⟩ := getElem?_of_mem hc
  obtain ⟨-, hindex⟩ := h.child hj
  unfold changeOne
  split
  · rename_i hcase
    have hji : j = i := hindex.symm.trans hcase.2.1
    rw [hji, hchild] at hj
    cases hj
    rw [hf, hid]
    exact hagrees
  · exact h.faithful c hc

/-- the child is finished and applied: the cursor moves on -/
theorem finishApplied_inv (h : GroupInv groupId ids db) (hrun : Running groupId db i id)
    (hagrees : Agrees .applied (db.operation? id)) (reason : String) (generation epoch : ℤ) :
    GroupInv groupId ids { changeChild groupId i .running (GroupShard.finish .applied reason generation epoch) db with
      groups := Table.modify RolloutGroup.groupId db.groups groupId
        (RolloutGroup.advance i (db.shardsOf groupId).length) } := by
  obtain ⟨g, hg, hended, hindex, hplaced⟩ := h.open hrun.group
  obtain ⟨child, hchild, hrunning, -⟩ := hrun.child
  have hin : i < (db.shardsOf groupId).length := (List.getElem?_eq_some_iff.1 hchild).1
  have hnext : (g.advance i (db.shardsOf groupId).length).nextIndex = i + 1 := by
    simp [RolloutGroup.advance, hindex]
  have hstatus : (g.advance i (db.shardsOf groupId).length).status =
      if i + 1 = (db.shardsOf groupId).length then .completed else .rollingMixed := by
    simp [RolloutGroup.advance, hindex]
  have hopened : i + 1 < (db.shardsOf groupId).length →
      ¬ (g.advance i (db.shardsOf groupId).length).status.Ended := by
    intro hlt
    rw [hstatus, if_neg (by omega)]
    simp [GroupStatus.Ended]
  refine h.update (changeOne_keeps groupId i .running (finish_keeps .applied reason generation epoch))
    (group?_modify_self (RolloutGroup.advance_groupId i _) hg) ?_ fun c hc => hrun.faithful h hagrees (fun _ => rfl) hc
  refine ⟨?_, fun hopen => ?_, fun j c' hc' hj => ?_, fun c' hc' => ?_, fun j c' hc' hj => ?_⟩
  · rw [hnext, length_map]
    omega
  · rw [hnext, length_map]
    rcases Nat.lt_or_ge (i + 1) (db.shardsOf groupId).length with hlt | hge
    · exact hlt
    · rw [hstatus, if_pos (by omega)] at hopen
      exact absurd (.inl rfl) hopen
  · obtain ⟨c, hc, rfl⟩ := h.changed hc'
    by_cases hji : j = i
    · rw [hji, hchild] at hc
      cases hc
      rw [if_pos ⟨hji, hrunning⟩]
      rfl
    · rw [if_neg fun hcase => hji hcase.1]
      exact hplaced.before j c hc (by omega)
  · obtain ⟨c, hc, rfl⟩ := h.changed hc'
    rw [hnext] at hc ⊢
    rw [if_neg (hopened (List.getElem?_eq_some_iff.1 hc).1), if_neg (by omega : ¬ (i + 1 = i ∧ _))]
    have hafter := hplaced.after (i + 1) c hc (by omega)
    rw [if_neg hended] at hafter
    exact .inl hafter
  · obtain ⟨c, hc, rfl⟩ := h.changed hc'
    have hlen := (List.getElem?_eq_some_iff.1 hc).1
    rw [if_neg (hopened (by omega)), if_neg (by omega : ¬ (j = i ∧ _))]
    have hafter := hplaced.after j c hc (by omega)
    rw [if_neg hended] at hafter
    exact hafter

/-- a child that is blocked was planned, and agrees as before -/
theorem block_agrees (groupId : String) (i : ℕ) {row : Option RolloutOperation} (h : Agrees c.status row) :
    Agrees (c.block groupId i).status row := by
  unfold GroupShard.block
  split
  · rename_i hcase
    rw [hcase.2.2] at h
    exact h
  · exact h

/-- the child is finished and not applied: the children behind it are blocked -/
theorem finishFailed_inv (h : GroupInv groupId ids db) (hrun : Running groupId db i id)
    (hterminal : status = .failed ∨ status = .resumePending) (hagrees : Agrees status (db.operation? id))
    (reason : String) (generation epoch : ℤ) :
    let changed := changeChild groupId i .running (GroupShard.finish status reason generation epoch) db
    GroupInv groupId ids { changed with
      groupShards := changed.groupShards.map (GroupShard.block groupId i)
      groups := Table.modify RolloutGroup.groupId db.groups groupId (RolloutGroup.fail i reason) } := by
  obtain ⟨g, hg, hended, hindex, hplaced⟩ := h.open hrun.group
  obtain ⟨child, hchild, hrunning, -⟩ := hrun.child
  have hfailed : (g.fail i reason).status.Ended := by
    simp only [RolloutGroup.fail, GroupStatus.Ended]
    split <;> simp
  have hfail : ∀ g : RolloutGroup, (g.fail i reason).groupId = g.groupId := fun _ => rfl
  let f : GroupShard → GroupShard :=
    fun c => (changeOne groupId i .running (GroupShard.finish status reason generation epoch) c).block groupId i
  have hcompose : ((changeChild groupId i .running (GroupShard.finish status reason generation epoch) db).groupShards.map
      (GroupShard.block groupId i)) = db.groupShards.map f := map_map ..
  -- what stands at an index: the child that is finished, or one that may be blocked
  have hat : ∀ {j : ℕ} {c' : GroupShard}, ((db.shardsOf groupId).map f)[j]? = some c' → ∃ c,
      (db.shardsOf groupId)[j]? = some c ∧ c'.status =
        if j = i then status else if i < j ∧ c.status = .planned then .blocked else c.status := by
    intro j c' hc'
    rw [getElem?_map] at hc'
    obtain ⟨c, hc, rfl⟩ := Option.map_eq_some_iff.1 hc'
    obtain ⟨hgroup, hshard⟩ := h.child hc
    refine ⟨c, hc, ?_⟩
    by_cases hji : j = i
    · rw [hji, hchild] at hc
      cases hc
      simp [f, changeOne, GroupShard.block, GroupShard.finish, hgroup, hshard, hrunning, hji]
    · simp only [f, changeOne, GroupShard.block, hgroup, hshard, hji, false_and, and_false, if_false, true_and]
      split <;> rfl
  have hf : Keeps f := (block_keeps groupId i).comp
    (changeOne_keeps groupId i .running (finish_keeps status reason generation epoch))
  dsimp only
  rw [hcompose]
  refine h.update hf (group?_modify_self hfail hg) ?_ fun c hc =>
    block_agrees groupId i (hrun.faithful h hagrees (fun _ => rfl) hc)
  have hnext : (g.fail i reason).nextIndex = i := hindex
  refine ⟨?_, fun hopen => absurd hfailed hopen, fun j c' hc' hj => ?_, fun c' hc' => ?_, fun j c' hc' hj => ?_⟩
  · rw [hnext, length_map]
    exact (List.getElem?_eq_some_iff.1 hchild).1.le
  · obtain ⟨c, hc, hstatus⟩ := hat hc'
    rw [hstatus, if_neg (by omega), if_neg (by omega)]
    exact hplaced.before j c hc (by omega)
  · obtain ⟨c, -, hstatus⟩ := hat hc'
    rw [if_pos hfailed, hstatus, if_pos hnext]
    exact hterminal
  · obtain ⟨c, hc, hstatus⟩ := hat hc'
    have hafter := hplaced.after j c hc (by omega)
    rw [if_neg hended] at hafter
    rw [if_pos hfailed, hstatus, if_neg (by omega), if_pos ⟨by omega, hafter⟩]

/-- a command of its own call keeps the rows of the group in order -/
theorem own_inv (sv : Services) (e : Env) {c : Cmd} {s : Store} (h : GroupInv groupId ids s.db) (hnodup : ids.Nodup)
    (hc : Steady groupId c s.db) : GroupInv groupId ids (c.act sv e s).2.db := by
  cases c with
  | appendOperation =>
    obtain ⟨i, hrun⟩ := hc
    refine execute_keeps (R := fun t => GroupInv groupId ids t.db) h fun db' htx => ?_
    obtain ⟨hnew, rfl⟩ := appendOperation_ok htx
    exact h.row hnodup hrun rfl rfl fun id _ hne => (Table.lookup_append_new hnew id).trans (if_neg hne)
  | setStatus id status reason =>
    obtain ⟨i, hrun⟩ := hc
    refine execute_keeps (R := fun t => GroupInv groupId ids t.db) h fun db' htx => ?_
    rw [setOperationStatus_ok htx]
    have hkey : ∀ op : RolloutOperation, op.operationId = id → (op.settle status reason).operationId = id := fun _ h => h
    exact h.row hnodup hrun rfl rfl fun id' _ hne => (Table.lookup_modify hkey s.db.operations id').trans (if_neg hne)
  | startChild g =>
    obtain ⟨rfl, hopen⟩ := hc
    refine execute_keeps (R := fun t => GroupInv g ids t.db) h fun db' htx => ?_
    cases htx
    exact startChild_inv h hopen
  | rollGroup g =>
    obtain ⟨rfl, i, hopen⟩ := hc
    refine execute_keeps (R := fun t => GroupInv g ids t.db) h fun db' htx => ?_
    cases htx
    exact rollGroup_inv h hopen
  | finishGroupChild g i _ reason generation epoch =>
    obtain ⟨rfl, ⟨id, hrun, hagrees⟩, hterminal⟩ := hc
    refine execute_keeps (R := fun t => GroupInv g ids t.db) h fun db' htx => ?_
    replace htx := passed htx
    split at htx
    · rename_i happlied
      subst happlied
      cases htx
      have hkept := shardsOf_map s.db g (changeOne_keeps g i .running (finish_keeps .applied reason generation epoch))
      have hcount : ((changeChild g i .running (GroupShard.finish .applied reason generation epoch) s.db).shardsOf g).length =
          (s.db.shardsOf g).length := (congrArg List.length hkept).trans (length_map _)
      rw [hcount]
      exact finishApplied_inv h hrun hagrees reason generation epoch
    · rename_i hfailed
      cases htx
      exact finishFailed_inv h hrun (hterminal.resolve_left hfailed) hagrees reason generation epoch
  | loadGroup g | loadGroupShards g => exact query_keeps (R := fun t => GroupInv groupId ids t.db) h
  | _ => exact h.same ((act_wrote sv e _ s).same trivial fun h => h)

end MasiEdge.Model
