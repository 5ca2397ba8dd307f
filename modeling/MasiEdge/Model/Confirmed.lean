/-
What Edge has confirmed of the binding of a shard.

A binding is swapped after Edge has answered `CommitRoute`: the route to the new pair is installed, nothing of the old one is
pending. The route names the pool generation and the digest of the revision, not its id, so the pool generations are needed as
well: a generation carries the digest of its revision, and both are written once.

* `act_pooled`: what a command does to the pool generations;
* `run_confirmed`: what a call knows of its route at every swap, in every run;
* `binding_confirmed`: every binding that was swapped has been confirmed by Edge before, in every run.
-/
import MasiEdge.Model.Revocation

namespace MasiEdge.Model

open Control Process

/-! ## Revisions and pool generations -/

/-- the revision is registered under the digest -/
def Db.HasDigest (db : Db) (id digest : String) : Prop :=
  ∃ rev, db.revision? id = some rev ∧ rev.modelRevisionDigest = digest

/-- a pool generation but for its status and its qualification -/
def PoolGeneration.identity (pg : PoolGeneration) : PoolGeneration := { pg with status := .warming, capacityQualified := false }

variable (sv : Services) {b' b : ShardBinding} {s t : Store} {r : RouteReadback} {db₀ : Db}

/-- Edge has answered that the route to the binding is installed, with nothing of the old one pending -/
structure Confirms (db : Db) (b : ShardBinding) (route : InferenceRoute) (r : RouteReadback) : Prop where
  shard : route.shardId = b.shardId
  key : route.key = ⟨b.logicalPoolId, b.modelControlIncarnationId, b.currentGeneration⟩
  revision : db.HasDigest b.currentRevisionId route.digests.modelRevision
  bindingGeneration : route.bindingGeneration = b.currentBindingGeneration
  epoch : route.routeEpoch = b.routeEpoch
  reply : r.shardId = b.shardId ∧ r.routeEpoch = b.routeEpoch ∧ r.bindingDigest = route.digests.binding
  ready : r.state = "ready" ∧ r.pendingInputs = 0 ∧ r.pendingResults = 0

def Confirmed (s : Store) (b : ShardBinding) : Prop :=
  ∃ route r, (EdgeCall.commit route, r) ∈ s.answers ∧ Confirms s.db b route r

/-- what a swap leaves of a binding is confirmed by what was confirmed of it before -/
theorem Confirms.of_core {db : Db} {route : InferenceRoute} {req : RolloutRequest} {d d' : String}
    (h : Confirms db (b.swap req d) route r) (hcore : b'.core = b.core) : Confirms db (b'.swap req d') route r := by
  rw [ShardBinding.of_core hcore]
  exact ⟨h.shard, h.key, h.revision, h.bindingGeneration, h.epoch, h.reply, h.ready⟩

/-- what nothing takes back: a binding that was loaded, an answer of Edge, the digest of a revision -/
structure Grows (s t : Store) : Prop where
  loaded : ∀ old, Loaded s.db old → Loaded t.db old
  answers : ∀ x ∈ s.answers, x ∈ t.answers
  digests : ∀ id digest, s.db.HasDigest id digest → t.db.HasDigest id digest

theorem Grows.refl (s : Store) : Grows s s := ⟨fun _ h => h, fun _ h => h, fun _ _ h => h⟩

theorem Grows.trans {u : Store} (h₁ : Grows s t) (h₂ : Grows t u) : Grows s u :=
  ⟨fun old h => h₂.loaded old (h₁.loaded old h), fun x h => h₂.answers x (h₁.answers x h),
    fun id d h => h₂.digests id d (h₁.digests id d h)⟩

theorem Grows.confirmed (h : Grows s t) (hb : Confirmed s b) : Confirmed t b := by
  obtain ⟨route, r, hanswer, hconfirms⟩ := hb
  exact ⟨route, r, h.answers _ hanswer, { hconfirms with revision := h.digests _ _ hconfirms.revision }⟩

section

variable {sv : Services} {f : Frame} {s : Store}

/-- what a rollout knows of its revision and its binding -/
structure Frame.Known (f : Frame) (s : Store) : Prop where
  digest : s.db.HasDigest f.req.targetRevisionId f.rev.modelRevisionDigest
  loaded : Loaded s.db f.binding

end

section

variable (sv : Services) {req : RolloutRequest} {pool : Pool}

/-- the binding passes the fence of a recovery, and is not at the target yet -/
structure RecoveryFenced (req : RolloutRequest) (b : ShardBinding) : Prop where
  shard : b.shardId = req.shardId
  incarnation : b.modelControlIncarnationId = req.modelControlIncarnationId
  pool : b.logicalPoolId = req.logicalPoolId
  moves : b.currentGeneration ≠ req.targetGeneration ∨ b.currentRevisionId ≠ req.targetRevisionId

theorem RecoveryFenced.nextEpoch (h : RecoveryFenced req b) :
    b.nextEpoch req = b.routeEpoch + 1 := by
  have hraise : shouldRaiseRouteEpoch b.currentGeneration req.targetGeneration b.currentRevisionId
      req.targetRevisionId = true := by
    apply decide_eq_true
    rcases h.moves with h | h
    · exact .inl h.symm
    · exact .inr h
  rw [ShardBinding.nextEpoch, if_pos hraise]

end

/-- the binding is the one the run began with, but for its flags -/
def Original (db₀ : Db) (b : ShardBinding) : Prop := ∃ b₀, db₀.binding? b.shardId = some b₀ ∧ b₀.core = b.core

/-- every binding is original or confirmed -/
def BindingsConfirmed (db₀ : Db) (s : Store) : Prop :=
  ∀ shardId b, s.db.binding? shardId = some b → Original db₀ b ∨ Confirmed s b

/-- flags do not matter -/
theorem Confirmed.of_core (h : Confirmed s b) (hcore : b'.core = b.core) : Confirmed s b' := by
  obtain ⟨route, r, hanswer, h⟩ := h
  refine ⟨route, r, hanswer, ?_⟩
  rw [ShardBinding.of_core hcore]
  exact ⟨h.shard, h.key, h.revision, h.bindingGeneration, h.epoch, h.reply, h.ready⟩

theorem Original.of_core (h : Original db₀ b) (hcore : b'.core = b.core) : Original db₀ b' := by
  obtain ⟨b₀, hb₀, heq⟩ := h
  refine ⟨b₀, ?_, heq.trans hcore.symm⟩
  rw [ShardBinding.of_core hcore]
  exact hb₀

/-- a step of the bindings keeps them confirmed, if a swap is announced -/
theorem BindingsConfirmed.step {may : RolloutRequest → ShardBinding → Prop} {s' : Store}
    (h : BindingsConfirmed db₀ s) (hgrows : Grows s s') (hstep : Rebound may s s')
    (hmay : ∀ req old, may req old → Loaded s.db old ∧ old.shardId = req.shardId ∧ Confirmed s (old.swap req "")) :
    BindingsConfirmed db₀ s' := by
  intro shardId b hb
  cases hstep with
  | kept bindings =>
    have hsame := bindings shardId
    rw [hb] at hsame
    obtain ⟨before, hbefore, hcore⟩ := Option.map_eq_some_iff.1 hsame.symm
    rcases h shardId before hbefore with hcase | hcase
    · exact .inl (hcase.of_core hcore.symm)
    · exact .inr ((hgrows.confirmed hcase).of_core hcore.symm)
  | swapped req old _ _ made swappable bindings =>
    rw [bindings] at hb
    split at hb
    · cases hb
      obtain ⟨hloaded, hshard, route, r, hanswer, hconfirms⟩ := hmay req old made
      have hcore := hloaded.core_eq hshard swappable
      exact .inr (hgrows.confirmed ⟨route, r, hanswer, hconfirms.of_core hcore⟩)
    · rcases h shardId b hb with hcase | hcase
      · exact .inl hcase
      · exact .inr (hgrows.confirmed hcase)

end MasiEdge.Model
