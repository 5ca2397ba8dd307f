/-
The binding of a shard under any interleaving of rollouts, rollbacks and recoveries.

A swap compares the binding generation, the pair and the epoch with the binding its call has loaded, so a swap takes the
binding one generation on from exactly the state that was expected. A rollback is resolved when it is created: its target is
the pair before the one that is current then. `Rollout` keeps to the binding it has loaded. `ReconcileOperation` does not: it
loads the binding again and swaps from whatever is current, to the target the operation was frozen to. So a rollback that is
left resume_pending can be completed after later rollouts, and then it does not restore the pair before the last of them.

* `run_exact`: what a call of `Rollout` knows of its rollback at every swap;
* `binding_swap_laws`: the laws of the swaps in every run whose recovered rollbacks still go to the pair before;
* `stale_rollback_recovered`: a recovered rollback that goes past it.
-/
import Mathlib.Data.List.Chain
import MasiEdge.Model.Writes

namespace MasiEdge.Model

open Control Process Run

/-! ## What a call knows of its binding -/

/-- the target is the pair the shard was bound to before -/
def ShardBinding.WasBound (b : ShardBinding) (req : RolloutRequest) : Prop :=
  ∃ p ∈ b.previous, p.generation = req.targetGeneration ∧ p.revisionId = req.targetRevisionId
deriving Decidable

/-- the binding is as it was loaded, or it has been swapped since -/
def Loaded (db : Db) (old : ShardBinding) : Prop :=
  ∃ b, db.binding? old.shardId = some b ∧
    (b.core = old.core ∨ old.currentBindingGeneration < b.currentBindingGeneration)

variable {a b old : ShardBinding} {db : Db} {req req' : RolloutRequest} {may : RolloutRequest → ShardBinding → Prop}

/-- two bindings with the same core differ in their flags -/
theorem ShardBinding.of_core (h : a.core = b.core) :
    a = { b with resumeState := a.resumeState, loaded := a.loaded, ready := a.ready } := by
  cases a
  cases b
  simpa [ShardBinding.core] using h

theorem ShardBinding.generation_of_core (h : a.core = b.core) :
    a.currentBindingGeneration = b.currentBindingGeneration := by
  rw [ShardBinding.of_core h]

theorem ShardBinding.previous_of_core (h : a.core = b.core) : a.previous = b.previous := by
  rw [ShardBinding.of_core h]

theorem Rebound.loaded {s s' : Store} (h : Rebound may s s')
    (hold : Loaded s.db old) : Loaded s'.db old := by
  obtain ⟨b, hb, hcase⟩ := hold
  cases h with
  | kept bindings =>
    have hsame := bindings old.shardId
    rw [hb] at hsame
    obtain ⟨b', hb', hcore⟩ := Option.map_eq_some_iff.1 hsame
    refine ⟨b', hb', ?_⟩
    rcases hcase with hcase | hcase
    · exact .inl (hcore.trans hcase)
    · exact .inr (ShardBinding.generation_of_core hcore ▸ hcase)
  | swapped req _ _ casDigest _ swappable bindings =>
    by_cases hshard : old.shardId = req.shardId
    · have hfound := swappable.found
      rw [← hshard, hb] at hfound
      cases hfound
      refine ⟨b.swap req casDigest, by rw [bindings, if_pos hshard], .inr ?_⟩
      rcases hcase with hcase | hcase
      · have hgen := ShardBinding.generation_of_core hcase
        show old.currentBindingGeneration < b.currentBindingGeneration + 1
        omega
      · show old.currentBindingGeneration < b.currentBindingGeneration + 1
        omega
    · exact ⟨b, by rw [bindings, if_neg hshard, hb], hcase⟩

/-- a binding that has just been read -/
theorem loaded_of_found {shardId : String} (h : db.binding? shardId = some b) : Loaded db b :=
  ⟨b, by rw [Table.lookup_key h]; exact h, .inl rfl⟩

/-- the fence leaves only the first case -/
theorem Loaded.core_eq (h : Loaded db old) (hshard : old.shardId = req.shardId) (hswap : Swappable db req old b) :
    b.core = old.core := by
  obtain ⟨b', hb', hcase⟩ := h
  rw [hshard, hswap.found] at hb'
  cases hb'
  have hgen := hswap.fence.1
  rcases hcase with hcase | hcase
  · exact hcase
  · omega

theorem loadBinding_ok {rev : ModelRevision} (h : loadBinding req rev db = .ok b) :
    db.binding? req.shardId = some b ∧ b.logicalPoolId = req.logicalPoolId := by
  unfold loadBinding at h
  split at h
  · cases h
  · rename_i found hfound
    replace h := passed h
    obtain ⟨hpool, h⟩ := reject_then h
    replace h := passed h
    replace h := passed h
    cases h
    exact ⟨(Option.filter_eq_some_iff.1 hfound).1, not_not.1 hpool⟩

/-- the checks on the target leave everything of the request but its generation; a rollback goes to the pair before -/
theorem resolveTarget_ok (h : resolveTarget req b = .ok req') :
    req' = { req with targetGeneration := req'.targetGeneration } ∧ (req'.kind = .rollback → b.WasBound req') := by
  unfold resolveTarget at h
  split at h
  · obtain ⟨g, hg, h⟩ := bind_ok.1 h
    cases h
    refine ⟨rfl, fun _ => ?_⟩
    unfold rollbackTarget at hg
    split at hg
    · cases hg
    · rename_i p hp
      obtain ⟨_, hrev, hg⟩ := bind_ok.1 hg
      replace hg := passed hg
      cases hg
      have hrev := reject_ok.1 hrev
      push Not at hrev
      exact ⟨p, hp, rfl, hrev.2.symm⟩
  · rename_i hkind
    replace h := passed h
    replace h := passed h
    cases h
    refine ⟨rfl, fun h => ?_⟩
    rw [hkind] at h
    cases h
  · rename_i hrollback hrollout
    cases h
    exact ⟨rfl, fun h => absurd h hrollback⟩

theorem resolveTarget_request (h : resolveTarget req b = .ok req') :
    req' = { req with targetGeneration := req'.targetGeneration } := (resolveTarget_ok h).1

/-! ## The discipline of the calls -/

/-- a rollback is swapped from a binding that has the target as the pair before -/
def Exact : Cmd → Store → Prop
  | .casSwap req old _ _, s => req.kind = .rollback → Loaded s.db old ∧ old.shardId = req.shardId ∧ old.WasBound req
  | _, _ => True

/-- a recovery promises nothing about its swaps -/
def Job.guard : Job → Cmd → Store → Prop
  | .reconcile _ => fun _ _ => True
  | _ => Exact

def bindingContract (sv : Services) (job : Job) : Contract commands Store Env where
  act := Cmd.act sv
  inv _ := True
  rely s t := ∀ old, Loaded s.db old → Loaded t.db old
  guard := job.guard
  refl _ _ h := h
  trans h₁ h₂ old h := h₂ old (h₁ old h)

def bindingDiscipline (sv : Services) : Discipline (manager sv) where
  contract := bindingContract sv
  act _ := rfl
  inv _ := True
  sameInv _ := rfl
  keeps _ e c s _ _ _ := ⟨trivial, fun _ _ _ h => (act_rebound sv e c s).loaded h⟩

section

variable (sv : Services)

/-- the contract of a call whose swaps are exact -/
abbrev exactContract (sv : Services) : Contract commands Store Env := bindingContract sv (.advance "")

theorem rollout_exact (req : RolloutRequest) (s : Store) : Safe (exactContract sv) (rollout sv req) s := by
  refine safe_attempt fun _ _ (req : RolloutRequest) _ => ?_
  refine safe_attempt fun _ _ (rev : ModelRevision) _ => ?_
  refine safe_attempt fun env t (b : ShardBinding) hb => ?_
  have hfound : t.db.binding? req.shardId = some b := (loadBinding_ok (query_ok hb)).1
  have hstore : ((exactContract sv).act env (.loadBinding req rev) t).2 = t := query_store _
  rw [hstore]
  -- from here on the call swaps only from this binding, which stays loaded
  have hstable : Stable (exactContract sv) fun s => Loaded s.db b :=
    ⟨fun s t h => h b, fun e c s _ _ h => (act_rebound sv e c s).loaded h⟩
  refine safe_of_issues hstable (loaded_of_found hfound) ?_
  refine issues_attempt (fun t _ _ => trivial) fun _ => ?_
  refine start_issues sv ⟨req, rev, b⟩ fun req' hreq' c hc => ?_
  obtain ⟨hrequest, hbound⟩ := resolveTarget_ok hreq'
  have hshard : req'.shardId = req.shardId := by rw [hrequest]
  intro t _ ht
  cases c with
  | casSwap =>
    obtain ⟨rfl, rfl⟩ := hc
    intro hkind
    exact ⟨ht, (Table.lookup_key hfound).trans hshard.symm, hbound hkind⟩
  | _ => trivial

theorem groups_exact (c : Cmd) (hc : c.Groups) (s : Store) : Exact c s := by
  cases c with
  | casSwap => exact hc.elim
  | _ => trivial

theorem body_exact (job : Job) (s : Store) : Safe (bindingContract sv job) (job.body sv) s := by
  cases job with
  | rollout req => exact rollout_exact sv req s
  | reconcile => exact safe_of_guard (fun _ _ => trivial) _ s
  | advance =>
    refine safe_attempt fun _ _ group _ => ?_
    exact advanceRounds_safe stable_true rfl (fun c hc => groups_exact c hc.groups) (fun _ _ _ _ _ _ => rollout_exact sv _ _) _ trivial

end

theorem admin_keeps (sv : Services) (x : Admin) (db : Db) :
    (x.exec sv db).bindings = db.bindings ∧ (x.exec sv db).poolGenerations = db.poolGenerations := by
  have hwrote := admin_wrote sv x db
  generalize x.exec sv db = db' at hwrote
  cases hwrote <;> exact ⟨rfl, rfl⟩

theorem admin_rebound (sv : Services) (x : Admin) (s : Store) : Rebound (fun _ _ => False) s ((manager sv).outside x s) :=
  .of_bindings (admin_keeps sv x s.db).1 rfl

/-- **Every call keeps to the binding it has loaded, in every run.** -/
theorem run_exact (sv : Services) (db : Db) (ops : List Event) : Sound (bindingDiscipline sv) (runFrom sv db ops) := by
  refine Sound.run trivial ?_
  intro pre op post _ _
  cases op with
  | spawn job => exact ⟨body_exact sv job _, fun h => h.elim⟩
  | advance => exact fun _ _ _ => trivial
  | crash => trivial
  | outside x => exact ⟨trivial, fun t _ _ old h => (admin_rebound sv x _).loaded h⟩

/-! ## The history of a shard -/

/-- the swaps of a shard, the oldest first -/
def Store.swapsOf (s : Store) (shardId : String) : List Swap := s.swaps.filter fun x => decide (x.before.shardId = shardId)

/-- what a swap does to the binding -/
structure Swap.Lawful (x : Swap) : Prop where
  generation : x.after.currentBindingGeneration = x.before.currentBindingGeneration + 1
  epoch : x.after.currentRevisionId ≠ x.before.currentRevisionId ∨
    x.after.modelControlIncarnationId ≠ x.before.modelControlIncarnationId → x.before.routeEpoch < x.after.routeEpoch
  previous : x.after.previous =
    some ⟨x.before.currentGeneration, x.before.currentBindingGeneration, x.before.currentRevisionId⟩

/-- a rollback goes back to what the rollout before it has replaced -/
def Swap.Restores (a b : Swap) : Prop :=
  a.kind = .rollout → b.kind = .rollback →
    b.after.currentRevisionId = a.before.currentRevisionId ∧ b.after.currentGeneration = a.before.currentGeneration
deriving Decidable

/-- two swaps of a shard with none between them -/
structure Swap.Follows (a b : Swap) : Prop where
  chained : b.before.core = a.after.core
  advances : a.before.currentBindingGeneration < b.before.currentBindingGeneration
  restores : a.Restores b

/-- the laws of the swaps of a shard, over the binding it began with -/
structure SwapLaws (db₀ : Db) (s : Store) (shardId : String) : Prop where
  lawful : ∀ x ∈ s.swapsOf shardId, x.Lawful
  follows : (s.swapsOf shardId).IsChain Swap.Follows
  /-- the binding is what the last swap has made of it, but for its flags -/
  current : (s.db.binding? shardId).map ShardBinding.core =
    (((s.swapsOf shardId).getLast?.map Swap.after).or (db₀.binding? shardId)).map ShardBinding.core

theorem swap_lawful (req : RolloutRequest) (b : ShardBinding) (casDigest : String) :
    Swap.Lawful ⟨req.operationId, req.kind, b, b.swap req casDigest⟩ := by
  refine ⟨rfl, fun h => ?_, rfl⟩
  have hchanged : b.currentRevisionId ≠ req.targetRevisionId := by
    rcases h with h | h
    · exact fun heq => h heq.symm
    · exact absurd rfl h
  have hraise : shouldRaiseRouteEpoch b.currentGeneration req.targetGeneration b.currentRevisionId
      req.targetRevisionId = true := decide_eq_true (.inr hchanged)
  show b.routeEpoch < b.nextEpoch req
  rw [ShardBinding.nextEpoch, if_pos hraise]
  omega

/-- the first law of two swaps: the later one starts from what the earlier one left -/
theorem swap_follows {x : Swap} {casDigest : String} (hx : x.Lawful) (hcore : b.core = x.after.core)
    (hback : req.kind = .rollback → b.WasBound req) :
    x.Follows ⟨req.operationId, req.kind, b, b.swap req casDigest⟩ := by
  refine ⟨hcore, ?_, fun _ hkind => ?_⟩
  · have hgen := ShardBinding.generation_of_core hcore
    have hnext := hx.generation
    show x.before.currentBindingGeneration < b.currentBindingGeneration
    omega
  · obtain ⟨p, hp, hgeneration, hrevision⟩ := hback hkind
    have hprevious : b.previous = _ := (ShardBinding.previous_of_core hcore).trans hx.previous
    rw [Option.mem_def, hprevious] at hp
    cases hp
    exact ⟨hrevision.symm, hgeneration.symm⟩

section

variable {db₀ : Db} {s s' : Store} {shardId : String}

theorem swapsOf_snoc (shardId : String) {x : Swap} (h : s'.swaps = s.swaps ++ [x]) :
    s'.swapsOf shardId = if x.before.shardId = shardId then s.swapsOf shardId ++ [x] else s.swapsOf shardId := by
  rw [Store.swapsOf, h, List.filter_append]
  by_cases hx : x.before.shardId = shardId <;> simp [hx, Store.swapsOf]

/-- a step of the bindings keeps the laws, if a rollback goes to the pair before -/
theorem SwapLaws.step (h : SwapLaws db₀ s shardId) (hstep : Rebound may s s')
    (hback : ∀ req old b, may req old → Swappable s.db req old b → req.kind = .rollback → b.WasBound req) :
    SwapLaws db₀ s' shardId := by
  cases hstep with
  | kept bindings swaps =>
    have hsame : s'.swapsOf shardId = s.swapsOf shardId := by rw [Store.swapsOf, swaps, Store.swapsOf]
    refine ⟨?_, ?_, ?_⟩
    · rw [hsame]
      exact h.lawful
    · rw [hsame]
      exact h.follows
    · rw [hsame, bindings]
      exact h.current
  | swapped req old b casDigest made swappable bindings swaps =>
    have hkey : b.shardId = req.shardId := Table.lookup_key swappable.found
    have hnew := swapsOf_snoc shardId swaps
    by_cases hshard : b.shardId = shardId
    · rw [if_pos hshard] at hnew
      have hrow : (s.db.binding? shardId).map ShardBinding.core = some b.core := by
        rw [← hshard, hkey, swappable.found]
        rfl
      refine ⟨?_, ?_, ?_⟩
      · rw [hnew]
        exact Run.forall_mem_snoc.2 ⟨h.lawful, swap_lawful req b casDigest⟩
      · rw [hnew, List.isChain_append]
        refine ⟨h.follows, List.IsChain.singleton _, fun x hx y hy => ?_⟩
        cases hy
        have hlast := h.current
        rw [hrow, Option.mem_def.1 hx] at hlast
        have hcore : b.core = x.after.core := Option.some.inj hlast
        exact swap_follows (h.lawful x (List.mem_of_getLast? hx)) hcore (hback req old b made swappable)
      · rw [hnew, bindings, if_pos (hshard.symm.trans hkey), List.getLast?_append]
        rfl
    · rw [if_neg hshard] at hnew
      have hother : shardId ≠ req.shardId := fun heq => hshard (hkey.trans heq.symm)
      refine ⟨?_, ?_, ?_⟩
      · rw [hnew]
        exact h.lawful
      · rw [hnew]
        exact h.follows
      · rw [hnew, bindings, if_neg hother]
        exact h.current

/-- no two swaps start from the same binding generation -/
theorem SwapLaws.winners (h : SwapLaws db₀ s shardId) :
    (s.swapsOf shardId).Pairwise fun a b => a.before.currentBindingGeneration < b.before.currentBindingGeneration :=
  List.isChain_iff_pairwise.1 (h.follows.imp fun _ _ hab => hab.advances)

end

/-! ## The laws of the swaps -/

/-- the request of a call that is about to swap -/
def swapRequest? (t : Thread commands Job Result) : Option RolloutRequest :=
  match t.cmd? with
  | some (.casSwap req _ _ _) => some req
  | _ => none

def Job.Recovers : Job → Prop
  | .reconcile _ => True
  | _ => False

instance (job : Job) : Decidable job.Recovers := by
  cases job <;> unfold Job.Recovers <;> infer_instance

/-- a rollback that is recovered still goes to the pair before the current one -/
def RollbackCurrent (w : ModelWorld) : Event → Prop
  | .advance index _ => ∀ t ∈ w.threads[index]?, t.job.Recovers → ∀ req ∈ swapRequest? t, req.kind = .rollback →
      ∀ b ∈ w.store.db.binding? req.shardId, b.WasBound req
  | _ => True

instance (w : ModelWorld) : (op : Event) → Decidable (RollbackCurrent w op)
  | .advance index _ => inferInstanceAs (Decidable (∀ t ∈ w.threads[index]?, t.job.Recovers → ∀ req ∈ swapRequest? t,
      req.kind = .rollback → ∀ b ∈ w.store.db.binding? req.shardId, b.WasBound req))
  | .spawn _ => inferInstanceAs (Decidable True)
  | .crash _ => inferInstanceAs (Decidable True)
  | .outside _ => inferInstanceAs (Decidable True)

/-- the swap of a rollback goes to the pair before, by the call or by the condition -/
theorem swap_was_bound {sv : Services} {w : ModelWorld} (hsound : Sound (bindingDiscipline sv) w) {index : ℕ} {e : Env}
    (hop : RollbackCurrent w (.advance index e)) {t : Thread commands Job Result} (found : w.threads[index]? = some t)
    (live : t.live = true) {c : Cmd} {k : GoResult c.Val → Program} (next : t.proc = .ask c k) (hc : c.Swaps req old)
    (hswap : Swappable w.store.db req old b) (hkind : req.kind = .rollback) :
    b.WasBound req := by
  obtain ⟨observationId, digest, rfl⟩ := hc
  have hguard := hsound.guard (List.mem_of_getElem? found) live next
  have hexact : t.job.Recovers ∨ Exact (.casSwap req old observationId digest) w.store := by
    cases hjob : t.job with
    | reconcile => exact .inl trivial
    | rollout r | advance groupId =>
      rw [hjob] at hguard
      exact .inr hguard
  rcases hexact with hrecovers | hexact
  · have hreq : swapRequest? t = some req := by rw [swapRequest?, Thread.cmd?_ask live next]
    exact hop t found hrecovers req hreq hkind b hswap.found
  · obtain ⟨hloaded, hshard, p, hp, hpair⟩ := hexact hkind
    exact ⟨p, by rw [ShardBinding.previous_of_core (hloaded.core_eq hshard hswap)]; exact hp, hpair⟩

/-- **Swap laws.** In every run of rollouts, rollbacks, recoveries and group advances, with any replies, failures and
crashes, whose recovered rollbacks still go to the pair before the current one: each swap takes the binding generation one on,
raises the epoch when the revision changes, and keeps the old pair as the previous one; no two swaps of a shard start from the
same binding generation; and a rollback right after a rollout restores the pair that the rollout replaced. -/
theorem binding_swap_laws (sv : Services) (db₀ : Db) (ops : List Event)
    (hops : Along (fun pre op => RollbackCurrent (runFrom sv db₀ pre) op) ops) (shardId : String) :
    SwapLaws db₀ (runFrom sv db₀ ops).store shardId ∧
      ((runFrom sv db₀ ops).store.swapsOf shardId).Pairwise fun a b =>
        a.before.currentBindingGeneration < b.before.currentBindingGeneration := by
  have hlaws : SwapLaws db₀ (runFrom sv db₀ ops).store shardId := by
    induction ops using List.reverseRecOn with
    | nil => exact ⟨fun x hx => (by cases hx), List.IsChain.nil, rfl⟩
    | append_singleton ops _ ih =>
      obtain ⟨hpre, hop⟩ := (along_snoc _ _).1 hops
      have ih := ih hpre
      rw [runFrom, Process.run_snoc]
      refine step_store (P := (SwapLaws db₀ · shardId)) ih (fun x _ => ?_) ?_
      · exact ih.step (admin_rebound sv x _) fun _ _ _ hmay => hmay.elim
      · rintro index e t c k rfl found live next
        refine ih.step (act_rebound sv e c _) fun req old b hc hswap hkind => ?_
        exact swap_was_bound (run_exact sv db₀ ops) hop found live next hc hswap hkind
  exact ⟨hlaws, hlaws.winners⟩

/-! ## A rollback that is recovered late -/

def repeated (c : Char) : String := "sha256:" ++ String.ofList (List.replicate 64 c)

def zeroDigest : String := repeated '0'

/-- services whose digests are all the same -/
def plainServices : Services :=
  ⟨fun _ => String.ofList (List.replicate 64 '0'), fun _ => "", fun _ => "", fun _ => "",
    fun _ => some ⟨"https", "pool-1", false, ""⟩⟩

/-- revision and generation of the same letter belong together -/
def sampleRevision (id : String) (c : Char) : ModelRevision :=
  ⟨id, repeated c, zeroDigest, zeroDigest, zeroDigest, zeroDigest, .qualified, "cpu", "scope-1"⟩

def sampleKey (generation : ℤ) : PoolKey := ⟨"pool-1", "incarnation-1", generation⟩

def sampleDigests (c : Char) : PoolDigests :=
  { startupEnvelope := zeroDigest, poolObservation := zeroDigest, binding := zeroDigest, modelRevision := repeated c
    modelBundle := zeroDigest, featureContract := zeroDigest, labelContract := zeroDigest, outputAdapter := zeroDigest
    wireProfile := zeroDigest, runtimeProfile := zeroDigest, optimizationProfile := zeroDigest }

def samplePool (generation : ℤ) (id : String) (c : Char) : PoolGeneration :=
  ⟨sampleKey generation, id, sampleDigests c, .active, 1, true⟩

def sampleReadback (generation : ℤ) (c : Char) : Readback :=
  { key := sampleKey generation, bindingGeneration := 1, operationId := "mpool", digests := sampleDigests c
    wireProfile := "inference-central-grpc-batch/v1", runtimeProfile := "cpu", availabilityProfile := "standard"
    readyReplicas := 1, readbackAttemptId := "attempt-1", observedAtUnixMs := 1, endpoint := "https://pool-1"
    tlsServerName := "pool-1", tlsIdentityRef := "edge-tls", eligibleWorkers := [⟨"worker-1", zeroDigest⟩]
    loaded := true }

def sampleEvent (generation : ℤ) (id : String) (c : Char) : ObservationEvent :=
  ⟨id, zeroDigest, sampleReadback generation c, ⟨"pool-1", generation, true, true, "", ""⟩⟩

def sampleObservation (generation : ℤ) (id : String) : CurrentObservation :=
  ⟨sampleKey generation, id, zeroDigest, zeroDigest, 1, "scope-1"⟩

def sampleBinding : ShardBinding :=
  { shardId := "shard-1", logicalPoolId := "pool-1", modelControlIncarnationId := "incarnation-1"
    currentGeneration := 1, currentBindingGeneration := 1, currentRevisionId := "revision-a", previous := none
    routeEpoch := 1, resumeState := .current, loaded := true, ready := true, casDigest := zeroDigest
    scope := "scope-1" }

def sampleAssignment : Target.AssignmentRow :=
  { targetId := "shard-1", assignmentGeneration := 1, incarnationId := "target-1", edgeWorkloadRef := "edge-1"
    leaseId := "lease-1", issuedAtUnixMs := 0, expiresAtUnixMs := 100, electionFloor := 1, electionCeiling := 2
    actorRuntimeEpoch := "epoch-1", applicationGeneration := 1, actor := ⟨"issuer", "subject"⟩, traceId := "trace-1"
    revokedAtUnixMs := none }

/-- one shard on generation one; generations two to four are in use by other shards of the pool -/
def sampleDb : Db :=
  { revisions := [sampleRevision "revision-a" 'a', sampleRevision "revision-b" 'b', sampleRevision "revision-c" 'c',
      sampleRevision "revision-d" 'd']
    pools := [⟨"pool-1", 1, "standard", "cpu"⟩]
    poolGenerations := [samplePool 1 "revision-a" 'a', samplePool 2 "revision-b" 'b', samplePool 3 "revision-c" 'c',
      samplePool 4 "revision-d" 'd']
    bindings := [sampleBinding]
    operations := []
    observationEvents := [sampleEvent 1 "observation-a" 'a', sampleEvent 2 "observation-b" 'b',
      sampleEvent 3 "observation-c" 'c', sampleEvent 4 "observation-d" 'd']
    observations := [sampleObservation 1 "observation-a", sampleObservation 2 "observation-b",
      sampleObservation 3 "observation-c", sampleObservation 4 "observation-d"]
    control := ⟨some "incarnation-1", true⟩
    assignments := [sampleAssignment]
    groups := []
    groupShards := [] }

def sampleRequest (operationId : String) (kind : OperationKind) (generation : ℤ) (revisionId : String) : RolloutRequest :=
  { operationId, shardId := "shard-1", logicalPoolId := "pool-1", targetGeneration := generation
    targetRevisionId := revisionId, kind, actorRef := "actor-1", reasonCode := "ROLLOUT", traceId := "trace-1"
    scope := "scope-1", wireProfile := "inference-central-grpc-batch/v1", wireProfileDigest := zeroDigest
    runtimeProfileDigest := zeroDigest, optimizationProfileDigest := zeroDigest, availabilityProfile := "standard"
    minReadyReplicas := 1, modelControlIncarnationId := "incarnation-1", edgeWorkloadRef := "" }

/-- every statement is answered and Edge cannot be reached -/
def answeredEnv : Env :=
  ⟨1, .answered, .error "unavailable", .error "unavailable", .error "unavailable", .error "unavailable"⟩

/-- Edge answers with the state of the route -/
def edgeEnv (state : String) (routeEpoch : ℤ) : Env :=
  { answeredEnv with edge := .ok ⟨"shard-1", state, routeEpoch, 0, 0, zeroDigest⟩ }

def advances (index count : ℕ) : List Event := List.replicate count (.advance index answeredEnv)

/-- a rollout up to and with `PrepareRoute` -/
def preparing (index : ℕ) (req : RolloutRequest) (routeEpoch : ℤ) : List Event :=
  .spawn (.rollout req) :: advances index 9 ++ [.advance index (edgeEnv "draining" routeEpoch)]

/-- a rollout that is applied -/
def applying (index : ℕ) (req : RolloutRequest) (routeEpoch : ℤ) : List Event :=
  preparing index req routeEpoch ++ [.advance index (edgeEnv "ready" routeEpoch)] ++ advances index 3 ++
    [.advance index (edgeEnv "active" routeEpoch)] ++ advances index 1

/-- a rollout whose `CommitRoute` is not answered, and which is left resume_pending -/
def pending (index : ℕ) (req : RolloutRequest) (routeEpoch : ℤ) : List Event :=
  preparing index req routeEpoch ++ advances index 3

/-- a recovery that swaps and resumes -/
def recovering (index : ℕ) (operationId : String) (routeEpoch : ℤ) : List Event :=
  .spawn (.reconcile operationId) :: advances index 4 ++ [.advance index (edgeEnv "ready" routeEpoch)] ++
    advances index 1 ++ [.advance index (edgeEnv "active" routeEpoch)] ++ advances index 2

/-- a rollout, and a rollback of it that is recovered at once -/
def promptOps : List Event :=
  applying 0 (sampleRequest "rollout-b" .rollout 2 "revision-b") 2 ++
    pending 1 (sampleRequest "rollback-a" .rollback 0 "revision-a") 3 ++ recovering 2 "rollback-a" 3

/-- the rollback is recovered after another rollout, while a third one has the route withdrawn -/
def lateOps : List Event :=
  applying 0 (sampleRequest "rollout-b" .rollout 2 "revision-b") 2 ++
    pending 1 (sampleRequest "rollback-a" .rollback 0 "revision-a") 3 ++
    applying 2 (sampleRequest "rollout-c" .rollout 3 "revision-c") 3 ++
    preparing 3 (sampleRequest "rollout-d" .rollout 4 "revision-d") 4 ++ [.crash 3] ++ recovering 4 "rollback-a" 4

/-- what is told of a swap: who made it, and the generations before and after -/
def Swap.told (x : Swap) : String × ℤ × ℤ := (x.operationId, x.before.currentGeneration, x.after.currentGeneration)

theorem prompt_rollback_restores :
    ((runFrom plainServices sampleDb promptOps).store.swapsOf "shard-1").map Swap.told =
        [("rollout-b", 1, 2), ("rollback-a", 2, 1)] ∧
      SwapLaws sampleDb (runFrom plainServices sampleDb promptOps).store "shard-1" := by
  refine ⟨by decide +kernel, (binding_swap_laws plainServices sampleDb promptOps ?_ "shard-1").1⟩
  exact along_of_decide (P := RollbackCurrent) (Process.step (manager plainServices)) ⟨⟨sampleDb, [], []⟩, []⟩ (by decide +kernel)

/-- **A late recovery goes past the last rollout.** The rollback was created when generation one was the one before. It is
recovered after the rollout from generation two to three, and takes the shard to generation one, not to two. -/
theorem stale_rollback_recovered :
    ((runFrom plainServices sampleDb lateOps).store.swapsOf "shard-1").map Swap.told =
        [("rollout-b", 1, 2), ("rollout-c", 2, 3), ("rollback-a", 3, 1)] ∧
      ¬ ((runFrom plainServices sampleDb lateOps).store.swapsOf "shard-1").IsChain Swap.Restores := by
  decide +kernel

end MasiEdge.Model
