/-
The route journal behind the route commands.

A successful command that journals appends one record and moves the checkpoint behind everything before it (`Staged`), so one
record stays pending. `runOnDisk` makes these calls on the WAL of the journal; `journal_refines`: the WAL it ends with is a
session whose log is the journal of the actor, record by record.

`failed_command_iff`: when a failed prepare or commit leaves the route alone. Both step the router before they journal, so
a failed append leaves a drained router over a journal that still says active (`failed_prepare_drains`), and its record may
have stayed in the file.
-/
import MasiEdge.Route.Machine
import MasiEdge.Wal.Reopen

namespace MasiEdge.Route

open Codec Run List

/-! ## Stages of the journal -/

variable {a b : RouteActor} {env : JournalReplies} {router router' : Router} {cfg : RouteConfig} {route : InferenceRoute}
  {readback : EdgeResult BindingReadback} {stage : RouteWalStage} {last : Option InferenceRoute} {epoch : ℕ}
  {reason trace : String} {handshake : Option ResumeRouteRequest} {e : EdgeError}

/-- a record more, and the checkpoint behind everything before it -/
structure Staged (before after : Log RouteWalRecord) (record : RouteWalRecord) : Prop where
  entries : after.entries = before.entries ++ [record]
  checkpoint : after.checkpoint = before.lastSequence

theorem appendRouteStage_ok (h : appendRouteStage a stage last epoch reason trace handshake env = (.ok (), b)) :
    ∃ record, Staged a.journal b.journal record := by
  unfold appendRouteStage at h
  by_cases hzero : epoch = 0
  · simp [hzero] at h
  rw [if_neg hzero] at h
  cases happend : env.append with
  | error => simp [happend] at h
  | ok =>
    simp only [happend] at h
    by_cases hprev : a.journal.checkpoint < a.journal.lastSequence
    · rw [if_pos hprev] at h
      split at h
      · rename_i hmove
        cases h
        obtain ⟨-, hentries, hcheckpoint⟩ := Log.moveTo_eq_some hmove
        exact ⟨_, hentries, hcheckpoint⟩
      · simp at h
      · simp at h
    · rw [if_neg hprev] at h
      cases h
      exact ⟨_, rfl, Nat.le_antisymm a.journal.inRange (Nat.not_lt.1 hprev)⟩

/-- a successful command is a repeated resume, or a stage -/
theorem succeed_staged {command : Command} (h : succeed cfg a command = .ok b) :
    b = a ∨ ∃ record, Staged a.journal b.journal record := by
  unfold succeed at h
  split at h
  · rename_i c hexec
    cases h
    cases command with
    | prepare request env =>
      simp only [execute, prepareRoute] at hexec
      split at hexec
      · simp at hexec
      · have hstaged := appendRouteStage_ok hexec
        exact .inr hstaged
    | commit request env =>
      simp only [execute, commitRoute] at hexec
      split at hexec
      · simp at hexec
      · split at hexec
        · simp at hexec
        · split at hexec
          · simp at hexec
          · rename_i happend
            cases hexec
            have hstaged := appendRouteStage_ok happend
            exact .inr hstaged
    | resume request env =>
      simp only [execute, resumeRoute] at hexec
      split at hexec
      · simp at hexec
      · split_ifs at hexec
        · exact .inl (Prod.mk.inj hexec).2.symm
        · unfold firstResume at hexec
          dsimp only at hexec
          split at hexec
          · simp at hexec
          · split at hexec
            · simp at hexec
            · rename_i happend
              split at hexec
              · simp at hexec
              · cases hexec
                have hstaged := appendRouteStage_ok happend
                exact .inr hstaged
  · simp at h

/-- one record is pending as soon as the route has been touched -/
theorem run_pending {commands : List Command} (h : run cfg commands = .ok a) :
    a = RouteActor.initial ∨ a.journal.lastSequence = a.journal.checkpoint + 1 := by
  refine runM_induction (succeed cfg) RouteActor.initial
    (fun _ a => a = RouteActor.initial ∨ a.journal.lastSequence = a.journal.checkpoint + 1) (.inl rfl) ?_ commands a h
  intro _ t command u ht hstep
  rcases succeed_staged hstep with rfl | ⟨record, hstaged⟩
  · exact ht
  · refine .inr ?_
    rw [Log.lastSequence, hstaged.entries, hstaged.checkpoint, length_append]
    rfl

/-! ## The journal on disk -/

/-- the clocks of a stage: `append` reads two, the checkpoint behind it one -/
structure StageClocks where
  retention : ℤ
  record : ℤ
  checkpoint : ℤ

section

open Wal

variable (crc : Bytes → UInt32) (encode : RouteWalRecord → Bytes) (cfg : RouteConfig) (limits : WalLimits)

/-- the calls of `append_route_stage` for what a command has added to the journal -/
def journalCalls (before after : Log RouteWalRecord) (clocks : StageClocks) : List Call :=
  match after.entries.drop before.entries.length with
  | [] => []
  | record :: _ =>
    .append (encode record) clocks.retention clocks.record ::
      if before.checkpoint < before.lastSequence then [.checkpoint before.lastSequence clocks.checkpoint] else []

/-- a successful command whose calls succeed on the WAL -/
def succeedOnDisk (x : RouteActor × DurableWal) (command : Command × StageClocks) : EdgeResult (RouteActor × DurableWal) := do
  let actor ← succeed cfg x.1 command.1
  let wal ← runM (call crc) x.2 (journalCalls encode x.1.journal actor.journal command.2)
  return (actor, wal)

/-- a run of successful commands from a fresh target and an empty directory -/
def runOnDisk (commands : List (Command × StageClocks)) : EdgeResult (RouteActor × DurableWal) := do
  let wal ← openWal crc Dir.empty .routeJournal limits
  runM (succeedOnDisk crc encode cfg) (RouteActor.initial, wal) commands

/-- the WAL is a session with the journal's records, and the checkpoint of the journal -/
structure OnDisk (commands : List (Command × StageClocks)) (a : RouteActor) (w : DurableWal) (calls : List Call) : Prop where
  session : session crc .routeJournal limits calls = .ok w
  run : Route.run cfg (commands.map Prod.fst) = .ok a
  payloads : (appended calls).map WalRecord.payload = a.journal.entries.map encode
  checkpoint : checkpointOf calls = a.journal.checkpoint
  times : ∀ r ∈ appended calls, ∃ command ∈ commands, r.recordedAtUnixMs = command.2.record.toNat

variable {crc encode cfg limits} {w w' : DurableWal} {calls more : List Call} {before after : Log RouteWalRecord}
  {record : RouteWalRecord} {clocks : StageClocks} {commands : List (Command × StageClocks)}

theorem session_append {kind : WalKind} (h : session crc kind limits calls = .ok w)
    (hmore : runM (call crc) w more = .ok w') : session crc kind limits (calls ++ more) = .ok w' := by
  obtain ⟨w0, hopen, hrun⟩ := bind_ok.1 h
  rw [session, hopen, ok_bind]
  exact (runM_append _ _ _ _ _).2 ⟨w, hrun, hmore⟩

/-- the calls of a stage append its record, and leave the checkpoint where the stage does -/
theorem Staged.appended_calls (h : Staged before after record) (hcheckpoint : checkpointOf calls = before.checkpoint) :
    (∃ r, appended (calls ++ journalCalls encode before after clocks) = appended calls ++ [r] ∧
      r.payload = encode record ∧ r.recordedAtUnixMs = clocks.record.toNat) ∧
    checkpointOf (calls ++ journalCalls encode before after clocks) = after.checkpoint := by
  have hadded : after.entries.drop before.entries.length = [record] := by rw [h.entries, drop_left]
  have hmoved : checkpointOf (calls ++ [.append (encode record) clocks.retention clocks.record]) = before.checkpoint :=
    (checkpointOf_snoc _ _).trans hcheckpoint
  simp only [journalCalls, hadded]
  split_ifs with hprev
  · rw [← singleton_append, ← append_assoc, appended_checkpoint, appended_append, checkpointOf_snoc, h.checkpoint]
    exact ⟨⟨_, rfl, rfl, rfl⟩, rfl⟩
  · rw [appended_append, hmoved, h.checkpoint]
    exact ⟨⟨_, rfl, rfl, rfl⟩, Nat.le_antisymm before.inRange (Nat.not_lt.1 hprev)⟩

/-- **The WAL refines the journal.** After every run of successful commands on disk, the WAL is a session of calls, and the
log these calls leave has the encoded records of the journal, and its checkpoint. -/
theorem journal_refines (h : runOnDisk crc encode cfg limits commands = .ok (a, w)) :
    ∃ calls, OnDisk crc encode cfg limits commands a w calls := by
  obtain ⟨w0, hopen, hrun⟩ := bind_ok.1 h
  refine runM_induction (succeedOnDisk crc encode cfg) _
    (fun pre x => ∃ calls, OnDisk crc encode cfg limits pre x.1 x.2 calls) ⟨[], ?_⟩ ?_ commands (a, w) hrun
  · exact ⟨by rw [session, hopen]; rfl, rfl, rfl, rfl, by simp [appended, appendedFrom]⟩
  · rintro pre ⟨a, w⟩ ⟨command, clocks⟩ ⟨b, w'⟩ ⟨calls, hdisk⟩ hstep
    obtain ⟨actor, hsucceed, hstep⟩ := bind_ok.1 hstep
    obtain ⟨wal, hcalls, hstep⟩ := bind_ok.1 hstep
    cases hstep
    have hrun : run cfg ((pre ++ [(command, clocks)]).map Prod.fst) = .ok b := by
      rw [map_append]
      exact (runM_snoc _ _ _ _ _).2 ⟨a, hdisk.run, hsucceed⟩
    suffices hleft : (appended (calls ++ journalCalls encode a.journal b.journal clocks)).map WalRecord.payload =
          b.journal.entries.map encode ∧
        checkpointOf (calls ++ journalCalls encode a.journal b.journal clocks) = b.journal.checkpoint ∧
        ∀ r ∈ appended (calls ++ journalCalls encode a.journal b.journal clocks),
          ∃ x ∈ pre ++ [(command, clocks)], r.recordedAtUnixMs = x.2.record.toNat from
      ⟨_, session_append hdisk.session hcalls, hrun, hleft.1, hleft.2.1, hleft.2.2⟩
    have hearlier : ∀ r ∈ appended calls, ∃ x ∈ pre ++ [(command, clocks)], r.recordedAtUnixMs = x.2.record.toNat := by
      intro r hr
      obtain ⟨x, hx, htime⟩ := hdisk.times r hr
      exact ⟨x, mem_append_left _ hx, htime⟩
    rcases succeed_staged hsucceed with rfl | ⟨record, hstaged⟩
    · have hnone : journalCalls encode b.journal b.journal clocks = [] := by simp [journalCalls]
      rw [hnone, append_nil]
      exact ⟨hdisk.payloads, hdisk.checkpoint, hearlier⟩
    · obtain ⟨⟨r, happended, hpayload, htime⟩, hcheckpoint⟩ := hstaged.appended_calls hdisk.checkpoint
      rw [happended, hcheckpoint]
      refine ⟨?_, rfl, forall_mem_snoc.2 ⟨hearlier, _, mem_append_right _ mem_cons_self, htime⟩⟩
      rw [map_append, hdisk.payloads, hstaged.entries, map_append, map_singleton, hpayload]
      rfl

end

/-! ## A sample route -/

def zeroDigest : String := "sha256:0000000000000000000000000000000000000000000000000000000000000000"

def poolConfig : RouteConfig where
  targetId := "leaf-1"
  featureProfileDigest := zeroDigest
  p4IdentityRef := none
  controlIdentityRef := "control"
  identities := [("pool", "pool.local")]
  inferenceMessageBytes := 1024
  bindingRequestBytes := fun _ => 512

def poolRoute : InferenceRoute :=
  { modelControlIncarnationId := "incarnation-1", logicalPoolId := "pool-1", poolGeneration := 1, bindingGeneration := 1
    routeEpoch := 1, modelRevisionDigest := zeroDigest, labelContractDigest := zeroDigest
    outputAdapterDigest := zeroDigest, wireProfile := "inference-central-grpc-batch/v1"
    runtimeProfile := "model-runtime-central-cpu/v1", operationId := "operation-1", scope := "scope-1"
    expectedBindingGeneration := 0, proposedBindingGeneration := 1, currentBindingGeneration := 1
    startupEnvelopeDigest := zeroDigest, poolObservationDigest := zeroDigest, bindingDigest := zeroDigest
    modelBundleDigest := zeroDigest, wireProfileDigest := zeroDigest, runtimeProfileDigest := zeroDigest
    optimizationProfileDigest := zeroDigest, schemaVersion := "inference-route/v1", shardId := "leaf-1"
    featureContractDigest := zeroDigest, endpoint := "pool.local:443", tls := some ⟨"pool.local", "pool"⟩ }

def poolReadback : BindingReadback :=
  { schemaVersion := "inference-committed-binding/v1", modelControlIncarnationId := "incarnation-1"
    operationId := "operation-1", logicalPoolId := "pool-1", poolGeneration := 1, bindingGeneration := 1
    startupEnvelopeDigest := zeroDigest, modelRevisionDigest := zeroDigest, modelBundleDigest := zeroDigest
    featureContractDigest := zeroDigest, labelContractDigest := zeroDigest, outputAdapterDigest := zeroDigest
    wireProfile := "inference-central-grpc-batch/v1", wireProfileDigest := zeroDigest
    runtimeProfile := "model-runtime-central-cpu/v1", runtimeProfileDigest := zeroDigest
    optimizationProfileDigest := zeroDigest, poolObservationDigest := zeroDigest, bindingDigest := zeroDigest
    workerId := "worker-1", workerDigest := zeroDigest, readbackAttemptId := "attempt-1", observedAtUnixMs := 1
    eligibleWorkers := [⟨"worker-1", zeroDigest⟩] }

def poolHandshake : ResumeRouteRequest :=
  { schemaVersion := "inference-committed-binding/v1", shardId := "leaf-1", modelControlIncarnationId := "incarnation-1"
    routeEpoch := 1, traceId := "trace-3", operationId := "operation-1", scope := "scope-1", logicalPoolId := "pool-1"
    poolGeneration := 1, expectedBindingGeneration := 0, proposedBindingGeneration := 1, currentBindingGeneration := 1
    startupEnvelopeDigest := zeroDigest, poolObservationDigest := zeroDigest, bindingDigest := zeroDigest
    deadlineUnixMs := 100 }

def preparePool (traceId : String) : Command :=
  .prepare ⟨"inference-route-prepare/v1", "leaf-1", "", 0, 1, traceId⟩ ⟨5, .ok (), .ok ()⟩

def activePool : List Command :=
  [preparePool "trace-1", .commit ⟨some poolRoute, "trace-2"⟩ ⟨false, .ok false, .ok poolReadback, ⟨6, .ok (), .ok ()⟩⟩,
   .resume poolHandshake ⟨7, .ok (), .ok ()⟩]

/-- the active actor these commands end with -/
def activeActor : RouteActor :=
  match run poolConfig activePool with
  | .ok a => a
  | .error _ => .initial

/-! ## Failed commands -/

/-- what refuses a prepare before the router steps -/
def PrepareRefused (cfg : RouteConfig) (a : RouteActor) (request : PrepareRouteRequest) : Prop :=
  request.schemaVersion ≠ "inference-route-prepare/v1" ∨ request.shardId ≠ cfg.targetId ∨ a.routeRecovery.isSome ∨
    request.proposedRouteEpoch ≤ request.currentRouteEpoch ∨
    match a.router.route with
    | some route =>
      route.modelControlIncarnationId ≠ request.currentModelControlIncarnationId ∨ route.routeEpoch ≠ request.currentRouteEpoch
    | none => request.currentRouteEpoch ≠ 0

/-- the route is committed already, and its client connected -/
def Router.Committed (router : Router) (route : InferenceRoute) : Prop :=
  router.state = .ready ∧ router.route = some route ∧ router.binding.isSome ∧ router.client = true

/-- the router is drained, the route is valid and new, and the pool is reached and its readback exact -/
def Router.Commits (cfg : RouteConfig) (router : Router) (route : InferenceRoute) (readback : EdgeResult BindingReadback) :
    Prop :=
  router.state = .draining ∧ validateRoute route = .ok () ∧ (∀ p ∈ router.route, p.routeEpoch < route.routeEpoch) ∧
    ∃ tls ∈ route.tls, contractTls cfg tls = .ok () ∧ cfg.bindingRequestBytes route ≤ cfg.inferenceMessageBytes ∧
      ∃ binding, readback = .ok binding ∧ validateBinding route binding = .ok ()

/-- what refuses a commit before it reaches the router -/
def CommitGuarded (cfg : RouteConfig) (a : RouteActor) (route : InferenceRoute) (env : CommitReplies) : Prop :=
  route.shardId ≠ cfg.targetId ∨ a.routeRecovery.isSome ∨
    (a.router.inFlight ≠ 0 ∨ env.resultsPending = true ∨ env.inputsBound ≠ .ok false) ∨
    (∃ p4 ∈ cfg.p4IdentityRef, ∃ tls ∈ route.tls, p4 = tls.identityRef ∨ tls.identityRef = cfg.controlIdentityRef) ∨
    route.featureContractDigest ≠ cfg.featureProfileDigest

/-- what refuses a commit before the router steps; a committed route of epoch zero is refused by the journal -/
def CommitRefused (cfg : RouteConfig) (a : RouteActor) (request : CommitRouteRequest) (env : CommitReplies) : Prop :=
  ∀ route ∈ request.route, CommitGuarded cfg a route env ∨ (a.router.Committed route ∧ route.routeEpoch = 0) ∨
    ¬ a.router.Committed route ∧ ¬ a.router.Commits cfg route env.readback

theorem Router.prepare_iff {incarnation : String} {current proposed : ℕ} :
    router.prepare incarnation current proposed = .ok router' ↔ ¬ (proposed ≤ current ∨
      match router.route with
      | some route => route.modelControlIncarnationId ≠ incarnation ∨ route.routeEpoch ≠ current
      | none => current ≠ 0) ∧ router' = { router with state := .draining } := by
  unfold Router.prepare
  cases router.route <;>
    simp only [check_ok, refuse_ok, pure, Except.pure, Except.ok.injEq, not_or, and_assoc, @eq_comm _ router']

theorem readBinding_iff {binding : BindingReadback} : readBinding cfg route readback = .ok binding ↔
    ∃ tls ∈ route.tls, contractTls cfg tls = .ok () ∧ cfg.bindingRequestBytes route ≤ cfg.inferenceMessageBytes ∧
      readback = .ok binding ∧ validateBinding route binding = .ok () := by
  unfold readBinding
  cases route.tls with
  | none => simp
  | some tls =>
    dsimp only
    rw [check_ok, check_ok, refuse_ok, bind_ok]
    simp only [check_ok, not_lt, pure, Except.pure, Except.ok.injEq, Option.mem_def, Option.some.injEq, exists_eq_left']
    constructor
    · rintro ⟨hcontract, hsize, _, hread, hvalid, rfl⟩
      exact ⟨hcontract, hsize, hread, hvalid⟩
    · rintro ⟨hcontract, hsize, hread, hvalid⟩
      exact ⟨hcontract, hsize, binding, hread, hvalid, rfl⟩

theorem checkAdvance_iff {previous : Option InferenceRoute} :
    checkAdvance previous route = .ok () ↔ ∀ p ∈ previous, p.routeEpoch < route.routeEpoch := by
  cases previous <;> simp [checkAdvance]

/-- a commit keeps a committed route, or puts a validated one in its place -/
theorem Router.commit_ok (h : router.commit cfg route readback = .ok router') : router.Committed route ∧ router' = router ∨
    ¬ router.Committed route ∧ router.Commits cfg route readback ∧ router'.state = .ready := by
  unfold Router.commit at h
  split_ifs at h with hsame
  · exact .inl ⟨hsame, (Except.ok.inj h).symm⟩
  · rw [check_ok, refuse_ok, check_ok, check_ok, checkAdvance_iff, bind_ok] at h
    obtain ⟨hdraining, hvalid, hadvance, binding, hread, h⟩ := h
    obtain ⟨tls, htls, hcontract, hsize, hread, hexact⟩ := readBinding_iff.1 hread
    cases h
    exact .inr ⟨hsame, ⟨not_not.1 hdraining, hvalid, hadvance, tls, htls, hcontract, hsize, binding, hread, hexact⟩, rfl⟩

theorem Router.commit_isOk (h : router.Committed route ∨ router.Commits cfg route readback) :
    ∃ router', router.commit cfg route readback = .ok router' := by
  unfold Router.commit
  split_ifs with hsame
  · exact ⟨router, rfl⟩
  · obtain ⟨hdraining, hvalid, hadvance, tls, htls, hcontract, hsize, binding, hread, hexact⟩ := h.resolve_left hsame
    have hread := readBinding_iff.2 ⟨tls, htls, hcontract, hsize, hread, hexact⟩
    exact ⟨_, check_ok.2 ⟨refuse_ok.2 (not_not.2 hdraining), check_ok.2 ⟨hvalid, check_ok.2 ⟨checkAdvance_iff.2 hadvance,
      bind_ok.2 ⟨binding, hread, rfl⟩⟩⟩⟩⟩

theorem checkDrained_iff {env : CommitReplies} : checkDrained a env = .ok () ↔
    ¬ (a.router.inFlight ≠ 0 ∨ env.resultsPending = true ∨ env.inputsBound ≠ .ok false) := by
  unfold checkDrained
  rw [bind_ok]
  simp only [refuse_ok]
  by_cases hbusy : a.router.inFlight ≠ 0 ∨ env.resultsPending = true
  · rw [if_pos hbusy, ← or_assoc]
    simp [hbusy]
  · rw [if_neg hbusy, ← or_assoc, or_iff_right hbusy]
    rcases env.inputsBound with e | _ | _ <;> simp [Except.map]

theorem checkIdentityReuse_iff : checkIdentityReuse cfg route = .ok () ↔
    ¬ ∃ p4 ∈ cfg.p4IdentityRef, ∃ tls ∈ route.tls, p4 = tls.identityRef ∨ tls.identityRef = cfg.controlIdentityRef := by
  unfold checkIdentityReuse
  cases cfg.p4IdentityRef <;> cases route.tls <;> simp

/-- `b` has the router state, the route, the handshake and the last journal record of `a`; `left` is what a failed append has
left in the file behind the journal -/
def SameRoute (a b : RouteActor) (left : List RouteWalRecord) : Prop :=
  b.router.state = a.router.state ∧ b.router.route = a.router.route ∧ b.committedResume = a.committedResume ∧
    (b.journal.entries ++ left).length = a.journal.entries.length ∧
    (b.journal.entries ++ left).getLast? = a.journal.entries.getLast?

variable {left : List RouteWalRecord}

/-- a refused command changes nothing -/
theorem sameRoute_refused {refused other : Prop} (hleft : left ≠ [] → ¬ refused) (hrefused : refused) :
    SameRoute a a left ↔ refused ∨ other := by
  obtain rfl : left = [] := by_contra fun hne => hleft hne hrefused
  exact iff_of_true (by simp [SameRoute]) (.inl hrefused)

/-- a failed stage after a router step is without effect exactly if nothing was written and the step changed nothing -/
theorem appendRouteStage_error (hepoch : epoch ≠ 0)
    (h : appendRouteStage { a with router } stage last epoch reason trace handshake env = (.error e, b)) :
    SameRoute a b left ↔
      env.append ≠ .ok () ∧ left = [] ∧ router.state = a.router.state ∧ router.route = a.router.route := by
  have hmoved : ∀ record, ¬ SameRoute a { a with router, journal := a.journal.append record } left := by
    rintro record ⟨-, -, -, hlength, -⟩
    simp only [Log.append, length_append, length_singleton] at hlength
    omega
  unfold appendRouteStage at h
  rw [if_neg hepoch] at h
  cases happend : env.append with
  | error =>
    simp only [happend] at h
    cases h
    cases left with
    | nil => simp [SameRoute]
    | cons => simp [SameRoute]
  | ok =>
    simp only [happend] at h
    refine iff_of_false ?_ (by simp)
    split_ifs at h
    · split at h
      · simp at h
      · cases h
        exact hmoved _
      · cases h
        exact hmoved _
    · simp at h

theorem prepareRoute_failed {request : PrepareRouteRequest} (h : prepareRoute cfg a request env = (.error e, b))
    (hleft : left ≠ [] → ¬ PrepareRefused cfg a request) : SameRoute a b left ↔
      PrepareRefused cfg a request ∨ env.append ≠ .ok () ∧ left = [] ∧ a.router.state = .draining := by
  have hprepared : ∀ router, (do
      refuse (request.schemaVersion ≠ "inference-route-prepare/v1") (.unknownMajor request.schemaVersion)
      checkShard cfg a request.shardId "a new route operation"
      a.router.prepare request.currentModelControlIncarnationId request.currentRouteEpoch request.proposedRouteEpoch) =
        Except.ok router ↔ ¬ PrepareRefused cfg a request ∧ router = { a.router with state := .draining } := by
    intro router
    simp only [checkShard, check_ok, refuse_ok, Router.prepare_iff, PrepareRefused, not_or, and_assoc]
  unfold prepareRoute at h
  dsimp only at h
  split at h
  · rename_i hfail
    cases h
    have hrefused : PrepareRefused cfg a request := by
      by_contra hnot
      rw [(hprepared _).2 ⟨hnot, rfl⟩] at hfail
      cases hfail
    exact sameRoute_refused hleft hrefused
  · rename_i router hok
    obtain ⟨hnot, rfl⟩ := (hprepared _).1 hok
    have hepoch : request.proposedRouteEpoch ≠ 0 := by
      have hlt := (not_or.1 (not_or.1 (not_or.1 (not_or.1 hnot).2).2).2).1
      omega
    rw [appendRouteStage_error hepoch h, or_iff_right hnot]
    simp [eq_comm]

theorem commitRoute_failed {request : CommitRouteRequest} {env : CommitReplies}
    (h : commitRoute cfg a request env = (.error e, b)) (hleft : left ≠ [] → ¬ CommitRefused cfg a request env) :
    SameRoute a b left ↔
      CommitRefused cfg a request env ∨ env.journal.append ≠ .ok () ∧ left = [] ∧ a.router.state = .ready := by
  unfold commitRoute at h
  cases hroute : request.route with
  | none =>
    simp only [hroute] at h
    cases h
    exact sameRoute_refused hleft (by simp [CommitRefused, hroute])
  | some route =>
    have hcommitted : ∀ router, (do
        checkShard cfg a route.shardId "route commit"
        checkDrained a env
        checkIdentityReuse cfg route
        refuse (route.featureContractDigest ≠ cfg.featureProfileDigest)
          (.precondition "FEATURE_CONTRACT_MISMATCH" "route feature digest differs from the Edge frozen feature profile")
        a.router.commit cfg route env.readback) = Except.ok router ↔ ¬ CommitGuarded cfg a route env ∧
          a.router.commit cfg route env.readback = .ok router := by
      intro router
      simp only [checkShard, check_ok, refuse_ok, checkDrained_iff, checkIdentityReuse_iff, CommitGuarded, not_or, and_assoc]
    simp only [hroute] at h
    split at h
    · rename_i hfail
      cases h
      have hrefused : CommitRefused cfg a request env := by
        by_contra hnot
        simp only [CommitRefused, hroute, Option.mem_def, Option.some.injEq, forall_eq', not_or, not_and, not_not] at hnot
        obtain ⟨hguard, -, hcommits⟩ := hnot
        obtain ⟨router, hok⟩ := Router.commit_isOk (or_iff_not_imp_left.2 hcommits)
        rw [(hcommitted router).2 ⟨hguard, hok⟩] at hfail
        cases hfail
      exact sameRoute_refused hleft hrefused
    · rename_i router hok
      obtain ⟨hguard, hcommit⟩ := (hcommitted _).1 hok
      have hstage : appendRouteStage { a with router } .bindingReady (some route) route.routeEpoch "BINDING_READBACK_EXACT"
          request.traceId none env.journal = (.error e, b) := by
        split at h
        · rename_i hstage
          cases h
          exact hstage
        · cases h
      rcases Router.commit_ok hcommit with ⟨hsame, rfl⟩ | ⟨hnew, hcommits, hready⟩
      · by_cases hepoch : route.routeEpoch = 0
        · simp only [appendRouteStage, hepoch, if_true] at hstage
          cases hstage
          exact sameRoute_refused hleft (by simp [CommitRefused, hroute, hsame, hepoch])
        · have hnot : ¬ CommitRefused cfg a request env := by simp [CommitRefused, hroute, hguard, hsame, hepoch]
          rw [appendRouteStage_error hepoch hstage, or_iff_right hnot]
          simp [hsame.1]
      · have hnot : ¬ CommitRefused cfg a request env := by simp [CommitRefused, hroute, hguard, hnew, hcommits]
        rw [appendRouteStage_error (validateRoute_epoch hcommits.2.1) hstage, or_iff_right hnot, hready]
        simp [hcommits.1]

/-- **A failed route command leaves the route alone, except after the router step.** If `prepare_route` or `commit_route`
fails, router state, route, handshake and last journal record are as before if and only if the command was refused before
the router stepped, or the append failed without a trace and the router already was where the command takes it. -/
theorem failed_command_iff (cfg : RouteConfig) (a b : RouteActor) (e : EdgeError) (left : List RouteWalRecord) :
    (∀ request env, prepareRoute cfg a request env = (.error e, b) → (left ≠ [] → ¬ PrepareRefused cfg a request) →
      (SameRoute a b left ↔
        PrepareRefused cfg a request ∨ env.append ≠ .ok () ∧ left = [] ∧ a.router.state = .draining)) ∧
    ∀ request env, commitRoute cfg a request env = (.error e, b) → (left ≠ [] → ¬ CommitRefused cfg a request env) →
      (SameRoute a b left ↔
        CommitRefused cfg a request env ∨ env.journal.append ≠ .ok () ∧ left = [] ∧ a.router.state = .ready) :=
  ⟨fun _ _ => prepareRoute_failed, fun _ _ => commitRoute_failed⟩

/-- a prepare of the next epoch on the active route -/
def prepareNext (schemaVersion : String) : PrepareRouteRequest := ⟨schemaVersion, "leaf-1", "incarnation-1", 1, 2, "trace-4"⟩

theorem unknown_prepare_keeps_route :
    prepareRoute poolConfig activeActor (prepareNext "v0") ⟨8, .ok (), .ok ()⟩ = (.error (.unknownMajor "v0"), activeActor) ∧
      SameRoute activeActor activeActor [] := by
  have hfail : prepareRoute poolConfig activeActor (prepareNext "v0") ⟨8, .ok (), .ok ()⟩ =
      (.error (.unknownMajor "v0"), activeActor) := by decide +kernel
  have hrefused : PrepareRefused poolConfig activeActor (prepareNext "v0") := .inl (by decide)
  exact ⟨hfail, ((failed_command_iff _ _ _ _ []).1 _ _ hfail (fun hne => absurd rfl hne)).2 (.inl hrefused)⟩

/-- **A failed prepare drains an active route.** The journal append fails; the command reports the failure, the journal still
ends with the active stage, and the router no longer admits windows. -/
theorem failed_prepare_drains : run poolConfig activePool = .ok activeActor ∧
    ∃ b, prepareRoute poolConfig activeActor (prepareNext "inference-route-prepare/v1")
        ⟨8, .error (.io "append and fsync WAL record"), .ok ()⟩ = (.error (.io "append and fsync WAL record"), b) ∧
      activeActor.router.state = .active ∧ b.router.state = .draining ∧ b.journal = activeActor.journal ∧
      ∀ left, ¬ SameRoute activeActor b left := by
  refine ⟨by decide +kernel, { activeActor with router := { activeActor.router with state := .draining } },
    by decide +kernel, by decide +kernel, rfl, rfl, ?_⟩
  rintro left ⟨hstate, -⟩
  cases hstate.trans (by decide +kernel : activeActor.router.state = .active)

end MasiEdge.Route
