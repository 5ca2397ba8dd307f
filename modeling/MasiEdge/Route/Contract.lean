/-
The messages of an inference route and their validation (`edge.proto`, `inference.rs`, `actor.rs`).

A route and a record bound to it share 22 identity fields; they are one structure, `RouteIdentity`, that both extend.
-/
import MasiEdge.Digest

namespace MasiEdge.Route

/-! ## Messages -/

/-- what a committed route and every record bound to it agree on -/
structure RouteIdentity where
  modelControlIncarnationId : String
  logicalPoolId : String
  poolGeneration : ℕ
  bindingGeneration : ℕ
  routeEpoch : ℕ
  modelRevisionDigest : String
  labelContractDigest : String
  outputAdapterDigest : String
  wireProfile : String
  runtimeProfile : String
  operationId : String
  scope : String
  expectedBindingGeneration : ℕ
  proposedBindingGeneration : ℕ
  currentBindingGeneration : ℕ
  startupEnvelopeDigest : String
  poolObservationDigest : String
  bindingDigest : String
  modelBundleDigest : String
  wireProfileDigest : String
  runtimeProfileDigest : String
  optimizationProfileDigest : String
deriving DecidableEq, Repr

structure TlsClientIdentity where
  serverName : String
  identityRef : String
deriving DecidableEq, Repr

structure InferenceRoute extends RouteIdentity where
  schemaVersion : String
  shardId : String
  featureContractDigest : String
  endpoint : String
  tls : Option TlsClientIdentity
deriving DecidableEq, Repr

structure PrepareRouteRequest where
  schemaVersion : String
  shardId : String
  currentModelControlIncarnationId : String
  currentRouteEpoch : ℕ
  proposedRouteEpoch : ℕ
  traceId : String
deriving DecidableEq, Repr

structure CommitRouteRequest where
  route : Option InferenceRoute
  traceId : String
deriving DecidableEq, Repr

structure ResumeRouteRequest where
  schemaVersion : String
  shardId : String
  modelControlIncarnationId : String
  routeEpoch : ℕ
  traceId : String
  operationId : String
  scope : String
  logicalPoolId : String
  poolGeneration : ℕ
  expectedBindingGeneration : ℕ
  proposedBindingGeneration : ℕ
  currentBindingGeneration : ℕ
  startupEnvelopeDigest : String
  poolObservationDigest : String
  bindingDigest : String
  deadlineUnixMs : ℤ
deriving DecidableEq, Repr

structure InferenceWorkerIdentity where
  workerId : String
  workerDigest : String
deriving DecidableEq, Repr

structure BindingReadback where
  schemaVersion : String
  modelControlIncarnationId : String
  operationId : String
  logicalPoolId : String
  poolGeneration : ℕ
  bindingGeneration : ℕ
  startupEnvelopeDigest : String
  modelRevisionDigest : String
  modelBundleDigest : String
  featureContractDigest : String
  labelContractDigest : String
  outputAdapterDigest : String
  wireProfile : String
  wireProfileDigest : String
  runtimeProfile : String
  runtimeProfileDigest : String
  optimizationProfileDigest : String
  poolObservationDigest : String
  bindingDigest : String
  workerId : String
  workerDigest : String
  readbackAttemptId : String
  observedAtUnixMs : ℤ
  eligibleWorkers : List InferenceWorkerIdentity
deriving DecidableEq, Repr

inductive RouteWalStage where
  | unspecified
  | prepared
  | bindingReady
  | canonicalActive
deriving DecidableEq, Repr

structure RouteWalRecord where
  schemaVersion : String := "edge-route-wal/v1"
  stage : RouteWalStage
  route : Option InferenceRoute
  proposedRouteEpoch : ℕ
  recordedAtUnixMs : ℤ
  reasonCode : String
  traceId : String
  committedBindingHandshake : Option ResumeRouteRequest
deriving DecidableEq, Repr

/-! ## Validation -/

/-- check each (field, value) in order -/
def validateAll (check : String → String → EdgeResult Unit) : List (String × String) → EdgeResult Unit
  | [] => .ok ()
  | (field, value) :: rest => do
    check value field
    validateAll check rest

variable {check : String → String → EdgeResult Unit} {fields : List (String × String)}

theorem validateAll_error {e : EdgeError} (h : validateAll check fields = .error e) :
    ∃ x ∈ fields, check x.2 x.1 = .error e := by
  induction fields with
  | nil => cases h
  | cons x _ ih =>
    rcases bind_error.1 h with h | ⟨_, -, h⟩
    · exact ⟨x, List.mem_cons_self, h⟩
    · obtain ⟨y, hy, he⟩ := ih h
      exact ⟨y, List.mem_cons_of_mem x hy, he⟩

theorem validateAll_ok : validateAll check fields = .ok () ↔ ∀ x ∈ fields, check x.2 x.1 = .ok () := by
  induction fields with
  | nil => simp [validateAll]
  | cons _ _ ih =>
    rw [validateAll, bind_ok, List.forall_mem_cons]
    constructor
    · rintro ⟨_, hx, hrest⟩
      exact ⟨hx, ih.1 hrest⟩
    · rintro ⟨hx, hrest⟩
      exact ⟨(), hx, ih.2 hrest⟩

def validateRoute (route : InferenceRoute) : EdgeResult Unit := do
  refuse (route.schemaVersion ≠ "inference-route/v1" ∨ route.wireProfile ≠ "inference-central-grpc-batch/v1")
    (.unknownMajor s!"{route.schemaVersion}/{route.wireProfile}")
  validateAll validateIdentity
    [("shard_id", route.shardId), ("model_control_incarnation_id", route.modelControlIncarnationId),
     ("logical_pool_id", route.logicalPoolId), ("operation_id", route.operationId), ("scope", route.scope)]
  refuse (route.poolGeneration = 0 ∨ route.bindingGeneration = 0 ∨ route.routeEpoch = 0 ∨
      route.proposedBindingGeneration = 0 ∨ route.currentBindingGeneration = 0)
    (.invalidArgument "route_generation"
      "pool, binding, proposed/current binding, and route generations must be positive")
  refuse (route.bindingGeneration ≠ route.proposedBindingGeneration ∨
      route.bindingGeneration ≠ route.currentBindingGeneration ∨
      route.proposedBindingGeneration ≤ route.expectedBindingGeneration)
    (.precondition "ROUTE_FENCE_MISMATCH" "binding generation must equal proposed/current and strictly exceed expected")
  validateAll validateSha256
    [("model_revision_digest", route.modelRevisionDigest), ("feature_contract_digest", route.featureContractDigest),
     ("label_contract_digest", route.labelContractDigest), ("output_adapter_digest", route.outputAdapterDigest),
     ("startup_envelope_digest", route.startupEnvelopeDigest), ("pool_observation_digest", route.poolObservationDigest),
     ("binding_digest", route.bindingDigest), ("model_bundle_digest", route.modelBundleDigest),
     ("wire_profile_digest", route.wireProfileDigest), ("runtime_profile_digest", route.runtimeProfileDigest),
     ("optimization_profile_digest", route.optimizationProfileDigest)]
  refuse (route.runtimeProfile ≠ "model-runtime-central-cpu/v1" ∧ route.runtimeProfile ≠ "model-runtime-central-cuda/v1")
    (.precondition "RUNTIME_PROFILE_UNSUPPORTED"
      "runtime profile must be an explicitly selected central CPU or CUDA profile")

/-- a valid route has a positive epoch -/
theorem validateRoute_epoch {route : InferenceRoute} (h : validateRoute route = .ok ()) : route.routeEpoch ≠ 0 := by
  replace h := passed h
  replace h := passed h
  obtain ⟨_, hzero, -⟩ := bind_ok.1 h
  have hzero := refuse_ok.1 hzero
  exact fun heq => hzero (.inr (.inr (.inl heq)))

/-- the fields a binding readback must repeat -/
def exactBinding (route : InferenceRoute) (binding : BindingReadback) : Prop :=
  binding.schemaVersion = "inference-committed-binding/v1" ∧
    route.modelControlIncarnationId = binding.modelControlIncarnationId ∧ route.operationId = binding.operationId ∧
    route.logicalPoolId = binding.logicalPoolId ∧ route.poolGeneration = binding.poolGeneration ∧
    route.bindingGeneration = binding.bindingGeneration ∧ route.startupEnvelopeDigest = binding.startupEnvelopeDigest ∧
    route.modelRevisionDigest = binding.modelRevisionDigest ∧ route.modelBundleDigest = binding.modelBundleDigest ∧
    route.featureContractDigest = binding.featureContractDigest ∧ route.labelContractDigest = binding.labelContractDigest ∧
    route.outputAdapterDigest = binding.outputAdapterDigest ∧ route.wireProfile = binding.wireProfile ∧
    route.wireProfileDigest = binding.wireProfileDigest ∧ route.runtimeProfile = binding.runtimeProfile ∧
    route.runtimeProfileDigest = binding.runtimeProfileDigest ∧
    route.optimizationProfileDigest = binding.optimizationProfileDigest ∧
    route.poolObservationDigest = binding.poolObservationDigest ∧ route.bindingDigest = binding.bindingDigest
deriving Decidable

/-- every eligible worker is well spelled and appears once; `seen` are the earlier identities -/
def validateWorkers (seen : List String) : List InferenceWorkerIdentity → EdgeResult Unit
  | [] => .ok ()
  | worker :: rest => do
    validateIdentity worker.workerId "eligible_worker.worker_id"
    validateSha256 worker.workerDigest "eligible_worker.worker_digest"
    refuse (worker.workerId ∈ seen)
      (.precondition "BINDING_READBACK_MISMATCH" "central binding readback contains duplicate worker identities")
    validateWorkers (worker.workerId :: seen) rest

def validateBinding (route : InferenceRoute) (binding : BindingReadback) : EdgeResult Unit := do
  refuse (¬ exactBinding route binding)
    (.precondition "BINDING_READBACK_MISMATCH" "central binding readback differs from the immutable route envelope")
  validateIdentity binding.workerId "worker_id"
  validateSha256 binding.workerDigest "worker_digest"
  validateIdentity binding.readbackAttemptId "readback_attempt_id"
  refuse (binding.observedAtUnixMs ≤ 0)
    (.precondition "BINDING_READBACK_MISMATCH" "central binding readback observed time is invalid")
  refuse (binding.eligibleWorkers = [] ∨ 64 < binding.eligibleWorkers.length)
    (.precondition "BINDING_READBACK_MISMATCH"
      "central binding readback eligible worker set is empty or exceeds 64")
  validateWorkers [] binding.eligibleWorkers
  refuse (⟨binding.workerId, binding.workerDigest⟩ ∉ binding.eligibleWorkers)
    (.precondition "BINDING_READBACK_MISMATCH" "central primary worker is absent from the eligible worker set")

/-- the comparison that `validate_committed_binding_request` and `committed_binding_matches_route` share -/
def sameFence (request : ResumeRouteRequest) (route : InferenceRoute) : Prop :=
  request.shardId = route.shardId ∧ request.modelControlIncarnationId = route.modelControlIncarnationId ∧
    request.operationId = route.operationId ∧ request.scope = route.scope ∧ request.routeEpoch = route.routeEpoch ∧
    request.logicalPoolId = route.logicalPoolId ∧ request.poolGeneration = route.poolGeneration ∧
    request.expectedBindingGeneration = route.expectedBindingGeneration ∧
    request.proposedBindingGeneration = route.proposedBindingGeneration ∧
    request.currentBindingGeneration = route.currentBindingGeneration ∧
    request.startupEnvelopeDigest = route.startupEnvelopeDigest ∧
    request.poolObservationDigest = route.poolObservationDigest ∧ request.bindingDigest = route.bindingDigest
deriving Decidable

def validateCommittedBindingRequest (route : InferenceRoute) (request : ResumeRouteRequest) : EdgeResult Unit := do
  refuse (request.schemaVersion ≠ "inference-committed-binding/v1") (.unknownMajor request.schemaVersion)
  refuse (¬ sameFence request route)
    (.precondition "ROUTE_FENCE_MISMATCH" "committed binding handshake does not exactly match the prepared route")

def committedBindingMatchesRoute (request : ResumeRouteRequest) (route : InferenceRoute) : Prop :=
  request.schemaVersion = "inference-committed-binding/v1" ∧ sameFence request route ∧ 0 < request.deadlineUnixMs
deriving Decidable

/-- equality up to the trace -/
def sameCommittedBindingRequest (left right : ResumeRouteRequest) : Prop :=
  { left with traceId := "" } = { right with traceId := "" }
deriving Decidable

/-- what replay accepts in the route journal -/
def routeFenceOk (record : RouteWalRecord) : Prop :=
  match record.stage, record.route, record.committedBindingHandshake with
  | .prepared, some route, some handshake =>
    route.routeEpoch < record.proposedRouteEpoch ∧ committedBindingMatchesRoute handshake route
  | .prepared, some route, none => route.routeEpoch < record.proposedRouteEpoch
  | .prepared, none, none => True
  | .bindingReady, some route, none => record.proposedRouteEpoch = route.routeEpoch
  | .canonicalActive, some route, some handshake =>
    record.proposedRouteEpoch = route.routeEpoch ∧ committedBindingMatchesRoute handshake route
  | _, _, _ => False

instance (record : RouteWalRecord) : Decidable (routeFenceOk record) := by
  unfold routeFenceOk
  split <;> infer_instance

def validateRouteWalRecord (record : RouteWalRecord) : EdgeResult Unit := do
  refuse (record.schemaVersion ≠ "edge-route-wal/v1") (.walCorrupt "unknown route journal schema major")
  refuse (record.stage = .unspecified ∨ record.proposedRouteEpoch = 0 ∨ record.recordedAtUnixMs ≤ 0 ∨
      record.reasonCode = "" ∨ record.traceId = "")
    (.walCorrupt "route journal has an invalid stage, epoch, timestamp, or identity")
  refuse (¬ routeFenceOk record) (.walCorrupt "route journal stage, route fence, or committed handshake conflict")

end MasiEdge.Route
