/-
The messages of result delivery and their validation (`edge.proto`, `inference.rs`).

An inference record is a finished window. It is route-neutral until a route is bound to it, which copies the route's
identity and derives the event key. A result batch answers a batch of records, and an acknowledgement batch answers a
result batch. A score is the bit pattern of an `f32`. Fields that no modelled function reads (the input batch's digest and
attempt, the result batch's trace) are left out.

- `validateResultBatch_answers`: an accepted result batch is a permutation of the input batch, record for record.
- `validateInferenceRecords_no_conflict`: a batch with distinct identities is never refused as a conflict.
-/
import MasiEdge.Route.Contract
import MasiEdge.Source.Contract

namespace MasiEdge.Delivery

open Codec Route Source List

/-! ## Inference records -/

/-- the identity of a record that no route is bound to -/
def unboundIdentity : RouteIdentity :=
  ⟨"", "", 0, 0, 0, "", "", "", "", "", "", "", 0, 0, 0, "", "", "", "", "", "", ""⟩

structure InferenceRecord extends RouteIdentity where
  inputId : String
  eventIdempotencyKey : String
  targetId : String
  sourceRuntimeEpoch : String
  sourceSequenceStart : ℕ
  sourceSequenceEnd : ℕ
  windowStartUnixMs : ℤ
  windowEndUnixMs : ℤ
  finalizedAtUnixMs : ℤ
  quality : String
  featureTensor : Bytes
  shape : List ℕ
  dtype : String
  inputDigest : String
  sourceWalSequence : ℕ
  inputWalSequence : ℕ
  schemaVersion : String
  featureContractDigest : String
  finalWindow : Bool
  watermarkUnixMs : ℤ
  qualityCode : ℤ
  windowId : String
  qualityReasons : List String
  samplingCoveragePpm : ℕ
  enqueuedAtUnixMs : ℤ
deriving DecidableEq, Repr

/-- `inference_record_is_bound` -/
def InferenceRecord.isBound (record : InferenceRecord) : Bool := record.routeEpoch ≠ 0

/-- `FEATURE_DTYPE` -/
def featureDtype : String := "uint64-le"

/-- `FEATURE_WIDTH` -/
def featureWidth : ℕ := 6

def recordMatchesRoute (record : InferenceRecord) (route : InferenceRoute) : Prop :=
  record.toRouteIdentity = route.toRouteIdentity ∧ record.featureContractDigest = route.featureContractDigest
deriving Decidable

section

variable (hash : Bytes → String)

/-- the digest of the tensor alone: route, window and event identity are fenced separately -/
def canonicalInputRecordDigest (record : InferenceRecord) : String := sha256 hash record.featureTensor

/-- the event key of a window on a route -/
def eventKey (record : InferenceRecord) (route : InferenceRoute) : String :=
  "event:" ++ hash (joined [record.targetId, record.windowId, route.modelControlIncarnationId, route.logicalPoolId,
    toString route.poolGeneration, toString route.bindingGeneration, toString route.routeEpoch,
    route.modelRevisionDigest])

/-- the record with the route's identity copied into it -/
def boundTo (record : InferenceRecord) (route : InferenceRoute) : InferenceRecord :=
  { record with
    toRouteIdentity := route.toRouteIdentity
    eventIdempotencyKey := eventKey hash record route
    inputDigest := canonicalInputRecordDigest hash record }

def bindInferenceRecord (record : InferenceRecord) (route : InferenceRoute) : EdgeResult InferenceRecord := do
  validateRoute route
  refuse (record.targetId ≠ route.shardId ∨ record.featureContractDigest ≠ route.featureContractDigest)
    (.precondition "INPUT_CONTRACT_MISMATCH" "route-neutral window does not match route shard/feature contract")
  if record.isBound then do
    refuse (¬ (recordMatchesRoute record route ∧ canonicalInputRecordDigest hash record = record.inputDigest))
      (.precondition "ROUTE_FENCE_MISMATCH" "durable input is already bound to another route identity")
    return record
  else return boundTo hash record route

end

/-! ## Input batches -/

structure InferenceInputBatch where
  schemaVersion : String := "inference-central-grpc-batch/v1"
  requestId : String
  route : Option InferenceRoute
  records : List InferenceRecord
  deadlineUnixMs : ℤ
  traceId : String
deriving DecidableEq, Repr

/-- a record of an inference batch, up to its digests -/
def inferenceRecordExact (route : InferenceRoute) (record : InferenceRecord) : Prop :=
  record.schemaVersion = "edge-inference-record/v1" ∧ record.targetId = route.shardId ∧
    record.featureContractDigest = route.featureContractDigest ∧ record.finalWindow = true ∧ record.quality = "valid" ∧
    record.qualityCode = DataQuality.valid.code ∧ record.dtype = featureDtype ∧ record.shape = [1, featureWidth] ∧
    record.featureTensor.length = featureWidth * 8 ∧ record.sourceSequenceStart ≤ record.sourceSequenceEnd ∧
    record.windowStartUnixMs < record.windowEndUnixMs ∧ record.windowEndUnixMs ≤ record.watermarkUnixMs ∧
    record.windowEndUnixMs ≤ record.finalizedAtUnixMs ∧ record.sourceWalSequence ≠ 0 ∧ record.inputWalSequence ≠ 0 ∧
    recordMatchesRoute record route ∧ record.qualityReasons = ["NONE"] ∧ record.samplingCoveragePpm ≤ 1000000 ∧
    record.finalizedAtUnixMs ≤ record.enqueuedAtUnixMs
deriving Decidable

section

variable (hash : Bytes → String)

/-- the batch is refused before its other fields are looked at when an identity repeats -/
def identityConflict : EdgeError :=
  .precondition "INPUT_IDENTITY_CONFLICT" "inference batch contains duplicate input/Event identity"

/-- `validate_inference_records`; `inputIds` and `eventKeys` are those of the records before -/
def validateInferenceRecords (route : InferenceRoute) (inputIds eventKeys : List String) :
    List InferenceRecord → EdgeResult Unit
  | [] => .ok ()
  | record :: rest => do
    validateIdentity record.inputId "input_id"
    validateIdentity record.eventIdempotencyKey "event_idempotency_key"
    validateIdentity record.windowId "window_id"
    refuse (record.inputId ∈ inputIds ∨ record.eventIdempotencyKey ∈ eventKeys) identityConflict
    refuse (¬ inferenceRecordExact route record) (.precondition "INPUT_CONTRACT_MISMATCH"
      "inference record schema/feature/finality/window/WAL fence mismatch")
    validateAll validateSha256
      [("feature_contract_digest", record.featureContractDigest), ("model_revision_digest", record.modelRevisionDigest),
       ("label_contract_digest", record.labelContractDigest), ("output_adapter_digest", record.outputAdapterDigest),
       ("startup_envelope_digest", record.startupEnvelopeDigest),
       ("pool_observation_digest", record.poolObservationDigest), ("binding_digest", record.bindingDigest),
       ("model_bundle_digest", record.modelBundleDigest), ("wire_profile_digest", record.wireProfileDigest),
       ("runtime_profile_digest", record.runtimeProfileDigest),
       ("optimization_profile_digest", record.optimizationProfileDigest), ("input_digest", record.inputDigest)]
    refuse (canonicalInputRecordDigest hash record ≠ record.inputDigest)
      (.precondition "INPUT_DIGEST_CONFLICT" "inference record digest mismatch")
    validateInferenceRecords route (record.inputId :: inputIds) (record.eventIdempotencyKey :: eventKeys) rest

/-- `request_identity` -/
def requestIdentity (route : InferenceRoute) (records : List InferenceRecord) : String :=
  "request:" ++ hash (joined [route.modelControlIncarnationId, route.logicalPoolId, toString route.poolGeneration,
      toString route.bindingGeneration, toString route.routeEpoch] ++
    records.flatMap fun record => asBytes record.inputId ++ [0] ++ asBytes record.inputDigest ++ [0])

end

/-! ## Result batches -/

structure InferenceResultRecord extends RouteIdentity where
  inputId : String
  eventIdempotencyKey : String
  inputDigest : String
  outputDigest : String
  scores : List (BitVec 32)
  predictedLabel : ℕ
  decision : String
  outOfDistribution : Bool
  abstain : Bool
  quality : String
  status : String
  errorCode : String
  workerId : String
  workerDigest : String
  sourceWalSequence : ℕ
  inputWalSequence : ℕ
  resultWalSequence : ℕ
  decisionCode : ℤ
  qualityCode : ℤ
  executionStatus : ℤ
  windowId : String
  featureContractDigest : String
  sourceRuntimeEpoch : String
  sourceSequenceStart : ℕ
  sourceSequenceEnd : ℕ
  windowStartUnixMs : ℤ
  windowEndUnixMs : ℤ
  finalizedAtUnixMs : ℤ
  targetId : String
  samplingCoveragePpm : ℕ
  workerAttemptId : String
  inferenceStartedAtUnixMs : ℤ
  inferenceCompletedAtUnixMs : ℤ
  traceId : String
deriving DecidableEq, Repr

structure InferenceResultBatch where
  schemaVersion : String
  requestId : String
  route : Option InferenceRoute
  records : List InferenceResultRecord
  batchDigest : String
deriving DecidableEq, Repr

inductive InferenceDecision where
  | unspecified
  | benign
  | alert
  | abstain
deriving DecidableEq, Repr

def InferenceDecision.tryFrom : ℤ → Option InferenceDecision
  | 0 => some .unspecified
  | 1 => some .benign
  | 2 => some .alert
  | 3 => some .abstain
  | _ => none

/-- the only consistent display spelling of a decision -/
def InferenceDecision.display : InferenceDecision → Option String
  | .unspecified => none
  | .benign => some "benign"
  | .alert => some "alert"
  | .abstain => some "abstain"

/-- `f32::is_finite` on the bit pattern: the exponent is not all ones -/
def isFinite (score : BitVec 32) : Bool := score.toNat / 2 ^ 23 % 256 ≠ 255

/-- the fields a result record repeats from the record it answers, and its own stamps -/
def resultRecordExact (source : InferenceRecord) (binding : BindingReadback) (traceId : String)
    (record : InferenceResultRecord) : Prop :=
  record.eventIdempotencyKey = source.eventIdempotencyKey ∧ record.inputDigest = source.inputDigest ∧
    record.sourceWalSequence = source.sourceWalSequence ∧ record.inputWalSequence = source.inputWalSequence ∧
    record.resultWalSequence = 0 ∧ ⟨record.workerId, record.workerDigest⟩ ∈ binding.eligibleWorkers ∧
    record.windowId = source.windowId ∧ record.toRouteIdentity = source.toRouteIdentity ∧
    record.featureContractDigest = source.featureContractDigest ∧ record.sourceRuntimeEpoch = source.sourceRuntimeEpoch ∧
    record.sourceSequenceStart = source.sourceSequenceStart ∧ record.sourceSequenceEnd = source.sourceSequenceEnd ∧
    record.windowStartUnixMs = source.windowStartUnixMs ∧ record.windowEndUnixMs = source.windowEndUnixMs ∧
    record.finalizedAtUnixMs = source.finalizedAtUnixMs ∧ record.targetId = source.targetId ∧
    record.samplingCoveragePpm = source.samplingCoveragePpm ∧ 0 < record.inferenceStartedAtUnixMs ∧
    record.inferenceStartedAtUnixMs ≤ record.inferenceCompletedAtUnixMs ∧ record.traceId = traceId
deriving Decidable

/-- the value of a result: scores, label, decision and statuses -/
def resultValueOk (decision : InferenceDecision) (record : InferenceResultRecord) : Prop :=
  record.scores ≠ [] ∧ record.scores.length ≤ 1024 ∧ record.scores.all isFinite = true ∧
    record.predictedLabel < record.scores.length ∧ record.status = "OK" ∧ record.quality = "valid" ∧
    record.executionStatus = 1 ∧ record.qualityCode = DataQuality.valid.code ∧
    decision.display = some record.decision ∧ record.abstain = decide (decision = .abstain) ∧
    (record.outOfDistribution = true → record.abstain = true) ∧ record.errorCode = "NONE"
deriving Decidable

section

variable (hash : Bytes → String)

/-- the digest of the scores, each four bytes little-endian -/
def canonicalOutputRecordDigest (record : InferenceResultRecord) : String :=
  sha256 hash (record.scores.flatMap fun score => (toBe 4 score.toNat).reverse)

def canonicalResultBatchDigest (batch : InferenceResultBatch) : String :=
  sha256 hash (batch.records.flatMap fun record => asBytes record.outputDigest ++ [10])

def resultMismatch (detail : String) : EdgeError := .precondition "RESULT_IDENTITY_MISMATCH" detail

/-- the records collected by input id: a later record replaces an earlier one -/
def lookupInput (records : List InferenceRecord) (inputId : String) : Option InferenceRecord :=
  records.reverse.find? fun record => record.inputId = inputId

def validateResultRecord (input : InferenceInputBatch) (binding : BindingReadback) (seen : List String)
    (record : InferenceResultRecord) : EdgeResult Unit := do
  match lookupInput input.records record.inputId with
  | none => .error (resultMismatch "unknown result input ID")
  | some source => do
    refuse (record.inputId ∈ seen ∨ ¬ resultRecordExact source binding input.traceId record)
      (resultMismatch "record identity, WAL fence, or worker differs from input/readback")
    validateIdentity record.workerAttemptId "worker_attempt_id"
    match InferenceDecision.tryFrom record.decisionCode with
    | none => .error (.precondition "RESULT_VALUE_INVALID" "unknown typed inference decision")
    | some decision => do
      refuse (¬ resultValueOk decision record)
        (.precondition "RESULT_VALUE_INVALID" "central result value/status is invalid or out of bounds")
      validateSha256 record.outputDigest "output_digest"
      validateAll validateSha256
        [("startup_envelope_digest", record.startupEnvelopeDigest),
         ("pool_observation_digest", record.poolObservationDigest), ("binding_digest", record.bindingDigest),
         ("model_bundle_digest", record.modelBundleDigest), ("wire_profile_digest", record.wireProfileDigest),
         ("runtime_profile_digest", record.runtimeProfileDigest),
         ("optimization_profile_digest", record.optimizationProfileDigest)]
      refuse (canonicalOutputRecordDigest hash record ≠ record.outputDigest)
        (.precondition "RESULT_DIGEST_CONFLICT" "record output digest mismatch")

/-- the loop over the result records; `seen` are the input ids answered before -/
def validateResultRecords (input : InferenceInputBatch) (binding : BindingReadback) (seen : List String) :
    List InferenceResultRecord → EdgeResult Unit
  | [] => .ok ()
  | record :: rest => do
    validateResultRecord hash input binding seen record
    validateResultRecords input binding (record.inputId :: seen) rest

def validateResultBatch (input : InferenceInputBatch) (result : InferenceResultBatch) (binding : Option BindingReadback) :
    EdgeResult Unit := do
  refuse (result.schemaVersion ≠ "inference-central-grpc-batch/v1" ∨ result.requestId ≠ input.requestId ∨
      result.route ≠ input.route ∨ result.records.length ≠ input.records.length)
    (resultMismatch "result batch identity/route/cardinality differs from input")
  validateSha256 result.batchDigest "result.batch_digest"
  refuse (canonicalResultBatchDigest hash result ≠ result.batchDigest)
    (.precondition "RESULT_DIGEST_CONFLICT" "result batch digest mismatch")
  match binding with
  | none => .error (.precondition "BINDING_READBACK_MISMATCH" "binding missing")
  | some binding => validateResultRecords hash input binding [] result.records

end

/-! ## What accepted and refused batches are -/

/-- what a result repeats of the record it answers, as far as delivery reads it -/
structure Cursor where
  inputId : String
  eventIdempotencyKey : String
  inputDigest : String
  sourceWalSequence : ℕ
  inputWalSequence : ℕ
deriving DecidableEq, Repr

def InferenceRecord.cursor (r : InferenceRecord) : Cursor :=
  ⟨r.inputId, r.eventIdempotencyKey, r.inputDigest, r.sourceWalSequence, r.inputWalSequence⟩

def InferenceResultRecord.cursor (r : InferenceResultRecord) : Cursor :=
  ⟨r.inputId, r.eventIdempotencyKey, r.inputDigest, r.sourceWalSequence, r.inputWalSequence⟩

variable {input : InferenceInputBatch} {hash : Bytes → String} {binding : BindingReadback} {seen : List String}

/-- an accepted result record answers one of the input records, and no id twice -/
theorem validateResultRecord_ok {record : InferenceResultRecord}
    (h : validateResultRecord hash input binding seen record = .ok ()) :
    record.inputId ∉ seen ∧ record.cursor ∈ input.records.map InferenceRecord.cursor := by
  unfold validateResultRecord at h
  cases hsource : lookupInput input.records record.inputId with
  | none => simp [hsource] at h
  | some source =>
    simp only [hsource] at h
    obtain ⟨_, hexact, -⟩ := bind_ok.1 h
    obtain ⟨hseen, hexact⟩ := not_or.1 (refuse_ok.1 hexact)
    obtain ⟨hkey, hdigest, hsrc, hseq, -⟩ := not_not.1 hexact
    have hid : source.inputId = record.inputId := by
      have hfound := find?_some hsource
      simpa using hfound
    refine ⟨hseen, List.mem_map.2 ⟨source, List.mem_reverse.1 (mem_of_find?_eq_some hsource), ?_⟩⟩
    rw [InferenceRecord.cursor, InferenceResultRecord.cursor, hid, hkey, hdigest, hsrc, hseq]

section

variable {α β κ : Type} {xs : List α}

/-- a scan that remembers the keys it has seen -/
theorem fresh_cons {key : α → κ} {x : α} {seen : List κ} :
    ((x :: xs).map key).Nodup ∧ (∀ a ∈ x :: xs, key a ∉ seen) ↔
      key x ∉ seen ∧ (xs.map key).Nodup ∧ ∀ a ∈ xs, key a ∉ key x :: seen := by
  simp only [map_cons, nodup_cons, forall_mem_cons, mem_map]
  constructor
  · rintro ⟨⟨hx, hxs⟩, hnew, hseen⟩
    exact ⟨hnew, hxs, fun a ha => not_mem_cons_of_ne_of_not_mem (fun h => hx ⟨a, ha, h⟩) (hseen a ha)⟩
  · rintro ⟨hnew, hxs, hseen⟩
    exact ⟨⟨fun ⟨a, ha, h⟩ => hseen a ha (h ▸ mem_cons_self), hxs⟩, hnew, fun a ha h => hseen a ha (mem_cons_of_mem _ h)⟩

/-- values with different keys, all of them in `ys` and as many, are `ys` in another order -/
theorem perm_of_keys {f : α → β} (key : β → κ) {ys : List β} (hkeys : (xs.map fun x => key (f x)).Nodup)
    (hmem : ∀ x ∈ xs, f x ∈ ys) (hlength : ys.length ≤ xs.length) : (xs.map f).Perm ys := by
  have hnodup : (xs.map f).Nodup := by
    refine List.Nodup.of_map key ?_
    rw [map_map]
    exact hkeys
  have hsub : xs.map f ⊆ ys := by
    intro y hy
    obtain ⟨x, hx, rfl⟩ := List.mem_map.1 hy
    exact hmem x hx
  exact (hnodup.subperm hsub).perm_of_length_le (by simpa using hlength)

end

theorem validateResultRecords_ok {records : List InferenceResultRecord}
    (h : validateResultRecords hash input binding seen records = .ok ()) :
    ((records.map InferenceResultRecord.inputId).Nodup ∧ ∀ r ∈ records, r.inputId ∉ seen) ∧
      ∀ r ∈ records, r.cursor ∈ input.records.map InferenceRecord.cursor := by
  induction records generalizing seen with
  | nil => simp
  | cons _ _ ih =>
    obtain ⟨_, hrecord, hrest⟩ := bind_ok.1 h
    obtain ⟨hnew, hcursor⟩ := validateResultRecord_ok hrecord
    obtain ⟨hfresh, hall⟩ := ih hrest
    exact ⟨fresh_cons.2 ⟨hnew, hfresh⟩, forall_mem_cons.2 ⟨hcursor, hall⟩⟩

/-- **An accepted result batch is a permutation of its input.** -/
theorem validateResultBatch_answers {result : InferenceResultBatch} {binding : Option BindingReadback}
    (h : validateResultBatch hash input result binding = .ok ()) :
    (result.records.map InferenceResultRecord.cursor).Perm (input.records.map InferenceRecord.cursor) := by
  obtain ⟨hcount, h⟩ := refuse_then h
  replace h := passed h
  replace h := passed h
  have hlength := not_not.1 (not_or.1 (not_or.1 (not_or.1 hcount).2).2).2
  cases binding with
  | none => cases h
  | some =>
    obtain ⟨⟨hnodup, -⟩, hall⟩ := validateResultRecords_ok h
    -- no id twice, all of them asked for, and as many answers as questions
    exact perm_of_keys Cursor.inputId hnodup hall (by simp [hlength])

/-- distinct identities are never reported as a conflict -/
theorem validateInferenceRecords_no_conflict (hash : Bytes → String) (route : InferenceRoute) (ids keys : List String)
    (records : List InferenceRecord)
    (hids : (records.map InferenceRecord.inputId).Nodup ∧ ∀ r ∈ records, r.inputId ∉ ids)
    (hkeys : (records.map InferenceRecord.eventIdempotencyKey).Nodup ∧ ∀ r ∈ records, r.eventIdempotencyKey ∉ keys) :
    validateInferenceRecords hash route ids keys records ≠ .error identityConflict := by
  induction records generalizing ids keys with
  | nil => intro h; cases h
  | cons r _ ih =>
    obtain ⟨hid, hids⟩ := fresh_cons.1 hids
    obtain ⟨hkey, hkeys⟩ := fresh_cons.1 hkeys
    intro h
    simp only [validateInferenceRecords, validateIdentity, bind_assoc] at h
    replace h := passed_error h
    replace h := passed_error h
    replace h := passed_error h
    replace h := passed_error h
    replace h := passed_error h
    replace h := passed_error h
    rcases bind_error.1 h with h | ⟨_, -, h⟩
    · exact not_or.2 ⟨hid, hkey⟩ (refuse_error.1 h).1
    replace h := passed_error h
    rcases bind_error.1 h with h | ⟨_, -, h⟩
    · obtain ⟨x, -, hx⟩ := validateAll_error h
      obtain ⟨m, hm⟩ := validateSha256_error hx
      cases hm
    replace h := passed_error h
    exact ih (r.inputId :: ids) (r.eventIdempotencyKey :: keys) hids hkeys h

/-! ## Acknowledgements and the result WAL -/

structure CanonicalAck where
  eventIdempotencyKey : String
  inputDigest : String
  outputDigest : String
  canonicalEventId : String
  committedAtUnixMs : ℤ
  status : String
  reasonCode : String
  commitStatus : ℤ
deriving DecidableEq, Repr

structure CanonicalAckBatch where
  schemaVersion : String
  acknowledgements : List CanonicalAck
  traceId : String
  resultBatchDigest : String
  ackBatchDigest : String
deriving DecidableEq, Repr

/-- the display status and the typed one agree on committed or idempotent -/
def ackStatusOk (item : CanonicalAck) : Prop :=
  (item.status = "committed" ∧ item.commitStatus = 1) ∨ (item.status = "idempotent" ∧ item.commitStatus = 2)
deriving Decidable

def ackMismatch (detail : String) : EdgeError := .precondition "CANONICAL_ACK_MISMATCH" detail

/-- the result records collected by event key: a later record replaces an earlier one -/
def lookupEvent (records : List InferenceResultRecord) (key : String) : Option InferenceResultRecord :=
  records.reverse.find? fun record => record.eventIdempotencyKey = key

/-- the loop over the acknowledgements; `seen` are the event keys acknowledged before -/
def validateAcks (batch : InferenceResultBatch) (seen : List String) : List CanonicalAck → EdgeResult Unit
  | [] => .ok ()
  | item :: rest =>
    match lookupEvent batch.records item.eventIdempotencyKey with
    | none => .error (ackMismatch "ACK contains an unknown Event idempotency key")
    | some record => do
      refuse (item.eventIdempotencyKey ∈ seen ∨ item.inputDigest ≠ record.inputDigest ∨
          item.outputDigest ≠ record.outputDigest ∨ ¬ ackStatusOk item ∨ item.canonicalEventId = "" ∨
          item.committedAtUnixMs ≤ 0)
        (ackMismatch
          s!"ACK digest, status, identity, or commit time mismatch: status={item.status}, reason={item.reasonCode}")
      validateAcks batch (item.eventIdempotencyKey :: seen) rest

/-- the digest of the encoded batch with its own digest cleared; `encode` is the protobuf encoding -/
def canonicalAckBatchDigest (hash : Bytes → String) (encode : CanonicalAckBatch → Bytes) (ack : CanonicalAckBatch) :
    String :=
  sha256 hash (encode { ack with ackBatchDigest := "" })

def validateCanonicalAcks (hash : Bytes → String) (encode : CanonicalAckBatch → Bytes) (batch : InferenceResultBatch)
    (ack : CanonicalAckBatch) : EdgeResult Unit := do
  refuse (ack.schemaVersion ≠ "canonical-event-ack/v1" ∨ ack.acknowledgements.length ≠ batch.records.length ∨
      ack.resultBatchDigest ≠ batch.batchDigest)
    (ackMismatch "ACK version/cardinality differs from result batch")
  validateSha256 ack.ackBatchDigest "ack.ack_batch_digest"
  refuse (canonicalAckBatchDigest hash encode ack ≠ ack.ackBatchDigest)
    (ackMismatch "canonical ACK batch digest mismatch")
  validateAcks batch [] ack.acknowledgements

inductive ResultWalStage where
  | unspecified
  | batchDurable
  | canonicalAckDurable
deriving DecidableEq, Repr

structure ResultWalRecord where
  schemaVersion : String := "edge-result-wal/v1"
  stage : ResultWalStage
  resultBatch : Option InferenceResultBatch
  canonicalAck : Option CanonicalAckBatch
  resultBatchWalSequence : ℕ
  recordedAtUnixMs : ℤ
  reasonCode : String
deriving DecidableEq, Repr

end MasiEdge.Delivery
