/-
Durable records that nothing admits: result batches the sink refuses, snapshots the window engine refuses.

The pool's batch is bounded by `inference_batch_records`, its commit by `control_batch_records`, `control_message_bytes` and
the replay bound of the result WAL; the configuration relates none of them. `durable_result_deliverable_iff` is the exact
condition; `refused_batch_stays` is a run in which a batch that the sink never takes blocks the target.

A snapshot is validated only after it is final. `built_snapshot_accepted_iff` is when it passes; `late_hint_poisons` is a run
whose final snapshot does not, so that no restart comes up.
-/
import MasiEdge.Delivery.Queue

namespace MasiEdge.Delivery

open Codec Route Window Source

def bounded (field : String) (value lowest highest : ℕ) : EdgeResult Unit :=
  refuse (value < lowest ∨ highest < value) (.invalidArgument field s!"must be in [{lowest},{highest}]")

/-- `RuntimeLimits::validate` on the limits of delivery -/
def Limits.validate (l : Limits) : EdgeResult Unit := do
  bounded "inference_batch_records" l.inferenceBatchRecords 1 256
  bounded "control_batch_records" l.controlBatchRecords 1 256
  bounded "pending_input_identities" l.pendingInputIdentities 1 524288
  bounded "inference_deadline_ms" l.inferenceDeadlineMs 1 60000
  bounded "inference_message_bytes" l.inferenceMessageBytes 1024 4194304
  bounded "control_message_bytes" l.controlMessageBytes 1024 4194304

/-- the commit of a batch is the sink's answer: nothing refuses it on the way there -/
def SinkAnswers (cfg : Config) (batch : InferenceResultBatch) : Prop :=
  ∀ response, commitResults cfg batch response = do
    let ack ← response
    validateCanonicalAcks cfg.hash cfg.encodeAck batch ack
    return ack

/-- the batch at the head of the result WAL is read back and its commit reaches the sink -/
def Deliverable (cfg : Config) (s : Actor) (batch : InferenceResultBatch) : Prop :=
  ∃ item rest, s.result.replay cfg.resultBytes 2 (cfg.limits.controlMessageBytes * 2) = item :: rest ∧
    durableBatch cfg item = .ok batch ∧ SinkAnswers cfg batch

/-- the bounds of the sink and of the replay -/
def WithinBounds (cfg : Config) (record : ResultWalRecord) (batch : InferenceResultBatch) : Prop :=
  cfg.resultBytes record ≤ cfg.limits.controlMessageBytes * 2 ∧
    batch.records.length ≤ cfg.limits.controlBatchRecords ∧ cfg.resultBatchBytes batch ≤ cfg.limits.controlMessageBytes

variable {cfg : Config} {s : Actor} {result batch : InferenceResultBatch} {now : ℤ}

theorem sinkAnswers_iff (hrecords : batch.records ≠ []) :
    SinkAnswers cfg batch ↔
      batch.records.length ≤ cfg.limits.controlBatchRecords ∧ cfg.resultBatchBytes batch ≤ cfg.limits.controlMessageBytes := by
  constructor
  · intro h
    -- an answer of another kind tells a local refusal from the sink's
    have hfail := h (.error (.walCorrupt ""))
    rcases bind_error.1 hfail with hcount | ⟨_, hcount, hfail⟩
    · cases (refuse_error.1 hcount).2
    · rcases bind_error.1 hfail with hsize | ⟨_, hsize, -⟩
      · cases (refuse_error.1 hsize).2
      · exact ⟨not_lt.1 (not_or.1 (refuse_ok.1 hcount)).2, not_lt.1 (refuse_ok.1 hsize)⟩
  · rintro ⟨hcount, hsize⟩ response
    rw [commitResults, refuse_of_not (not_or.2 ⟨hrecords, not_lt.2 hcount⟩), refuse_of_not (not_lt.2 hsize)]
    rfl

theorem durableBatch_stamped (cfg : Config) (s : Actor) (result : InferenceResultBatch) (now : ℤ) :
    durableBatch cfg (s.result.nextSequence, batchDurable cfg s result now) =
      .ok (stampResult cfg.hash result s.result.nextSequence) := by
  rw [durableBatch, refuse_of_not (by simp [batchDurable])]
  change (do
    refuse (List.any (stampResult cfg.hash result s.result.nextSequence).records
        (fun record => record.resultWalSequence ≠ s.result.nextSequence) = true) _
    refuse (canonicalResultBatchDigest cfg.hash (stampResult cfg.hash result s.result.nextSequence) ≠
        (stampResult cfg.hash result s.result.nextSequence).batchDigest) _
    return _) = _
  rw [refuse_of_not (by simp [stampResult]), refuse_of_not (by simp [stampResult, canonicalResultBatchDigest])]
  rfl

/-- **A durable result batch is deliverable exactly within the sink's bounds.** Whenever `process_pending_inputs` makes a
batch durable, it has at most `inference_batch_records` records, and it can be read back and committed if and only if its
record fits the replay and the batch fits `control_batch_records` and `control_message_bytes`. -/
theorem durable_result_deliverable_iff (cfg : Config) (s : Actor) (env : InputReplies)
    (hdurable : (processPendingInputs cfg s env).2.result ≠ s.result) :
    ∃ record batch, (processPendingInputs cfg s env).2.result = s.result.append record ∧ record.resultBatch = some batch ∧
      batch.records.length ≤ cfg.limits.inferenceBatchRecords ∧
      (Deliverable cfg (processPendingInputs cfg s env).2 batch ↔ WithinBounds cfg record batch) := by
  have hchange := processPendingInputs_change cfg s env
  generalize (processPendingInputs cfg s env).2 = s' at hdurable hchange
  cases hchange with
  | quiet router | dropped | copied | moved => exact absurd rfl hdurable
  | @inferred head rest result _ now hidle hreplay hbound hanswers =>
    have hlength : (stampResult cfg.hash result s.result.nextSequence).records.length = (headBatch head.2 (head :: rest)).length := by
      simpa [stampResult] using hanswers.length_eq
    have hsome : (stampResult cfg.hash result s.result.nextSequence).records ≠ [] := by
      rw [← List.length_pos_iff, hlength]
      simp [headBatch, hbound]
    refine ⟨_, stampResult cfg.hash result s.result.nextSequence, rfl, rfl, ?_, ?_⟩
    · rw [hlength]
      calc (headBatch head.2 (head :: rest)).length
          ≤ ((head :: rest).map Prod.snd).length := (List.takeWhile_sublist _).length_le
        _ = (replayed cfg s).length := by rw [List.length_map, hreplay]
        _ ≤ cfg.limits.inferenceBatchRecords := (Log.within_take ..).length_le.trans (List.length_take_le ..)
    · rw [WithinBounds, ← sinkAnswers_iff hsome, Deliverable]
      have hpending : (s.result.append (batchDurable cfg s result now)).pending =
          [(s.result.nextSequence, batchDurable cfg s result now)] := by
        rw [Log.pending_append, Log.pending_eq_nil.2 hidle, List.nil_append]
      simp only [Log.replay, hpending, Log.within]
      split_ifs with hsize
      · exact iff_of_false (by simp) fun h => absurd hsize (not_lt.2 h.1)
      · constructor
        · rintro ⟨item, rest, -, -, hopen⟩
          exact ⟨not_lt.1 hsize, hopen⟩
        · rintro ⟨-, hopen⟩
          exact ⟨_, _, rfl, durableBatch_stamped cfg s result now, hopen⟩

/-- two records to a pool batch, one to a sink batch -/
def unevenConfig : Config := { sampleConfig 2 with limits := ⟨2, 1000000, 1000, 1, 1000000, 16⟩ }

/-- both windows are bound to the route -/
def bothBound : Actor :=
  run unevenConfig (scripted unevenConfig (always twoWindows ++ [poolInputs unevenConfig .done, poolInputs unevenConfig .done]))

/-- the pool answers both in one batch -/
def bothAnswered : InputReplies :=
  ⟨900, .ok (), .done, .ok (answerBatch toyHash "infer:leaf-1" poolRoute (pendingBatch unevenConfig bothBound)), 900, .ok ()⟩

def bothInferred : Actor := (processPendingInputs unevenConfig bothBound bothAnswered).2

theorem both_inferred_bounded : ∃ record batch, bothInferred.result = bothBound.result.append record ∧
    record.resultBatch = some batch ∧ batch.records.length ≤ unevenConfig.limits.inferenceBatchRecords ∧
      (Deliverable unevenConfig bothInferred batch ↔ WithinBounds unevenConfig record batch) := by
  have hgrows : bothInferred.result.pending.length ≠ bothBound.result.pending.length := by decide +kernel
  unfold bothInferred at hgrows ⊢
  exact durable_result_deliverable_iff _ _ _ fun hsame => hgrows (by rw [hsame])

/-- **A batch the sink never takes.** The configuration is accepted, and the durable batch of both windows is read back;
whatever the sink would answer, its commit is refused before it is sent. -/
theorem refused_batch_stays : unevenConfig.limits.validate = .ok () ∧
    ∃ item batch, bothInferred.result.replay unevenConfig.resultBytes 2 2000000 = [item] ∧
      durableBatch unevenConfig item = .ok batch ∧
      ∀ response, commitResults unevenConfig batch response =
        .error (.invalidArgument "result_records" "control batch count outside configured bounds") := by
  refine ⟨by decide +kernel, ?_⟩
  have hread : (bothInferred.result.replay unevenConfig.resultBytes 2 2000000).map (fun item =>
      (durableBatch unevenConfig item).map fun batch => batch.records.length) = [.ok 2] := by
    decide +kernel
  obtain ⟨item, hitem, hbatch⟩ := List.map_eq_singleton_iff.1 hread
  cases hdurable : durableBatch unevenConfig item with
  | error => simp [hdurable, Except.map] at hbatch
  | ok batch =>
    refine ⟨item, batch, hitem, hdurable, fun response => ?_⟩
    have htwo : batch.records.length = 2 := by simpa [hdurable, Except.map] using hbatch
    have hmany : batch.records = [] ∨ unevenConfig.limits.controlBatchRecords < batch.records.length :=
      .inr (by rw [htwo]; decide)
    rw [commitResults, refuse, if_pos hmany]
    rfl

/-! ## Snapshots the window engine refuses -/

/-- what a valid configuration and an operation in flight give the snapshot builder -/
structure SnapshotReady (cfg : SourceConfig) (recovery : SourceRecovery) : Prop where
  target : IsIdentity cfg.targetId
  role : IsIdentity cfg.role
  digest : IsDigest cfg.sourceProfileDigest
  epoch : IsIdentity recovery.sourceRuntimeEpoch
  fence : ∃ fence, cfg.fence = some fence ∧ fence.applicationGeneration ≠ 0
  deadline : cfg.p4RpcDeadlineMs ≠ 0
  lateness : cfg.allowedLatenessMs < 2 ^ 63
  active : recovery.newActiveBank ≤ 1
  flipped : recovery.newActiveBank ≠ recovery.frozenBank

section

variable {hash : Bytes → String} {cfg : SourceConfig} {s : SourceState} {recovery : SourceRecovery} {counter : Counter}
  {cells : List Counter}

/-- the cells of a bank are few enough and numbered apart -/
theorem snapshotCells_ok (hhash : HexHash hash) (epoch : ℕ) {index : ℕ} {indices : List ℕ}
    (hlength : index + cells.length ≤ 256) (hbefore : ∀ i ∈ indices, i < index) :
    (snapshotCells hash cfg epoch index cells).length ≤ cells.length ∧
      cellsOk indices (snapshotCells hash cfg epoch index cells) = true := by
  induction cells generalizing index indices with
  | nil => exact ⟨le_rfl, rfl⟩
  | cons _ _ ih =>
    have hnext : ∀ i ∈ indices, i < index + 1 := fun i hi => Nat.lt_succ_of_lt (hbefore i hi)
    rw [List.length_cons] at hlength ⊢
    rw [snapshotCells]
    split
    · obtain ⟨hle, hok⟩ := ih (by omega) hnext
      exact ⟨by omega, hok⟩
    · obtain ⟨hle, hok⟩ := ih (by omega) (List.forall_mem_cons.2 ⟨Nat.lt_succ_self _, hnext⟩)
      have hnew : index ∉ indices := fun h => lt_irrefl _ (hbefore index h)
      refine ⟨by simpa using hle, ?_⟩
      rw [cellsOk, hhash.validateSha256, hok]
      simp [Except.isOk, Except.toBool, hnew]
      omega

/-- **The builder meets the validator, except for long names and late hints.** With a valid configuration, a stable readback
of 256 cells and a clock that does not run backwards, the snapshot that becomes final passes `validate_snapshot` if and only
if its source id, the target id behind `p4-source:`, is still an identity, and no more digest hints came in than the frozen
bank counted packets. -/
theorem built_snapshot_accepted_iff (hhash : HexHash hash) (hready : SnapshotReady cfg recovery)
    (hcells : cells.length = 256) (hstable : recovery.counterPacketsBefore = counter.1) {now : ℤ} (hnow : 0 < now)
    (hstart : ∀ start, s.activeBankStartedMs = some start → start ≤ now) (sequence : ℕ) :
    validateSnapshot { buildSnapshot hash cfg s recovery counter cells now with sourceWalSequence := sequence } = .ok () ↔
      (asBytes cfg.targetId).length ≤ 118 ∧ s.digestHintsSinceSnapshot ≤ counter.1 := by
  obtain ⟨fence, hfence, hgen⟩ := hready.fence
  obtain ⟨hfew, hok⟩ := @snapshotCells_ok hash cfg cells hhash recovery.previousEpoch 0 [] (by omega) (by simp)
  have hsource : IsIdentity ("p4-source:" ++ cfg.targetId) ↔ (asBytes cfg.targetId).length ≤ 118 := by
    rw [isIdentity_append (by decide +kernel) hready.target.bytes, show (asBytes "p4-source:").length = 10 by decide +kernel]
    omega
  set snapshot := { buildSnapshot hash cfg s recovery counter cells now with sourceWalSequence := sequence } with hsnap
  have hbounds : boundsExact snapshot fence := by
    simp [hsnap, boundsExact, buildSnapshot, hfence, hgen, hready.deadline, hready.active, hready.flipped, hstable, hnow]
    omega
  have hflow : flowExact snapshot (flowProfile cfg) := by simp [hsnap, flowExact, buildSnapshot, flowProfile]
  have hsampling : samplingExact snapshot (samplingEvidence cfg counter.1 s.digestHintsSinceSnapshot) ↔
      s.digestHintsSinceSnapshot ≤ counter.1 := by
    simp [hsnap, samplingExact, buildSnapshot, samplingEvidence, coveragePpm]
    split <;> simp
  have hdrops : dropsExact (dropEvidence s) := by simp [dropsExact, dropEvidence]
  have hquality : ∃ quality, DataQuality.tryFrom snapshot.qualityCode = some quality ∧ qualityExact snapshot quality := by
    by_cases hknown : 0 < s.activeBankStartedMs.getD 0
    · have hle : s.activeBankStartedMs.getD 0 ≤ now := by
        cases hs : s.activeBankStartedMs with
        | none => exact hnow.le
        | some start => exact hstart start hs
      exact ⟨.valid, by simp [hsnap, buildSnapshot, hknown]; rfl,
        by simp [qualityExact, hsnap, buildSnapshot, hknown, hle, DataQuality.display]⟩
    · exact ⟨.partialData, by simp [hsnap, buildSnapshot, hknown]; rfl,
        by simp [qualityExact, hsnap, buildSnapshot, hknown, DataQuality.display]⟩
  obtain ⟨quality, hcode, hexact⟩ := hquality
  have hparts : snapshot.fence = some fence ∧ snapshot.flowIdentityProfile = some (flowProfile cfg) ∧
      snapshot.sampling = some (samplingEvidence cfg counter.1 s.digestHintsSinceSnapshot) ∧
      snapshot.drops = some (dropEvidence s) := ⟨hfence, rfl, rfl, rfl⟩
  simp only [validateSnapshot, check_ok, refuse_ok, validateIdentity_iff, validateSha256_iff, required, hparts, hcode,
    ok_bind, hbounds, hflow, hdrops, hsampling, hexact, and_true, true_and, not_not]
  constructor
  · rintro ⟨-, -, -, -, -, hid, -, -, -, hhints, -⟩
    exact ⟨hsource.1 hid, hhints⟩
  · rintro ⟨hshort, hhints⟩
    exact ⟨rfl, rfl, hready.target, hready.epoch, hready.digest, hsource.2 hshort, hhash.isIdentity (by decide +kernel)
      (by decide +kernel) _, hready.role, not_le.2 hready.lateness, hhints, ne_false_of_eq_true hok⟩

end

def oneHint : Op := .digestHint ⟨"leaf-1", "runtime-1", 1, 1, 1, zeroDigest, 8, 140⟩ 140 (.ok ())

/-- a bank of two packets, one of them announced by a hint -/
theorem hinted_snapshot_accepted :
    let cfg := (sampleConfig 2).source
    let s := (run (sampleConfig 2) [oneHint]).source
    s.digestHintsSinceSnapshot = 1 ∧
      validateSnapshot { buildSnapshot (fun _ => toyHash []) cfg s (startedRecovery cfg s (selectorOf 0 1) (2, 128) 150)
        (2, 128) ((2, 128) :: List.replicate 255 (0, 0)) 150 with sourceWalSequence := 5 } = .ok () := by
  intro cfg s
  have hhints : s.digestHintsSinceSnapshot = 1 := by decide +kernel
  have hstart : s.activeBankStartedMs = none := by decide +kernel
  refine ⟨hhints, (built_snapshot_accepted_iff ⟨fun _ => by decide +kernel, fun _ => by decide +kernel⟩
    { target := by decide +kernel, role := by decide +kernel, epoch := by decide +kernel
      digest := validateSha256_iff.1 (by decide +kernel : validateSha256 zeroDigest "" = .ok ())
      fence := ⟨_, rfl, by decide⟩, deadline := by decide, lateness := by decide, active := by decide, flipped := by decide }
    (by rw [List.length_cons, List.length_replicate]) rfl (by decide) (by simp [hstart]) 5).2
    ⟨by decide +kernel, by rw [hhints]; decide⟩⟩

/-- a digest hint of the previous bank comes in late, and the next bank counts no packet -/
def lateHint : List Op := oneHint :: quietCycle 0 1 150

/-- **A durable snapshot that no restart admits.** The snapshot with one hint and no packet is final and durable; the window
engine refuses it, and a restart over the same log does not come up. -/
theorem late_hint_poisons :
    ((run (sampleConfig 2) lateHint).source.wal.entries.getLast?.map fun record => (record.stage, record.snapshot.map validateSnapshot)) =
        some (some .snapshotFinalized, some (.error (.invalidArgument "telemetry_snapshot" "cell, sequence, or timestamp bounds are invalid"))) ∧
      (run (sampleConfig 2) (lateHint ++ [.crash, .restart none fun _ => quietAdmit 200])).running = false := by
  decide +kernel

end MasiEdge.Delivery
