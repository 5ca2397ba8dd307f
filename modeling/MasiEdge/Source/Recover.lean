/-
Rebuilding the source state from the source WAL (`recover_source_state`).

`recoverRecords` is the replay loop: it re-validates the fences between records and rebuilds the operation in flight, the
digest hints still to be acknowledged, and the finalized snapshots to admit again.

- `recoverRecords_finalizes`: every snapshot that replay hands back is finalized in the WAL.
-/
import MasiEdge.Base.Run
import MasiEdge.Source.Live

namespace MasiEdge.Source

open Codec Run

/-! ## Replay -/

/-- what replay has rebuilt so far -/
structure Rebuilt where
  recovery : Option SourceRecovery
  sourceSequence : ℕ
  pendingDigestAcks : List (ℕ × SupplementalHint)
  digestHintsSinceSnapshot : ℕ
  packetHintsSinceSnapshot : ℕ
  hintDropsSinceSnapshot : ℕ
  activeBankStartedMs : Option ℤ
  finalized : List TelemetrySnapshot

def Rebuilt.initial : Rebuilt := ⟨none, 0, [], 0, 0, 0, none, []⟩

/-- the record belongs to the operation -/
def sameOperation (record : SourceWalRecord) (current : SourceRecovery) : Bool :=
  record.operationWalSequence = current.operationWalSequence ∧ record.frozenBank = current.frozenBank ∧
    record.newActiveBank = current.newActiveBank ∧ record.previousEpoch = current.previousEpoch ∧
    record.newEpoch = current.newEpoch ∧ record.sourceSequence = current.sourceSequence ∧
    record.sourceRuntimeEpoch = current.sourceRuntimeEpoch ∧
    record.newActiveStartedAtUnixMs = current.newActiveStartedAtUnixMs

/-- `source_recovery_for_record` -/
def recoveryForRecord (recovery : Option SourceRecovery) (record : SourceWalRecord) : EdgeResult SourceRecovery :=
  match recovery with
  | none => .error (.walCorrupt "source stage appears without a freeze operation")
  | some current =>
    if sameOperation record current then .ok current
    else .error (.walCorrupt "source recovery operation fence mismatch")

def orCorrupt {α : Type} (x : Option α) (detail : String) : EdgeResult α :=
  match x with
  | none => .error (.walCorrupt detail)
  | some a => .ok a

/-- the operation a start record describes -/
def operationOf (sequence : ℕ) (record : SourceWalRecord) : SourceRecovery :=
  { operationWalSequence := sequence
    frozenBank := record.frozenBank
    newActiveBank := record.newActiveBank
    previousEpoch := record.previousEpoch
    newEpoch := record.newEpoch
    sourceSequence := record.sourceSequence
    counterPacketsBefore := record.counterPacketsBefore
    counterBytesBefore := record.counterBytesBefore
    sourceRuntimeEpoch := record.sourceRuntimeEpoch
    newActiveStartedAtUnixMs := record.newActiveStartedAtUnixMs
    frozen := false, snapshot := none, snapshotWalSequence := 0, cleared := false }

/-- one record of the replay loop -/
def recoverStage (cfg : SourceConfig) (st : Rebuilt) (sequence : ℕ) (record : SourceWalRecord) :
    SourceWalStage → EdgeResult Rebuilt
  | .bankFreezeStarted => do
    refuse (st.recovery.isSome) (.walCorrupt "overlapping telemetry freeze operations")
    refuse (record.operationWalSequence ≠ sequence ∨ record.newActiveBank = record.frozenBank ∨
        record.newEpoch ≤ record.previousEpoch ∨ record.sourceSequence = 0)
      (.walCorrupt "invalid telemetry freeze fence")
    return { st with recovery := some (operationOf sequence record) }
  | .bankFrozen => do
    -- only the flag: the counters the record carries are not copied
    let current ← recoveryForRecord st.recovery record
    return { st with recovery := some { current with frozen := true } }
  | .snapshotDurable => do
    let current ← recoveryForRecord st.recovery record
    let snapshot ← orCorrupt record.snapshot "snapshot stage lacks snapshot"
    refuse (record.snapshotWalSequence ≠ sequence ∨ snapshot.sourceWalSequence ≠ sequence)
      (.walCorrupt "snapshot WAL sequence fence mismatch")
    return { st with recovery := some { current with snapshot := some snapshot, snapshotWalSequence := sequence } }
  | .clearCompleted => do
    let current ← recoveryForRecord st.recovery record
    return { st with recovery := some { current with cleared := true } }
  | .snapshotFinalized => do
    let current ← recoveryForRecord st.recovery record
    refuse (current.cleared = false) (.walCorrupt "snapshot finalized before durable clear")
    let snapshot ← orCorrupt record.snapshot "finalized source stage lacks snapshot"
    refuse (snapshot.sourceWalSequence ≠ sequence ∨ record.snapshotWalSequence ≠ current.snapshotWalSequence)
      (.walCorrupt "finalized source cursor mismatch")
    return { st with
      finalized := st.finalized ++ [snapshot]
      activeBankStartedMs := some record.newActiveStartedAtUnixMs
      digestHintsSinceSnapshot := 0, packetHintsSinceSnapshot := 0, hintDropsSinceSnapshot := 0
      recovery := none }
  | .digestHintDurable => do
    let hint ← orCorrupt record.hint "durable digest stage lacks hint"
    refuse (st.pendingDigestAcks.length = cfg.pendingDigestAckQueue) (.resourceExhausted "DIGEST_ACK_RECOVERY_LIMIT"
      "unacknowledged durable digest hints exceed the recovery queue bound")
    return { st with
      digestHintsSinceSnapshot := satAdd st.digestHintsSinceSnapshot 1
      pendingDigestAcks := st.pendingDigestAcks ++ [(sequence, hint)] }
  | .digestHintAcked => do
    refuse (st.pendingDigestAcks.all fun p => p.1 ≠ record.operationWalSequence)
      (.walCorrupt "digest ACK stage has no durable hint")
    return { st with pendingDigestAcks := st.pendingDigestAcks.eraseP fun p => p.1 = record.operationWalSequence }
  | .packetHintDurable => return { st with packetHintsSinceSnapshot := satAdd st.packetHintsSinceSnapshot 1 }
  | .sourceGapDurable =>
    if "SUPPLEMENTAL_HINT_DROPPED:".toList <+: record.reasonCode.toList then
      return { st with hintDropsSinceSnapshot := satAdd st.hintDropsSinceSnapshot 1 }
    else return st
  | .unspecified => .error (.walCorrupt "unspecified source WAL stage")

def Rebuilt.seen (st : Rebuilt) (record : SourceWalRecord) : Rebuilt :=
  { st with sourceSequence := max st.sourceSequence record.sourceSequence }

def recoverRecord (cfg : SourceConfig) (st : Rebuilt) (item : ℕ × SourceWalRecord) : EdgeResult Rebuilt := do
  refuse (item.2.schemaVersion ≠ "edge-source-wal/v1") (.walCorrupt "unknown source WAL schema major")
  let stage ← orCorrupt item.2.stage "unknown source WAL stage"
  recoverStage cfg (st.seen item.2) item.1 item.2 stage

/-- the replay loop of `recover_source_state` -/
def recoverRecords (cfg : SourceConfig) (items : List (ℕ × SourceWalRecord)) : EdgeResult Rebuilt :=
  runM (recoverRecord cfg) Rebuilt.initial items

/-- the state a restarted actor has after replay -/
def Rebuilt.resume (st : Rebuilt) (wal : Log SourceWalRecord) : SourceState :=
  { wal
    recovery := st.recovery
    sourceSequence := st.sourceSequence
    pendingDigestAcks := st.pendingDigestAcks
    digestHintsSinceSnapshot := st.digestHintsSinceSnapshot
    packetHintsSinceSnapshot := st.packetHintsSinceSnapshot
    hintDropsSinceSnapshot := st.hintDropsSinceSnapshot
    activeBankStartedMs := st.activeBankStartedMs }

variable {cfg : SourceConfig} {st : Rebuilt} {n : ℕ} {record : SourceWalRecord} {stage : SourceWalStage}

/-- a stage adds at most the snapshot of its own record to the finalized ones -/
theorem recoverStage_finalized {u : Rebuilt} (h : recoverStage cfg st n record stage = .ok u) :
    u.finalized = st.finalized ∨ ∃ snapshot, stage = .snapshotFinalized ∧ record.snapshot = some snapshot ∧
      snapshot.sourceWalSequence = n ∧ u.finalized = st.finalized ++ [snapshot] := by
  cases stage with
  | bankFreezeStarted =>
    replace h := passed h
    replace h := passed h
    exact .inl (by rw [← Except.ok.inj h])
  | bankFrozen | clearCompleted =>
    obtain ⟨_, -, h⟩ := bind_ok.1 h
    exact .inl (by rw [← Except.ok.inj h])
  | snapshotDurable =>
    obtain ⟨_, -, h⟩ := bind_ok.1 h
    obtain ⟨_, -, h⟩ := bind_ok.1 h
    replace h := passed h
    exact .inl (by rw [← Except.ok.inj h])
  | snapshotFinalized =>
    obtain ⟨_, -, h⟩ := bind_ok.1 h
    replace h := passed h
    obtain ⟨snapshot, hsnap, h⟩ := bind_ok.1 h
    obtain ⟨hcursor, h⟩ := refuse_then h
    refine .inr ⟨snapshot, rfl, ?_, not_not.1 (not_or.1 hcursor).1, by rw [← Except.ok.inj h]⟩
    cases hs : record.snapshot with
    | none => simp [orCorrupt, hs] at hsnap
    | some => simpa [orCorrupt, hs] using hsnap
  | digestHintDurable =>
    obtain ⟨_, -, h⟩ := bind_ok.1 h
    replace h := passed h
    exact .inl (by rw [← Except.ok.inj h])
  | digestHintAcked =>
    replace h := passed h
    exact .inl (by rw [← Except.ok.inj h])
  | packetHintDurable => exact .inl (by rw [← Except.ok.inj h])
  | sourceGapDurable =>
    simp only [recoverStage] at h
    split_ifs at h
    · exact .inl (by rw [← Except.ok.inj h])
    · exact .inl (by rw [← Except.ok.inj h])
  | unspecified => cases h

/-- every snapshot that replay hands back is finalized in the WAL -/
theorem recoverRecords_finalizes {wal : Log SourceWalRecord} (h : recoverRecords cfg wal.pending = .ok st) :
    ∀ snapshot ∈ st.finalized, Finalizes wal snapshot := by
  -- along the replay: the records read so far are entries of the WAL, and only they are finalized
  have hrun := runM_induction (recoverRecord cfg) Rebuilt.initial
    (fun pre t => (∀ x ∈ pre, x ∈ wal.pending) → ∀ snapshot ∈ t.finalized, Finalizes wal snapshot)
    (fun _ snapshot hs => absurd hs List.not_mem_nil) ?_ wal.pending st h
  · exact hrun fun x hx => hx
  · intro pre t item u ih hu hseen snapshot hs
    replace hu := passed hu
    obtain ⟨stage, hstage, hu⟩ := bind_ok.1 hu
    have hitem : item ∈ wal.pending := hseen item (by simp)
    have hearlier := ih fun x hx => hseen x (by simp [hx])
    rcases recoverStage_finalized hu with hsame | ⟨snap, rfl, hsnap, hseq, hadd⟩
    · rw [hsame] at hs
      exact hearlier snapshot hs
    · rw [hadd] at hs
      rcases Run.mem_snoc.1 hs with hs | rfl
      · exact hearlier snapshot hs
      · obtain ⟨hlo, -, hget⟩ := Log.mem_pending hitem
        refine ⟨item.2, by omega, by rw [hseq]; exact hget, ?_, hsnap⟩
        cases hst : item.2.stage with
        | none => simp [orCorrupt, hst] at hstage
        | some => simpa [orCorrupt, hst] using hstage

end MasiEdge.Source
