/-
The effect journal of a target actor: `preflight`, `execute`, `acknowledge_effect`, `recover_effect_journal` and
`reconcile_recovered_effect`.

An effect is journaled twice: `WRITE_STARTED` before the P4 writes and a result after them. The journal is a log; its
checkpoint moves only when the control plane acknowledges the result. Target answers, clocks, and the fate of every append
are arguments. An append may also end in a crash (`Io.crash`): the process stops there, and only a restart goes on.

Intent validation, plan compilation and plan decoding belong to the firewall profile and are parameters (`Firewall`), as
is the digest of a result message; `Firewall.effectFirewall` fills them in.
-/
import MasiEdge.Base.Log
import MasiEdge.Base.Run
import MasiEdge.Source.Contract

namespace MasiEdge.Effect

open Source (Fence)

/-! ## Messages -/

inductive EffectKind where
  | unspecified
  | baselineActivate
  | overlayUpsert
  | overlayDelete
  | boundedCaptureStart
deriving DecidableEq, Repr

inductive EffectStatus where
  | unspecified
  | applied
  | hold
  | unknown
  | reconciling
deriving DecidableEq, Repr

inductive JournalStage where
  | writeStarted
  | readbackExact
  | selectorExact
  | hold
  | unknown
deriving DecidableEq, Repr

structure EffectIntent where
  effectIntentId : String
  operationId : String
  targetId : String
  fence : Option Fence
  effectDigest : String
  kind : EffectKind
  overlayExpiries : List ℤ
  deadlineUnixMs : ℤ
  traceId : String
deriving DecidableEq, Repr

structure CompiledEffectPlan where
  activeBank : ℕ
  inactiveBank : ℕ
  entries : List String
  planDigest : String
deriving DecidableEq, Repr

structure EffectResult where
  targetId : String
  effectIntentId : String
  operationId : String
  fence : Option Fence
  status : EffectStatus
  planDigest : String
  readbackDigest : String := ""
  expectedEntries : ℕ := 0
  observedEntries : ℕ := 0
  mismatchedEntries : ℕ := 0
  activeBank : ℕ := 0
  reasonCode : String
  traceId : String
deriving DecidableEq, Repr

structure EffectJournalRecord where
  schemaVersion : String := "edge-effect-journal/v1"
  stage : JournalStage
  intent : Option EffectIntent
  plan : Option CompiledEffectPlan
  result : Option EffectResult
  recordedAtUnixMs : ℤ
  reasonCode : String
deriving DecidableEq, Repr

/-- what identifies an operation in the journal -/
def EffectIntent.key (intent : EffectIntent) : String × String × String :=
  (intent.operationId, intent.effectIntentId, intent.effectDigest)

def EffectJournalRecord.key (r : EffectJournalRecord) : Option (String × String × String) :=
  r.intent.map EffectIntent.key

structure PendingEffectAck where
  operationId : String
  effectIntentId : String
  resultDigest : String
  journalSequence : ℕ
  result : EffectResult
deriving DecidableEq, Repr

structure RecoveredEffect where
  intent : EffectIntent
  plan : CompiledEffectPlan
  lastStatus : Option EffectStatus
deriving DecidableEq, Repr

structure PreflightRecord where
  effectDigest : String
  plan : CompiledEffectPlan
  expires : ℕ
deriving DecidableEq, Repr

structure AcknowledgeEffectRequest where
  schemaVersion : String
  targetId : String
  effectIntentId : String
  operationId : String
  fence : Option Fence
  resultDigest : String
  canonicalEffectReference : String
  committedAtUnixMs : ℤ
deriving DecidableEq, Repr

/-! ## State and environment -/

/-- the pure functions of the firewall profile that the effect path calls -/
structure Firewall where
  validateIntent : EffectIntent → EdgeResult Unit
  compile : EffectIntent → ℕ → EdgeResult CompiledEffectPlan
  fromContract : CompiledEffectPlan → EdgeResult Unit
  resultDigest : EffectResult → String

structure Assignment where
  targetId : String
  fence : Option Fence
deriving DecidableEq, Repr

/-- the effect side of the actor. `hold` is the WAL retention hold a restart may come up with; `alive` is false between a
crash and the next successful restart. -/
structure EffectState where
  assignment : Assignment
  journal : Log EffectJournalRecord
  pending : Option PendingEffectAck
  recovered : Option RecoveredEffect
  preflights : List (String × PreflightRecord)
  hold : Bool
  alive : Bool

def EffectState.initial (assignment : Assignment) : EffectState :=
  ⟨assignment, Log.empty, none, none, [], false, true⟩

/-- how an append ends -/
inductive Io where
  | ok
  | fail (e : EdgeError)
  | crash

abbrev Outcome (α : Type) := EdgeResult α × EffectState

/-- append a record; on success continue with its sequence -/
def appendThen {α : Type} (s : EffectState) (record : EffectJournalRecord) (io : Io)
    (next : ℕ → EffectState → Outcome α) : Outcome α :=
  match io with
  | .ok => next s.journal.nextSequence { s with journal := s.journal.append record }
  | .fail e => (.error e, s)
  | .crash => (.error (.actorUnavailable "process stopped"), { s with alive := false })

/-! ## Guards -/

/-- `require_write_ready`; `link` is its verdict on lease, session, primary role and pipeline -/
def requireWriteReady (s : EffectState) (link : EdgeResult Unit) : EdgeResult Unit := do
  refuse (s.hold = true)
    (.precondition "WAL_RETENTION_EXPIRED" "target is fenced by an expired uncheckpointed WAL record")
  refuse (s.recovered.isSome)
    (.precondition "EFFECT_RECONCILE_REQUIRED" "a prior write-started operation requires exact readback")
  link

/-- a response overlay must expire in the future, at most 1800 seconds ahead -/
def checkOverlayExpiry (now : ℤ) : List ℤ → EdgeResult Unit
  | [] => .ok ()
  | expires :: rest => do
    refuse (expires ≤ now) (.precondition "OVERLAY_EXPIRED" "response overlay expiry is not in the future")
    refuse (1800000 < expires - now)
      (.precondition "OVERLAY_TTL_EXCEEDED" "first-release response overlay TTL exceeds 1800 seconds")
    checkOverlayExpiry now rest

/-- `verify_intent_fence` -/
def verifyIntentFence (fw : Firewall) (s : EffectState) (intent : EffectIntent) (now : ℤ) : EdgeResult Unit := do
  refuse (intent.targetId ≠ s.assignment.targetId)
    (.precondition "TARGET_FENCE_MISMATCH" "request target differs from actor target")
  refuse (intent.fence ≠ s.assignment.fence)
    (.precondition "ASSIGNMENT_STALE" "request fence differs from actor assignment")
  refuse (intent.deadlineUnixMs ≤ now) (.deadline "effect deadline elapsed")
  if intent.kind = .overlayUpsert then checkOverlayExpiry now intent.overlayExpiries
  fw.validateIntent intent

/-! ## preflight -/

structure PreflightReplies where
  link : EdgeResult Unit
  now : ℤ
  instant : ℕ
  validityMs : ℕ
  /-- pipeline re-verification and the policy selector's active bank -/
  activeBank : EdgeResult ℕ
  token : String

def preflightPlan (fw : Firewall) (s : EffectState) (intent : EffectIntent) (env : PreflightReplies) :
    EdgeResult CompiledEffectPlan := do
  requireWriteReady s env.link
  verifyIntentFence fw s intent env.now
  refuse (s.pending.isSome)
    (.precondition "EFFECT_ACK_PENDING" "prior effect awaits PostgreSQL CAS acknowledgement")
  let activeBank ← env.activeBank
  let plan ← fw.compile intent activeBank
  refuse (128 ≤ s.preflights.length)
    (.resourceExhausted "PREFLIGHT_LIMIT_EXCEEDED" "target preflight token limit reached")
  return plan

def preflight (fw : Firewall) (s : EffectState) (intent : EffectIntent) (env : PreflightReplies) : Outcome Unit :=
  match preflightPlan fw s intent env with
  | .error e => (.error e, s)
  | .ok plan =>
    (.ok (), { s with
      preflights := (env.token, ⟨intent.effectDigest, plan, env.instant + env.validityMs⟩) :: s.preflights })

/-! ## execute -/

structure ExecuteReplies where
  link : EdgeResult Unit
  now : ℤ
  instant : ℕ
  startedIo : Io
  /-- what `apply_plan` returns: the readback digest and the observed entries -/
  applied : EdgeResult (String × ℕ)
  resultIo : Io

def resultBank (intent : EffectIntent) (plan : CompiledEffectPlan) : ℕ :=
  if intent.kind = .baselineActivate then plan.inactiveBank else plan.activeBank

/-- the result of a live execution -/
def executeResult (intent : EffectIntent) (plan : CompiledEffectPlan) : EdgeResult (String × ℕ) → EffectResult
  | .ok (readbackDigest, observed) =>
    { targetId := intent.targetId, effectIntentId := intent.effectIntentId, operationId := intent.operationId,
      fence := intent.fence, status := .applied, planDigest := plan.planDigest, readbackDigest,
      expectedEntries := plan.entries.length, observedEntries := observed, activeBank := resultBank intent plan,
      reasonCode := "EXACT_READBACK", traceId := intent.traceId }
  | .error (.unknownOutcome message) =>
    { targetId := intent.targetId, effectIntentId := intent.effectIntentId, operationId := intent.operationId,
      fence := intent.fence, status := .unknown, planDigest := plan.planDigest,
      reasonCode := s!"WRITE_OUTCOME_UNCONFIRMED:{message}", traceId := intent.traceId }
  | .error e =>
    { targetId := intent.targetId, effectIntentId := intent.effectIntentId, operationId := intent.operationId,
      fence := intent.fence, status := .hold, planDigest := plan.planDigest, reasonCode := e.reasonCode,
      traceId := intent.traceId }

def resultStage : EffectStatus → JournalStage
  | .applied => .selectorExact
  | .unknown => .unknown
  | _ => .hold

def startedRecord (intent : EffectIntent) (plan : CompiledEffectPlan) (now : ℤ) : EffectJournalRecord :=
  { stage := .writeStarted, intent := some intent, plan := some plan, result := none, recordedAtUnixMs := now,
    reasonCode := "WRITE_STARTED" }

def resultRecord (stage : JournalStage) (intent : EffectIntent) (plan : CompiledEffectPlan) (result : EffectResult)
    (now : ℤ) : EffectJournalRecord :=
  { stage, intent := some intent, plan := some plan, result := some result, recordedAtUnixMs := now,
    reasonCode := result.reasonCode }

def pendingOf (fw : Firewall) (intent : EffectIntent) (result : EffectResult) (sequence : ℕ) : PendingEffectAck :=
  ⟨intent.operationId, intent.effectIntentId, fw.resultDigest result, sequence, result⟩

/-- the checks of `execute`: a pending effect answers from memory, otherwise the consumed token gives the plan -/
inductive Admission where
  | answer (result : EffectResult)
  | go (plan : CompiledEffectPlan)

def checkToken (fw : Firewall) (intent : EffectIntent) (record : Option PreflightRecord) (instant : ℕ) :
    EdgeResult CompiledEffectPlan := do
  match record with
  | none => .error (.precondition "PREFLIGHT_REPLAY" "token absent or consumed")
  | some record => do
    refuse (record.expires ≤ instant) (.precondition "PREFLIGHT_EXPIRED" "preflight token expired")
    refuse (record.effectDigest ≠ intent.effectDigest)
      (.precondition "EFFECT_DIGEST_CONFLICT" "preflight token belongs to a different effect digest")
    fw.fromContract record.plan
    return record.plan

/-- everything `execute` decides before the journal is touched -/
def admitExecute (fw : Firewall) (s : EffectState) (intent : EffectIntent) (token : String) (env : ExecuteReplies) :
    EdgeResult Admission := do
  requireWriteReady s env.link
  verifyIntentFence fw s intent env.now
  match s.pending with
  | some pending =>
    if pending.operationId = intent.operationId ∧ pending.effectIntentId = intent.effectIntentId then
      return .answer pending.result
    else .error (.precondition "EFFECT_ACK_PENDING" "prior effect awaits PostgreSQL CAS acknowledgement")
  | none => return .go (← checkToken fw intent (s.preflights.lookup token) env.instant)

/-- a token is consumed as soon as no effect is pending, whatever the later checks say -/
def consumeToken (fw : Firewall) (s : EffectState) (intent : EffectIntent) (token : String) (env : ExecuteReplies) :
    EffectState :=
  if requireWriteReady s env.link = .ok () ∧ verifyIntentFence fw s intent env.now = .ok () ∧ s.pending = none then
    { s with preflights := s.preflights.filter fun p => p.1 ≠ token }
  else s

/-- the second half of `execute`: P4 writes have been issued, the result becomes durable and then pending -/
def recordResult (fw : Firewall) (s : EffectState) (intent : EffectIntent) (plan : CompiledEffectPlan)
    (env : ExecuteReplies) : Outcome EffectResult :=
  let result := executeResult intent plan env.applied
  appendThen s (resultRecord (resultStage result.status) intent plan result env.now) env.resultIo fun sequence s =>
    (.ok result, { s with pending := some (pendingOf fw intent result sequence) })

def execute (fw : Firewall) (s : EffectState) (intent : EffectIntent) (token : String) (env : ExecuteReplies) :
    Outcome EffectResult :=
  match admitExecute fw s intent token env with
  | .error e => (.error e, consumeToken fw s intent token env)
  | .ok (.answer result) => (.ok result, s)
  | .ok (.go plan) =>
    appendThen (consumeToken fw s intent token env) (startedRecord intent plan env.now) env.startedIo fun _ s =>
      recordResult fw s intent plan env

/-- the call gets as far as issuing P4 writes -/
def issuesWrites (fw : Firewall) (s : EffectState) (intent : EffectIntent) (token : String) (env : ExecuteReplies) : Prop :=
  (∃ plan, admitExecute fw s intent token env = .ok (.go plan)) ∧ env.startedIo = .ok

/-! ## acknowledge_effect -/

/-- the checks of `acknowledge_effect`; the result is the journal sequence to checkpoint -/
def checkAcknowledge (s : EffectState) (request : AcknowledgeEffectRequest) : EdgeResult ℕ := do
  refuse (request.schemaVersion ≠ "effect-canonical-ack/v1") (.unknownMajor request.schemaVersion)
  refuse (request.targetId ≠ s.assignment.targetId)
    (.precondition "TARGET_FENCE_MISMATCH" "effect ACK target differs from actor target")
  validateSha256 request.resultDigest "result_digest"
  validateIdentity request.canonicalEffectReference "canonical_effect_reference"
  refuse (request.committedAtUnixMs ≤ 0) (.invalidArgument "committed_at_unix_ms" "must be positive")
  match s.pending with
  | none => .error (.precondition "CANONICAL_ACK_MISMATCH" "no pending effect result")
  | some pending => do
    refuse (pending.operationId ≠ request.operationId ∨ pending.effectIntentId ≠ request.effectIntentId ∨
        pending.resultDigest ≠ request.resultDigest ∨ pending.result.fence ≠ request.fence)
      (.precondition "CANONICAL_ACK_MISMATCH" "effect ACK identity or result digest mismatch")
    refuse (pending.result.status = .unknown ∨ s.recovered.isSome)
      (.precondition "EFFECT_RECONCILE_REQUIRED" "unknown effect remains journaled until exact readback converges")
    return pending.journalSequence

/-- `io` is the fate of the checkpoint write -/
def acknowledgeEffect (s : EffectState) (request : AcknowledgeEffectRequest) (io : Io) : Outcome Unit :=
  match checkAcknowledge s request with
  | .error e => (.error e, s)
  | .ok sequence =>
    match s.journal.moveTo sequence, io with
    | none, _ => (.error (.precondition "CHECKPOINT_OUT_OF_RANGE" "checkpoint outside the journal"), s)
    | some _, .fail e => (.error e, s)
    | some _, .crash => (.error (.actorUnavailable "process stopped"), { s with alive := false })
    | some journal, .ok => (.ok (), { s with journal, pending := none })

/-! ## recover_effect_journal -/

/-- the loop state of the replay -/
structure Replay where
  key : Option (String × String × String)
  recovered : Option RecoveredEffect
  pending : Option PendingEffectAck

/-- one record: one target, one operation, a plan that decodes -/
def replayRecord (fw : Firewall) (targetId : String) (st : Replay) (item : ℕ × EffectJournalRecord) :
    EdgeResult Replay := do
  let record := item.2
  refuse (record.schemaVersion ≠ "edge-effect-journal/v1") (.walCorrupt "unknown effect journal schema major")
  match record.intent, record.plan with
  | none, _ => .error (.walCorrupt "effect journal record is missing intent")
  | some _, none => .error (.walCorrupt "effect journal record is missing compiled plan")
  | some intent, some plan => do
    refuse (intent.targetId ≠ targetId) (.walCorrupt "effect journal target differs from target directory")
    refuse (st.key.isSome ∧ st.key ≠ some intent.key)
      (.walCorrupt "multiple unacknowledged effect operations share one target journal")
    fw.fromContract plan
    return {
      key := some intent.key
      recovered := some ⟨intent, plan, record.result.map EffectResult.status⟩
      pending := match record.result with
        | none => st.pending
        | some result => some (pendingOf fw intent result item.1) }

def replayJournal (fw : Firewall) (targetId : String) (items : List (ℕ × EffectJournalRecord)) : EdgeResult Replay :=
  Run.runM (replayRecord fw targetId) ⟨none, none, none⟩ items

/-- an applied or held effect only waits for its acknowledgement; anything else has to be reconciled -/
def settled : Option EffectStatus → Bool
  | some .applied => true
  | some .hold => true
  | _ => false

/-- `recover_effect_journal`, with the pending and the recovered effect it leaves in memory -/
def recoverEffectJournal (fw : Firewall) (targetId : String) (items : List (ℕ × EffectJournalRecord)) :
    EdgeResult (Option PendingEffectAck × Option RecoveredEffect) :=
  match replayJournal fw targetId items with
  | .error e => .error e
  | .ok st =>
    match st.recovered with
    | none => .ok (none, none)
    | some recovered => .ok (st.pending, if settled recovered.lastStatus then none else some recovered)

/-! ## reconcile_recovered_effect -/

structure ReconcileReplies where
  readback : EdgeResult (String × ℕ)
  now : ℤ
  io : Io

/-- what the readback says: status, readback digest, observed and mismatched entries, reason -/
def reconcileVerdict (plan : CompiledEffectPlan) :
    EdgeResult (String × ℕ) → EdgeResult (EffectStatus × String × ℕ × ℕ × String)
  | .ok (readbackDigest, observed) => .ok (.applied, readbackDigest, observed, 0, "RECOVERED_EXACT_READBACK")
  | .error (.precondition code message) =>
    if code = "READBACK_MISMATCH" ∨ code = "SELECTOR_MISMATCH" then
      .ok (.unknown, "", 0, plan.entries.length, s!"{code}:{message}")
    else .error (.precondition code message)
  | .error e => .error e

def reconcileRecoveredEffect (fw : Firewall) (s : EffectState) (env : ReconcileReplies) : Outcome Unit :=
  match s.recovered with
  | none => (.error (.precondition "EFFECT_RECOVERY_ABSENT" "no recovered effect"), s)
  | some recovered =>
    match reconcileVerdict recovered.plan env.readback with
    | .error e => (.error e, s)
    | .ok (status, readbackDigest, observed, mismatched, reason) =>
      if status = .unknown ∧ recovered.lastStatus = some .unknown then (.ok (), s)
      else
        let result : EffectResult :=
          { targetId := recovered.intent.targetId, effectIntentId := recovered.intent.effectIntentId,
            operationId := recovered.intent.operationId, fence := recovered.intent.fence, status,
            planDigest := recovered.plan.planDigest, readbackDigest,
            expectedEntries := recovered.plan.entries.length, observedEntries := observed,
            mismatchedEntries := mismatched, activeBank := resultBank recovered.intent recovered.plan,
            reasonCode := reason, traceId := recovered.intent.traceId }
        let stage : JournalStage := if status = .applied then .readbackExact else .unknown
        appendThen s (resultRecord stage recovered.intent recovered.plan result env.now) env.io fun sequence s =>
          (.ok (), { s with
            pending := some (pendingOf fw recovered.intent result sequence)
            recovered := if status = .applied then none else some { recovered with lastStatus := some .unknown } })

/-! ## Steps and runs -/

inductive Op where
  | preflight (intent : EffectIntent) (env : PreflightReplies)
  | execute (intent : EffectIntent) (token : String) (env : ExecuteReplies)
  | acknowledge (request : AcknowledgeEffectRequest) (io : Io)
  | reconcile (env : ReconcileReplies)
  /-- lease expiry, revocation and the token sweep forget preflights -/
  | dropPreflights (keep : String → Bool)
  /-- a maintenance tick finds a WAL record past its retention age -/
  | retentionExpired
  | crash
  /-- a new process for the target: new fence, and whether it comes up under a retention hold -/
  | restart (fence : Option Fence) (hold : Bool)

/-- spawn over the same journal; under a retention hold the journal is not replayed, and a rejected journal leaves the
target without an actor -/
def restart (fw : Firewall) (s : EffectState) (fence : Option Fence) (hold : Bool) : EffectState :=
  let fresh : EffectState :=
    { s with assignment := { s.assignment with fence }, pending := none, recovered := none, preflights := [], hold
             alive := true }
  if hold then fresh
  else
    match recoverEffectJournal fw s.assignment.targetId s.journal.pending with
    | .error _ => { fresh with alive := false }
    | .ok (pending, recovered) => { fresh with pending, recovered }

def step (fw : Firewall) (s : EffectState) (op : Op) : EffectState :=
  match op with
  | .restart fence hold => restart fw s fence hold
  | op =>
    if s.alive = false then s
    else
      match op with
      | .preflight intent env => (preflight fw s intent env).2
      | .execute intent token env => (execute fw s intent token env).2
      | .acknowledge request io => (acknowledgeEffect s request io).2
      | .reconcile env => (reconcileRecoveredEffect fw s env).2
      | .dropPreflights keep => { s with preflights := s.preflights.filter fun p => keep p.1 }
      | .retentionExpired => { s with hold := true, preflights := [] }
      | .crash => { s with alive := false }
      | .restart _ _ => s

def run (fw : Firewall) (assignment : Assignment) (ops : List Op) : EffectState :=
  ops.foldl (step fw) (EffectState.initial assignment)

theorem run_snoc (fw : Firewall) (assignment : Assignment) (ops : List Op) (op : Op) :
    run fw assignment (ops ++ [op]) = step fw (run fw assignment ops) op := by
  simp [run]

end MasiEdge.Effect
