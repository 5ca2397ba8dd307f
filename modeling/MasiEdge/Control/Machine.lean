/-
The control core as a machine: any number of processes over one database.

A run is any interleaving of transactions (`Tx`), of decisions that are judged before they are appended, and of calls of
`Dispatch`. A call loads its intent, validates it, claims it, projects the claim, sends `ExecuteEffect` and finalizes what
came back; a crash or a transaction that fails may end it between any two of these. Validation reads several tables one
after the other, so its answer is left open here. Clocks, leases, replies and every argument of a transaction are
arbitrary, and a transaction that fails changes nothing.

Two lists record what happened: the intents that were ever claimed, and the intents whose `ExecuteEffect` was sent.

* `step_writes`: a step makes only permitted writes;
* `step_calls`: what a step does to the calls;
* `Live`: what holds between the calls and the ledger; `run_live`: in every run;
* `run_invariant`: an invariant of the tables that every permitted write keeps holds in every permitted run.
-/
import MasiEdge.Control.Ledger

namespace MasiEdge.Control

open Codec Firewall Run Table

/-! ## Transactions -/

inductive Tx where
  | createProposal (now : ℤ) (p : Proposal)
  | supersede (oldId replacementId : String) (actor : Actor) (reasonCode : String)
  | createIntent (now : ℤ) (proposalId decisionId : String) (token : PreflightToken) (input : Intent)
      (capture : GoResult String)
  | createOverlay (now : ℤ) (ov : Overlay) (rulesSize : ℕ)
  | markDeleted (overlayRuleId : String)
  | createRevision (rev : Revision) (rulesSize : ℕ)
  | activate (targetId desiredRevisionId operationId : String)
  | advanceWaveGate (now : ℤ) (fleetOperationId : String) (currentWave nextWave : ℕ)
  | renewIntentLease (now : ℤ) (intentId leaseId : String) (leaseTtl : ℤ)
  | fenceExpiredClaim (now : ℤ) (intentId : String)
  | fenceOwnedClaims (owned : String → Bool)
  | reconcileUnknown (committedAt : ℤ) (intentId : String) (reply : EffectResult) (resultDigest : String)
  | markAcked (operationId : String)
  | recordAckFailure (now : ℤ) (operationId : String)
  | observe (inventory : Inventory)

/-- the body of an intent never changes, so the one that is reconciled is the one in the ledger -/
def reconcile (sv : Services) (committedAt : ℤ) (intentId : String) (reply : EffectResult) (resultDigest : String) (db : Db) :
    GoResult Db := do
  let intent ← loadUnknownIntent sv db intentId
  let result ← mapEffectResult intent reply
  reconcileUnknown sv committedAt intent result resultDigest db

def Tx.exec (sv : Services) : Tx → Db → GoResult Db
  | .createProposal now p, db => Control.createProposal sv.profile.hash now p db
  | .supersede oldId replacementId actor reasonCode, db => Control.supersede oldId replacementId actor reasonCode db
  | .createIntent now proposalId decisionId token input capture, db =>
    Control.createIntent sv now proposalId decisionId token input capture db
  | .createOverlay now ov rulesSize, db => Control.createOverlay sv now ov rulesSize db
  | .markDeleted overlayRuleId, db => Control.markDeleted overlayRuleId db
  | .createRevision rev rulesSize, db => Control.createRevision sv.profile.hash rev rulesSize db
  | .activate targetId desiredRevisionId operationId, db => Control.activate targetId desiredRevisionId operationId db
  | .advanceWaveGate now fleetOperationId currentWave nextWave, db =>
    Control.advanceWaveGate sv now fleetOperationId currentWave nextWave db
  | .renewIntentLease now intentId leaseId leaseTtl, db => .ok (Control.renewIntentLease now intentId leaseId leaseTtl db)
  | .fenceExpiredClaim now intentId, db => Control.fenceExpiredClaim sv now intentId db
  | .fenceOwnedClaims owned, db => .ok (Control.fenceOwnedClaims owned db)
  | .reconcileUnknown committedAt intentId reply resultDigest, db => reconcile sv committedAt intentId reply resultDigest db
  | .markAcked operationId, db => Control.markAcked operationId db
  | .recordAckFailure now operationId, db => .ok (Control.recordAckFailure now operationId db)
  | .observe inventory, db => .ok { db with inventory }

variable {db db' : Db} {intentId : String} {intent : Intent} {sv : Services} {perm : Permit} {inv : Db → Prop} {callId : ℕ}

theorem loadUnknownIntent_ok (h : loadUnknownIntent sv db intentId = .ok intent) :
    ∃ row, db.intent? intentId = some row ∧ row.claim.state = some .unknown ∧ row.intent = intent := by
  unfold loadUnknownIntent at h
  split at h
  · cases h
  · rename_i row hrow
    replace h := passed h
    obtain ⟨hfound, hstate⟩ := Option.filter_eq_some_iff.1 hrow
    exact ⟨row, hfound, of_decide_eq_true hstate, Except.ok.inj h⟩

/-! ## Decisions -/

/-- what is done in the transaction of a decision -/
inductive Callback where
  | plain
  | fleet (fo : FleetRequest) (capture : String → GoResult String)
  | manualGate (fleetOperationId : String) (currentWave nextWave : ℕ) (provided : String)

def Callback.run (sv : Services) (now : ℤ) (d : DecisionRow) (inserted : Bool) (db : Db) : Callback → GoResult Db
  | .plain => .ok db
  | .fleet fo capture => createApprovedFleetOperation sv now fo capture d inserted db
  | .manualGate fleetOperationId currentWave nextWave provided =>
    authorizeManualGate sv fleetOperationId currentWave nextWave provided d db

/-- the transaction of a decision -/
def recordDecision (sv : Services) (now : ℤ) (d : DecisionRow) (callback : Callback) (db : Db) : GoResult Db := do
  let (d, inserted, db) ← appendDecision d db
  callback.run sv now d inserted db

/-- what a decision is asked for -/
inductive Request where
  | plain (approved : Bool)
  | fleet (fo : FleetRequest) (capture : String → GoResult String)
  | rollback (originalId : String) (fo : FleetRequest) (capture : String → GoResult String)
  | manualGate (fleetOperationId : String) (currentWave nextWave : ℕ) (provided : String)

def Request.approved : Request → Bool
  | .plain approved => approved
  | _ => true

/-- what is checked before the decision is judged -/
def Request.prepare (hash : Bytes → String) (proposalId : String) (approver : Actor) (db : Db) : Request → GoResult Callback
  | .plain _ => .ok .plain
  | .fleet fo capture => do return .fleet (← prepareFleetOperation hash approver fo) capture
  | .rollback originalId fo capture => do
    let fo ← rollbackRequest hash originalId proposalId fo db
    return .fleet (← prepareFleetOperation hash approver fo) capture
  | .manualGate fleetOperationId currentWave nextWave provided =>
    .ok (.manualGate fleetOperationId currentWave nextWave provided)

/-! ## Calls -/

inductive Phase where
  | loaded
  | validated
  | claimed
  | executing
  | ended
deriving DecidableEq, Repr

/-- one call of `Dispatch` -/
structure Call where
  callId : ℕ
  intent : Intent
  phase : Phase
  lease : Option String
  sent : Bool
deriving DecidableEq, Repr

/-- what `ExecuteEffect` of the adapter comes back with -/
inductive WireReply where
  | preflightRejected
  | failed
  | answered (reply : EffectResult) (resultDigest : String)
deriving DecidableEq, Repr

def WireReply.decode (intent : Intent) : WireReply → EdgeReply
  | .preflightRejected => .preflightRejected
  | .failed => .failed
  | .answered reply resultDigest =>
    match mapEffectResult intent reply with
    | .ok result => .answered result resultDigest
    | .error _ => .failed

/-- every error before the request is sent is a rejected preflight -/
def WireReply.Possible (reply : WireReply) (sent : Bool) : Prop := sent = true ↔ reply ≠ .preflightRejected
deriving Decidable

structure World where
  db : Db
  /-- decisions that are judged but not appended -/
  deciding : List (DecisionRow × Callback)
  calls : List Call
  /-- intents that were claimed -/
  claimed : List String
  /-- intents whose `ExecuteEffect` was sent -/
  sent : List String

def World.init : World := ⟨Db.empty, [], [], [], []⟩

def World.call? (w : World) (callId : ℕ) : Option Call := Table.lookup Call.callId w.calls callId

def World.putCall (w : World) (call : Call) : World :=
  { w with calls := Table.modify Call.callId w.calls call.callId fun _ => call }

inductive Op where
  | tx (t : Tx)
  | decide (mapping : Option RoleScopeMapping) (now : ℤ) (proposalId : String) (approver : Actor) (authz : AuthzContext)
      (reasonCode : String) (request : Request)
  | record (index : ℕ) (now : ℤ)
  | load (callId : ℕ) (intentId : String)
  | validate (callId : ℕ) (accepted : Bool)
  | claim (callId : ℕ) (now : ℤ) (leaseId : String) (leaseTtl : ℤ)
  | project (callId : ℕ)
  | send (callId : ℕ)
  | reply (callId : ℕ) (committedAt : ℤ) (leaseLost : Bool) (reply : WireReply)
  | crash (callId : ℕ)

/-- a transaction that fails changes nothing -/
def World.commit (w : World) (result : GoResult Db) : World :=
  match result with
  | .ok db => { w with db }
  | .error _ => w

/-- a call does something only in its phase -/
def World.inPhase (w : World) (callId : ℕ) (phase : Phase) (act : Call → World) : World :=
  match w.call? callId with
  | some call => if call.phase = phase then act call else w
  | none => w

/-- end a call -/
def World.finish (w : World) (call : Call) : World := w.putCall { call with phase := .ended }

/-- the finalizer of a call -/
def Call.finalizer (sv : Services) (call : Call) (leaseLost : Bool) (reply : WireReply) : Finalizer :=
  chooseFinalizer sv call.intent leaseLost (reply.decode call.intent)

def step (sv : Services) (w : World) : Op → World
  | .tx t => w.commit (t.exec sv w.db)
  | .decide mapping now proposalId approver authz reasonCode request =>
    match request.prepare sv.profile.hash proposalId approver w.db,
      decideProposal sv.profile.hash mapping now proposalId approver authz request.approved reasonCode w.db with
    | .ok callback, .ok d => { w with deciding := w.deciding ++ [(d, callback)] }
    | _, _ => w
  | .record index now =>
    match w.deciding[index]? with
    | some (d, callback) => w.commit (recordDecision sv now d callback w.db)
    | none => w
  | .load callId intentId =>
    match w.call? callId, loadIntent sv w.db intentId with
    | none, .ok intent => { w with calls := w.calls ++ [⟨callId, intent, .loaded, none, false⟩] }
    | _, _ => w
  | .validate callId accepted => w.inPhase callId .loaded fun call =>
    if accepted = true then w.putCall { call with phase := .validated }
    else (w.finish call).commit (holdBeforeSideEffect sv call.intent w.db)
  | .claim callId now leaseId leaseTtl => w.inPhase callId .validated fun call =>
    match claimIntent now call.intent.effectIntentId .unclaimed call.intent.effectDigest leaseId leaseTtl w.db with
    | .ok (.claimed, db) =>
      { w.putCall { call with phase := .claimed, lease := some leaseId } with
        db, claimed := w.claimed ++ [call.intent.effectIntentId] }
    | _ => w.finish call
  | .project callId => w.inPhase callId .claimed fun call =>
    match projectIntentState sv call.intent.effectIntentId .claimed none "CLAIMED" w.db with
    | .ok db => { w.putCall { call with phase := .executing } with db }
    | .error _ => w.finish call
  | .send callId => w.inPhase callId .executing fun call =>
    if call.sent = true then w
    else { w.putCall { call with sent := true } with sent := w.sent ++ [call.intent.effectIntentId] }
  | .reply callId committedAt leaseLost reply => w.inPhase callId .executing fun call =>
    match call.lease with
    | none => w
    | some leaseId =>
      if reply.Possible call.sent then
        (w.finish call).commit
          (finalize sv committedAt (call.finalizer sv leaseLost reply) call.intent leaseId w.db)
      else w
  | .crash callId =>
    match w.call? callId with
    | some call => w.finish call
    | none => w

def run (sv : Services) (ops : List Op) : World := ops.foldl (step sv) World.init

theorem run_snoc (sv : Services) (ops : List Op) (op : Op) : run sv (ops ++ [op]) = step sv (run sv ops) op := by
  simp [run]

/-! ## Writes of a step -/

variable {w : World} {call : Call}

/-- what a permit asks of a step -/
def Permitted (sv : Services) (perm : Permit) (w : World) : Op → Prop
  | .tx (.createProposal _ p) => perm.proposal p
  | .tx (.createOverlay now ov rulesSize) => ∀ upsert delete,
      prepareOverlay sv.profile sv.rfc3339 sv.number now ov rulesSize = .ok (upsert, delete) →
      ∀ row ∈ w.db.intents, row.intentId = delete.effectIntentId → row.intent.effectDigest = delete.effectDigest →
        perm.recalled row
  | .tx (.fenceExpiredClaim _ intentId) => ∀ row, w.db.intent? intentId = some row → row.claim.state = some .claimed →
      perm.settle w.db row .unknown
  | .tx (.fenceOwnedClaims owned) => ∀ row ∈ w.db.intents, row.claim.state = some .claimed →
      row.claim.leaseId.any owned = true → perm.shutdown w.db row
  | .tx (.reconcileUnknown _ intentId reply resultDigest) => ∀ row result, w.db.intent? intentId = some row →
      row.claim.state = some .unknown → mapEffectResult row.intent reply = .ok result →
      perm.settle w.db row (reconcileVerdict (reconcileStatus sv row.intent result resultDigest) result resultDigest).state
  | .record index _ => ∀ d callback, w.deciding[index]? = some (d, callback) →
      perm.decision w.db d ∧ ∀ fo capture, callback = .fleet fo capture → perm.fleet fo
  | .validate callId accepted => accepted = false → ∀ call row, w.call? callId = some call → call.phase = .loaded →
      w.db.intent? call.intent.effectIntentId = some row → row.claim.state = some .unclaimed → perm.settle w.db row .hold
  | .project callId => ∀ call row, w.call? callId = some call → call.phase = .claimed →
      w.db.intent? call.intent.effectIntentId = some row → perm.settle w.db row .claimed
  | .reply callId _ leaseLost reply => ∀ call row, w.call? callId = some call → call.phase = .executing →
      reply.Possible call.sent → w.db.intent? call.intent.effectIntentId = some row →
      perm.settle w.db row (call.finalizer sv leaseLost reply).verdict.state
  | _ => True

theorem permitted_any (sv : Services) (w : World) (op : Op) : Permitted sv .any w op := by
  cases op with
  | tx t => cases t <;> simp [Permitted, Permit.any]
  | _ => simp [Permitted, Permit.any]

/-- what holds between the calls and the ledger -/
structure Live (sv : Services) (w : World) : Prop where
  coherent : Coherent sv w.db
  judged : ∀ x ∈ w.deciding, ∃ p ∈ w.db.proposals, Judged sv.profile.hash p x.1
  callIds : Table.Unique Call.callId w.calls
  loaded : ∀ call ∈ w.calls, ∃ row ∈ w.db.intents, row.intent = call.intent
  /-- a call has the lease of its claim -/
  leased : ∀ call ∈ w.calls, ∀ leaseId, call.lease = some leaseId →
    ∀ row ∈ w.db.intents, row.intent = call.intent → row.claim.leaseId = some leaseId
  phases : ∀ call ∈ w.calls, (call.phase = .claimed ∨ call.phase = .executing → call.lease ≠ none) ∧
    (call.phase = .loaded ∨ call.phase = .validated → call.lease = none) ∧ (call.sent = true → call.lease ≠ none)
  /-- an intent is claimed by one call -/
  single : ∀ a ∈ w.calls, ∀ b ∈ w.calls, a.lease ≠ none → b.lease ≠ none →
    a.intent.effectIntentId = b.intent.effectIntentId → a = b
  claimed : ∀ id ∈ w.claimed, ∃ row ∈ w.db.intents, row.intentId = id ∧ row.claim.leaseId ≠ none
  claimedOnce : w.claimed.Nodup
  sent : ∀ id ∈ w.sent, ∃ call ∈ w.calls, call.sent = true ∧ call.intent.effectIntentId = id
  sentOnce : w.sent.Nodup

/-- the row of a call -/
theorem Live.row (h : Live sv w) (hcall : call ∈ w.calls) :
    ∃ row, w.db.intent? call.intent.effectIntentId = some row ∧ row.intent = call.intent := by
  obtain ⟨row, hrow, hintent⟩ := h.loaded call hcall
  refine ⟨row, h.coherent.uniqueIds.lookup_of_mem hrow ?_, hintent⟩
  rw [IntentRow.intentId, hintent]

theorem tx_writes {t : Tx} (hlive : Live sv w) (hperm : Permitted sv perm w (.tx t)) (h : t.exec sv w.db = .ok db') :
    Writes sv perm w.db db' := by
  cases t with
  | createProposal => exact createProposal_writes h hperm
  | supersede => exact supersede_writes h
  | createIntent => exact createIntent_writes h
  | createOverlay => exact createOverlay_writes h hperm
  | markDeleted => exact markDeleted_writes h hlive.coherent.overlays
  | createRevision => exact createRevision_writes h
  | activate => exact activate_writes h
  | advanceWaveGate => exact .single (.openWave _ _ _ _ _ h)
  | renewIntentLease =>
    cases h
    exact renewIntentLease_writes _ _ _ _
  | fenceExpiredClaim => exact fenceExpiredClaim_writes h hperm
  | fenceOwnedClaims =>
    cases h
    exact fenceOwnedClaims_writes hperm
  | reconcileUnknown _ intentId =>
    obtain ⟨intent, hload, h⟩ := bind_ok.1 h
    obtain ⟨result, hresult, h⟩ := bind_ok.1 h
    obtain ⟨row, hrow, hstate, rfl⟩ := loadUnknownIntent_ok hload
    have hid : row.intentId = intentId := lookup_key hrow
    refine reconcileUnknown_writes h fun other hother => ?_
    obtain rfl : row = other := by
      change w.db.intent? row.intentId = some other at hother
      rw [hid] at hother
      exact Option.some.inj (hrow.symm.trans hother)
    exact hperm row result hrow hstate hresult
  | markAcked => exact markAcked_writes h
  | recordAckFailure =>
    cases h
    exact .single (.acks _)
  | observe =>
    cases h
    exact .single (.inventory _)

theorem recordDecision_writes {now : ℤ} {d : DecisionRow} {callback : Callback}
    (hjudged : ∃ p ∈ db.proposals, Judged sv.profile.hash p d) (hperm : perm.decision db d)
    (hfleet : ∀ fo capture, callback = .fleet fo capture → perm.fleet fo)
    (h : recordDecision sv now d callback db = .ok db') : Writes sv perm db db' := by
  obtain ⟨⟨d', inserted, db₁⟩, happend, h⟩ := bind_ok.1 h
  refine (appendDecision_writes happend hjudged hperm).trans ?_
  cases callback with
  | plain =>
    cases h
    exact .refl
  | fleet fo capture => exact createApprovedFleetOperation_writes h fun _ => hfleet fo capture rfl
  | manualGate => exact authorizeManualGate_writes h

/-- what holds of the world as it is and of the world after the act holds after a call's turn -/
theorem World.inPhase_rule {motive : World → Prop} {phase : Phase} {act : Call → World} (hstay : motive w)
    (hact : ∀ call, w.call? callId = some call → call ∈ w.calls → call.phase = phase → motive (act call)) :
    motive (w.inPhase callId phase act) := by
  unfold World.inPhase
  split
  · rename_i call hcall
    split
    · rename_i hphase
      exact hact call hcall (mem_of_lookup hcall) hphase
    · exact hstay
  · exact hstay

/-- a transaction commits or leaves the world as it is -/
theorem World.commit_rule {motive : World → Prop} {result : GoResult Db} (hstay : motive w)
    (hcommit : ∀ db, result = .ok db → motive { w with db }) : motive (w.commit result) := by
  cases result with
  | ok db => exact hcommit db rfl
  | error => exact hstay

/-- the calls after one of them went on -/
theorem World.mem_putCall {c : Call} (h : c ∈ (w.putCall call).calls) :
    c = call ∨ (c ∈ w.calls ∧ c.callId ≠ call.callId) := by
  rcases Table.mem_modify.1 h with hc | ⟨_, -, -, rfl⟩
  · exact Or.inr hc
  · exact Or.inl rfl

/-- **Every step makes only permitted writes.** -/
theorem step_writes (hlive : Live sv w) (op : Op) (hperm : Permitted sv perm w op) :
    Writes sv perm w.db (step sv w op).db := by
  cases op with
  | tx => exact World.commit_rule (motive := fun v => Writes sv perm w.db v.db) .refl fun db' h => tx_writes hlive hperm h
  | decide mapping now proposalId approver authz reasonCode request | load callId intentId | crash callId =>
    simp only [step]
    split <;> exact .refl
  | record =>
    simp only [step]
    split
    · rename_i d callback hget
      obtain ⟨hdecision, hfleet⟩ := hperm d callback hget
      refine World.commit_rule (motive := fun v => Writes sv perm w.db v.db) .refl fun db' h => ?_
      exact recordDecision_writes (hlive.judged _ (List.mem_of_getElem? hget)) hdecision hfleet h
    · exact .refl
  | validate =>
    refine World.inPhase_rule (motive := fun v => Writes sv perm w.db v.db) .refl fun call hcall _ hphase => ?_
    split
    · exact .refl
    · rename_i haccepted
      refine World.commit_rule (motive := fun v => Writes sv perm w.db v.db) .refl fun db' h => ?_
      exact holdBeforeSideEffect_writes h fun row hrow hstate =>
        hperm (by simpa using haccepted) call row hcall hphase hrow hstate
  | claim =>
    refine World.inPhase_rule (motive := fun v => Writes sv perm w.db v.db) .refl fun call _ _ _ => ?_
    split
    · rename_i db hclaim
      exact claimIntent_writes hclaim hlive.coherent.uniqueIds
    · exact .refl
  | project =>
    refine World.inPhase_rule (motive := fun v => Writes sv perm w.db v.db) .refl fun call hcall hmem hphase => ?_
    split
    · rename_i db hproject
      obtain ⟨row, hrow, hintent⟩ := hlive.row hmem
      have hid : row.intentId = call.intent.effectIntentId := lookup_key hrow
      obtain ⟨leaseId, hlease⟩ := Option.ne_none_iff_exists'.1 ((hlive.phases call hmem).1 (Or.inl hphase))
      have hrowLease := hlive.leased call hmem leaseId hlease row (mem_of_lookup hrow) hintent
      have hsettle := hperm call row hcall hphase hrow
      rw [← hid] at hrow hproject
      exact projectClaim_writes hrow (by simp [hrowLease]) hsettle hproject
    · exact .refl
  | send =>
    refine World.inPhase_rule (motive := fun v => Writes sv perm w.db v.db) .refl fun call _ _ _ => ?_
    split <;> exact .refl
  | reply =>
    refine World.inPhase_rule (motive := fun v => Writes sv perm w.db v.db) .refl fun call hcall _ hphase => ?_
    split
    · exact .refl
    · split
      · rename_i hpossible
        refine World.commit_rule (motive := fun v => Writes sv perm w.db v.db) .refl fun db' h => ?_
        exact finalize_writes h (chooseFinalizer_consistent _ _ _ _) fun row hrow =>
          hperm call row hcall hphase hpossible hrow
      · exact .refl

/-! ## The invariant of the calls -/

variable {row : IntentRow}

/-- a row keeps its body and its lease -/
theorem Write.keeps_row (h : Write sv perm db db') (hdb : Coherent sv db) (hrow : row ∈ db.intents) :
    ∃ claim, { row with claim } ∈ db'.intents ∧ ∀ leaseId, row.claim.leaseId = some leaseId → claim.leaseId = some leaseId := by
  obtain ⟨f, rows, hintents, hmoves, -⟩ := h.intents_cases hdb.uniqueIds
  refine ⟨f row, ?_, fun leaseId hlease => (hmoves row hrow).keeps_lease (hdb.sound row hrow) hlease⟩
  rw [hintents]
  exact List.mem_append_left _ (List.mem_map_of_mem hrow)

theorem Writes.keeps_row (h : Writes sv perm db db') (hdb : Coherent sv db) (hrow : row ∈ db.intents) :
    ∃ claim, { row with claim } ∈ db'.intents ∧ ∀ leaseId, row.claim.leaseId = some leaseId → claim.leaseId = some leaseId := by
  induction h with
  | refl => exact ⟨row.claim, hrow, fun _ hlease => hlease⟩
  | tail hwrites hwrite ih =>
    obtain ⟨claim, hmem, hlease⟩ := ih
    obtain ⟨claim', hmem', hlease'⟩ := hwrite.keeps_row (Writes.coherent hwrites hdb) hmem
    exact ⟨claim', hmem', fun leaseId hl => hlease' leaseId (hlease leaseId hl)⟩

theorem Writes.keeps_proposal (h : Writes sv perm db db') {p : ProposalRow} (hp : p ∈ db.proposals) :
    ∃ p' ∈ db'.proposals, p'.proposal = p.proposal ∧ p'.proposalDigest = p.proposalDigest := by
  induction h with
  | refl => exact ⟨p, hp, rfl, rfl⟩
  | tail _ hwrite ih =>
    obtain ⟨p₁, hp₁, hproposal, hdigest⟩ := ih
    obtain ⟨p₂, hp₂, hproposal', hdigest'⟩ := hwrite.keeps_proposal hp₁
    exact ⟨p₂, hp₂, hproposal'.trans hproposal, hdigest'.trans hdigest⟩

/-- a write of the tables keeps what holds between the calls and the ledger -/
theorem Live.writes (h : Live sv w) (hwrites : Writes sv perm w.db db') : Live sv { w with db := db' } := by
  have hcoherent := Writes.coherent hwrites h.coherent
  refine { h with coherent := hcoherent, judged := ?_, loaded := ?_, leased := ?_, claimed := ?_ }
  · intro x hx
    obtain ⟨p, hp, hjudged⟩ := h.judged x hx
    obtain ⟨p', hp', hproposal, hdigest⟩ := Writes.keeps_proposal hwrites hp
    exact ⟨p', hp', hjudged.of_eq hproposal hdigest⟩
  · intro call hcall
    obtain ⟨row, hrow, hintent⟩ := h.loaded call hcall
    obtain ⟨claim, hmem, -⟩ := Writes.keeps_row hwrites h.coherent hrow
    exact ⟨_, hmem, hintent⟩
  · intro call hcall leaseId hlease row hrow hintent
    obtain ⟨old, hold, hintent'⟩ := h.loaded call hcall
    obtain ⟨claim, hmem, hkeeps⟩ := Writes.keeps_row hwrites h.coherent hold
    have hsame : row = { old with claim } := by
      refine hcoherent.uniqueIds row hrow _ hmem ?_
      change row.intent.effectIntentId = old.intent.effectIntentId
      rw [hintent, hintent']
    rw [hsame]
    exact hkeeps leaseId (h.leased call hcall leaseId hlease old hold hintent')
  · intro id hid
    obtain ⟨row, hrow, hrid, hlease⟩ := h.claimed id hid
    obtain ⟨leaseId, hlease⟩ := Option.ne_none_iff_exists'.1 hlease
    obtain ⟨claim, hmem, hkeeps⟩ := Writes.keeps_row hwrites h.coherent hrow
    exact ⟨_, hmem, hrid, by simp [hkeeps leaseId hlease]⟩

theorem Live.commit {result : GoResult Db} (h : Live sv w) (hwrites : ∀ db', result = .ok db' → Writes sv .any w.db db') :
    Live sv (w.commit result) := World.commit_rule h fun db' hok => h.writes (hwrites db' hok)

/-- a call goes on -/
theorem Live.putCall (h : Live sv w) {call' : Call} (hcall : call ∈ w.calls) (hid : call'.callId = call.callId)
    (hintent : call'.intent = call.intent) (hsent : call.sent = true → call'.sent = true)
    (hleased : ∀ leaseId, call'.lease = some leaseId → ∀ row ∈ w.db.intents, row.intent = call.intent →
      row.claim.leaseId = some leaseId)
    (hphases : (call'.phase = .claimed ∨ call'.phase = .executing → call'.lease ≠ none) ∧
      (call'.phase = .loaded ∨ call'.phase = .validated → call'.lease = none) ∧ (call'.sent = true → call'.lease ≠ none))
    (hsingle : call'.lease ≠ none → ∀ b ∈ w.calls, b.lease ≠ none → b.intent.effectIntentId = call.intent.effectIntentId →
      b = call)
    : Live sv (w.putCall call') := by
  have hmem : ∀ c ∈ (w.putCall call').calls, c = call' ∨ (c ∈ w.calls ∧ c ≠ call) := by
    intro c hc
    rcases World.mem_putCall hc with hc | ⟨hc, hne⟩
    · exact Or.inl hc
    · exact Or.inr ⟨hc, fun hsame => hne (by rw [hsame, hid])⟩
  refine { h with callIds := ?_, loaded := ?_, leased := ?_, phases := ?_, single := ?_, sent := ?_ }
  · intro a ha b hb hab
    rcases hmem a ha with rfl | ⟨hold, hane⟩ <;> rcases hmem b hb with rfl | ⟨hold', hbne⟩
    · rfl
    · exact absurd (h.callIds b hold' call hcall (hab.symm.trans hid)) hbne
    · exact absurd (h.callIds a hold call hcall (hab.trans hid)) hane
    · exact h.callIds a hold b hold' hab
  · intro c hc
    rcases hmem c hc with rfl | ⟨hc, -⟩
    · rw [hintent]
      exact h.loaded call hcall
    · exact h.loaded c hc
  · intro c hc
    rcases hmem c hc with rfl | ⟨hc, -⟩
    · rw [hintent]
      exact hleased
    · exact h.leased c hc
  · intro c hc
    rcases hmem c hc with rfl | ⟨hc, -⟩
    · exact hphases
    · exact h.phases c hc
  · intro a ha b hb hla hlb hab
    rcases hmem a ha with rfl | ⟨hold, hane⟩ <;> rcases hmem b hb with rfl | ⟨hold', hbne⟩
    · rfl
    · rw [hintent] at hab
      exact absurd (hsingle hla b hold' hlb hab.symm) hbne
    · rw [hintent] at hab
      exact absurd (hsingle hlb a hold hla hab) hane
    · exact h.single a hold b hold' hla hlb hab
  · intro id hmemId
    obtain ⟨c, hc, hcsent, hcid⟩ := h.sent id hmemId
    by_cases hsame : c = call
    · subst hsame
      refine ⟨call', Table.mem_modify.2 (Or.inr ⟨c, hc, hid.symm, rfl⟩), hsent hcsent, ?_⟩
      rw [hintent]
      exact hcid
    · refine ⟨c, Table.mem_modify.2 (Or.inl ⟨hc, fun hids => hsame ?_⟩), hcsent, hcid⟩
      exact h.callIds c hc call hcall (hids.trans hid)

/-- a call that keeps its lease -/
theorem Live.setPhase (h : Live sv w) (hcall : call ∈ w.calls) (phase : Phase)
    (hclaimed : phase = .claimed ∨ phase = .executing → call.lease ≠ none)
    (hloaded : phase = .loaded ∨ phase = .validated → call.lease = none) : Live sv (w.putCall { call with phase }) :=
  h.putCall hcall rfl rfl (fun hs => hs) (h.leased call hcall) ⟨hclaimed, hloaded, (h.phases call hcall).2.2⟩
    fun hlease b hb hb' hid => h.single b hb call hcall hb' hlease hid

theorem Live.finish (h : Live sv w) (hcall : call ∈ w.calls) : Live sv (w.finish call) :=
  h.setPhase hcall .ended (by simp) (by simp)

theorem loadIntent_ok (h : loadIntent sv db intentId = .ok intent) :
    ∃ row, db.intent? intentId = some row ∧ row.intent = intent := by
  unfold loadIntent at h
  split at h
  · cases h
  · rename_i row hrow
    replace h := passed h
    replace h := passed h
    exact ⟨row, hrow, Except.ok.inj h⟩

/-- a call starts without a lease -/
theorem Live.load (h : Live sv w) (hnew : w.call? callId = none)
    (hload : loadIntent sv w.db intentId = .ok intent) :
    Live sv { w with calls := w.calls ++ [⟨callId, intent, .loaded, none, false⟩] } := by
  obtain ⟨row, hrow, hintent⟩ := loadIntent_ok hload
  have hmem : ∀ {c : Call}, c ∈ w.calls ++ [⟨callId, intent, .loaded, none, false⟩] →
      c ∈ w.calls ∨ c = ⟨callId, intent, .loaded, none, false⟩ := by
    intro c hc
    simpa using hc
  refine { h with callIds := ?_, loaded := ?_, leased := ?_, phases := ?_, single := ?_, sent := ?_ }
  · exact h.callIds.append fun c hc => Table.lookup_eq_none.1 hnew c hc
  · intro c hc
    rcases hmem hc with hc | rfl
    · exact h.loaded c hc
    · exact ⟨row, mem_of_lookup hrow, hintent⟩
  · intro c hc leaseId hlease
    rcases hmem hc with hc | rfl
    · exact h.leased c hc leaseId hlease
    · cases hlease
  · intro c hc
    rcases hmem hc with hc | rfl
    · exact h.phases c hc
    · simp
  · intro a ha b hb hla hlb hab
    rcases hmem ha with ha | rfl
    · rcases hmem hb with hb | rfl
      · exact h.single a ha b hb hla hlb hab
      · exact absurd rfl hlb
    · exact absurd rfl hla
  · intro id hid
    obtain ⟨c, hc, hcsent, hcid⟩ := h.sent id hid
    exact ⟨c, List.mem_append_left _ hc, hcsent, hcid⟩

/-- nobody has a lease on an intent that is not claimed -/
theorem Live.unleased (h : Live sv w) (hcall : call ∈ w.calls)
    (hrow : w.db.intent? call.intent.effectIntentId = some row) (hstate : row.claim.state = some .unclaimed) :
    call.lease = none := by
  obtain ⟨row', hrow', hintent⟩ := h.row hcall
  obtain rfl : row' = row := Option.some.inj (hrow'.symm.trans hrow)
  have hmem := mem_of_lookup hrow
  have hnone := (h.coherent.sound _ hmem).lease_of_unclaimed hstate
  by_contra hlease
  obtain ⟨leaseId, hlease⟩ := Option.ne_none_iff_exists'.1 hlease
  rw [h.leased call hcall leaseId hlease _ hmem hintent] at hnone
  cases hnone

/-- a claim gives the call the lease of a row that had none -/
theorem Live.claim (h : Live sv w) (hcall : call ∈ w.calls) {now leaseTtl : ℤ} {leaseId : String}
    (hclaim : claimIntent now call.intent.effectIntentId .unclaimed call.intent.effectDigest leaseId leaseTtl w.db =
      .ok (.claimed, db')) :
    Live sv { w.putCall { call with phase := .claimed, lease := some leaseId } with
      db := db', claimed := w.claimed ++ [call.intent.effectIntentId] } := by
  obtain ⟨row, hrow, hchecked, hdb⟩ := claimIntent_claimed hclaim
  have hwrites : Writes sv .any w.db db' := claimIntent_writes hclaim h.coherent.uniqueIds
  have hrows : ∀ r ∈ db'.intents, r.intentId = call.intent.effectIntentId → r.claim.leaseId = some leaseId := by
    intro r hr hid
    rw [hdb] at hr
    obtain ⟨old, -, rfl⟩ := List.mem_map.1 hr
    change old.intentId = call.intent.effectIntentId at hid
    simp [hid, Claim.take]
  have hput : Live sv (World.putCall { w with db := db' } { call with phase := .claimed, lease := some leaseId }) := by
    refine (h.writes hwrites).putCall hcall rfl rfl (fun hs => hs) ?_ (by simp) ?_
    · rintro id ⟨⟩ r hr hintent
      exact hrows r hr (congrArg Intent.effectIntentId hintent)
    · intro _ b hb hlease hid
      rw [← hid] at hrow
      exact absurd (h.unleased hb hrow hchecked.state) hlease
  refine { hput with claimed := ?_, claimedOnce := ?_ }
  · intro id hid
    rcases Run.mem_snoc.1 hid with hid | rfl
    · exact hput.claimed id hid
    · obtain ⟨claim, hmem, -⟩ := Writes.keeps_row hwrites h.coherent (mem_of_lookup hrow)
      have hrid : row.intentId = call.intent.effectIntentId := lookup_key hrow
      have hlease : claim.leaseId = some leaseId := hrows _ hmem hrid
      exact ⟨_, hmem, hrid, by simp [hlease]⟩
  · refine List.nodup_append.2 ⟨h.claimedOnce, by simp, ?_⟩
    rintro id hid _ hsame rfl
    obtain rfl := List.mem_singleton.1 hsame
    obtain ⟨other, hother, hotherId, hlease⟩ := h.claimed _ hid
    obtain rfl : other = row :=
      h.coherent.uniqueIds other hother row (mem_of_lookup hrow) (hotherId.trans (lookup_key hrow).symm)
    exact hlease ((h.coherent.sound _ hother).lease_of_unclaimed hchecked.state)

/-- what is sent was not sent before: the only call with a lease on the intent is this one -/
theorem Live.send (h : Live sv w) (hcall : call ∈ w.calls) (hphase : call.phase = .executing)
    (hunsent : call.sent ≠ true) :
    Live sv { w.putCall { call with sent := true } with sent := w.sent ++ [call.intent.effectIntentId] } := by
  have hlease : call.lease ≠ none := (h.phases call hcall).1 (Or.inr hphase)
  have hput : Live sv (w.putCall { call with sent := true }) := by
    refine h.putCall hcall rfl rfl (fun _ => rfl) (h.leased call hcall) ?_ ?_
    · exact ⟨fun _ => hlease, fun hp => by simp [hphase] at hp, fun _ => hlease⟩
    · exact fun _ b hb hb' hid => h.single b hb call hcall hb' hlease hid
  refine { hput with sent := ?_, sentOnce := ?_ }
  · exact Run.forall_mem_snoc.2 ⟨hput.sent, _, Table.mem_modify.2 (Or.inr ⟨call, hcall, rfl, rfl⟩), rfl, rfl⟩
  · refine List.nodup_append.2 ⟨h.sentOnce, by simp, ?_⟩
    rintro id hid _ hsame rfl
    obtain rfl := List.mem_singleton.1 hsame
    obtain ⟨c, hc, hcsent, hcid⟩ := h.sent _ hid
    have hcall' := h.single c hc call hcall ((h.phases c hc).2.2 hcsent) hlease hcid
    exact hunsent (hcall' ▸ hcsent)

/-- **The invariant of the calls is kept by every step.** -/
theorem step_live (h : Live sv w) (op : Op) : Live sv (step sv w op) := by
  have hwrites := step_writes h op (permitted_any sv w op)
  cases op with
  | tx t => exact h.commit fun db' hexec => tx_writes h (permitted_any sv w (.tx t)) hexec
  | decide =>
    simp only [step]
    split
    · rename_i callback d _ hdecide
      obtain ⟨row, hrow, hjudged⟩ := decideProposal_ok hdecide
      exact { h with judged := Run.forall_mem_snoc.2 ⟨h.judged, row, mem_of_lookup hrow, hjudged⟩ }
    · exact h
  | record =>
    simp only [step]
    split
    · rename_i d callback hget
      refine h.commit fun db' hrecord => ?_
      exact recordDecision_writes (h.judged _ (List.mem_of_getElem? hget)) trivial (fun _ _ _ => trivial) hrecord
    · exact h
  | load =>
    simp only [step]
    split
    · rename_i intent hnew hload
      exact h.load hnew hload
    · exact h
  | validate =>
    refine World.inPhase_rule (motive := Live sv) h fun call _ hmem hphase => ?_
    split
    · exact h.setPhase hmem .validated (by simp) fun _ => (h.phases call hmem).2.1 (Or.inl hphase)
    · exact (h.finish hmem).commit fun db' hhold => holdBeforeSideEffect_writes hhold fun _ _ _ => trivial
  | claim =>
    refine World.inPhase_rule (motive := Live sv) h fun call _ hmem _ => ?_
    split
    · rename_i db' hclaim
      exact h.claim hmem hclaim
    · exact h.finish hmem
  | project =>
    refine World.inPhase_rule (motive := Live sv) h fun call hcall hmem hphase => ?_
    split
    · rename_i db' hproject
      have hnext := h.setPhase hmem .executing (fun _ => (h.phases call hmem).1 (Or.inl hphase)) (by simp)
      have hprojected : Writes sv .any w.db db' := by
        simpa [step, World.inPhase, hcall, hphase, hproject] using hwrites
      exact hnext.writes hprojected
    · exact h.finish hmem
  | send =>
    refine World.inPhase_rule (motive := Live sv) h fun call _ hmem hphase => ?_
    split
    · exact h
    · rename_i hunsent
      exact h.send hmem hphase hunsent
  | reply =>
    refine World.inPhase_rule (motive := Live sv) h fun call _ hmem _ => ?_
    split
    · exact h
    · split
      · refine (h.finish hmem).commit fun db' hfinal => ?_
        exact finalize_writes hfinal (chooseFinalizer_consistent _ _ _ _) fun _ _ => trivial
      · exact h
  | crash =>
    simp only [step]
    split
    · rename_i call hcall
      exact h.finish (mem_of_lookup hcall)
    · exact h

/-- what a call after a step comes from -/
inductive NextCall (sv : Services) (w : World) (op : Op) : Call → Prop
  | same (call : Call) (present : call ∈ w.calls) : NextCall sv w op call
  | loaded (callId : ℕ) (intent : Intent) : NextCall sv w op ⟨callId, intent, .loaded, none, false⟩
  | validated (call : Call) (present : call ∈ w.calls) (phase : call.phase = .loaded) :
      NextCall sv w op { call with phase := .validated }
  | claimed (call : Call) (present : call ∈ w.calls) (phase : call.phase = .validated) (now : ℤ) (leaseId : String)
      (leaseTtl : ℤ) (claim : claimIntent now call.intent.effectIntentId .unclaimed call.intent.effectDigest leaseId leaseTtl
        w.db = .ok (.claimed, (step sv w op).db)) :
      NextCall sv w op { call with phase := .claimed, lease := some leaseId }
  | executing (call : Call) (present : call ∈ w.calls) (phase : call.phase = .claimed)
      (project : projectIntentState sv call.intent.effectIntentId .claimed none "CLAIMED" w.db = .ok (step sv w op).db) :
      NextCall sv w op { call with phase := .executing }
  | sent (call : Call) (present : call ∈ w.calls) (phase : call.phase = .executing) :
    NextCall sv w op { call with sent := true }
  | ended (call : Call) (present : call ∈ w.calls) : NextCall sv w op { call with phase := .ended }

/-- **What a step does to the calls.** -/
theorem step_calls (sv : Services) (w : World) (op : Op) : ∀ c ∈ (step sv w op).calls, NextCall sv w op c := by
  have hsame : ∀ c ∈ w.calls, NextCall sv w op c := fun c hc => .same c hc
  have hput : ∀ {call : Call}, NextCall sv w op call → ∀ c ∈ (w.putCall call).calls, NextCall sv w op c := by
    intro call hnext c hc
    rcases World.mem_putCall hc with rfl | ⟨hc, -⟩
    · exact hnext
    · exact hsame c hc
  have hfinish : ∀ {call : Call}, call ∈ w.calls → ∀ c ∈ (w.finish call).calls, NextCall sv w op c :=
    fun {call} hcall => hput (.ended call hcall)
  have hcommit : ∀ {v : World} {result : GoResult Db}, (∀ c ∈ v.calls, NextCall sv w op c) →
      ∀ c ∈ (v.commit result).calls, NextCall sv w op c := by
    intro v result h
    exact World.commit_rule (motive := fun u => ∀ c ∈ u.calls, NextCall sv w op c) h fun _ _ => h
  have hturn : ∀ {callId : ℕ} {phase : Phase} {act : Call → World}, (∀ call, w.call? callId = some call → call ∈ w.calls →
      call.phase = phase → ∀ c ∈ (act call).calls, NextCall sv w op c) →
      ∀ c ∈ (w.inPhase callId phase act).calls, NextCall sv w op c :=
    World.inPhase_rule (motive := fun v => ∀ c ∈ v.calls, NextCall sv w op c) hsame
  cases op with
  | tx => exact hcommit hsame
  | decide =>
    simp only [step]
    split <;> exact hsame
  | record =>
    simp only [step]
    split
    · exact hcommit hsame
    · exact hsame
  | load =>
    simp only [step]
    split
    · exact Run.forall_mem_snoc.2 ⟨hsame, .loaded _ _⟩
    · exact hsame
  | validate =>
    refine hturn fun call _ hmem hphase => ?_
    split
    · exact hput (.validated call hmem hphase)
    · exact hcommit (hfinish hmem)
  | claim callId now leaseId leaseTtl =>
    refine hturn fun call hcall hmem hphase => ?_
    split
    · rename_i db' hclaim
      refine hput (.claimed call hmem hphase now leaseId leaseTtl ?_)
      simp [step, World.inPhase, hcall, hphase, hclaim]
    · exact hfinish hmem
  | project =>
    refine hturn fun call hcall hmem hphase => ?_
    split
    · rename_i db' hproject
      refine hput (.executing call hmem hphase ?_)
      simp [step, World.inPhase, hcall, hphase, hproject]
    · exact hfinish hmem
  | send =>
    refine hturn fun call _ hmem hphase => ?_
    split
    · exact hsame
    · exact hput (.sent call hmem hphase)
  | reply =>
    refine hturn fun call _ hmem _ => ?_
    split
    · exact hsame
    · split
      · exact hcommit (hfinish hmem)
      · exact hsame
  | crash =>
    simp only [step]
    split
    · rename_i call hcall
      exact hfinish (mem_of_lookup hcall)
    · exact hsame

theorem live_init (sv : Services) : Live sv World.init where
  coherent := coherent_empty sv
  judged := by simp [World.init]
  callIds := unique_nil
  loaded := by simp [World.init]
  leased := by simp [World.init]
  phases := by simp [World.init]
  single := by simp [World.init]
  claimed := by simp [World.init]
  claimedOnce := List.nodup_nil
  sent := by simp [World.init]
  sentOnce := List.nodup_nil

/-- **The calls and the ledger of every run.** -/
theorem run_live (sv : Services) (ops : List Op) : Live sv (run sv ops) :=
  foldl_invariant (P := Live sv) (live_init sv) (fun _ op ih => step_live ih op) ops

/-! ## Permitted runs -/

/-- every step of the run meets the permit -/
def RunPermitted (sv : Services) (perm : Permit) (ops : List Op) : Prop :=
  Along (fun pre op => Permitted sv perm (run sv pre) op) ops

/-- what every permitted write keeps holds at the end of every permitted sequence of writes -/
theorem Writes.invariant (hkeeps : ∀ db db', Coherent sv db → inv db → Write sv perm db db' → inv db')
    (h : Writes sv perm db db') (hdb : Coherent sv db) (hinv : inv db) : inv db' := by
  induction h with
  | refl => exact hinv
  | tail hwrites hwrite ih => exact hkeeps _ _ (Writes.coherent hwrites hdb) ih hwrite

/-- **The invariant rule of the tables.** -/
theorem run_invariant (hempty : inv Db.empty)
    (hkeeps : ∀ db db', Coherent sv db → inv db → Write sv perm db db' → inv db') {ops : List Op}
    (hrun : RunPermitted sv perm ops) : inv (run sv ops).db := by
  refine Along.invariant (P := fun w : World => inv w.db) hempty hrun fun pre op _ hop ih => ?_
  have hlive := run_live sv pre
  exact Writes.invariant hkeeps (step_writes hlive op hop) hlive.coherent ih

end MasiEdge.Control
