/-
What happens to an intent at most once.

`ExecuteEffect` is sent at most once for an intent, whatever is interleaved: only the call whose claim succeeded gets that
far, and a claim succeeds once. A terminal state is weaker. A finalizer compares the lease of the claim and not its state,
and reconciliation leaves the lease in place; a call that was fenced, while it was still waiting for its answer, can
overwrite what reconciliation has found in the meantime.

* `sent_once_terminal_stays`: at most one `ExecuteEffect` in every run; a finalized or held intent keeps its state in every
  run where no intent is reconciled while a call holds its lease;
* `sent_authorized`: nothing is sent without an approval;
* `late_result_overwrites`: a late result under an old lease makes a held intent unknown again.
-/
import MasiEdge.Control.Approval

namespace MasiEdge.Control

open Firewall Run Table

variable {sv : Services} {db db' : Db} {w : World} {row : IntentRow} {claim : Claim}

/-! ## Calls with a lease -/

/-- a call that has a lease and has not ended -/
def Call.Holds (call : Call) : Prop := call.phase ≠ .ended ∧ call.lease ≠ none
deriving Decidable

/-- no call that is under way has the lease of the intent -/
def Unheld (w : World) (intentId : String) : Prop := ∀ call ∈ w.calls, call.Holds → call.intent.effectIntentId ≠ intentId
deriving Decidable

/-- an intent is reconciled only when no call under way has its lease -/
def Undisturbed (w : World) : Op → Prop
  | .tx (.reconcileUnknown _ intentId _ _) => Unheld w intentId
  | _ => True

instance (w : World) (op : Op) : Decidable (Undisturbed w op) := by
  unfold Undisturbed
  split <;> infer_instance

/-- an intent whose lease is held has not ended -/
def Settled (w : World) : Prop := ∀ call ∈ w.calls, call.Holds → ∀ row ∈ w.db.intents, row.intent = call.intent →
  ¬ row.claim.Terminal

/-- only an intent that has not ended is settled, and one that is `held` does not end -/
def Permit.settling (held : Intent → Prop) : Permit :=
  { Permit.any with settle := fun _ row state =>
      ¬ row.claim.Terminal ∧ (held row.intent → state ≠ .hold ∧ state ≠ .finalized) }

theorem Claim.Terminal.ne (h : claim.Terminal) {state : ClaimState} (hstate : claim.state = some state) :
    state = .finalized ∨ state = .hold := by
  rcases h with h | h
  · exact Or.inl (Option.some.inj (hstate.symm.trans h))
  · exact Or.inr (Option.some.inj (hstate.symm.trans h))

theorem Call.holds_of_phase (h : Live sv w) {call : Call} (hcall : call ∈ w.calls)
    (hphase : call.phase = .claimed ∨ call.phase = .executing) : call.Holds := by
  refine ⟨?_, (h.phases call hcall).1 hphase⟩
  rcases hphase with hp | hp <;> simp [hp]

/-! ## Writes -/

/-- a held intent that has not ended goes on -/
theorem Move.keeps_running {held : Intent → Prop} (h : Move (.settling held) db row claim)
    (hrow : ¬ row.claim.Terminal) (hheld : held row.intent) : ¬ claim.Terminal := by
  cases h with
  | quiet _ h =>
    cases h with
    | same => exact hrow
    | openGate => exact hrow
    | renew => exact hrow
    | take => simp [Claim.Terminal, Claim.take]
    | shutdown => simp [Claim.Terminal, Claim.fence]
  | block => simp [Claim.Terminal]
  | settle _ _ _ _ h permitted =>
    obtain ⟨hhold, hfinal⟩ := permitted.2 hheld
    cases h with
    | holdBack => exact absurd rfl hhold
    | fence => simp [Claim.Terminal, Claim.fence]
    | verdict =>
      rintro (hs | hs)
      · exact hfinal (Option.some.inj hs)
      · exact hhold (Option.some.inj hs)
    | project => exact hrow

/-- what a run of writes keeps of the intents: held ones go on, and the others keep their end -/
theorem Writes.settling {held : Intent → Prop} (h : Writes sv (.settling held) db db') (hdb : Coherent sv db)
    (hrunning : ∀ row ∈ db.intents, held row.intent → ¬ row.claim.Terminal) :
    (∀ row ∈ db'.intents, held row.intent → ¬ row.claim.Terminal) ∧
      ∀ row ∈ db.intents, row.claim.Terminal →
        ∃ row' ∈ db'.intents, row'.intent = row.intent ∧ row'.claim.state = row.claim.state := by
  induction h with
  | refl => exact ⟨hrunning, fun row hrow _ => ⟨row, hrow, rfl, rfl⟩⟩
  | @tail _ _ hwrites hwrite ih =>
    obtain ⟨hgo, hstay⟩ := ih
    have hdb₁ := Writes.coherent hwrites hdb
    obtain ⟨f, rows, hintents, hmoves, hadded⟩ := hwrite.intents_cases hdb₁.uniqueIds
    rw [hintents]
    constructor
    · intro row hrow hheld
      rcases List.mem_append.1 hrow with hrow | hrow
      · obtain ⟨old, hold, rfl⟩ := List.mem_map.1 hrow
        exact (hmoves old hold).keeps_running (hgo old hold hheld) hheld
      · obtain ⟨-, hstate⟩ := hadded.fresh row hrow
        intro hterminal
        split at hstate
        · rcases hterminal with hs | hs <;> simp [hstate] at hs
        · rcases hterminal.ne hstate with hs | hs <;> cases hs
    · intro row hrow hterminal
      obtain ⟨old, hold, hintent, hstate⟩ := hstay row hrow hterminal
      have hended : old.claim.Terminal := by
        unfold Claim.Terminal
        rw [hstate]
        exact hterminal
      refine ⟨_, List.mem_append_left _ (List.mem_map_of_mem hold), hintent, ?_⟩
      exact ((hmoves old hold).of_terminal hended fun _ hperm => hperm.1).trans hstate

/-! ## Steps -/

/-- the intents whose lease is held -/
def World.held (w : World) (intent : Intent) : Prop := ∃ call ∈ w.calls, call.Holds ∧ call.intent = intent

theorem World.holds_finish {call c : Call} (hc : c ∈ (w.finish call).calls) (hholds : c.Holds) : c ∈ w.calls ∧ c ≠ call := by
  rcases World.mem_putCall hc with rfl | ⟨hc, hne⟩
  · exact absurd rfl hholds.1
  · exact ⟨hc, fun hsame => hne (by rw [hsame])⟩

/-- **A step settles no intent that has ended, and ends no intent that is held after it.** -/
theorem permitted_settling (hlive : Live sv w) (hsettled : Settled w) {op : Op} (hop : Undisturbed w op) :
    Permitted sv (.settling (step sv w op).held) w op := by
  have hany := permitted_any sv w op
  cases op with
  | tx t =>
    have hcalls : (step sv w (.tx t)).calls = w.calls :=
      World.commit_rule (motive := fun v => v.calls = w.calls) rfl fun _ _ => rfl
    cases t with
    | fenceExpiredClaim =>
      intro row _ hstate
      refine ⟨fun hterminal => ?_, fun _ => ⟨by simp, by simp⟩⟩
      rcases hterminal.ne hstate with hs | hs <;> cases hs
    | reconcileUnknown _ intentId =>
      intro row result hrow hstate _
      refine ⟨fun hterminal => ?_, fun hheld => ?_⟩
      · rcases hterminal.ne hstate with hs | hs <;> cases hs
      · obtain ⟨call, hcall, hholds, hintent⟩ := hheld
        rw [hcalls] at hcall
        refine absurd ?_ (hop call hcall hholds)
        have hid : row.intentId = intentId := lookup_key hrow
        rw [hintent]
        exact hid
    | _ => exact hany
  | validate callId accepted =>
    intro haccepted call row hcall hphase hrow hstate
    refine ⟨fun hterminal => ?_, fun hheld => ?_⟩
    · rcases hterminal.ne hstate with hs | hs <;> cases hs
    · -- nobody holds an intent that is not claimed
      obtain ⟨c, hc, hholds, hintent⟩ := hheld
      have hcalls : (step sv w (.validate callId accepted)).calls = (w.finish call).calls := by
        simp only [step, World.inPhase, hcall, hphase, haccepted]
        exact World.commit_rule (motive := fun v => v.calls = (w.finish call).calls) rfl fun _ _ => rfl
      rw [hcalls] at hc
      have hid : row.intentId = call.intent.effectIntentId := lookup_key hrow
      have hcid : c.intent.effectIntentId = call.intent.effectIntentId := by
        rw [hintent]
        exact hid
      rw [← hcid] at hrow
      exact absurd (hlive.unleased (World.holds_finish hc hholds).1 hrow hstate) hholds.2
  | project =>
    intro call row hcall hphase hrow
    have hmem := mem_of_lookup hcall
    obtain ⟨row', hrow', hintent⟩ := hlive.row hmem
    obtain rfl : row' = row := Option.some.inj (hrow'.symm.trans hrow)
    refine ⟨?_, fun _ => ⟨by simp, by simp⟩⟩
    exact hsettled call hmem (Call.holds_of_phase hlive hmem (Or.inl hphase)) _ (mem_of_lookup hrow) hintent
  | reply callId committedAt leaseLost reply =>
    intro call row hcall hphase hpossible hrow
    have hmem := mem_of_lookup hcall
    obtain ⟨row', hrow', hintent⟩ := hlive.row hmem
    obtain rfl : row' = row := Option.some.inj (hrow'.symm.trans hrow)
    have hholds := Call.holds_of_phase hlive hmem (Or.inr hphase)
    refine ⟨hsettled call hmem hholds _ (mem_of_lookup hrow) hintent, fun hheld => ?_⟩
    -- the call that held the intent has ended
    obtain ⟨c, hc, hcholds, hcintent⟩ := hheld
    obtain ⟨leaseId, hlease⟩ := Option.ne_none_iff_exists'.1 hholds.2
    have hcalls : (step sv w (.reply callId committedAt leaseLost reply)).calls = (w.finish call).calls := by
      simp only [step, World.inPhase, hcall, hphase, hlease, hpossible]
      exact World.commit_rule (motive := fun v => v.calls = (w.finish call).calls) rfl fun _ _ => rfl
    rw [hcalls] at hc
    obtain ⟨hold, hne⟩ := World.holds_finish hc hcholds
    refine absurd (hlive.single c hold call hmem hcholds.2 hholds.2 ?_) hne
    rw [hcintent, hintent]
  | record => exact fun _ _ _ => ⟨trivial, fun _ _ _ => trivial⟩
  | _ => exact hany

/-- an intent that is held after a step had not ended before it -/
theorem held_running (hlive : Live sv w) (hsettled : Settled w) (op : Op) :
    ∀ row ∈ w.db.intents, (step sv w op).held row.intent → ¬ row.claim.Terminal := by
  rintro row hrow ⟨c, hc, hholds, hintent⟩
  have hstay : ∀ call ∈ w.calls, call.Holds → call.intent = c.intent → ¬ row.claim.Terminal :=
    fun call hcall hheld hsame => hsettled call hcall hheld row hrow (hintent.symm.trans hsame.symm)
  cases step_calls sv w op c hc with
  | same _ present => exact hstay c present hholds rfl
  | loaded => exact absurd rfl hholds.2
  | validated call present phase | executing call present phase project =>
    exact hstay call present ⟨by simp [phase], hholds.2⟩ rfl
  | claimed _ _ _ _ _ _ claim =>
    -- the claim found the intent unclaimed
    obtain ⟨found, hfound, hchecked, -⟩ := claimIntent_claimed claim
    obtain rfl : found = row := by
      refine hlive.coherent.uniqueIds found (mem_of_lookup hfound) row hrow ?_
      rw [lookup_key hfound, IntentRow.intentId, ← hintent]
    intro hterminal
    rcases hterminal.ne hchecked.state with hs | hs <;> cases hs
  | sent call present => exact hstay call present hholds rfl
  | ended => exact absurd rfl hholds.1

/-- one undisturbed step: held intents go on, and the others keep their end -/
theorem step_settled (hlive : Live sv w) (hsettled : Settled w) {op : Op} (hop : Undisturbed w op) :
    Settled (step sv w op) ∧ ∀ row ∈ w.db.intents, row.claim.Terminal →
      ∃ row' ∈ (step sv w op).db.intents, row'.intent = row.intent ∧ row'.claim.state = row.claim.state := by
  have hwrites := step_writes hlive op (permitted_settling hlive hsettled hop)
  obtain ⟨hgo, hstay⟩ := Writes.settling hwrites hlive.coherent (held_running hlive hsettled op)
  exact ⟨fun call hcall hholds row hrow hintent => hgo row hrow ⟨call, hcall, hholds, hintent.symm⟩, hstay⟩

/-! ## Runs -/

theorem run_settled {ops : List Op} (h : Along (fun pre op => Undisturbed (run sv pre) op) ops) : Settled (run sv ops) :=
  h.invariant (P := Settled) (fun call hcall => by cases hcall) fun pre _ _ hop ih => (step_settled (run_live sv pre) ih hop).1

/-- an intent that has ended keeps its state until the end of the run -/
theorem terminal_stays {pre post : List Op} (h : Along (fun before op => Undisturbed (run sv before) op) (pre ++ post))
    (hrow : row ∈ (run sv pre).db.intents) (hterminal : row.claim.Terminal) :
    ∃ row' ∈ (run sv (pre ++ post)).db.intents, row'.intent = row.intent ∧ row'.claim.state = row.claim.state := by
  induction post using List.reverseRecOn with
  | nil =>
    rw [List.append_nil]
    exact ⟨row, hrow, rfl, rfl⟩
  | append_singleton _ op ih =>
    rw [← List.append_assoc] at h ⊢
    obtain ⟨hbefore, hop⟩ := (along_snoc _ op).1 h
    obtain ⟨mid, hmid, hintent, hstate⟩ := ih hbefore
    have hended : mid.claim.Terminal := by
      unfold Claim.Terminal
      rw [hstate]
      exact hterminal
    obtain ⟨row', hrow', hintent', hstate'⟩ := (step_settled (run_live sv _) (run_settled hbefore) hop).2 mid hmid hended
    rw [run_snoc]
    exact ⟨row', hrow', hintent'.trans hintent, hstate'.trans hstate⟩

/-- **At most one `ExecuteEffect`, and an end that stays.** The first part holds in every run. The second holds in every run
that reconciles an intent only while no call under way has its lease. -/
theorem sent_once_terminal_stays (sv : Services) (pre post : List Op) :
    (run sv (pre ++ post)).sent.Nodup ∧
      (Along (fun before op => Undisturbed (run sv before) op) (pre ++ post) →
        ∀ id row, (run sv pre).db.intent? id = some row → row.claim.Terminal →
          ∃ row', (run sv (pre ++ post)).db.intent? id = some row' ∧ row'.claim.state = row.claim.state) := by
  refine ⟨(run_live sv _).sentOnce, fun hrun id row hrow hterminal => ?_⟩
  obtain ⟨row', hrow', hintent, hstate⟩ := terminal_stays hrun (mem_of_lookup hrow) hterminal
  refine ⟨row', (run_live sv _).coherent.uniqueIds.lookup_of_mem hrow' ?_, hstate⟩
  have hid : row.intentId = id := lookup_key hrow
  rw [← hid, IntentRow.intentId, hintent]
  rfl

/-- every effect ever sent has a lease, and an approval judged against its proposal -/
def SentAuthorized (sv : Services) (w : World) : Prop :=
  ∀ id ∈ w.sent, ∃ row ∈ w.db.intent? id, row.claim.leaseId ≠ none ∧
    ∃ p ∈ w.db.proposals, ∃ d ∈ w.db.decisions, Authorizes p d row ∧ Judged sv.profile.hash p d

/-- **No effect without an approval.** In every run. -/
theorem sent_authorized (sv : Services) (ops : List Op) : SentAuthorized sv (run sv ops) := by
  intro id hid
  have hlive := run_live sv ops
  obtain ⟨call, hcall, hsent, rfl⟩ := hlive.sent id hid
  obtain ⟨row, hfound, hintent⟩ := hlive.row hcall
  have hrow := mem_of_lookup hfound
  obtain ⟨leaseId, hlease⟩ := Option.ne_none_iff_exists'.1 ((hlive.phases call hcall).2.2 hsent)
  have hleased := hlive.leased call hcall leaseId hlease row hrow hintent
  obtain ⟨p, d, -, hp, hd, hauth, hjudged⟩ := hlive.coherent.authorization hrow
  exact ⟨row, hfound, by simp [hleased], p, hp, d, hd, hauth, hjudged⟩

/-- an answer of the Edge process for the lab's intent -/
def labReply (status : Effect.EffectStatus) : EffectResult :=
  { targetId := "leaf-1", effectIntentId := "intent-1", operationId := "operation-1", fence := some (edgeFence leafFence)
    status, planDigest := "", reasonCode := "", traceId := "trace-1" }

def labDigest : String := sha256 rollingHash []

/-- the claimed change of the lab is sent -/
def sentChange : List Op := checkedChange ++ [.project 0, .send 0]

/-- its lease runs out, and reconciliation finds that nothing was done -/
def reconciledHold : List Op :=
  sentChange ++ [.tx (.fenceExpiredClaim 30000 "intent-1"),
    .tx (.reconcileUnknown 30000 "intent-1" (labReply .hold) labDigest)]

instance (claim : Claim) : Decidable claim.Terminal := by
  unfold Claim.Terminal
  infer_instance

/-- **A late result overwrites.** The call that was fenced fails at last, and the intent that was held is unknown. -/
theorem late_result_overwrites :
    ∃ row ∈ (run labServices reconciledHold).db.intent? "intent-1", row.claim.Terminal ∧
      ∀ row' ∈ (run labServices (reconciledHold ++ [.reply 0 40000 false .failed])).db.intent? "intent-1",
        row'.claim.state ≠ row.claim.state := by
  decide +kernel

/-- the call itself comes back with the hold -/
def answeredHold : List Op := sentChange ++ [.reply 0 0 false (.answered (labReply .hold) labDigest)]

/-- a second call, a fence and a reconciliation change nothing any more -/
theorem answered_hold_stays :
    ((run labServices answeredHold).db.intent? "intent-1").map (fun row => row.claim.state) = some (some .hold) ∧
      ∃ row', (run labServices (answeredHold ++ [.load 1 "intent-1", .tx (.fenceExpiredClaim 30000 "intent-1"),
        .tx (.reconcileUnknown 30000 "intent-1" (labReply .applied) labDigest)])).db.intent? "intent-1" = some row' ∧
        row'.claim.state = some .hold := by
  have hstate : ((run labServices answeredHold).db.intent? "intent-1").map (fun row => row.claim.state) = some (some .hold) := by
    decide +kernel
  obtain ⟨row, hrow, hhold⟩ := Option.map_eq_some_iff.1 hstate
  obtain ⟨row', hrow', hsame⟩ := (sent_once_terminal_stays labServices answeredHold [.load 1 "intent-1",
      .tx (.fenceExpiredClaim 30000 "intent-1"), .tx (.reconcileUnknown 30000 "intent-1" (labReply .applied) labDigest)]).2
    (along_of_decide (P := Undisturbed) (step labServices) World.init (by decide +kernel)) "intent-1" row hrow (Or.inr hhold)
  exact ⟨hstate, row', hrow', hsame.trans hhold⟩

end MasiEdge.Control
