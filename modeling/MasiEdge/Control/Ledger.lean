/-
The ledger of the control core: what every write keeps.

A body of an intent never changes, so an update of the ledger is a change of claims followed by new rows. `Move` lists how
one claim can change. `Coherent` is the invariant of the tables: unique keys, every decision judged against its proposal,
every intent backed by an approval, and claims whose lease fits their state.

* `Write.intents_cases`: every write moves claims and adds rows;
* `Write.coherent`, `Writes.coherent`: the invariant is kept;
* `Move.of_terminal`: only a finalizer moves an intent that has ended.
-/
import MasiEdge.Control.Transactions

namespace MasiEdge.Control

open Codec List Table

variable {sv : Services} {perm : Permit} {db db' : Db} {row : IntentRow} {outcome : Option AttemptStatus}
  {attempt : Option AttemptRow} {d : DecisionRow} {f : Claim → Claim} {state : ClaimState}

/-! ## Claims -/

/-- how one claim can change -/
inductive Move (perm : Permit) (db : Db) (row : IntentRow) : Claim → Prop
  | quiet (claim : Claim) (h : Quiet perm db row claim) : Move perm db row claim
  | block (found : row.claim.state = some .unclaimed) :
      Move perm db row { row.claim with state := some .blocked, gateOpen := false }
  | settle (f : Claim → Claim) (attempt : Option AttemptRow) (state : ClaimState) (outcome : Option AttemptStatus)
      (h : Settling row f attempt state outcome) (permitted : perm.settle db row state) : Move perm db row (f row.claim)

theorem Move.same (perm : Permit) (db : Db) (row : IntentRow) : Move perm db row row.claim := .quiet _ .same

/-- the lease of a claim fits its state; a hold may come before or after a claim -/
def Claim.Sound (claim : Claim) : Prop :=
  match claim.state with
  | some .claimed | some .unknown | some .finalized => claim.leaseId ≠ none
  | some .hold => True
  | _ => claim.leaseId = none

theorem Claim.Sound.of_lease {claim : Claim} (h : claim.Sound) (hlease : claim.leaseId ≠ none) :
    claim.state = some .claimed ∨ claim.state = some .unknown ∨ claim.state = some .hold ∨ claim.state = some .finalized := by
  unfold Claim.Sound at h
  split at h
  · rename_i hs
    exact Or.inl hs
  · rename_i hs
    exact Or.inr (Or.inl hs)
  · rename_i hs
    exact Or.inr (Or.inr (Or.inr hs))
  · rename_i hs
    exact Or.inr (Or.inr (Or.inl hs))
  · exact absurd h hlease

theorem Claim.Sound.lease_of_unclaimed {claim : Claim} (h : claim.Sound) (hs : claim.state = some .unclaimed) :
    claim.leaseId = none := by
  simpa [Claim.Sound, hs] using h

theorem Settling.sound (h : Settling row f attempt state outcome)
    (hrow : row.claim.Sound) :
    (f row.claim).Sound ∧ (f row.claim).leaseId = row.claim.leaseId ∧ (f row.claim).gateOpen = row.claim.gateOpen ∧
      ((f row.claim).state = none ↔ row.claim.state = none) := by
  cases h with
  | holdBack found => exact ⟨trivial, rfl, rfl, by simp [found]⟩
  | fence found =>
    have hlease : row.claim.leaseId ≠ none := by simpa [Claim.Sound, found] using hrow
    exact ⟨hlease, rfl, rfl, by simp [found, Claim.fence]⟩
  | verdict found _ consistent =>
    have hlease : row.claim.leaseId ≠ none := found.elim id fun hs => by simpa [Claim.Sound, hs] using hrow
    have hsome : row.claim.state ≠ none := by
      rcases hrow.of_lease hlease with hs | hs | hs | hs <;> simp [hs]
    refine ⟨?_, rfl, rfl, by simp [hsome]⟩
    rcases consistent.2 with ⟨hs, -⟩ | ⟨hs, -⟩ | ⟨hs, -⟩
    · simpa [Claim.Sound, hs] using hlease
    · simp [Claim.Sound, hs]
    · simpa [Claim.Sound, hs] using hlease
  | project => exact ⟨hrow, rfl, rfl, Iff.rfl⟩

/-- only a projection leaves a claim unclaimed or blocked -/
theorem Settling.eq_id (h : Settling row f attempt state outcome)
    (hopen : (f row.claim).state = some .unclaimed ∨ (f row.claim).state = some .blocked) : f = id := by
  cases h with
  | holdBack => simp at hopen
  | fence => simp [Claim.fence] at hopen
  | verdict _ _ consistent => rcases consistent.2 with ⟨hs, -⟩ | ⟨hs, -⟩ | ⟨hs, -⟩ <;> simp [hs] at hopen
  | project => rfl

theorem Move.sound {claim : Claim} (h : Move perm db row claim) (hrow : row.claim.Sound) :
    claim.Sound ∧ (claim.state = none ↔ row.claim.state = none) := by
  cases h with
  | quiet _ h =>
    cases h with
    | same | openGate | renew expires => exact ⟨hrow, Iff.rfl⟩
    | take found => exact ⟨by simp [Claim.Sound, Claim.take], by simp [Claim.take, found]⟩
    | shutdown found =>
      have hlease : row.claim.leaseId ≠ none := by simpa [Claim.Sound, found] using hrow
      exact ⟨hlease, by simp [Claim.fence, found]⟩
  | block found => exact ⟨hrow.lease_of_unclaimed found, by simp [found]⟩
  | settle _ _ _ _ h =>
    obtain ⟨hsound, -, -, hnone⟩ := h.sound hrow
    exact ⟨hsound, hnone⟩

/-- an intent that has ended -/
def Claim.Terminal (claim : Claim) : Prop := claim.state = some .finalized ∨ claim.state = some .hold

/-- only a finalizer moves an intent that has ended -/
theorem Move.of_terminal {claim : Claim} (h : Move perm db row claim) (hrow : row.claim.Terminal)
    (hperm : ∀ state, perm.settle db row state → ¬ row.claim.Terminal) : claim.state = row.claim.state := by
  cases h with
  | quiet _ h =>
    cases h with
    | same => rfl
    | openGate => rfl
    | renew => rfl
    | take found gate leaseId expires | shutdown found permitted => rcases hrow with hs | hs <;> simp [hs] at found
  | block found => rcases hrow with hs | hs <;> simp [hs] at found
  | settle _ _ state _ _ permitted => exact absurd hrow (hperm state permitted)

/-- a claimed intent is never unclaimed again, and a lease stays -/
theorem Move.keeps_lease {claim : Claim} (h : Move perm db row claim) (hrow : row.claim.Sound) {leaseId : String}
    (hlease : row.claim.leaseId = some leaseId) : claim.leaseId = some leaseId := by
  cases h with
  | quiet _ h =>
    cases h with
    | same | openGate | renew expires | shutdown found permitted => exact hlease
    | take found =>
      rw [hrow.lease_of_unclaimed found] at hlease
      cases hlease
  | block => exact hlease
  | settle _ _ _ _ h =>
    obtain ⟨-, hsame, -⟩ := h.sound hrow
    rw [hsame]
    exact hlease

/-! ## Rows -/

/-- the claims after a settled intent and the projection of it -/
theorem settled_moves (hunique : Table.Unique IntentRow.intentId db.intents) (hpresent : db.intent? row.intentId = some row)
    (hsettling : Settling row f attempt state outcome)
    (hperm : perm.settle db row state) {g : IntentRow → Claim}
    (hg : ∀ r ∈ (db.setClaim row.intentId f).intents, BlockedOrSame r (g r)) {other : IntentRow}
    (hother : other ∈ db.intents) :
    Move perm db other (g { other with claim := if other.intentId = row.intentId then f other.claim else other.claim }) := by
  have hblocked := hg _ (mem_map_of_mem hother)
  dsimp only at hblocked
  by_cases hid : other.intentId = row.intentId
  · obtain rfl : other = row := hunique other hother row (mem_of_lookup hpresent) hid
    rw [if_pos rfl] at hblocked ⊢
    rcases hblocked with hsame | ⟨hstate, hclaim⟩
    · rw [hsame]
      exact .settle f attempt state outcome hsettling hperm
    · rw [hclaim]
      obtain rfl := hsettling.eq_id (Or.inl hstate)
      exact .block hstate
  · rw [if_neg hid] at hblocked ⊢
    rcases hblocked with hsame | ⟨hstate, hclaim⟩
    · rw [hsame]
      exact .same perm db other
    · rw [hclaim]
      exact .block hstate

theorem advanceWaveGate_ok {now : ℤ} {fleetOperationId : String} {currentWave nextWave : ℕ}
    (h : advanceWaveGate sv now fleetOperationId currentWave nextWave db = .ok db') :
    db' = openWave db fleetOperationId nextWave := by
  replace h := passed h
  replace h := passed h
  replace h := passed h
  obtain ⟨_, -, h⟩ := bind_ok.1 h
  replace h := passed h
  replace h := passed h
  replace h := passed h
  replace h := passed h
  replace h := passed h
  replace h := passed h
  exact (Except.ok.inj h).symm

/-- what stands behind a row is in four tables -/
theorem Backed.of_tables (h : Backed sv db row) (hproposals : db'.proposals = db.proposals)
    (hdecisions : db'.decisions = db.decisions) (hrevisions : db'.revisions = db.revisions)
    (hoverlays : db'.overlays = db.overlays) : Backed sv db' row where
  authorized := by
    rw [hproposals, hdecisions]
    exact h.authorized
  fenced := h.fenced
  stored := h.stored
  revision := by
    rw [hrevisions]
    exact h.revision
  named := by
    rw [hoverlays]
    exact h.named

/-- rows with their new claims -/
def moved (f : IntentRow → Claim) (rows : List IntentRow) : List IntentRow := rows.map fun row => { row with claim := f row }

theorem moved_claim (rows : List IntentRow) : moved IntentRow.claim rows = rows := by
  simp [moved]

/-- **Every write moves claims and adds rows.** -/
theorem Write.intents_cases (h : Write sv perm db db') (hunique : Table.Unique IntentRow.intentId db.intents) :
    ∃ f rows, db'.intents = moved f db.intents ++ rows ∧ (∀ row ∈ db.intents, Move perm db row (f row)) ∧
      Added sv db db' rows := by
  have hsame : ∀ {db' : Db}, db'.intents = db.intents → ∃ f rows, db'.intents = moved f db.intents ++ rows ∧
      (∀ row ∈ db.intents, Move perm db row (f row)) ∧ Added sv db db' rows := by
    intro db' hdb
    exact ⟨IntentRow.claim, [], by rw [hdb, moved_claim, append_nil], fun row _ => .same perm db row, Added.nil⟩
  have hadded : ∀ {db' : Db} {rows}, db'.intents = db.intents ++ rows → Added sv db db' rows →
      ∃ f rows, db'.intents = moved f db.intents ++ rows ∧ (∀ row ∈ db.intents, Move perm db row (f row)) ∧
        Added sv db db' rows := by
    intro db' rows hdb hrows
    exact ⟨IntentRow.claim, rows, by rw [hdb, moved_claim], fun row _ => .same perm db row, hrows⟩
  cases h with
  | proposal now p valid permitted new | supersede oldId replacementId undecided unused
  | decision d judged first new permitted | deleteOverlays gone finalized | revision row new
  | activation a row p prepared | acks rows | gateDecision g | inventory inv => exact hsame rfl
  | intents rows added | overlay rows o added new present delete
  | fleet _ _ _ _ _ _ added =>
    exact hadded rfl ⟨added.new, added.apart, added.fresh, fun row hrow => (added.backed row hrow).of_tables rfl rfl rfl rfl⟩
  | settleActivation _ _ _ _ _ _ _ set =>
    obtain ⟨activations, rfl⟩ := setActivation_frame set
    exact hsame rfl
  | commit _ _ _ _ _ _ committed =>
    obtain ⟨bindings, activations, rfl⟩ := commitBaseline_frame committed
    exact hsame rfl
  | claims f quiet => exact ⟨f, [], (append_nil _).symm, fun row hrow => .quiet _ (quiet row hrow), Added.nil⟩
  | settle _ present _ _ _ _ _ _ settling permitted settled =>
    obtain ⟨g, fleets, children, rfl, hg⟩ := projectFleet_frame settled
    refine ⟨_, [], ?_, fun other hother => settled_moves hunique present settling permitted hg hother, .nil⟩
    simp [moved, Db.mapClaims, Db.setClaim]
  | openWave _ fleetOperationId _ nextWave _ advanced =>
    obtain rfl := advanceWaveGate_ok advanced
    refine ⟨fun row => if InWave db fleetOperationId nextWave row.intentId then { row.claim with gateOpen := true }
      else row.claim, [], (append_nil _).symm, fun row _ => ?_, Added.nil⟩
    dsimp only
    split
    · exact .quiet _ .openGate
    · exact .same perm db row

/-- the row of an intent moves -/
theorem Write.intent_moves (h : Write sv perm db db') (hunique : Table.Unique IntentRow.intentId db.intents) {id : String}
    (hrow : db.intent? id = some row) : ∃ claim, db'.intent? id = some { row with claim } ∧ Move perm db row claim := by
  obtain ⟨f, rows, hintents, hmoves, -⟩ := h.intents_cases hunique
  refine ⟨f row, ?_, hmoves row (mem_of_lookup hrow)⟩
  have hmoved : Table.lookup IntentRow.intentId (moved f db.intents) id = some { row with claim := f row } := by
    refine (lookup_map ?_ db.intents id).trans (congrArg (Option.map _) hrow)
    exact fun _ => rfl
  rw [Db.intent?, hintents]
  exact lookup_append_of_some hmoved rows

/-! ## The other tables -/

/-- an overlay that may have been deleted -/
def marked (gone : OverlayRow → Bool) (o : OverlayRow) : OverlayRow := if gone o then { o with deleted := true } else o

/-- what a write may do to the tables of the governance -/
structure TableWrites (sv : Services) (perm : Permit) (db db' : Db) : Prop where
  proposals :
    db'.proposals = db.proposals ∨
      (∃ now p, validateProposal now p = .ok () ∧ perm.proposal p ∧
        (∀ other ∈ db.proposals, ¬ proposalConflict sv.profile.hash (proposalRow sv.profile.hash p) other) ∧
        db'.proposals = db.proposals ++ [proposalRow sv.profile.hash p]) ∨
      ∃ oldId replacementId, (∀ d ∈ db.decisions, d.proposalId ≠ oldId) ∧
        (∀ i ∈ db.intents, i.intent.proposalId ≠ oldId) ∧
        db'.proposals = Table.modify ProposalRow.proposalId db.proposals oldId fun row =>
          { row with supersededBy := some replacementId }
  decisions :
    db'.decisions = db.decisions ∨ ∃ d, (∃ row ∈ db.proposals, Judged sv.profile.hash row d) ∧
      (∀ other ∈ db.decisions, other.proposalId ≠ d.proposalId) ∧ (∀ other ∈ db.decisions, other.decisionId ≠ d.decisionId) ∧
      perm.decision db d ∧ db'.decisions = db.decisions ++ [d] ∧ db'.proposals = db.proposals
  revisions :
    db'.revisions = db.revisions ∨ ∃ row, (∀ r ∈ db.revisions, r.revision.revisionId ≠ row.revision.revisionId ∧
      ¬ (r.revision.targetId = row.revision.targetId ∧ r.revisionDigest = row.revisionDigest)) ∧
      db'.revisions = db.revisions ++ [row]
  overlays :
    (∃ gone, db'.overlays = db.overlays.map (marked gone)) ∨
      ∃ o, (∀ other ∈ db.overlays, other.overlayRuleId ≠ o.overlayRuleId ∧ other.deleteIntentId ≠ o.deleteIntentId) ∧
        ((∃ p ∈ db'.proposals, ∃ row ∈ db'.intents, DeleteOf p o row) ∨
          ∃ row ∈ db.intents, row.intentId = o.deleteIntentId ∧ perm.recalled row) ∧
        db'.overlays = db.overlays ++ [o]
  gateDecisions : db.gateDecisions ⊆ db'.gateDecisions

theorem overlays_unmarked (overlays : List OverlayRow) : ∃ gone, overlays = overlays.map (marked gone) := by
  have hid : marked (fun _ => false) = id := by
    funext o
    simp [marked]
  exact ⟨fun _ => false, by rw [hid, map_id]⟩

section

variable (h : Write sv perm db db')
include h

theorem Write.tables : TableWrites sv perm db db' := by
  have hmarks := overlays_unmarked db.overlays
  have hgates : db.gateDecisions ⊆ db.gateDecisions := fun _ hg => hg
  cases h with
  | proposal now p valid permitted new =>
    exact ⟨.inr (.inl ⟨now, p, valid, permitted, new, rfl⟩), .inl rfl, .inl rfl, .inl hmarks, hgates⟩
  | supersede oldId replacementId undecided unused =>
    exact ⟨.inr (.inr ⟨oldId, replacementId, undecided, unused, rfl⟩), .inl rfl, .inl rfl, .inl hmarks, hgates⟩
  | decision d judged first new permitted =>
    exact ⟨.inl rfl, .inr ⟨d, judged, first, new, permitted, rfl, rfl⟩, .inl rfl, .inl hmarks, hgates⟩
  | revision row new => exact ⟨.inl rfl, .inl rfl, .inr ⟨row, new, rfl⟩, .inl hmarks, hgates⟩
  | overlay _ o _ new _ delete =>
    refine ⟨.inl rfl, .inl rfl, .inl rfl, .inr ⟨o, new, delete.imp_left ?_, rfl⟩, hgates⟩
    rintro ⟨p, hp, row, hrow, hdelete⟩
    exact ⟨p, hp, row, mem_append_right _ hrow, hdelete⟩
  | deleteOverlays gone => exact ⟨.inl rfl, .inl rfl, .inl rfl, .inl ⟨gone, rfl⟩, hgates⟩
  | gateDecision => exact ⟨.inl rfl, .inl rfl, .inl rfl, .inl hmarks, fun _ hg => mem_append_left _ hg⟩
  | settleActivation _ _ _ _ _ _ _ set =>
    obtain ⟨activations, rfl⟩ := setActivation_frame set
    exact ⟨.inl rfl, .inl rfl, .inl rfl, .inl hmarks, hgates⟩
  | commit _ _ _ _ _ _ committed =>
    obtain ⟨bindings, activations, rfl⟩ := commitBaseline_frame committed
    exact ⟨.inl rfl, .inl rfl, .inl rfl, .inl hmarks, hgates⟩
  | settle _ _ _ _ _ _ _ _ _ _ settled =>
    obtain ⟨g, fleets, children, rfl, -⟩ := projectFleet_frame settled
    exact ⟨.inl rfl, .inl rfl, .inl rfl, .inl hmarks, hgates⟩
  | openWave _ _ _ _ _ advanced =>
    obtain rfl := advanceWaveGate_ok advanced
    exact ⟨.inl rfl, .inl rfl, .inl rfl, .inl hmarks, hgates⟩
  | _ => exact ⟨.inl rfl, .inl rfl, .inl rfl, .inl hmarks, hgates⟩

/-- a proposal stays, but for its replacement -/
theorem Write.keeps_proposal {p : ProposalRow} (hp : p ∈ db.proposals) :
    ∃ p' ∈ db'.proposals, p'.proposal = p.proposal ∧ p'.proposalDigest = p.proposalDigest := by
  rcases h.tables.proposals with heq | ⟨-, q, -, -, -, heq⟩ | ⟨oldId, replacementId, -, -, heq⟩
  · exact ⟨p, heq ▸ hp, rfl, rfl⟩
  · refine ⟨p, ?_, rfl, rfl⟩
    rw [heq]
    exact mem_append_left _ hp
  · rw [heq]
    by_cases hid : p.proposalId = oldId
    · exact ⟨_, Table.mem_modify.2 (Or.inr ⟨p, hp, hid, rfl⟩), rfl, rfl⟩
    · exact ⟨p, Table.mem_modify.2 (Or.inl ⟨hp, hid⟩), rfl, rfl⟩

theorem Write.keeps_decision (hd : d ∈ db.decisions) : d ∈ db'.decisions := by
  rcases h.tables.decisions with heq | ⟨_, -, -, -, -, heq, -⟩
  · rwa [heq]
  · rw [heq]
    exact mem_append_left _ hd

theorem Write.keeps_revision {r : RevisionRow} (hr : r ∈ db.revisions) : r ∈ db'.revisions := by
  rcases h.tables.revisions with heq | ⟨_, -, heq⟩
  · rwa [heq]
  · rw [heq]
    exact mem_append_left _ hr

theorem Write.keeps_overlay {o : OverlayRow} (ho : o ∈ db.overlays) :
    ∃ o' ∈ db'.overlays, o' = o ∨ o' = { o with deleted := true } := by
  rcases h.tables.overlays with ⟨gone, heq⟩ | ⟨_, -, -, heq⟩
  · refine ⟨marked gone o, heq ▸ mem_map_of_mem ho, ?_⟩
    unfold marked
    split
    · exact Or.inr rfl
    · exact Or.inl rfl
  · exact ⟨o, heq ▸ mem_append_left _ ho, Or.inl rfl⟩

end

theorem Authorizes.of_eq {p p' : ProposalRow} (h : Authorizes p d row) (hproposal : p'.proposal = p.proposal)
    (hdigest : p'.proposalDigest = p.proposalDigest) : Authorizes p' d row where
  proposalId := by
    rw [ProposalRow.proposalId, hproposal]
    exact h.proposalId
  decisionId := h.decisionId
  joined := by
    rw [ProposalRow.proposalId, hproposal]
    exact h.joined
  approved := h.approved
  digest := h.digest
  kind := hproposal ▸ h.kind
  risk := hproposal ▸ h.risk
  actor := h.actor
  proposalDigest := hdigest.trans h.proposalDigest
  policy := hproposal ▸ h.policy
  target := hproposal ▸ h.target

theorem Judged.of_eq {hash : Bytes → String} {p p' : ProposalRow} (h : Judged hash p d)
    (hproposal : p'.proposal = p.proposal) (hdigest : p'.proposalDigest = p.proposalDigest) : Judged hash p' d where
  proposalId := by
    rw [ProposalRow.proposalId, hproposal]
    exact h.proposalId
  proposalDigest := h.proposalDigest.trans hdigest.symm
  authorized := hproposal ▸ h.authorized
  approved := hproposal ▸ h.approved

/-- **What stands behind an intent stays.** -/
theorem Backed.mono (h : Backed sv db row) (hwrite : Write sv perm db db') : Backed sv db' row where
  authorized := by
    obtain ⟨p, hp, d, hd, hauth⟩ := h.authorized
    obtain ⟨p', hp', hproposal, hdigest⟩ := hwrite.keeps_proposal hp
    exact ⟨p', hp', d, hwrite.keeps_decision hd, hauth.of_eq hproposal hdigest⟩
  fenced := h.fenced
  stored := h.stored
  revision := fun hchild hbase => by
    obtain ⟨r, hr, hmatch⟩ := h.revision hchild hbase
    exact ⟨r, hwrite.keeps_revision hr, hmatch⟩
  named := fun hchild hop => by
    obtain ⟨o, ho, hid⟩ := h.named hchild hop
    obtain ⟨o', ho', rfl | rfl⟩ := hwrite.keeps_overlay ho
    · exact ⟨_, ho', hid⟩
    · exact ⟨_, ho', hid⟩

/-- it stands behind the body, whatever the claim -/
theorem Backed.claim (h : Backed sv db row) (claim : Claim) : Backed sv db { row with claim } where
  authorized := by
    obtain ⟨p, hp, d, hd, hauth⟩ := h.authorized
    exact ⟨p, hp, d, hd, hauth.proposalId, hauth.decisionId, hauth.joined, hauth.approved, hauth.digest, hauth.kind,
      hauth.risk, hauth.actor, hauth.proposalDigest, hauth.policy, hauth.target⟩
  fenced := h.fenced
  stored := h.stored
  revision := h.revision
  named := h.named

/-! ## The invariant -/

structure Coherent (sv : Services) (db : Db) : Prop where
  proposals : Table.Unique ProposalRow.proposalId db.proposals
  decisions : Table.Unique DecisionRow.decisionId db.decisions
  decided : Table.Unique DecisionRow.proposalId db.decisions
  judged : ∀ d ∈ db.decisions, ∃ p ∈ db.proposals, Judged sv.profile.hash p d
  intents : db.intents.Pairwise fun a b => ¬ intentConflict b a
  backed : ∀ row ∈ db.intents, Backed sv db row
  sound : ∀ row ∈ db.intents, row.claim.Sound
  parent : ∀ row ∈ db.intents, row.claim.state = none ↔ row.intent.isFleetParent = true
  overlays : Table.Unique OverlayRow.overlayRuleId db.overlays

theorem intentConflict_symm {a b : IntentRow} (h : intentConflict a b) : intentConflict b a := by
  rcases h with h | ⟨ha, hb, h | ⟨hsome, hfleet, htarget, hdigest⟩⟩
  · exact Or.inl h.symm
  · exact Or.inr ⟨hb, ha, Or.inl h.symm⟩
  · exact Or.inr ⟨hb, ha, Or.inr ⟨by rwa [hfleet], hfleet.symm, htarget.symm, hdigest.symm⟩⟩

/-- two rows that are in conflict are one -/
theorem Coherent.eq_of_conflict (h : Coherent sv db) {a b : IntentRow} (ha : a ∈ db.intents) (hb : b ∈ db.intents)
    (hab : intentConflict a b) : a = b := by
  have hsymm : Std.Symm fun a b : IntentRow => ¬ intentConflict b a := ⟨fun _ _ hne hc => hne (intentConflict_symm hc)⟩
  by_contra hne
  exact h.intents.forall ha hb hne (intentConflict_symm hab)

theorem Coherent.uniqueIds (h : Coherent sv db) : Table.Unique IntentRow.intentId db.intents := by
  intro a ha b hb hab
  exact h.eq_of_conflict ha hb (Or.inl hab.symm)

theorem coherent_empty (sv : Services) : Coherent sv Db.empty where
  proposals := unique_nil
  decisions := unique_nil
  decided := unique_nil
  judged := by simp [Db.empty]
  intents := .nil
  backed := by simp [Db.empty]
  sound := by simp [Db.empty]
  parent := by simp [Db.empty]
  overlays := unique_nil

/-- **Every write keeps the invariant.** -/
theorem Write.coherent (h : Write sv perm db db') (hdb : Coherent sv db) : Coherent sv db' := by
  obtain ⟨f, rows, hintents, hmoves, hadded⟩ := h.intents_cases hdb.uniqueIds
  have hrow : ∀ row ∈ db'.intents, (∃ old ∈ db.intents, row = { old with claim := f old }) ∨ row ∈ rows := by
    intro row hrow
    rw [hintents, mem_append, moved, mem_map] at hrow
    rcases hrow with ⟨old, hold, rfl⟩ | hrow
    · exact Or.inl ⟨old, hold, rfl⟩
    · exact Or.inr hrow
  constructor
  case proposals =>
    rcases h.tables.proposals with heq | ⟨-, p, -, -, hnew, heq⟩ | ⟨oldId, replacementId, -, -, heq⟩
    · rw [heq]
      exact hdb.proposals
    · rw [heq]
      exact hdb.proposals.append fun other hother hid => hnew other hother (Or.inl hid)
    · rw [heq]
      refine hdb.proposals.map fun row => ?_
      split <;> rfl
  case decisions =>
    rcases h.tables.decisions with heq | ⟨d, -, -, hnew, -, heq, -⟩
    · rw [heq]
      exact hdb.decisions
    · rw [heq]
      exact hdb.decisions.append hnew
  case decided =>
    rcases h.tables.decisions with heq | ⟨d, -, hfirst, -, -, heq, -⟩
    · rw [heq]
      exact hdb.decided
    · rw [heq]
      exact hdb.decided.append hfirst
  case judged =>
    have hold : ∀ d ∈ db.decisions, ∃ p ∈ db'.proposals, Judged sv.profile.hash p d := by
      intro d hd
      obtain ⟨p, hp, hjudged⟩ := hdb.judged d hd
      obtain ⟨p', hp', hproposal, hdigest⟩ := h.keeps_proposal hp
      exact ⟨p', hp', hjudged.of_eq hproposal hdigest⟩
    rcases h.tables.decisions with heq | ⟨d, ⟨p, hp, hjudged⟩, -, -, -, heq, hproposals⟩
    · rw [heq]
      exact hold
    · rw [heq]
      exact Run.forall_mem_snoc.2 ⟨hold, p, hproposals ▸ hp, hjudged⟩
  case intents =>
    rw [hintents, pairwise_append]
    refine ⟨List.pairwise_map.2 hdb.intents, hadded.apart, ?_⟩
    intro a ha b hb hconflict
    obtain ⟨old, hold, rfl⟩ := List.mem_map.1 ha
    exact hadded.new b hb old hold hconflict
  case backed =>
    intro row hmem
    rcases hrow row hmem with ⟨old, hold, rfl⟩ | hnew
    · exact ((hdb.backed old hold).mono h).claim _
    · exact hadded.backed row hnew
  case sound =>
    intro row hmem
    rcases hrow row hmem with ⟨old, hold, rfl⟩ | hnew
    · exact ((hmoves old hold).sound (hdb.sound old hold)).1
    · obtain ⟨hlease, hstate⟩ := hadded.fresh row hnew
      cases hparent : row.intent.isFleetParent <;> simp [Claim.Sound, hstate, hparent, hlease]
  case parent =>
    intro row hmem
    rcases hrow row hmem with ⟨old, hold, rfl⟩ | hnew
    · rw [((hmoves old hold).sound (hdb.sound old hold)).2]
      exact hdb.parent old hold
    · obtain ⟨-, hstate⟩ := hadded.fresh row hnew
      cases hparent : row.intent.isFleetParent <;> simp [hstate, hparent]
  case overlays =>
    rcases h.tables.overlays with ⟨gone, heq⟩ | ⟨o, hnew, -, heq⟩
    · rw [heq]
      exact hdb.overlays.map fun o => by unfold marked; split <;> rfl
    · rw [heq]
      exact hdb.overlays.append fun other hother => (hnew other hother).1

theorem Writes.coherent (h : Writes sv perm db db') (hdb : Coherent sv db) : Coherent sv db' := by
  induction h with
  | refl => exact hdb
  | tail _ hwrite ih => exact hwrite.coherent ih

end MasiEdge.Control
