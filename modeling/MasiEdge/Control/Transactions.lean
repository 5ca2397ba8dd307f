/-
Every transaction of the control core makes only the writes of `Write`.

One lemma for each transaction, from "it commits" to the writes it makes. What a payload loader returns and what a fallible
loop inserts is said by a lemma of its own, so a proof about a transaction follows its text from one check to the next.

* `loadEffectPayload_ok`: what the payload of an intent is bound to;
* `insertFleetChildren_ok`: the rows a fleet operation inserts;
* `projectIntentState_writes`: a settled intent, and what the projections make of it.
-/
import MasiEdge.Control.Writes

namespace MasiEdge.Control

open Firewall Relation List Table

variable {sv : Services} {perm : Permit} {db db' : Db} {now committedAt leaseTtl : ℤ}
  {reasonCode policyDigest targetId scope intentId proposalId decisionId revisionId operationId : String}
  {fleetOperationId provided leaseId claimKey effectDigest resultDigest : String}
  {d : DecisionRow} {payload : EffectPayload} {intent input : Intent} {row : IntentRow} {p : ProposalRow} {ov : Overlay}
  {rulesSize currentWave nextWave : ℕ} {fo : FleetRequest} {capture : String → GoResult String} {children : List FleetChildRow}
  {intents : List IntentRow} {fleets : List FleetRow} {state : ClaimState} {outcome : Option AttemptStatus}
  {attempt : Option AttemptRow} {result : EdgeEffectResult} {operation : Operation} {inserted : Bool}

/-! ## Governance -/

theorem createProposal_writes {p : Proposal} (h : createProposal sv.profile.hash now p db = .ok db')
    (hperm : perm.proposal p) : Writes sv perm db db' := by
  obtain ⟨_, hvalid, h⟩ := bind_ok.1 h
  dsimp only at h
  split at h
  · obtain ⟨_, -, h⟩ := bind_ok.1 h
    replace h := passed h
    cases h
    exact .refl
  · rename_i hnew
    cases h
    push Not at hnew
    exact .single (.proposal now p hvalid hperm hnew)

theorem supersede_writes {oldId replacementId : String} {actor : Actor}
    (h : supersede oldId replacementId actor reasonCode db = .ok db') : Writes sv perm db db' := by
  replace h := passed h
  replace h := passed h
  obtain ⟨_, -, h⟩ := bind_ok.1 h
  obtain ⟨_, -, h⟩ := bind_ok.1 h
  replace h := passed h
  obtain ⟨hunused, h⟩ := reject_then h
  replace h := passed h
  cases h
  push Not at hunused
  exact .single (.supersede oldId replacementId hunused.1 hunused.2)

/-- the canonical decision is there afterwards -/
theorem appendDecision_writes {d' : DecisionRow} (h : appendDecision d db = .ok (d', inserted, db'))
    (hjudged : ∃ row ∈ db.proposals, Judged sv.profile.hash row d) (hperm : perm.decision db d) :
    Writes sv perm db db' := by
  unfold appendDecision at h
  split at h
  · replace h := passed h
    cases h
    exact .refl
  · rename_i hfind
    obtain ⟨hfree, h⟩ := reject_then h
    cases h
    have hfirst : ∀ other ∈ db.decisions, other.proposalId ≠ d.proposalId := by
      intro other hother
      simpa using List.find?_eq_none.1 hfind other hother
    have hnew : ∀ other ∈ db.decisions, other.decisionId ≠ d.decisionId := by
      rw [Bool.not_eq_true, Option.isSome_eq_false_iff, Option.isNone_iff_eq_none] at hfree
      exact Table.lookup_eq_none.1 hfree
    exact .single (.decision d hjudged hfirst hnew hperm)

/-! ## Payloads -/

/-- what the payload of an intent is bound to -/
structure Loaded (sv : Services) (db : Db) (policyDigest : String) (before after : Intent) : Prop where
  body : ∃ payload effectDigest, after = { before with payload, effectDigest }
  policy : after.payload.policyRevisionDigest = policyDigest
  stored : before.effectKind ≠ .boundedCapture →
    validateEffectPayload after.payload = .ok () ∧ effectDigestOf sv after = after.effectDigest
  revision : before.effectKind.IsBaseline → ∃ r ∈ db.revisions,
    r.revisionDigest = policyDigest ∧ r.revision.targetId = before.targetId
  named : after.payload.operation = .overlayDelete → ∃ o ∈ db.overlays, o.deleteIntentId = before.effectIntentId

theorem loadEffectPayload_ok {loaded : Intent} {capture : GoResult String}
    (h : loadEffectPayload sv db policyDigest scope intent capture = .ok loaded) :
    Loaded sv db policyDigest intent loaded := by
  unfold loadEffectPayload at h
  split at h
  case h_1 | h_2 =>
    obtain ⟨payload, hpayload, h⟩ := bind_ok.1 h
    cases h
    obtain ⟨row, hrow, hpayload⟩ := bind_ok.1 hpayload
    obtain ⟨_, hvalid, hpayload⟩ := bind_ok.1 hpayload
    cases hpayload
    rw [wrap_ok, queryRow_ok] at hrow
    obtain ⟨hmem, hdigest, htarget, -⟩ := find_decide hrow
    exact ⟨⟨_, _, rfl⟩, rfl, fun _ => ⟨hvalid, rfl⟩, fun _ => ⟨row, hmem, hdigest, htarget⟩, fun hop => by cases hop⟩
  case h_3 hkind =>
    obtain ⟨payload, hpayload, h⟩ := bind_ok.1 h
    cases h
    obtain ⟨row, hrow, hpayload⟩ := bind_ok.1 hpayload
    obtain ⟨_, hvalid, hpayload⟩ := bind_ok.1 hpayload
    cases hpayload
    rw [wrap_ok, queryRow_ok] at hrow
    refine ⟨⟨_, _, rfl⟩, rfl, fun _ => ⟨hvalid, rfl⟩, fun hbase => ?_, fun hop => ⟨row, mem_reverse.1 (find_decide hrow).1, ?_⟩⟩
    · simp [EffectKind.IsBaseline, hkind] at hbase
    · by_contra hid
      simp [overlayPayload, hid] at hop
  case h_4 hkind =>
    obtain ⟨effectDigest, -, h⟩ := bind_ok.1 h
    cases h
    refine ⟨⟨_, _, rfl⟩, rfl, fun hne => absurd hkind hne, fun hbase => ?_, fun hop => by cases hop⟩
    simp [EffectKind.IsBaseline, hkind] at hbase
  case h_5 => cases h

theorem checkStored_of (hactor : intent.actor.validate = .ok ())
    (hstored : intent.effectKind ≠ .boundedCapture →
      validateEffectPayload intent.payload = .ok () ∧ effectDigestOf sv intent = intent.effectDigest) :
    checkStored sv intent = .ok () := by
  unfold checkStored
  rw [wrap_ok.2 hactor, ok_bind]
  split
  · rfl
  · rename_i hkind
    obtain ⟨hvalid, hdigest⟩ := hstored hkind
    rw [wrap_ok.2 hvalid, ok_bind]
    exact reject_of_not (not_not.2 hdigest)

/-- a loaded body passes the checks of a stored one -/
theorem Loaded.checkStored {before after : Intent} (h : Loaded sv db policyDigest before after)
    (hactor : before.actor.validate = .ok ()) (fleetOperationId : String) :
    checkStored sv { after with fleetOperationId } = .ok () := by
  obtain ⟨payload, effectDigest, rfl⟩ := h.body
  exact checkStored_of hactor h.stored

/-! ## Intents -/

theorem Added.nil {db₀ : Db} : Added sv db db₀ [] := ⟨by simp, .nil, by simp, by simp⟩

/-- rows that come in after others -/
theorem Added.append {db₀ : Db} {rows rows' : List IntentRow} (h : Added sv db db₀ rows)
    (h' : Added sv { db with intents := db.intents ++ rows } db₀ rows') : Added sv db db₀ (rows ++ rows') where
  new := List.forall_mem_append.2
    ⟨h.new, fun row hrow other hother => h'.new row hrow other (mem_append_left _ hother)⟩
  apart := List.pairwise_append.2 ⟨h.apart, h'.apart, fun a ha b hb => h'.new b hb a (mem_append_right _ ha)⟩
  fresh := List.forall_mem_append.2 ⟨h.fresh, h'.fresh⟩
  backed := List.forall_mem_append.2 ⟨h.backed, h'.backed⟩

/-- a new row stands in the ledger as nobody's -/
theorem added_singleton {db₀ : Db} (hnew : ∀ other ∈ db.intents, ¬ intentConflict row other)
    (hlease : row.claim.leaseId = none)
    (hstate : row.claim.state = if row.intent.isFleetParent then none else some .unclaimed) (hbacked : Backed sv db₀ row) :
    Added sv db db₀ [row] where
  new := by simpa using hnew
  apart := pairwise_singleton _ _
  fresh := by
    simp only [mem_singleton, forall_eq]
    exact ⟨hlease, hstate⟩
  backed := by simpa using hbacked

theorem insertOrRecall_ok {same : IntentRow → Prop} [DecidablePred same] {conflict : String}
    (h : insertOrRecall row same conflict db = .ok db') :
    (db' = db ∧ ∃ stored ∈ db.intents, same stored) ∨
      (db' = { db with intents := db.intents ++ [row] } ∧ ∀ other ∈ db.intents, ¬ intentConflict row other) := by
  unfold insertOrRecall at h
  split at h
  · obtain ⟨stored, hstored, h⟩ := bind_ok.1 h
    obtain ⟨hsame, h⟩ := reject_then h
    cases h
    rw [queryRow_ok] at hstored
    exact Or.inl ⟨rfl, stored, mem_of_find?_eq_some hstored, not_not.1 hsame⟩
  · rename_i hnew
    cases h
    push Not at hnew
    exact Or.inr ⟨rfl, hnew⟩

/-- a proposal joined with a decision on it: two rows -/
theorem authorization_mem (h : db.authorization proposalId decisionId = some (p, d)) :
    p ∈ db.proposals ∧ d ∈ db.decisions ∧ p.proposalId = proposalId ∧ d.decisionId = decisionId ∧
      d.proposalId = proposalId := by
  obtain ⟨hp, hd, hjoined⟩ := authorization_some.1 h
  exact ⟨mem_of_lookup hp, mem_of_lookup hd, lookup_key hp, lookup_key hd, hjoined⟩

theorem createIntent_writes {token : PreflightToken} {capture : GoResult String}
    (h : createIntent sv now proposalId decisionId token input capture db = .ok db') : Writes sv perm db db' := by
  obtain ⟨_, hshape, h⟩ := bind_ok.1 h
  replace h := passed h
  obtain ⟨_, hfenced, h⟩ := bind_ok.1 h
  replace h := passed h
  replace h := passed h
  obtain ⟨_, hactor, h⟩ := bind_ok.1 h
  rw [wrap_ok] at h
  obtain ⟨⟨p, d⟩, hpd, h⟩ := bind_ok.1 h
  obtain ⟨_, happroved, h⟩ := bind_ok.1 h
  obtain ⟨_, hfence, h⟩ := bind_ok.1 h
  obtain ⟨_, htarget, h⟩ := bind_ok.1 h
  obtain ⟨intent, hintent, h⟩ := bind_ok.1 h
  replace h := passed h
  replace h := passed h
  rw [reject_ok] at hshape happroved hfence htarget
  rw [queryRow_ok, Option.filter_eq_some_iff] at hpd
  push Not at hshape happroved hfence htarget
  obtain ⟨hp, hd, hpid, hdid, hjoined⟩ := authorization_mem hpd.1
  obtain ⟨-, -, -, -, -, -, hkind, hrisk, hauth, hact, -⟩ := hfence
  rcases insertOrRecall_ok h with ⟨rfl, -⟩ | ⟨rfl, hnew⟩
  · exact .refl
  have hloaded := loadEffectPayload_ok hintent
  have hstored := hloaded.checkStored hactor ""
  obtain ⟨payload, effectDigest, rfl⟩ := hloaded.body
  refine .single (.intents _ (added_singleton hnew rfl rfl ?_))
  exact
    { authorized := ⟨p, hp, d, hd,
        { proposalId := hpid, decisionId := hdid, joined := hjoined.trans hpid.symm
          approved := by simpa using happroved.1
          digest := hauth.symm, kind := hkind.symm, risk := hrisk.symm, actor := hact.symm, proposalDigest := rfl
          policy := fun _ => hloaded.policy, target := fun _ => htarget }⟩
      fenced := hfenced
      stored := fun _ => hstored
      revision := fun _ hbase => by
        obtain ⟨r, hr, hdigest, htid⟩ := hloaded.revision hbase
        exact ⟨r, hr, hdigest.trans hloaded.policy.symm, htid⟩
      named := fun _ hop => hloaded.named hop }

/-! ## Overlays -/

/-- an overlay intent as it is prepared -/
structure PreparedIntent (sv : Services) (ov : Overlay) (operation : Operation) (input intent : Intent) : Prop where
  id : intent.effectIntentId = input.effectIntentId
  target : intent.targetId = ov.targetId
  actor : intent.actor = ov.actor
  single : intent.isFleetParent = false
  kind : intent.effectKind = .firewallOverlay
  operation : intent.payload.operation = operation
  policy : intent.payload.policyRevisionDigest = ov.rule.canonicalRuleDigest
  fenced : validateFence intent.fence = .ok ()
  valid : validateEffectPayload intent.payload = .ok ()
  digest : effectDigestOf sv intent = intent.effectDigest

theorem prepareOverlayIntent_prepared
    (h : prepareOverlayIntent sv.profile sv.rfc3339 sv.number ov input operation rulesSize = .ok intent) :
    PreparedIntent sv ov operation input intent := by
  obtain ⟨hkind, h⟩ := reject_then h
  obtain ⟨_, hfenced, h⟩ := bind_ok.1 h
  obtain ⟨_, hvalid, h⟩ := bind_ok.1 h
  replace h := passed h
  cases h
  push Not at hkind
  refine ⟨rfl, rfl, rfl, rfl, hkind.1, rfl, rfl, hfenced, hvalid, ?_⟩
  simp only [effectDigestOf, overlayIntent, overlayPayload, normalizeOverlayRule, mem_singleton, forall_eq]
  rfl

/-- what an overlay intent inserts: nothing, or its row -/
theorem insertOverlayIntent_ok {notBefore : ℤ} (h : insertOverlayIntent intent notBefore db = .ok db') :
    ∃ p rows, db.proposal? intent.proposalId = some p ∧ db' = { db with intents := db.intents ++ rows } ∧
      (∀ row ∈ rows, ∀ other ∈ db.intents, ¬ intentConflict row other) ∧
      ((rows = [] ∧ ∃ stored ∈ db.intents, stored.intentId = intent.effectIntentId ∧
          stored.intent.effectDigest = intent.effectDigest) ∨
        rows = [newIntent { intent with fleetOperationId := "" } p.proposalDigest none true notBefore]) := by
  obtain ⟨p, hp, h⟩ := bind_ok.1 h
  rw [queryRow_ok] at hp
  rcases insertOrRecall_ok h with ⟨rfl, hstored⟩ | ⟨rfl, hnew⟩
  · exact ⟨p, [], hp, by simp, by simp, Or.inl ⟨rfl, hstored⟩⟩
  · exact ⟨p, _, hp, rfl, by simpa using hnew, Or.inr rfl⟩

theorem insertOverlay_ok {row : OverlayRow} (h : insertOverlay row db = .ok db') :
    (db' = db ∧ ∃ o ∈ db.overlays, o.deleteIntentId = row.deleteIntentId) ∨
      (db' = { db with overlays := db.overlays ++ [row] } ∧
        ∀ o ∈ db.overlays, o.overlayRuleId ≠ row.overlayRuleId ∧ o.deleteIntentId ≠ row.deleteIntentId) := by
  unfold insertOverlay at h
  split at h
  · rename_i stored hstored
    obtain ⟨hsame, h⟩ := reject_then h
    cases h
    push Not at hsame
    exact Or.inl ⟨rfl, stored, mem_of_find?_eq_some hstored, hsame.2.2.2⟩
  · rename_i hnone
    obtain ⟨hfree, h⟩ := reject_then h
    cases h
    push Not at hfree
    exact Or.inr ⟨rfl, fun o ho => ⟨by simpa using List.find?_eq_none.1 hnone o ho, (hfree o ho).2⟩⟩

/-- an overlay intent is backed by the decision of its overlay -/
theorem PreparedIntent.backed (h : PreparedIntent sv ov operation input intent)
    (hpd : db.authorization intent.proposalId intent.decisionId = some (p, d)) (happroved : d.approved = true)
    (hkind : p.proposal.effectKind = .firewallOverlay) (htarget : ov.targetId ∈ p.proposal.targetIds)
    (hpolicy : p.proposal.policyDigest = ov.rule.canonicalRuleDigest) (hrisk : p.proposal.riskLevel = intent.riskLevel)
    (hdigest : d.decisionDigest = intent.authorizationDigest) (hactor : d.actor = ov.actor)
    (hvalid : ov.actor.validate = .ok ()) {overlays : List OverlayRow}
    (hnamed : operation = .overlayDelete → ∃ o ∈ overlays, o.deleteIntentId = intent.effectIntentId) (notBefore : ℤ) :
    Backed sv { db with overlays }
      (newIntent { intent with fleetOperationId := "" } p.proposalDigest none true notBefore) := by
  obtain ⟨hp, hd, hpid, hdid, hjoined⟩ := authorization_mem hpd
  exact
    { authorized := ⟨p, hp, d, hd,
        { proposalId := hpid, decisionId := hdid, joined := hjoined.trans hpid.symm, approved := happroved
          digest := hdigest, kind := hkind.trans h.kind.symm, risk := hrisk, actor := hactor.trans h.actor.symm
          proposalDigest := rfl, policy := fun _ => h.policy.trans hpolicy.symm
          target := fun _ => by
            rw [h.target]
            exact htarget }⟩
      fenced := h.fenced
      stored := fun _ => by
        have hactor : intent.actor.validate = .ok () := h.actor ▸ hvalid
        exact checkStored_of hactor fun _ => ⟨h.valid, (effectDigestOf_fleet ..).trans h.digest⟩
      revision := fun _ hbase => by
        change intent.effectKind.IsBaseline at hbase
        simp [EffectKind.IsBaseline, h.kind] at hbase
      named := fun _ hop => hnamed (h.operation.symm.trans hop) }

theorem createOverlay_writes (h : createOverlay sv now ov rulesSize db = .ok db')
    (hrecalled : ∀ upsert delete, prepareOverlay sv.profile sv.rfc3339 sv.number now ov rulesSize = .ok (upsert, delete) →
      ∀ row ∈ db.intents, row.intentId = delete.effectIntentId → row.intent.effectDigest = delete.effectDigest →
        perm.recalled row) :
    Writes sv perm db db' := by
  obtain ⟨⟨upsert, delete⟩, hprepared, h⟩ := bind_ok.1 h
  obtain ⟨-, hupsert, hdelete, hvalid, hids, hproposal, hdecision, hauth, hrisk⟩ := prepareOverlay_ok hprepared
  have hup := prepareOverlayIntent_prepared hupsert
  have hdel := prepareOverlayIntent_prepared hdelete
  rw [wrap_ok] at h
  obtain ⟨⟨p, d⟩, hpd, h⟩ := bind_ok.1 h
  obtain ⟨hgov, h⟩ := reject_then h
  replace h := passed h
  rw [queryRow_ok, Option.filter_eq_some_iff, decide_eq_true_eq] at hpd
  obtain ⟨hpd, happroved, hkind, htarget⟩ := hpd
  push Not at hgov
  obtain ⟨hscope, hpolicy, hprisk, hdigest, hactor, -⟩ := hgov
  obtain ⟨db₁, hinsertU, h⟩ := bind_ok.1 h
  obtain ⟨db₂, hinsertD, h⟩ := bind_ok.1 h
  obtain ⟨pu, rowsU, hpu, rfl, hnewU, hrowsU⟩ := insertOverlayIntent_ok hinsertU
  obtain ⟨pd, rowsD, hpd', rfl, hnewD, hrowsD⟩ := insertOverlayIntent_ok hinsertD
  obtain ⟨hp, -, -⟩ := authorization_some.1 hpd
  obtain rfl : p = pu := Option.some.inj (hp.symm.trans hpu)
  obtain rfl : p = pd := by
    rw [← hproposal] at hpd'
    exact Option.some.inj (hp.symm.trans hpd')
  have hpd₂ : db.authorization delete.proposalId delete.decisionId = some (p, d) := by
    rw [← hproposal, ← hdecision]
    exact hpd
  have hupRow : ∀ row ∈ rowsU, row = newIntent { upsert with fleetOperationId := "" } p.proposalDigest none true 0 := by
    rcases hrowsU with ⟨rfl, -⟩ | rfl <;> simp
  -- the rows that are new, whatever overlays stand behind them
  have hadded : ∀ overlays : List OverlayRow, (∃ o ∈ overlays, o.deleteIntentId = delete.effectIntentId) →
      Added sv db { db with overlays } (rowsU ++ rowsD) := by
    intro overlays hnamed
    have hnone : Operation.overlayUpsert = .overlayDelete → ∃ o ∈ overlays, o.deleteIntentId = upsert.effectIntentId := by
      intro hop
      cases hop
    have hbackedU := hup.backed hpd happroved hkind htarget hpolicy hprisk hdigest hactor hvalid hnone 0
    have hbackedD := hdel.backed hpd₂ happroved hkind htarget hpolicy (hprisk.trans hrisk) (hdigest.trans hauth) hactor
      hvalid (fun _ => hnamed) ov.expiresAtUnixMs
    refine Added.append ?_ ?_
    · rcases hrowsU with ⟨rfl, -⟩ | rfl
      · exact .nil
      · exact added_singleton (by simpa using hnewU) rfl rfl hbackedU
    · rcases hrowsD with ⟨rfl, -⟩ | rfl
      · exact .nil
      · exact added_singleton (by simpa using hnewD) rfl rfl hbackedD
  rcases insertOverlay_ok h with ⟨rfl, hnamed⟩ | ⟨rfl, hnew⟩
  · have hintents := hadded db.overlays (by simpa [overlayRow, hdel.id] using hnamed)
    rw [append_assoc]
    exact .single (.intents _ hintents)
  · have hmem : overlayRow ov rulesSize ∈ db.overlays ++ [overlayRow ov rulesSize] := by simp
    have hintents := hadded _ ⟨_, hmem, hdel.id.symm⟩
    rw [append_assoc]
    refine .single (.overlay _ _ hintents hnew rfl ?_)
    rcases hrowsD with ⟨rfl, stored, hstored, hid, hsame⟩ | rfl
    · -- the upsert intent has another id
      have hold : stored ∈ db.intents := by
        refine (List.mem_append.1 hstored).resolve_right fun hrow => hids ?_
        rw [← hup.id, ← hdel.id, ← hid, hupRow stored hrow]
        rfl
      exact Or.inr ⟨stored, hold, hid.trans hdel.id, hrecalled upsert delete hprepared stored hold hid hsame⟩
    · refine Or.inl ⟨p, mem_of_lookup hp, _, mem_append_right _ (mem_singleton_self _), ?_⟩
      exact
        { id := hdel.id, single := rfl, child := hdel.single, target := hdel.target, kind := hdel.kind
          operation := hdel.operation, policy := hdel.policy, notBefore := rfl, gate := rfl
          proposal := hproposal.symm.trans (lookup_key hp).symm, scope := hscope }

theorem markDeleted_writes {overlayRuleId : String} (h : markDeleted overlayRuleId db = .ok db')
    (hunique : Table.Unique OverlayRow.overlayRuleId db.overlays) : Writes sv perm db db' := by
  obtain ⟨o, ho, h⟩ := bind_ok.1 h
  obtain ⟨hstate, h⟩ := reject_then h
  cases h
  rw [queryRow_ok] at ho
  rw [not_not, Option.bind_eq_some_iff] at hstate
  obtain ⟨row, hrow, hfinal⟩ := hstate
  have hid : o.overlayRuleId = overlayRuleId := by simpa using find?_some ho
  have hmap : Table.modify OverlayRow.overlayRuleId db.overlays overlayRuleId (fun o => { o with deleted := true }) =
      db.overlays.map fun x => if decide (x.overlayRuleId = overlayRuleId) = true then { x with deleted := true } else x := by
    simp [Table.modify]
  rw [hmap]
  refine .single (.deleteOverlays _ fun x hx hgone => ⟨row, mem_of_lookup hrow, ?_, hfinal⟩)
  rw [hunique x hx o (mem_of_find?_eq_some ho) ((of_decide_eq_true hgone).trans hid.symm)]
  exact lookup_key hrow

/-! ## Revisions and activations -/

theorem createRevision_writes {rev : Revision} (h : createRevision sv.profile.hash rev rulesSize db = .ok db') :
    Writes sv perm db db' := by
  replace h := passed h
  dsimp only at h
  split at h
  · replace h := passed h
    cases h
    exact .refl
  · rename_i hnew
    cases h
    refine .single (.revision _ fun r hr => ?_)
    have hfree := List.find?_eq_none.1 hnew r hr
    rw [decide_eq_true_eq, not_or] at hfree
    exact hfree

theorem insertActivation_ok {row : ActivationRow} (h : insertActivation row db = .ok db') :
    (db' = db ∧ ∃ b ∈ db.activations, b.operationId = row.operationId) ∨
      (db' = { db with activations := db.activations ++ [row] } ∧ db.activation? row.operationId = none ∧
      (∃ r ∈ db.revisions, r.revision.revisionId = row.desiredRevisionId ∧ r.revision.targetId = row.targetId) ∧
      ¬ ∃ b ∈ db.activations, b.targetId = row.targetId ∧ b.IsOpen) := by
  unfold insertActivation at h
  split at h
  · rename_i b hb
    exact Or.inl ⟨(Except.ok.inj h).symm, b, mem_of_lookup hb, lookup_key hb⟩
  · rename_i hnew
    obtain ⟨howner, h⟩ := reject_then h
    obtain ⟨halone, h⟩ := reject_then h
    exact Or.inr ⟨(Except.ok.inj h).symm, hnew, not_not.1 howner, halone⟩

theorem activate_writes {desiredRevisionId : String} (h : activate targetId desiredRevisionId operationId db = .ok db') :
    Writes sv perm db db' := by
  replace h := passed h
  split at h
  · cases h
  · rename_i row hrow
    obtain ⟨hstate, h⟩ := reject_then h
    obtain ⟨db₁, hinsert, h⟩ := bind_ok.1 h
    obtain ⟨_, -, h⟩ := bind_ok.1 h
    replace h := passed h
    cases h
    rw [not_not] at hstate
    have hgate : ∀ db₁ : Db, Write sv perm db₁ (db₁.setClaim row.intentId fun claim => { claim with gateOpen := true }) := by
      intro db₁
      refine .claims _ fun other _ => ?_
      split
      · exact .openGate
      · exact .same
    rcases insertActivation_ok hinsert with ⟨rfl, -⟩ | ⟨rfl, hnew, howner, halone⟩
    · exact .single (hgate _)
    · have hcond := find?_some hrow
      rw [Bool.and_eq_true, decide_eq_true_eq, Option.any_eq_true] at hcond
      obtain ⟨hintent, p, hp, hrevision⟩ := hcond
      obtain ⟨r, hr, hmatch⟩ := any_eq_true.1 hrevision
      refine .tail (.single (.activation _ row p ?_)) (hgate _)
      exact
        { new := hnew, result := rfl, expected := rfl, alone := halone, intent := ⟨mem_of_find?_eq_some hrow, hintent⟩
          pending := Or.inl hstate, proposal := hp, revision := ⟨r, hr, of_decide_eq_true hmatch⟩, owner := howner }

/-! ## Fleet operations -/

/-- what stands behind the row of a fleet intent -/
theorem insertFleetIntent_ok {gateOpen : Bool} (h : insertFleetIntent sv now intent gateOpen db = .ok db') :
    ∃ p d, db.authorization intent.proposalId intent.decisionId = some (p, d) ∧
      db' = { db with intents := db.intents ++
        [newIntent intent p.proposalDigest (some intent.fleetOperationId) gateOpen 0] } ∧
      (∀ other ∈ db.intents,
        ¬ intentConflict (newIntent intent p.proposalDigest (some intent.fleetOperationId) gateOpen 0) other) ∧
      (d.approved = true ∧ d.decisionDigest = intent.authorizationDigest ∧ p.proposal.effectKind = intent.effectKind ∧
        p.proposal.riskLevel = intent.riskLevel ∧ d.actor = intent.actor ∧
        (intent.isFleetParent = true ∨ intent.targetId ∈ p.proposal.targetIds)) ∧
      validateFence intent.fence = .ok () ∧ (intent.isFleetParent = false → checkStored sv intent = .ok ()) := by
  replace h := passed h
  obtain ⟨_, hactor, h⟩ := bind_ok.1 h
  obtain ⟨_, hfenced, h⟩ := bind_ok.1 h
  obtain ⟨_, hpayload, h⟩ := bind_ok.1 h
  obtain ⟨⟨p, d⟩, hpd, h⟩ := bind_ok.1 h
  obtain ⟨hnew, h⟩ := reject_then h
  cases h
  push Not at hnew
  rw [queryRow_ok, Option.filter_eq_some_iff, decide_eq_true_eq] at hpd
  obtain ⟨hpd, happroved, -, -, hrest⟩ := hpd
  refine ⟨p, d, hpd, rfl, hnew, ⟨happroved, hrest⟩, hfenced, fun hchild => checkStored_of hactor fun hkind => ?_⟩
  rw [if_neg (by simp [hchild, hkind])] at hpayload
  obtain ⟨_, hvalid, hdigest⟩ := bind_ok.1 hpayload
  exact ⟨hvalid, not_not.1 (reject_ok.1 hdigest)⟩

/-- a child with its payload, before it is inserted -/
structure LoadedChild (sv : Services) (db : Db) (p : ProposalRow) (d : DecisionRow) (fo : FleetRequest)
    (child : ChildRequest × Intent) : Prop where
  loaded : Loaded sv db p.proposal.policyDigest (fleetChild p d fo child.1) child.2
  digest : child.2.effectDigest ≠ ""

theorem loadFleetChildren_ok {requests : List ChildRequest} {children : List (ChildRequest × Intent)}
    (h : requests.mapM (loadFleetChild sv db p d fo capture) = .ok children) :
    children.map Prod.fst = requests ∧ ∀ c ∈ children, LoadedChild sv db p d fo c := by
  have hall := mapM_ok.1 h
  clear h
  induction hall with
  | nil => simp
  | cons hc _ ih =>
    obtain ⟨intent, hintent, hc⟩ := bind_ok.1 hc
    obtain ⟨hdigest, hc⟩ := reject_then hc
    cases hc
    obtain ⟨hfst, hloaded⟩ := ih
    refine ⟨by simp [hfst], ?_⟩
    simp only [mem_cons, forall_eq_or_imp]
    exact ⟨⟨loadEffectPayload_ok hintent, hdigest⟩, hloaded⟩

/-- the row of a child intent, and what stands behind it -/
structure ChildInserted (sv : Services) (db : Db) (fleetOperationId : String) (c : ChildRequest) (row : IntentRow) : Prop where
  id : row.intentId = c.intentId
  target : row.intent.targetId = c.targetId
  operation : row.fleetOperationId = some fleetOperationId
  child : row.intent.isFleetParent = false
  digest : row.intent.effectDigest ≠ ""
  notBefore : row.notBeforeUnixMs = 0
  lease : row.claim.leaseId = none
  state : row.claim.state = some .unclaimed
  backed : Backed sv db row

/-- the tables while a fleet operation is inserted -/
def Db.inserting (db : Db) (intents : List IntentRow) (fleets : List FleetRow) (children : List FleetChildRow) : Db :=
  { db with intents, fleets, fleetChildren := children }

theorem insertFleetChild_ok {child : ChildRequest × Intent} (hp : db.proposal? p.proposalId = some p)
    (hloaded : LoadedChild sv db p d fo child)
    (h : insertFleetChild sv now fo.fleetOperationId (db.inserting intents fleets children) child = .ok db') :
    ∃ row, ChildInserted sv db fo.fleetOperationId child.1 row ∧ row.intent.effectDigest = child.2.effectDigest ∧
      (∀ other ∈ intents, ¬ intentConflict row other) ∧
      db' = db.inserting (intents ++ [row]) fleets (children ++ [childRow fo.fleetOperationId child.1 row.intent]) := by
  obtain ⟨c, input⟩ := child
  obtain ⟨payload, effectDigest, hbody⟩ := hloaded.loaded.body
  dsimp only at hbody
  subst hbody
  obtain ⟨db₁, hinsert, h⟩ := bind_ok.1 h
  replace h := passed h
  cases h
  obtain ⟨p', d', hpd, rfl, hnew, ⟨happroved, hdigest, hkind, hrisk, hactor, htarget⟩, hfenced,
    hstored⟩ := insertFleetIntent_ok hinsert
  obtain ⟨hp', hd', hpid, hdid, hjoined⟩ := authorization_mem hpd
  obtain rfl : p = p' := Option.some.inj (hp.symm.trans (authorization_some.1 hpd).1)
  refine ⟨_, ?_, rfl, hnew, rfl⟩
  exact
    { id := rfl, target := rfl, operation := rfl, child := rfl, digest := hloaded.digest, notBefore := rfl, lease := rfl
      state := rfl
      backed :=
        { authorized := ⟨p, hp', d', hd',
            { proposalId := hpid, decisionId := hdid, joined := hjoined.trans hpid.symm, approved := happroved
              digest := hdigest, kind := hkind, risk := hrisk, actor := hactor, proposalDigest := rfl
              policy := fun _ => hloaded.loaded.policy, target := fun _ => htarget.resolve_left Bool.false_ne_true }⟩
          fenced := hfenced
          stored := fun _ => hstored rfl
          revision := fun _ hbase => by
            obtain ⟨r, hr, hrdigest, hrtarget⟩ := hloaded.loaded.revision hbase
            exact ⟨r, hr, hrdigest.trans hloaded.loaded.policy.symm, hrtarget⟩
          named := fun _ hop => hloaded.loaded.named hop } }

/-- the rows a fleet operation inserts for its children -/
theorem insertFleetChildren_ok (hp : db.proposal? p.proposalId = some p) {loaded : List (ChildRequest × Intent)}
    (hloaded : ∀ c ∈ loaded, LoadedChild sv db p d fo c)
    (h : loaded.foldlM (insertFleetChild sv now fo.fleetOperationId) (db.inserting intents fleets children) = .ok db') :
    ∃ rows : List (ChildRequest × IntentRow), rows.map Prod.fst = loaded.map Prod.fst ∧
      (childRows fo.fleetOperationId rows = loaded.map fun c => childRow fo.fleetOperationId c.1 c.2) ∧
      (∀ c ∈ rows, ChildInserted sv db fo.fleetOperationId c.1 c.2) ∧
      Added sv { db with intents } db (rows.map Prod.snd) ∧
      db' = db.inserting (intents ++ rows.map Prod.snd) fleets (children ++ childRows fo.fleetOperationId rows) := by
  induction loaded generalizing intents children with
  | nil =>
    cases h
    exact ⟨[], rfl, rfl, by simp, .nil, by simp [childRows]⟩
  | cons c _ ih =>
    obtain ⟨db₁, hinsert, h⟩ := bind_ok.1 h
    obtain ⟨row, hrow, hdigest, hnew, rfl⟩ := insertFleetChild_ok hp (hloaded c mem_cons_self) hinsert
    obtain ⟨rows, hfst, hchildren, hinserted, hadded, rfl⟩ := ih (fun c hc => hloaded c (mem_cons_of_mem _ hc)) h
    refine ⟨(c.1, row) :: rows, by simp [hfst], ?_, ?_, ?_, ?_⟩
    · simp only [childRows, map_cons] at hchildren ⊢
      rw [hchildren]
      simp [childRow, hdigest]
    · simp only [mem_cons, forall_eq_or_imp]
      exact ⟨hrow, hinserted⟩
    · have hstate : row.claim.state = if row.intent.isFleetParent then none else some .unclaimed := by
        rw [hrow.child]
        exact hrow.state
      exact (added_singleton hnew hrow.lease hstate hrow.backed).append hadded
    · simp [childRows, Db.inserting]

theorem createApprovedFleetOperation_writes
    (h : createApprovedFleetOperation sv now fo capture d inserted db = .ok db') (hperm : inserted = true → perm.fleet fo) :
    Writes sv perm db db' := by
  replace h := passed h
  obtain ⟨p, hp, h⟩ := bind_ok.1 h
  replace h := passed h
  obtain ⟨loaded, hload, h⟩ := bind_ok.1 h
  rw [queryRow_ok] at hp
  have hpid : db.proposal? p.proposalId = some p := by rwa [lookup_key hp]
  obtain ⟨hfst, hloaded⟩ := loadFleetChildren_ok hload
  split at h
  · rename_i hinserted
    obtain ⟨db₁, hparent, h⟩ := bind_ok.1 h
    obtain ⟨hfree, h⟩ := reject_then h
    obtain ⟨p', d', hpd, rfl, hnew, ⟨happroved, hdigest, hkind, hrisk, hactor, -⟩, hfenced, -⟩ :=
      insertFleetIntent_ok hparent
    obtain ⟨hp', hd', hpid', hdid, hjoined⟩ := authorization_mem hpd
    obtain ⟨rows, hrows, hchildren, hins, hadded, rfl⟩ := insertFleetChildren_ok hpid hloaded h
    rw [Bool.not_eq_true, Option.isSome_eq_false_iff, Option.isNone_iff_eq_none] at hfree
    have hbacked : Backed sv db (newIntent
        (fleetParent sv.profile.hash p d fo (computeFleetOperationDigest sv fo loaded d.decisionDigest)) p'.proposalDigest
        (some fo.fleetOperationId) false 0) :=
      { authorized := ⟨p', hp', d', hd',
          { proposalId := hpid', decisionId := hdid, joined := hjoined.trans hpid'.symm, approved := happroved
            digest := hdigest, kind := hkind, risk := hrisk, actor := hactor, proposalDigest := rfl
            policy := nofun
            target := fun hchild => by cases hchild }⟩
        fenced := hfenced
        stored := nofun
        revision := nofun
        named := fun hchild => by cases hchild }
    have hwrite := Write.fleet fo _ rows (fleetRow sv _ fo loaded _) (hperm hinserted) rfl
      ((added_singleton hnew rfl rfl hbacked).append hadded)
      { new := hfree, waves := rfl, aggregate := rfl, requests := hrows.trans hfst
        rows := fun c hc => ⟨(hins c hc).id, (hins c hc).target, (hins c hc).operation, (hins c hc).child, (hins c hc).digest,
          (hins c hc).notBefore⟩
        vector := by
          change completedVectorDigest sv _ = completedVectorDigest sv (List.map _ (childRows fo.fleetOperationId rows))
          rw [hchildren, List.map_map]
          rfl }
    refine .single ?_
    rw [append_assoc]
    exact hwrite
  · obtain ⟨_, -, h⟩ := bind_ok.1 h
    obtain ⟨_, -, h⟩ := bind_ok.1 h
    replace h := passed h
    cases h
    exact .refl

section

variable (h : authorizeManualGate sv fleetOperationId currentWave nextWave provided d db = .ok db')
include h

/-- a manual gate is authorized for the vector the gate recomputes -/
theorem authorizeManualGate_ok :
    completedVectorDigest sv ((db.childrenOf fleetOperationId).map FleetChildRow.entry) = provided ∧
      (∃ p, db.proposal? d.proposalId = some p) ∧ ∃ row : GateDecisionRow,
        row = ⟨fleetOperationId, currentWave, nextWave, provided, d.proposalId, d.decisionId⟩ ∧
        (db' = db ∧ row ∈ db.gateDecisions ∨ db' = { db with gateDecisions := db.gateDecisions ++ [row] }) := by
  replace h := passed h
  obtain ⟨_, -, h⟩ := bind_ok.1 h
  obtain ⟨p, hp, h⟩ := bind_ok.1 h
  replace h := passed h
  replace h := passed h
  obtain ⟨hactual, h⟩ := reject_then h
  have hvector := not_not.1 hactual
  refine ⟨hvector, ⟨p, queryRow_ok.1 hp⟩, _, rfl, ?_⟩
  rw [hvector] at h
  split at h
  · rename_i stored hstored
    obtain ⟨hsame, h⟩ := reject_then h
    exact .inl ⟨(Except.ok.inj h).symm, not_not.1 hsame ▸ mem_of_find?_eq_some hstored⟩
  · replace h := passed h
    exact .inr (Except.ok.inj h).symm

theorem authorizeManualGate_writes : Writes sv perm db db' := by
  obtain ⟨-, -, row, -, ⟨rfl, -⟩ | rfl⟩ := authorizeManualGate_ok h
  · exact .refl
  · exact .single (.gateDecision row)

end

/-! ## Claims -/

/-- what a successful claim has checked -/
structure ClaimChecked (db : Db) (now : ℤ) (effectDigest : String) (row : IntentRow) : Prop where
  single : row.intent.isFleetParent = false
  deadline : now < row.intent.deadlineUnixMs
  notBefore : row.notBeforeUnixMs ≤ now
  gate : gateOpen db row
  state : row.claim.state = some .unclaimed
  digest : row.intent.effectDigest = effectDigest

section

variable (h : claimIntent now claimKey .unclaimed effectDigest leaseId leaseTtl db = .ok (.claimed, db'))
include h

theorem claimIntent_claimed :
    ∃ row, db.intent? claimKey = some row ∧ ClaimChecked db now effectDigest row ∧
      db' = db.setClaim claimKey fun claim => claim.take leaseId (now + leaseTtl) := by
  unfold claimIntent at h
  split at h
  · cases h
  · rename_i row hrow
    split at h
    · cases h
    · split at h
      · cases h
      · rename_i state hstate
        split_ifs at h with hparent hexpired hearly hfenced hconflict hdigest
        · cases h
        · cases h
        · cases h
        · cases h
        · cases h
        · cases h
        · cases h
          push Not at hexpired hearly hfenced hconflict hdigest
          exact ⟨row, hrow, ⟨by simpa using hparent, hexpired.1, hearly, hfenced.1, hconflict ▸ hstate, hdigest⟩, rfl⟩

theorem claimIntent_writes
    (hunique : Table.Unique IntentRow.intentId db.intents) : Writes sv perm db db' := by
  obtain ⟨row, hrow, hchecked, rfl⟩ := claimIntent_claimed h
  refine .single (.claims _ fun other hother => ?_)
  split
  · rename_i hid
    have hsame : other = row := hunique other hother row (mem_of_lookup hrow) (hid.trans (lookup_key hrow).symm)
    exact .take (hsame ▸ hchecked.state) (hsame ▸ hchecked.gate) _ _
  · exact .same

end

theorem renewIntentLease_writes (now : ℤ) (intentId leaseId : String) (leaseTtl : ℤ) :
    Writes sv perm db (renewIntentLease now intentId leaseId leaseTtl db) := by
  refine .single (.claims _ fun row _ => ?_)
  split
  · dsimp only
    split
    · exact .renew _
    · exact .same
  · exact .same

theorem fenceOwnedClaims_writes {owned : String → Bool}
    (hperm : ∀ row ∈ db.intents, row.claim.state = some .claimed → row.claim.leaseId.any owned = true → perm.shutdown db row) :
    Writes sv perm db (fenceOwnedClaims owned db) := by
  refine .single (.claims _ fun row hrow => ?_)
  split
  · rename_i howned
    exact .shutdown howned.1 (hperm row hrow howned.1 howned.2)
  · exact .same

theorem insertEffectAck_writes
    (h : insertEffectAck intent resultDigest committedAt db = .ok db') : Writes sv perm db db' := by
  replace h := passed h
  split at h
  · cases h
    exact .refl
  · cases h
    exact .single (.acks _)

theorem markAcked_writes (h : markAcked operationId db = .ok db') : Writes sv perm db db' := by
  obtain ⟨_, -, h⟩ := bind_ok.1 h
  replace h := passed h
  cases h
  exact .single (.acks _)

/-! ## Projections -/

/-- the projection into a fleet operation: nothing, or an allowed transition of one child -/
theorem projectFleet_cases (h : projectFleet sv intentId state outcome reasonCode db = .ok db') :
    (db' = db ∧ ∀ status child, fleetChildStatus state outcome = .ok (some status) → db.child? intentId = some child →
        allowedChildTransition child.progress.status status = false) ∨
      ∃ status child fo, fleetChildStatus state outcome = .ok (some status) ∧ db.child? intentId = some child ∧
        allowedChildTransition child.progress.status status = true ∧ db.fleet? child.fleetOperationId = some fo ∧
        db' = refreshFleet sv
          (if waveFailurePolicy fo.waves child.waveIndex = some .failFast ∧ status.stops = true then
            blockLaterWaves (setChildStatus db intentId status reasonCode) child.fleetOperationId child.waveIndex
          else setChildStatus db intentId status reasonCode) child.fleetOperationId := by
  obtain ⟨projected, hstatus, h⟩ := bind_ok.1 h
  cases projected with
  | none =>
    refine Or.inl ⟨(Except.ok.inj h).symm, fun status child hs => ?_⟩
    rw [hstatus] at hs
    cases hs
  | some status =>
    cases hchild : db.child? intentId with
    | none =>
      rw [hchild] at h
      exact Or.inl ⟨(Except.ok.inj h).symm, fun _ child _ hc => by cases hc⟩
    | some child =>
      rw [hchild] at h
      dsimp only at h
      split at h
      · rename_i hrefused
        refine Or.inl ⟨(Except.ok.inj h).symm, fun status' child' hs hc => ?_⟩
        cases hstatus.symm.trans hs
        cases hc
        exact hrefused
      · rename_i hallowed
        obtain ⟨fo, hfo, h⟩ := bind_ok.1 h
        exact Or.inr ⟨status, child, fo, hstatus, rfl, by simpa using hallowed, queryRow_ok.1 hfo, (Except.ok.inj h).symm⟩

theorem mapClaims_claim (db : Db) : db.mapClaims IntentRow.claim = db := by
  simp [Db.mapClaims]

/-- a row that a fail-fast wave may have blocked -/
def BlockedOrSame (row : IntentRow) (claim : Claim) : Prop :=
  claim = row.claim ∨ (row.claim.state = some .unclaimed ∧ claim = { row.claim with state := some .blocked, gateOpen := false })

/-- the projection into a fleet operation changes claims only to block them -/
theorem projectFleet_frame (h : projectFleet sv intentId state outcome reasonCode db = .ok db') :
    ∃ f fleets children, db' = { db.mapClaims f with fleets, fleetChildren := children } ∧
      ∀ row ∈ db.intents, BlockedOrSame row (f row) := by
  rcases projectFleet_cases h with ⟨rfl, -⟩ | ⟨status, child, fo, -, -, -, -, rfl⟩
  · exact ⟨IntentRow.claim, db'.fleets, db'.fleetChildren, by rw [mapClaims_claim], fun row _ => Or.inl rfl⟩
  · split
    · refine ⟨_, _, _, rfl, fun row _ => ?_⟩
      split
      · rename_i hblock
        exact Or.inr ⟨hblock.2, rfl⟩
      · exact Or.inl rfl
    · refine ⟨IntentRow.claim, (refreshFleet sv (setChildStatus db intentId status reasonCode) child.fleetOperationId).fleets,
        (setChildStatus db intentId status reasonCode).fleetChildren, ?_, fun row _ => Or.inl rfl⟩
      rw [mapClaims_claim]
      rfl

/-- the tables the firewall projection writes -/
def Db.withFirewall (db : Db) (overlays : List OverlayRow) (bindings : List BindingRow) (activations : List ActivationRow) :
    Db :=
  { db with overlays, bindings, activations }

/-- a transaction that does not read what `g` writes -/
def Commutes (g : Db → Db) (tx : Db → GoResult Db) : Prop := ∀ db, tx (g db) = (tx db).map g

/-- the projection into a fleet operation does not read what the firewall projection writes -/
theorem projectFleet_withFirewall (overlays : List OverlayRow) (bindings : List BindingRow)
    (activations : List ActivationRow) :
    Commutes (·.withFirewall overlays bindings activations) (projectFleet sv intentId state outcome reasonCode) := by
  refine fun db => bind_eq_map fun status => ?_
  cases status with
  | none => rfl
  | some =>
    rw [show (db.withFirewall overlays bindings activations).child? = db.child? from rfl]
    cases db.child? intentId with
    | none => rfl
    | some =>
      dsimp only
      split
      · rfl
      · refine bind_eq_map fun fo => ?_
        split <;> rfl

/-- the tables the projection into a fleet operation writes -/
def Db.withFleet (db : Db) (f : IntentRow → Claim) (fleets : List FleetRow) (children : List FleetChildRow) : Db :=
  { db.mapClaims f with fleets, fleetChildren := children }

section

variable (f : IntentRow → Claim) (fleets : List FleetRow) (children : List FleetChildRow)

theorem insertActivation_withFleet (a : ActivationRow) : Commutes (·.withFleet f fleets children) (insertActivation a) := by
  intro db
  unfold insertActivation
  rw [show (db.withFleet f fleets children).activation? = db.activation? from rfl]
  cases db.activation? a.operationId with
  | some => rfl
  | none => exact bind_eq_map fun _ => bind_eq_map fun _ => rfl

theorem setActivation_withFleet (operationId : String) (result : ActivationResult) :
    Commutes (·.withFleet f fleets children) (setActivation operationId result) := by
  intro db
  unfold setActivation
  rw [show (db.withFleet f fleets children).activation? = db.activation? from rfl]
  cases db.activation? operationId with
  | none => rfl
  | some => exact bind_eq_map fun _ => rfl

theorem compareAndSet_withFleet (targetId : String) (expected : Binding) (revisionId : String) (activeBank : ℕ)
    (policyDigest : String) :
    Commutes (·.withFleet f fleets children) (compareAndSet targetId expected revisionId activeBank policyDigest) := by
  intro db
  unfold compareAndSet
  rw [show (db.withFleet f fleets children).binding? = db.binding? from rfl]
  cases db.binding? targetId <;> exact bind_eq_map fun _ => rfl

theorem projectBaseline_withFleet (intent : Intent) (policyDigest : String) (state : ClaimState)
    (outcome : Option AttemptStatus) :
    Commutes (·.withFleet f fleets children) (projectBaseline intent policyDigest state outcome) := by
  refine fun db => bind_eq_map fun r => ?_
  split_ifs
  · exact insertActivation_withFleet f fleets children _ db
  · exact setActivation_withFleet f fleets children _ _ db
  · exact setActivation_withFleet f fleets children _ _ db
  · refine bind_eq_map fun attempt => bind_eq_map fun _ => bind_eq_map fun a => ?_
    rw [compareAndSet_withFleet f fleets children]
    refine (bind_map_left _ _ _).trans (bind_eq_map fun db => bind_eq_map fun _ => ?_)
    exact setActivation_withFleet f fleets children _ _ db
  · rfl

/-- the firewall projection does not read what the projection into a fleet operation writes -/
theorem projectFirewall_withFleet (intentId : String) (state : ClaimState) (outcome : Option AttemptStatus) :
    Commutes (·.withFleet f fleets children) (projectFirewall intentId state outcome) := by
  intro db
  have hintent : (db.withFleet f fleets children).intent? intentId =
      (db.intent? intentId).map fun row => { row with claim := f row } := intent?_mapClaims db f intentId
  unfold projectFirewall
  rw [hintent]
  cases db.intent? intentId with
  | none => rfl
  | some row =>
    dsimp only [Option.map_some]
    rw [show (db.withFleet f fleets children).proposal? = db.proposal? from rfl]
    cases db.proposal? row.intent.proposalId with
    | none => rfl
    | some =>
      dsimp only
      split
      · exact bind_eq_map fun _ => projectBaseline_withFleet f fleets children _ _ _ _ db
      · exact bind_eq_map fun _ => projectBaseline_withFleet f fleets children _ _ _ _ db
      · refine bind_eq_map fun _ => ?_
        unfold projectOverlay
        split <;> rfl
      · rfl

end

/-- what a transaction reports of a row it has settled -/
def Reports (row : IntentRow) (state : ClaimState) (outcome : Option AttemptStatus) : Prop :=
  (state = .claimed ∧ outcome = none ∧ row.claim.leaseId ≠ none) ∨
    (row.claim.state = some state ∧ (state = .hold ∧ outcome = some .hold ∨
      state = .unknown ∧ (outcome = some .unknown ∨ outcome = some .reconciling) ∨
      state = .finalized ∧ outcome = some .applied))

variable {f : Claim → Claim}

theorem Settling.reports (h : Settling row f attempt state outcome) :
    Reports { row with claim := f row.claim } state outcome := by
  cases h with
  | holdBack => exact Or.inr ⟨rfl, Or.inl ⟨rfl, rfl⟩⟩
  | fence => exact Or.inr ⟨rfl, Or.inr (Or.inl ⟨rfl, Or.inl rfl⟩)⟩
  | verdict _ _ consistent =>
    refine Or.inr ⟨rfl, ?_⟩
    rcases consistent.2 with ⟨hs, ho⟩ | ⟨hs, ho⟩ | ⟨hs, ho⟩
    · exact Or.inr (Or.inr ⟨hs, congrArg some ho⟩)
    · exact Or.inl ⟨hs, congrArg some ho⟩
    · exact Or.inr (Or.inl ⟨hs, ho.imp (congrArg some) (congrArg some)⟩)
  | project found => exact Or.inl ⟨rfl, rfl, found⟩

/-- a blocked row reports the same -/
theorem Reports.blockedOrSame (h : Reports row state outcome) {claim : Claim} (hclaim : BlockedOrSame row claim) :
    Reports { row with claim } state outcome := by
  rcases hclaim with rfl | ⟨hstate, rfl⟩
  · exact h
  · rcases h with h | ⟨hs, ho⟩
    · exact Or.inl h
    · rw [hs] at hstate
      cases hstate
      simp at ho

theorem projectBaseline_writes (h : projectBaseline row.intent p.proposal.policyDigest state outcome db = .ok db')
    (hrow : row ∈ db.intents) (hp : db.proposal? row.intent.proposalId = some p) (hbase : row.intent.effectKind.IsBaseline)
    (hreports : Reports row state outcome) : Writes sv perm db db' := by
  obtain ⟨r, hr, h⟩ := bind_ok.1 h
  rw [wrap_ok, queryRow_ok] at hr
  obtain ⟨hmem, hdigest, -⟩ := find_decide hr
  split_ifs at h with hclaimed hunknown hhold happlied
  · rcases insertActivation_ok h with ⟨rfl, -⟩ | ⟨rfl, hnew, howner, halone⟩
    · exact .refl
    · refine .single (.activation _ row p ?_)
      refine { new := hnew, result := rfl, expected := rfl, alone := halone, intent := ⟨hrow, rfl, rfl, hbase⟩, pending := ?_
               proposal := hp, revision := ⟨r, hmem, rfl, hdigest⟩, owner := howner }
      rcases hreports with ⟨-, -, hlease⟩ | ⟨-, hs⟩
      · exact Or.inr hlease
      · simp [hclaimed] at hs
  · refine .single (.settleActivation _ _ row hrow rfl (Or.inl ⟨?_, rfl⟩) _ h)
    rcases hreports with ⟨hs, ho, -⟩ | ⟨hstate, hs⟩
    · simp [hs, ho] at hunknown
    · rw [hstate]
      rcases hs with ⟨hs, ho⟩ | ⟨hs, -⟩ | ⟨hs, ho⟩
      · simp [hs, ho] at hunknown
      · rw [hs]
      · simp [hs, ho] at hunknown
  · refine .single (.settleActivation _ _ row hrow rfl (Or.inr ⟨?_, rfl⟩) _ h)
    rcases hreports with ⟨hs, ho, -⟩ | ⟨hstate, hs⟩
    · simp [hs, ho] at hhold
    · rw [hstate]
      rcases hs with ⟨hs, -⟩ | ⟨hs, -⟩ | ⟨hs, ho⟩
      · rw [hs]
      · simp [hs] at hunknown
      · simp [hs, ho] at hhold
  · refine .single (.commit row hrow ?_ _ _ _ h)
    rcases hreports with ⟨hs, -, -⟩ | ⟨hstate, -⟩
    · exact absurd hs hclaimed
    · rw [hstate, happlied.1]
  · cases h
    exact .refl

/-- a projection writes for a baseline, for an overlay, or nothing -/
theorem projectFirewall_ok (h : projectFirewall intentId state outcome db = .ok db') :
    db' = db ∨ ∃ row, db.intent? intentId = some row ∧ (db' = projectOverlay row.intent outcome db ∨
      ∃ p, db.proposal? row.intent.proposalId = some p ∧ row.intent.effectKind.IsBaseline ∧
        projectBaseline row.intent p.proposal.policyDigest state outcome db = .ok db') := by
  unfold projectFirewall at h
  split at h
  · exact .inl (Except.ok.inj h).symm
  · rename_i row hrow
    split at h
    · exact .inl (Except.ok.inj h).symm
    · rename_i p hp
      split at h
      · rename_i hkind
        replace h := passed h
        exact .inr ⟨row, hrow, .inr ⟨p, hp, .inl hkind, h⟩⟩
      · rename_i hkind
        replace h := passed h
        exact .inr ⟨row, hrow, .inr ⟨p, hp, .inr hkind, h⟩⟩
      · replace h := passed h
        exact .inr ⟨row, hrow, .inl (Except.ok.inj h).symm⟩
      · exact .inl (Except.ok.inj h).symm

theorem projectFirewall_writes (h : projectFirewall intentId state outcome db = .ok db')
    (hrow : db.intent? intentId = some row) (hreports : Reports row state outcome) : Writes sv perm db db' := by
  have hmem := mem_of_lookup hrow
  rcases projectFirewall_ok h with rfl | ⟨row', hrow', hcase⟩
  · exact .refl
  obtain rfl : row = row' := Option.some.inj (hrow.symm.trans hrow')
  rcases hcase with rfl | ⟨p, hp, hbase, hbaseline⟩
  · unfold projectOverlay
    split
    · rename_i happlied
      have hfinal : row.claim.state = some .finalized := by
        rcases hreports with ⟨-, ho, -⟩ | ⟨hstate, hs⟩
        · simp [ho] at happlied
        · rw [hstate]
          rcases hs with ⟨-, ho⟩ | ⟨-, ho⟩ | ⟨hs, -⟩
          · simp [ho] at happlied
          · rcases ho with ho | ho <;> simp [ho] at happlied
          · rw [hs]
      have hmap : (db.overlays.map fun o =>
            if o.deleteIntentId = row.intent.effectIntentId then { o with deleted := true } else o) =
          db.overlays.map fun o => if decide (o.deleteIntentId = row.intent.effectIntentId) = true then
            { o with deleted := true } else o := by simp
      rw [hmap]
      exact .single (.deleteOverlays _ fun o _ hgone => ⟨row, hmem, (of_decide_eq_true hgone).symm, hfinal⟩)
    · exact .refl
  · exact projectBaseline_writes hbaseline hmem hp hbase hreports

theorem setActivation_frame {result : ActivationResult} (h : setActivation operationId result db = .ok db') :
    ∃ activations, db' = db.withFirewall db.overlays db.bindings activations := by
  unfold setActivation at h
  split at h
  · exact ⟨db.activations, (Except.ok.inj h).symm⟩
  · replace h := passed h
    exact ⟨_, (Except.ok.inj h).symm⟩

theorem compareAndSet_frame {expected : Binding} {activeBank : ℕ}
    (h : compareAndSet targetId expected revisionId activeBank policyDigest db = .ok db') :
    ∃ bindings, db' = db.withFirewall db.overlays bindings db.activations := by
  unfold compareAndSet at h
  split at h
  · replace h := passed h
    exact ⟨_, (Except.ok.inj h).symm⟩
  · replace h := passed h
    exact ⟨_, (Except.ok.inj h).symm⟩

theorem commitBaseline_frame (h : commitBaseline intent policyDigest revisionId db = .ok db') :
    ∃ bindings activations, db' = db.withFirewall db.overlays bindings activations := by
  obtain ⟨_, -, h⟩ := bind_ok.1 h
  replace h := passed h
  obtain ⟨_, -, h⟩ := bind_ok.1 h
  obtain ⟨db₁, hcas, h⟩ := bind_ok.1 h
  replace h := passed h
  obtain ⟨bindings, rfl⟩ := compareAndSet_frame hcas
  obtain ⟨activations, rfl⟩ := setActivation_frame h
  exact ⟨bindings, activations, rfl⟩

theorem projectBaseline_frame (h : projectBaseline intent policyDigest state outcome db = .ok db') :
    ∃ bindings activations, db' = db.withFirewall db.overlays bindings activations := by
  obtain ⟨_, -, h⟩ := bind_ok.1 h
  split_ifs at h
  · rcases insertActivation_ok h with ⟨rfl, -⟩ | ⟨rfl, -⟩
    · exact ⟨db'.bindings, db'.activations, rfl⟩
    · exact ⟨db.bindings, _, rfl⟩
  · obtain ⟨activations, rfl⟩ := setActivation_frame h
    exact ⟨db.bindings, activations, rfl⟩
  · obtain ⟨activations, rfl⟩ := setActivation_frame h
    exact ⟨db.bindings, activations, rfl⟩
  · exact commitBaseline_frame h
  · exact ⟨db.bindings, db.activations, (Except.ok.inj h).symm⟩

theorem projectFirewall_frame (h : projectFirewall intentId state outcome db = .ok db') :
    ∃ overlays bindings activations, db' = db.withFirewall overlays bindings activations := by
  rcases projectFirewall_ok h with rfl | ⟨row, -, rfl | ⟨p, -, -, hbaseline⟩⟩
  · exact ⟨db'.overlays, db'.bindings, db'.activations, rfl⟩
  · unfold projectOverlay
    split
    · exact ⟨_, db.bindings, db.activations, rfl⟩
    · exact ⟨db.overlays, db.bindings, db.activations, rfl⟩
  · exact ⟨db.overlays, projectBaseline_frame hbaseline⟩

/-- **A settled intent.** Its claim and its attempt are written together with the fleet operation; the firewall follows. -/
theorem settle_writes (hrow : db.intent? row.intentId = some row) (hsettling : Settling row f attempt state outcome)
    (hperm : perm.settle db row state)
    (h : projectIntentState sv row.intentId state outcome reasonCode
      { db.setClaim row.intentId f with attempts := db.attempts ++ attempt.toList } = .ok db') :
    Writes sv perm db db' := by
  obtain ⟨db₂, hfirewall, h⟩ := bind_ok.1 h
  obtain ⟨overlays, bindings, activations, rfl⟩ := projectFirewall_frame hfirewall
  rw [projectFleet_withFirewall] at h
  cases hfleet : projectFleet sv row.intentId state outcome reasonCode
      { db.setClaim row.intentId f with attempts := db.attempts ++ attempt.toList } with
  | error =>
    rw [hfleet] at h
    cases h
  | ok db₃ =>
    rw [hfleet] at h
    cases h
    refine .trans (.single (.settle row hrow f attempt state outcome reasonCode db₃ hsettling hperm hfleet)) ?_
    obtain ⟨g, fleets, children, rfl, hg⟩ := projectFleet_frame hfleet
    -- the firewall projection does the same after the one into the fleet operation
    have hagain := (projectFirewall_withFleet g fleets children row.intentId state outcome _).trans
      (congrArg (Except.map _) hfirewall)
    have hset : (db.setClaim row.intentId f).intent? row.intentId = some { row with claim := f row.claim } := by
      rw [intent?_setClaim, hrow]
      simp
    refine projectFirewall_writes hagain ?_ (hsettling.reports.blockedOrSame (hg _ (mem_of_lookup hset)))
    have hmap := intent?_mapClaims (db.setClaim row.intentId f) g row.intentId
    rw [hset] at hmap
    exact hmap

/-- an intent that is settled without an attempt -/
theorem settle_writes_of_none (hrow : db.intent? row.intentId = some row) (hsettling : Settling row f none state outcome)
    (hperm : perm.settle db row state)
    (h : projectIntentState sv row.intentId state outcome reasonCode (db.setClaim row.intentId f) = .ok db') :
    Writes sv perm db db' := by
  have hdb : { db.setClaim row.intentId f with attempts := db.attempts ++ (none : Option AttemptRow).toList } =
      db.setClaim row.intentId f := by
    rw [Option.toList_none, append_nil]
    rfl
  rw [← hdb] at h
  exact settle_writes hrow hsettling hperm h

/-! ## Dispatch -/

theorem holdBeforeSideEffect_writes (h : holdBeforeSideEffect sv intent db = .ok db')
    (hperm : ∀ row, db.intent? intent.effectIntentId = some row → row.claim.state = some .unclaimed → perm.settle db row .hold)
    : Writes sv perm db db' := by
  obtain ⟨row, hrow, h⟩ := bind_ok.1 h
  obtain ⟨hfound, h⟩ := reject_then h
  rw [queryRow_ok] at hrow
  push Not at hfound
  have hid : row.intentId = intent.effectIntentId := lookup_key hrow
  rw [← hid] at h hrow hperm
  exact settle_writes_of_none hrow (.holdBack hfound.2) (hperm row hrow hfound.2) h

theorem fenceExpiredClaim_writes (h : fenceExpiredClaim sv now intentId db = .ok db')
    (hperm : ∀ row, db.intent? intentId = some row → row.claim.state = some .claimed → perm.settle db row .unknown) :
    Writes sv perm db db' := by
  obtain ⟨row, hrow, h⟩ := bind_ok.1 h
  obtain ⟨hfound, h⟩ := reject_then h
  rw [queryRow_ok] at hrow
  push Not at hfound
  obtain rfl : row.intentId = intentId := lookup_key hrow
  exact settle_writes_of_none hrow (.fence hfound.1) (hperm row hrow hfound.1) h

/-- the projection of a claim -/
theorem projectClaim_writes (hrow : db.intent? row.intentId = some row) (hlease : row.claim.leaseId ≠ none)
    (hperm : perm.settle db row .claimed) (h : projectIntentState sv row.intentId .claimed none reasonCode db = .ok db') :
    Writes sv perm db db' := by
  have hsame : db.setClaim row.intentId id = db := by simp [Db.setClaim, Db.mapClaims]
  have hproject : projectIntentState sv row.intentId .claimed none reasonCode (db.setClaim row.intentId id) = .ok db' := by
    rw [hsame]
    exact h
  exact settle_writes_of_none hrow (.project hlease) hperm hproject

theorem writeVerdict_writes {service : String} {v : Verdict} (h : writeVerdict sv service committedAt v intent db = .ok db')
    (hrow : db.intent? intent.effectIntentId = some row)
    (hfound : row.claim.leaseId ≠ none ∨ row.claim.state = some .unknown) (hv : v.Consistent)
    (hperm : perm.settle db row v.state) : Writes sv perm db db' := by
  obtain ⟨db₁, hattempt, hrest⟩ := bind_ok.1 h
  obtain ⟨db₂, hproject, hack⟩ := bind_ok.1 hrest
  have hid : row.intentId = intent.effectIntentId := lookup_key hrow
  replace hattempt := passed hattempt
  replace hattempt := passed hattempt
  cases hattempt
  rw [hv.1, ← hid] at hproject
  rw [← hid] at hrow
  have hsettled : Writes sv perm db db₂ := settle_writes hrow (.verdict hfound v hv _ ⟨rfl, rfl⟩) hperm hproject
  split at hack
  · exact hsettled.trans (insertEffectAck_writes hack)
  · cases hack
    exact hsettled

theorem finalize_writes {f : Finalizer} (h : finalize sv committedAt f intent leaseId db = .ok db')
    (hf : f.verdict.Consistent)
    (hperm : ∀ row, db.intent? intent.effectIntentId = some row → perm.settle db row f.verdict.state) :
    Writes sv perm db db' := by
  obtain ⟨row, hrow, h⟩ := bind_ok.1 h
  obtain ⟨hlease, h⟩ := reject_then h
  rw [queryRow_ok] at hrow
  rw [not_not] at hlease
  exact writeVerdict_writes h hrow (Or.inl (by simp [hlease])) hf (hperm row hrow)

theorem reconcileVerdict_consistent (status : AttemptStatus) (result : EdgeEffectResult) (resultDigest : String) :
    (reconcileVerdict status result resultDigest).Consistent := by
  cases status with
  | applied => exact ⟨rfl, Or.inl ⟨rfl, rfl⟩⟩
  | hold => exact ⟨rfl, Or.inr (Or.inl ⟨rfl, rfl⟩)⟩
  | unknown | reconciling => exact ⟨rfl, Or.inr (Or.inr ⟨rfl, Or.inr rfl⟩)⟩

theorem reconcileUnknown_writes
    (h : reconcileUnknown sv committedAt intent result resultDigest db = .ok db')
    (hperm : ∀ row, db.intent? intent.effectIntentId = some row →
      perm.settle db row (reconcileVerdict (reconcileStatus sv intent result resultDigest) result resultDigest).state) :
    Writes sv perm db db' := by
  obtain ⟨row, hrow, h⟩ := bind_ok.1 h
  obtain ⟨hfound, h⟩ := reject_then h
  rw [queryRow_ok] at hrow
  push Not at hfound
  exact writeVerdict_writes h hrow (Or.inr hfound.2) (reconcileVerdict_consistent _ _ _) (hperm row hrow)

theorem validateAppliedReadback_exact {p : Profile} {json : AppliedRuleReadback → String}
    (h : validateAppliedReadback p json intent result = .ok ()) :
    result.expectedEntries = result.observedEntries ∧ result.mismatchedEntries = 0 ∧
      validSha256 result.readbackDigest = true := by
  replace h := passed h
  obtain ⟨hexact, -⟩ := reject_then h
  push Not at hexact
  exact ⟨hexact.2.2.2.2.1, hexact.2.2.2.2.2, by simpa using hexact.1⟩

/-- `Dispatch` never finalizes a read-back with a mismatch -/
theorem chooseFinalizer_consistent (sv : Services) (intent : Intent) (leaseLost : Bool) (reply : EdgeReply) :
    (chooseFinalizer sv intent leaseLost reply).verdict.Consistent := by
  cases hf : chooseFinalizer sv intent leaseLost reply with
  | applied result =>
    obtain ⟨-, hvalid⟩ := chooseFinalizer_applied hf
    have hmismatch : ¬ 0 < result.mismatchedEntries := by simp [(validateAppliedReadback_exact hvalid).2.1]
    rw [Finalizer.verdict, if_neg hmismatch]
    exact ⟨rfl, Or.inl ⟨rfl, rfl⟩⟩
  | knownHold result resultDigest | preflightHold => exact ⟨rfl, Or.inr (Or.inl ⟨rfl, rfl⟩)⟩
  | markUnknown => exact ⟨rfl, Or.inr (Or.inr ⟨rfl, Or.inl rfl⟩)⟩

end MasiEdge.Control
