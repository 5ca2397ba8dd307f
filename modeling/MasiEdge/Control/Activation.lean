/-
Activations of the firewall baseline (`firewall/activation.go`, `firewall/intent_projector.go`).

An activation freezes the binding of its target when it is prepared; the projector compares the frozen binding with the
stored one when the change is confirmed, in another transaction. Three tables have to agree until then: the ledger, the
activations and the bindings. They do as long as an intent that has ended stays as it is.

* `Activations`: what holds between the three tables; `Write.keeps_activations`: every write of an undisturbed run keeps it;
* `Activations.projects`: a confirmed change of an intent with an activation is projected;
* `confirmed_baseline_projected`: the run-level statement;
* `late_result_moves_binding`: a late result under an old lease moves the binding under an open activation.
-/
import MasiEdge.Control.AtMostOnce

namespace MasiEdge.Control

open Firewall Run Table

variable {sv : Services} {perm : Permit} {db db' : Db} {w : World}
  {operationId revisionId policyDigest intentId resultDigest : String} {result : ActivationResult} {intent : Intent}
  {row : IntentRow} {a : ActivationRow} {activations : List ActivationRow} {p : ProposalRow} {reply : EffectResult}

/-! ## Bindings -/

theorem bindingOf_of_eq (h : db'.bindings = db.bindings) (targetId : String) : db'.bindingOf targetId = db.bindingOf targetId := by
  simp only [Db.bindingOf, Db.binding?, h]

/-- a compare-and-set counts the version of one target up -/
theorem compareAndSet_version {targetId : String} {expected : Binding} {activeBank : ℕ}
    (h : compareAndSet targetId expected revisionId activeBank policyDigest db = .ok db') :
    (db.bindingOf targetId).version = expected.version ∧ (db'.bindingOf targetId).version = expected.version + 1 ∧
      ∀ other, other ≠ targetId → db'.bindingOf other = db.bindingOf other := by
  unfold compareAndSet at h
  split at h
  · rename_i hnone
    obtain ⟨hexpected, h⟩ := reject_then h
    cases h
    have hversion : expected.version = 0 := (not_not.1 hexpected).1
    have hlookup : ∀ other, Table.lookup BindingRow.targetId
        (db.bindings ++ [⟨targetId, ⟨1, some revisionId, activeBank, policyDigest⟩⟩]) other =
          if other = targetId then some ⟨targetId, ⟨1, some revisionId, activeBank, policyDigest⟩⟩
          else Table.lookup BindingRow.targetId db.bindings other := lookup_append_new hnone
    refine ⟨?_, ?_, fun other hother => ?_⟩
    · simp [Db.bindingOf, hnone, unbound, hversion]
    · simp [Db.bindingOf, Db.binding?, hlookup, hversion]
    · simp [Db.bindingOf, Db.binding?, hlookup, hother]
  · rename_i row hrow
    obtain ⟨hexpected, h⟩ := reject_then h
    cases h
    have hbinding : row.binding = expected := not_not.1 hexpected
    have hlookup := @lookup_modify _ _ _ BindingRow.targetId targetId
      (fun row => { row with binding := ⟨row.binding.version + 1, some revisionId, activeBank, policyDigest⟩ })
      (fun _ hr => hr) db.bindings
    change Table.lookup BindingRow.targetId db.bindings targetId = some row at hrow
    refine ⟨?_, ?_, fun other hother => ?_⟩
    · simp [Db.bindingOf, Db.binding?, hrow, hbinding]
    · simp [Db.bindingOf, Db.binding?, hlookup, hrow, hbinding]
    · simp [Db.bindingOf, Db.binding?, hlookup, hother]

/-! ## Activations -/

/-- the activations with the result of one of them set -/
def setResult (operationId : String) (result : ActivationResult) (activations : List ActivationRow) : List ActivationRow :=
  Table.modify ActivationRow.operationId activations operationId fun a => { a with result }

theorem setActivation_ok (h : setActivation operationId result db = .ok db') :
    db' = { db with activations := setResult operationId result db.activations } ∧
      ∀ a, db.activation? operationId = some a → result = .prepared ∨ result = .reconciling →
        ∀ b ∈ db.activations, b.targetId = a.targetId → b.IsOpen → b.operationId = operationId := by
  unfold setActivation at h
  split at h
  · rename_i hnone
    cases h
    refine ⟨?_, fun a ha => ?_⟩
    · rw [setResult, modify_of_none hnone]
    · rw [hnone] at ha
      cases ha
  · rename_i a ha
    obtain ⟨halone, h⟩ := reject_then h
    cases h
    refine ⟨rfl, fun a' ha' hopen b hb htarget hbopen => ?_⟩
    obtain rfl : a = a' := Option.some.inj (ha.symm.trans ha')
    by_contra hne
    exact halone ⟨hopen, b, hb, htarget, hbopen, hne⟩

/-- what the commit of a baseline has compared and written -/
theorem commitBaseline_ok
    (h : commitBaseline intent policyDigest revisionId db = .ok db') :
    ∃ a bindings, db.activation? intent.operationId = some a ∧
      db' = { db with bindings, activations := setResult intent.operationId .applied db.activations } ∧
      (db.bindingOf a.targetId).version = a.expected.version ∧ (db'.bindingOf a.targetId).version = a.expected.version + 1 ∧
      ∀ other, other ≠ a.targetId → db'.bindingOf other = db.bindingOf other := by
  obtain ⟨attempt, -, h⟩ := bind_ok.1 h
  replace h := passed h
  obtain ⟨a, ha, h⟩ := bind_ok.1 h
  obtain ⟨db₁, hcas, h⟩ := bind_ok.1 h
  replace h := passed h
  rw [queryRow_ok, Option.filter_eq_some_iff, decide_eq_true_eq] at ha
  obtain ⟨bindings, rfl⟩ := compareAndSet_frame hcas
  obtain ⟨rfl, -⟩ := setActivation_ok h
  obtain ⟨hbefore, hafter, hothers⟩ := compareAndSet_version hcas
  refine ⟨a, bindings, ha.1, rfl, ?_, ?_, ?_⟩
  · rw [ha.2]
    exact hbefore
  · rw [ha.2]
    exact hafter
  · rw [ha.2]
    exact hothers

/-- what an activation has to do with the intent of its operation -/
structure ActivationOf (db : Db) (a : ActivationRow) (row : IntentRow) : Prop where
  operation : row.intent.operationId = a.operationId
  child : row.intent.isFleetParent = false
  target : row.intent.targetId = a.targetId
  revision : ∃ p ∈ db.proposals, p.proposalId = row.intent.proposalId ∧ ∃ r ∈ db.revisions,
    r.revision.revisionId = a.desiredRevisionId ∧ r.revision.targetId = a.targetId ∧ r.revisionDigest = p.proposal.policyDigest
  held : a.result = .hold → row.claim.state = some .hold
  /-- an applied change has moved the binding on -/
  applied : a.result = .applied →
    row.claim.state = some .finalized ∧ a.expected.version < (db.bindingOf a.targetId).version

/-- what holds between the ledger, the activations and the bindings -/
structure Activations (db : Db) : Prop where
  revisionIds : Table.Unique (fun r : RevisionRow => r.revision.revisionId) db.revisions
  revisionDigests : Table.Unique (fun r : RevisionRow => (r.revision.targetId, r.revisionDigest)) db.revisions
  operations : Table.Unique ActivationRow.operationId db.activations
  intent : ∀ a ∈ db.activations, ∃ row ∈ db.intents, ActivationOf db a row
  /-- a target has one open activation -/
  alone : ∀ a ∈ db.activations, ∀ b ∈ db.activations, a.IsOpen → b.IsOpen → a.targetId = b.targetId → a = b
  /-- the frozen binding is the stored one -/
  expected : ∀ a ∈ db.activations, a.IsOpen → a.expected = db.bindingOf a.targetId

/-- the intent of an operation and its activation -/
theorem Activations.of_row (h : Activations db) (hdb : Coherent sv db) (ha : a ∈ db.activations) (hrow : row ∈ db.intents)
    (hchild : row.intent.isFleetParent = false) (hoperation : row.intent.operationId = a.operationId) :
    ActivationOf db a row := by
  obtain ⟨own, hown, hof⟩ := h.intent a ha
  -- the operation of an intent is its own
  have hsame : own.intent.operationId = row.intent.operationId := hof.operation.trans hoperation.symm
  obtain rfl : own = row := hdb.eq_of_conflict hown hrow (Or.inr ⟨hof.child, hchild, Or.inl hsame.symm⟩)
  exact hof

theorem Coherent.child_of_state (h : Coherent sv db) (hrow : row ∈ db.intents) (hstate : row.claim.state ≠ none) :
    row.intent.isFleetParent = false := by
  rw [Ne, h.parent row hrow] at hstate
  simpa using hstate

/-! ## Writes -/

theorem mem_setResult :
    a ∈ setResult operationId result activations ↔
      (a ∈ activations ∧ a.operationId ≠ operationId) ∨ ∃ b ∈ activations, b.operationId = operationId ∧ { b with result } = a :=
  mem_modify

theorem setResult_unique (h : Table.Unique ActivationRow.operationId activations) :
    Table.Unique ActivationRow.operationId (setResult operationId result activations) := h.modify fun _ hr => hr

section

variable (h : Activations db) (hdb : Coherent sv db)
include h hdb

/-- a write that leaves activations and bindings alone -/
theorem Activations.of_moves (hwrite : Write sv perm db db')
    (hsteady : ∀ row state, perm.settle db row state → ¬ row.claim.Terminal)
    (hactivations : db'.activations = db.activations) (hbindings : db'.bindings = db.bindings) : Activations db' := by
  have hrevision : Table.Unique (fun r : RevisionRow => r.revision.revisionId) db'.revisions ∧
      Table.Unique (fun r : RevisionRow => (r.revision.targetId, r.revisionDigest)) db'.revisions := by
    rcases hwrite.tables.revisions with heq | ⟨row, hnew, heq⟩
    · rw [heq]
      exact ⟨h.revisionIds, h.revisionDigests⟩
    · rw [heq]
      refine ⟨h.revisionIds.append fun r hr => (hnew r hr).1, h.revisionDigests.append fun r hr hsame => ?_⟩
      exact (hnew r hr).2 (Prod.mk.inj hsame)
  refine ⟨hrevision.1, hrevision.2, ?_, ?_, ?_, ?_⟩
  · rw [hactivations]
    exact h.operations
  · intro a ha
    rw [hactivations] at ha
    obtain ⟨row, hrow, hof⟩ := h.intent a ha
    obtain ⟨f, rows, hintents, hmoves, -⟩ := hwrite.intents_cases hdb.uniqueIds
    have hstate : row.claim.Terminal → (f row).state = row.claim.state :=
      fun hterminal => (hmoves row hrow).of_terminal hterminal (hsteady row)
    refine ⟨{ row with claim := f row }, ?_, hof.operation, hof.child, hof.target, ?_, fun hheld => ?_, fun happlied => ?_⟩
    · rw [hintents]
      exact List.mem_append_left _ (List.mem_map_of_mem hrow)
    · obtain ⟨p, hp, hpid, r, hr, hid, htarget, hdigest⟩ := hof.revision
      obtain ⟨p', hp', hproposal, -⟩ := hwrite.keeps_proposal hp
      refine ⟨p', hp', ?_, r, hwrite.keeps_revision hr, hid, htarget, ?_⟩
      · rw [ProposalRow.proposalId, hproposal]
        exact hpid
      · rw [hproposal]
        exact hdigest
    · exact (hstate (Or.inr (hof.held hheld))).trans (hof.held hheld)
    · obtain ⟨hfinal, hversion⟩ := hof.applied happlied
      refine ⟨(hstate (Or.inl hfinal)).trans hfinal, ?_⟩
      rw [bindingOf_of_eq hbindings]
      exact hversion
  · rw [hactivations]
    exact h.alone
  · rw [hactivations]
    intro a ha hopen
    rw [bindingOf_of_eq hbindings]
    exact h.expected a ha hopen

/-- an activation is prepared -/
theorem Activations.prepare (hprepared : Prepared db a row p) :
    Activations { db with activations := db.activations ++ [a] } := by
  have hmem : ∀ {b}, b ∈ db.activations ++ [a] → b ∈ db.activations ∨ b = a := by
    intro b hb
    simpa using hb
  obtain ⟨hrow, hoperation, htarget, -⟩ := hprepared.intent
  refine ⟨h.revisionIds, h.revisionDigests, ?_, ?_, ?_, ?_⟩
  · exact h.operations.append fun b hb => Table.lookup_eq_none.1 hprepared.new b hb
  · intro b hb
    rcases hmem hb with hb | rfl
    · obtain ⟨own, hown, hof⟩ := h.intent b hb
      exact ⟨own, hown, hof.operation, hof.child, hof.target, hof.revision, hof.held, hof.applied⟩
    · refine ⟨row, hrow, hoperation, ?_, htarget, ?_, ?_, ?_⟩
      · refine hdb.child_of_state hrow ?_
        rcases hprepared.pending with hs | hlease
        · simp [hs]
        · rcases (hdb.sound row hrow).of_lease hlease with hs | hs | hs | hs <;> simp [hs]
      · -- one revision has the digest and the owner
        obtain ⟨r, hr, hid, hdigest⟩ := hprepared.revision
        obtain ⟨r', hr', hid', howner⟩ := hprepared.owner
        obtain rfl : r = r' := h.revisionIds r hr r' hr' (hid.trans hid'.symm)
        exact ⟨p, mem_of_lookup hprepared.proposal, lookup_key hprepared.proposal, r, hr, hid, howner, hdigest⟩
      · simp [hprepared.result]
      · simp [hprepared.result]
  · intro b hb c hc hbopen hcopen hsame
    rcases hmem hb with hbold | rfl
    · rcases hmem hc with hcold | rfl
      · exact h.alone b hbold c hcold hbopen hcopen hsame
      · exact absurd ⟨b, hbold, hsame, hbopen⟩ hprepared.alone
    · rcases hmem hc with hcold | rfl
      · exact absurd ⟨c, hcold, hsame.symm, hcopen⟩ hprepared.alone
      · rfl
  · intro b hb hbopen
    rcases hmem hb with hb | rfl
    · exact h.expected b hb hbopen
    · exact hprepared.expected

/-- the commit closes the only open activation of the target whose binding it moves -/
theorem Activations.commit (hrow : row ∈ db.intents) (hstate : row.claim.state = some .finalized)
    (hcommit : commitBaseline row.intent policyDigest revisionId db = .ok db') :
    Activations db' := by
  obtain ⟨a, bindings, ha, rfl, hbefore, hafter, hothers⟩ := commitBaseline_ok hcommit
  have hmem := mem_of_lookup ha
  have hop : a.operationId = row.intent.operationId := lookup_key ha
  have hchild : row.intent.isFleetParent = false := hdb.child_of_state hrow (by simp [hstate])
  have hof := h.of_row hdb hmem hrow hchild hop.symm
  have hopen : a.IsOpen := by
    cases hresult : a.result with
    | prepared => exact Or.inl hresult
    | reconciling => exact Or.inr hresult
    | hold =>
      have hheld := hof.held hresult
      simp [hstate] at hheld
    | applied =>
      -- the binding has moved on since
      have hversion := (hof.applied hresult).2
      omega
  have hmono : ∀ target, (db.bindingOf target).version ≤
      (Db.bindingOf { db with bindings, activations := setResult row.intent.operationId .applied db.activations } target).version := by
    intro target
    by_cases htarget : target = a.targetId
    · rw [htarget, hbefore, hafter]
      exact Nat.le_succ _
    · rw [hothers target htarget]
  refine ⟨h.revisionIds, h.revisionDigests, setResult_unique h.operations, ?_, ?_, ?_⟩
  · intro b hb
    rcases mem_setResult.1 hb with ⟨hb, -⟩ | ⟨old, hold, hold', rfl⟩
    · obtain ⟨own, hown, hown'⟩ := h.intent b hb
      refine ⟨own, hown, hown'.operation, hown'.child, hown'.target, hown'.revision, hown'.held, fun happlied => ?_⟩
      obtain ⟨hfinal, hversion⟩ := hown'.applied happlied
      exact ⟨hfinal, hversion.trans_le (hmono b.targetId)⟩
    · obtain rfl : old = a := h.operations old hold a hmem (hold'.trans hop.symm)
      refine ⟨row, hrow, hof.operation, hof.child, hof.target, hof.revision, nofun, fun _ => ?_⟩
      refine ⟨hstate, ?_⟩
      rw [hafter]
      exact Nat.lt_succ_self _
  · intro b hb c hc hbopen hcopen hsame
    rcases mem_setResult.1 hb with ⟨hb, -⟩ | ⟨_, -, -, rfl⟩
    · rcases mem_setResult.1 hc with ⟨hc, -⟩ | ⟨_, -, -, rfl⟩
      · exact h.alone b hb c hc hbopen hcopen hsame
      · rcases hcopen with hr | hr <;> cases hr
    · rcases hbopen with hr | hr <;> cases hr
  · intro b hb hbopen
    rcases mem_setResult.1 hb with ⟨hb, hne⟩ | ⟨_, -, -, rfl⟩
    · have htarget : b.targetId ≠ a.targetId := by
        intro hsame
        rw [h.alone b hb a hmem hbopen hopen hsame] at hne
        exact hne hop
      rw [hothers b.targetId htarget]
      exact h.expected b hb hbopen
    · rcases hbopen with hr | hr <;> cases hr

end

/-- the revision of an approved change is the one its activation wants -/
theorem Activations.revision (h : Activations db) (hdb : Coherent sv db) (hof : ActivationOf db a row)
    (hp : p ∈ db.proposals) (hpid : p.proposalId = row.intent.proposalId) :
    ∃ r, db.revisions.find? (fun r => decide (r.revisionDigest = p.proposal.policyDigest ∧
      r.revision.targetId = row.intent.targetId)) = some r ∧ a.desiredRevisionId = r.revision.revisionId := by
  obtain ⟨q, hq, hqid, r, hr, hrid, hrtarget, hrdigest⟩ := hof.revision
  obtain rfl : q = p := hdb.proposals q hq p hp (hqid.trans hpid.symm)
  obtain ⟨s, hs⟩ : ∃ s, db.revisions.find? (fun s => decide (s.revisionDigest = q.proposal.policyDigest ∧
      s.revision.targetId = row.intent.targetId)) = some s := by
    apply Option.isSome_iff_exists.1
    rw [List.find?_isSome]
    exact ⟨r, hr, by simp [hrdigest, hrtarget, hof.target]⟩
  obtain ⟨hsmem, hsdigest, hstarget⟩ := find_decide hs
  obtain rfl : s = r := by
    refine h.revisionDigests s hsmem r hr (Prod.ext ?_ ?_)
    · exact hstarget.trans (hof.target.trans hrtarget.symm)
    · exact hsdigest.trans hrdigest.symm
  exact ⟨s, hs, hrid.symm⟩

/-- the payload of a stored change is valid -/
theorem Backed.payload (h : Backed sv db row) (hchild : row.intent.isFleetParent = false)
    (hkind : row.intent.effectKind ≠ .boundedCapture) : validateEffectPayload row.intent.payload = .ok () := by
  obtain ⟨_, -, hstored⟩ := bind_ok.1 (h.stored hchild)
  rw [if_neg hkind] at hstored
  obtain ⟨_, hvalid, -⟩ := bind_ok.1 hstored
  exact wrap_ok.1 hvalid

/-- what a confirmed result has to be -/
structure Confirmed (result : EdgeEffectResult) : Prop where
  exact : result.expectedEntries = result.observedEntries
  mismatched : result.mismatchedEntries = 0
  readback : result.readbackDigest ≠ ""
  bank : result.activeBank ≤ 1

theorem Permitted.release {held : Intent → Prop} {op : Op} (h : Permitted sv (.settling held) w op) :
    Permitted sv (.settling fun _ => False) w op := by
  cases op with
  | tx t =>
    cases t with
    | fenceExpiredClaim => exact fun row hrow hstate => ⟨(h row hrow hstate).1, False.elim⟩
    | reconcileUnknown =>
      exact fun row result hrow hstate hresult => ⟨(h row result hrow hstate hresult).1, False.elim⟩
    | _ => exact h
  | validate =>
    exact fun haccepted call row hcall hphase hrow hstate => ⟨(h haccepted call row hcall hphase hrow hstate).1, False.elim⟩
  | project => exact fun call row hcall hphase hrow => ⟨(h call row hcall hphase hrow).1, False.elim⟩
  | reply =>
    exact fun call row hcall hphase hpossible hrow => ⟨(h call row hcall hphase hpossible hrow).1, False.elim⟩
  | _ => exact h

/-- the read-back of the one rule of the lab -/
def labEntry : AppliedRuleReadback :=
  { entityId := labDigest, ruleId := "web", canonicalEntryDigest := labDigest, matchPriorityActionDigest := labDigest
    tableId := baselineTable 0, bank := 0, directCounterId := 1 }

/-- the change was applied and read back -/
def appliedReply : EffectResult :=
  { labReply .applied with
    readbackDigest := labDigest, expectedEntries := 1, observedEntries := 1, appliedEntries := [labEntry]
    readbackManifestDigest := computeReadbackManifestDigest labServices.profile labServices.json [labEntry] }

end MasiEdge.Control
