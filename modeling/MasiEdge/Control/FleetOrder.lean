/-
The waves of a fleet operation: in which order its children are claimed.

A claim asks for two gate flags, the one of the intent and the one of the child, and the second is opened only by
`AdvanceWaveGate`, when the wave before has ended. That is enough for two waves that follow each other. For all of them it
also takes that nobody is held before the gate is open: then whoever has begun has only waves behind that have ended, and
whoever is blocked has nobody unclaimed ahead.

The parallel limit of a wave is checked against its targets and is not read by any transaction. It holds if a wave has no
more children than its limit.

Claims are those of `ClaimIntent`. `Dispatch` asks its preflight first, which refuses every child of an operation on two
targets, so a run of `Dispatch` alone does not come to the second claim.

* `Ordered`: the invariant; `Write.keeps_ordered`: every write of an orderly run keeps it;
* `waves_in_order`: claims follow the waves, the failure policies and the gates, and stay within the limit;
* `parallel_limit_exceeded`: two claims in a wave with limit one.
-/
import MasiEdge.Control.FleetTables

namespace MasiEdge.Control

open Run List Table

variable {sv : Services} {perm : Permit} {db db' : Db} {c : FleetChildRow} {fleetOperationId id : String} {claim : Claim}
  {g : FleetChildRow → Progress} {currentWave nextWave : ℕ}

/-! ## Plans and states -/

/-- the failure policy and the parallel limit of a wave -/
def Wave.plan (w : Wave) : FailurePolicy × ℕ := (w.failurePolicy, w.parallelLimit)

def Db.planOf (db : Db) (fleetOperationId : String) (waveIndex : ℕ) : Option (FailurePolicy × ℕ) :=
  (db.fleet? fleetOperationId).bind fun fo => fo.waves[waveIndex]?.map Wave.plan

def Db.policyOf (db : Db) (fleetOperationId : String) (waveIndex : ℕ) : Option FailurePolicy :=
  (db.planOf fleetOperationId waveIndex).map Prod.fst

/-- the claim state of an intent -/
def Db.stateOf (db : Db) (intentId : String) : Option ClaimState := (db.intent? intentId).bind fun row => row.claim.state

theorem stateOf_eq {intentId : String} {row : IntentRow} (h : db.intent? intentId = some row) :
    db.stateOf intentId = row.claim.state := by
  rw [Db.stateOf, h]
  rfl

/-- the row of a child -/
theorem Fleets.row (h : Fleets db) (hcoherent : Coherent sv db) (hc : c ∈ db.fleetChildren) :
    ∃ row, db.intent? c.childIntentId = some row ∧ ChildOf c row := by
  obtain ⟨row, hrow, hof⟩ := h.intent c hc
  exact ⟨row, hcoherent.uniqueIds.lookup_of_mem hrow hof.id, hof⟩

/-- an update of an operation that keeps what is planned keeps its plan -/
theorem planOf_modify {f : FleetRow → FleetRow}
    (hfleets : db'.fleets = Table.modify FleetRow.fleetOperationId db.fleets fleetOperationId f)
    (hid : ∀ fo, (f fo).fleetOperationId = fo.fleetOperationId)
    (hplan : ∀ fo (k : ℕ), (f fo).waves[k]?.map Wave.plan = fo.waves[k]?.map Wave.plan) (id : String) (k : ℕ) :
    db'.planOf id k = db.planOf id k := by
  have hlookup : db'.fleet? id = if id = fleetOperationId then (db.fleet? fleetOperationId).map f else db.fleet? id := by
    rw [Db.fleet?, hfleets]
    exact lookup_modify (fun fo hfo => (hid fo).trans hfo) db.fleets id
  unfold Db.planOf
  rw [hlookup]
  split
  · rename_i hsame
    rw [hsame]
    cases db.fleet? fleetOperationId with
    | none => rfl
    | some fo => exact hplan fo k
  · rfl

/-- **The plan of an operation stays.** -/
theorem Write.keeps_plan (h : Write sv perm db db') (hcoherent : Coherent sv db) (hfleets : Fleets db)
    (hc : c ∈ db.fleetChildren) (k : ℕ) : db'.planOf c.fleetOperationId k = db.planOf c.fleetOperationId k := by
  cases h.fleetWrite hcoherent.uniqueIds hfleets.children with
  | untouched _ hsame _ _ =>
    unfold Db.planOf Db.fleet?
    rw [hsame]
  | created _ _ _ fo =>
    obtain ⟨old, hold, hid⟩ := hfleets.operation c hc
    have hlookup : db.fleet? c.fleetOperationId = some old :=
      hfleets.operations.lookup_of_mem hold hid
    have hnew := lookup_append_of_some hlookup [fo]
    unfold Db.planOf
    rw [hlookup]
    exact congrArg (Option.bind · _) hnew
  | projected =>
    apply planOf_modify
    · rfl
    · exact fun _ => rfl
    · exact fun _ _ => rfl
  | opened =>
    apply planOf_modify
    · rfl
    · exact fun _ => rfl
    · intro fo k
      rw [getElem?_modify]
      cases fo.waves[k]? with
      | none => rfl
      | some =>
        split <;> rfl

/-! ## Moves -/

/-- a claim that nobody has taken is as it was, but for its gate -/
theorem Move.of_unclaimed {row : IntentRow} (h : Move perm db row claim) (hstate : claim.state = some .unclaimed) :
    row.claim.state = some .unclaimed ∧ (row.claim.gateOpen = true → claim.gateOpen = true) := by
  cases h with
  | quiet _ h =>
    cases h with
    | same => exact ⟨hstate, id⟩
    | openGate => exact ⟨hstate, fun _ => rfl⟩
    | renew => exact ⟨hstate, id⟩
    | take => simp [Claim.take] at hstate
    | shutdown => simp [Claim.fence] at hstate
  | block => simp at hstate
  | settle _ _ _ _ h =>
    obtain rfl := h.eq_id (Or.inl hstate)
    exact ⟨hstate, id⟩

/-- a claim that begins has an open gate, or is settled with permission -/
theorem Move.begins {row : IntentRow} (h : Move perm db row claim) (hunclaimed : row.claim.state = some .unclaimed)
    (hstate : claim.state ≠ some .unclaimed) (hblocked : claim.state ≠ some .blocked) :
    gateOpen db row ∨ ∃ state, perm.settle db row state := by
  cases h with
  | quiet _ h =>
    cases h with
    | same | openGate | renew expires => exact absurd hunclaimed hstate
    | take _ gate => exact Or.inl gate
    | shutdown found => simp [hunclaimed] at found
  | block => exact absurd rfl hblocked
  | settle _ _ state _ _ permitted => exact Or.inr ⟨state, permitted⟩

/-- what is blocked stays blocked: it has no lease -/
theorem Move.of_blocked {row : IntentRow} (h : Move perm db row claim) (hsound : row.claim.Sound)
    (hblocked : row.claim.state = some .blocked) : claim.state = some .blocked := by
  have hlease : row.claim.leaseId = none := by simpa [Claim.Sound, hblocked] using hsound
  cases h with
  | quiet _ h =>
    cases h with
    | same => exact hblocked
    | openGate => exact hblocked
    | renew => exact hblocked
    | take found => simp [hblocked] at found
    | shutdown found => simp [hblocked] at found
  | block found => simp [hblocked] at found
  | settle _ _ _ _ h =>
    cases h with
    | holdBack found => simp [hblocked] at found
    | fence found => simp [hblocked] at found
    | verdict found => simp [hblocked, hlease] at found
    | project found => exact absurd hlease found

/-! ## The invariant -/

/-- the waves before the child have ended, the fail-fast ones with nothing but applied children -/
def Below (db : Db) (c : FleetChildRow) : Prop :=
  ∀ b ∈ db.fleetChildren, b.fleetOperationId = c.fleetOperationId → b.waveIndex < c.waveIndex →
    b.progress.status.isTerminal = true ∧
      (db.policyOf b.fleetOperationId b.waveIndex = some .failFast → b.progress.status = .applied)

/-- nobody has blocked the intent, and nobody waits for its gate -/
def Reached (db : Db) (c : FleetChildRow) : Prop :=
  db.stateOf c.childIntentId ≠ some .blocked ∧
    (db.stateOf c.childIntentId = some .unclaimed → c.progress.gateOpen = true)

/-- an approved decision on exactly the gate before the child's wave, if that is a manual one -/
def GateAuthorized (db : Db) (c : FleetChildRow) : Prop :=
  ∀ k, c.waveIndex = k + 1 → db.policyOf c.fleetOperationId k = some .manualGate →
    ∃ g ∈ db.gateDecisions, (g.fleetOperationId = c.fleetOperationId ∧ g.currentWave = k ∧ g.nextWave = k + 1) ∧
      ∃ d ∈ db.decisions, d.decisionId = g.decisionId ∧ d.approved = true

structure Ordered (db : Db) : Prop where
  below : ∀ c ∈ db.fleetChildren, Reached db c → Below db c
  pending : ∀ c ∈ db.fleetChildren, db.stateOf c.childIntentId = some .unclaimed → c.progress.status = .pending
  /-- who is blocked has nobody unclaimed ahead -/
  blocked : ∀ b ∈ db.fleetChildren, db.stateOf b.childIntentId = some .blocked → ∀ c ∈ db.fleetChildren,
    c.fleetOperationId = b.fleetOperationId → b.waveIndex ≤ c.waveIndex → db.stateOf c.childIntentId ≠ some .unclaimed
  gates : ∀ c ∈ db.fleetChildren, c.progress.gateOpen = true → GateAuthorized db c
  limit : ∀ c ∈ db.fleetChildren, ∃ plan ∈ db.planOf c.fleetOperationId c.waveIndex,
    (db.waveOf c.fleetOperationId c.waveIndex).length ≤ plan.2

/-- a request without statuses, and with no more children in a wave than its parallel limit -/
def FleetRequest.Orderly (fo : FleetRequest) : Prop :=
  ∀ c ∈ fo.childIntents, c.status = none ∧ ∃ w ∈ fo.waves[c.waveIndex]?,
    (fo.childIntents.filter fun x => decide (x.waveIndex = c.waveIndex)).length ≤ w.parallelLimit
deriving Decidable

/-- orderly requests, and nobody is held before the gate of its wave is open -/
def Permit.orderly : Permit :=
  { Permit.any with
    fleet := FleetRequest.Orderly
    settle := fun db row _ => row.claim.state = some .unclaimed →
      ∀ c ∈ db.fleetChildren, c.childIntentId = row.intentId → c.progress.gateOpen = true }

/-- what a write of an orderly run does to the children it finds: `g` is their new progress -/
structure Advances (db db' : Db) (g : FleetChildRow → Progress) : Prop where
  children : db'.fleetChildren = advanced g db.fleetChildren
  terminal : ∀ c ∈ db.fleetChildren, c.progress.status.isTerminal = true → (g c).status = c.progress.status
  pending : ∀ c ∈ db.fleetChildren, db'.stateOf c.childIntentId = some .unclaimed → (g c).status = c.progress.status
  gate : ∀ c ∈ db.fleetChildren, (g c).gateOpen = true → c.progress.gateOpen = true ∨
    (GateAuthorized db c ∧ (db.stateOf c.childIntentId = some .unclaimed → Below db c))
  blocked : ∀ b ∈ db.fleetChildren, db'.stateOf b.childIntentId = some .blocked →
    db.stateOf b.childIntentId = some .blocked ∨ ∀ c ∈ db.fleetChildren, c.fleetOperationId = b.fleetOperationId →
      b.waveIndex ≤ c.waveIndex → db'.stateOf c.childIntentId ≠ some .unclaimed

theorem policyOf_eq {k : ℕ} (h : db'.planOf id k = db.planOf id k) : db'.policyOf id k = db.policyOf id k := by
  rw [Db.policyOf, h, Db.policyOf]

/-- what has ended stays ended -/
theorem Advances.below (h : Advances db db' g)
    (hplan : ∀ c ∈ db.fleetChildren, ∀ k, db'.planOf c.fleetOperationId k = db.planOf c.fleetOperationId k)
    (hbelow : Below db c) : Below db' { c with progress := g c } := by
  intro b' hb' hop hwave
  rw [h.children] at hb'
  obtain ⟨b, hb, rfl⟩ := List.mem_map.1 hb'
  obtain ⟨hterminal, hfailFast⟩ := hbelow b hb hop hwave
  have hstatus : (g b).status = b.progress.status := h.terminal b hb hterminal
  rw [hstatus, policyOf_eq (hplan b hb b.waveIndex)]
  exact ⟨hterminal, hfailFast⟩

theorem GateAuthorized.mono (h : Write sv perm db db')
    (hplan : ∀ c ∈ db.fleetChildren, ∀ k, db'.planOf c.fleetOperationId k = db.planOf c.fleetOperationId k)
    (hc : c ∈ db.fleetChildren) (hgate : GateAuthorized db c) (progress : Progress) :
    GateAuthorized db' { c with progress } := by
  intro k hwave hpolicy
  obtain ⟨gate, hgateMem, hkeys, d, hd, hdecision⟩ := hgate k hwave (policyOf_eq (hplan c hc k) ▸ hpolicy)
  exact ⟨gate, h.tables.gateDecisions hgateMem, hkeys, d, h.keeps_decision hd, hdecision⟩

/-- nobody begins before the gate is open -/
theorem begins_reached (h : Write sv .orderly db db') (hcoherent : Coherent sv db) (hfleets : Fleets db)
    (hc : c ∈ db.fleetChildren) (hunclaimed : db.stateOf c.childIntentId = some .unclaimed)
    (hstate : db'.stateOf c.childIntentId ≠ some .unclaimed) (hblocked : db'.stateOf c.childIntentId ≠ some .blocked) :
    c.progress.gateOpen = true := by
  obtain ⟨row, hrow, hof⟩ := hfleets.row hcoherent hc
  obtain ⟨claim, hrow', hmove⟩ := h.intent_moves hcoherent.uniqueIds hrow
  rw [stateOf_eq hrow] at hunclaimed
  rw [stateOf_eq hrow'] at hstate hblocked
  rcases hmove.begins hunclaimed hstate hblocked with ⟨-, -, hchild⟩ | ⟨_, hsettle⟩
  · obtain ⟨other, hother, hid, hopen⟩ := hchild.resolve_left (by simp [hof.operation])
    rwa [hfleets.children c hc other hother (hof.id.symm.trans hid.symm)]
  · exact hsettle hunclaimed c hc hof.id.symm

/-- **The invariant is kept when children go on.** -/
theorem Ordered.advance (hdb : Ordered db) (h : Write sv .orderly db db') (hcoherent : Coherent sv db) (hfleets : Fleets db)
    (hg : Advances db db' g) : Ordered db' := by
  have hplan : ∀ c ∈ db.fleetChildren, ∀ k, db'.planOf c.fleetOperationId k = db.planOf c.fleetOperationId k :=
    fun c hc k => h.keeps_plan hcoherent hfleets hc k
  have hold : ∀ c' ∈ db'.fleetChildren, ∃ c ∈ db.fleetChildren, c' = { c with progress := g c } := by
    intro c' hc'
    rw [hg.children] at hc'
    obtain ⟨c, hc, rfl⟩ := List.mem_map.1 hc'
    exact ⟨c, hc, rfl⟩
  have hunclaimed : ∀ c ∈ db.fleetChildren, db'.stateOf c.childIntentId = some .unclaimed →
      db.stateOf c.childIntentId = some .unclaimed := by
    intro c hc hstate
    obtain ⟨row, hrow, -⟩ := hfleets.row hcoherent hc
    obtain ⟨claim, hrow', hmove⟩ := h.intent_moves hcoherent.uniqueIds hrow
    rw [stateOf_eq hrow'] at hstate
    rw [stateOf_eq hrow]
    exact (hmove.of_unclaimed hstate).1
  constructor
  case below =>
    intro c' hc' hreached
    obtain ⟨c, hc, rfl⟩ := hold c' hc'
    refine hg.below hplan ?_
    by_cases hbefore : Reached db c
    · exact hdb.below c hc hbefore
    -- it was blocked, which stays, or it waited for its gate
    · by_cases hblocked : db.stateOf c.childIntentId = some .blocked
      · obtain ⟨row, hrow, -⟩ := hfleets.row hcoherent hc
        obtain ⟨claim, hrow', hmove⟩ := h.intent_moves hcoherent.uniqueIds hrow
        rw [stateOf_eq hrow] at hblocked
        have hstays := hmove.of_blocked (hcoherent.sound row (mem_of_lookup hrow)) hblocked
        exact absurd ((stateOf_eq hrow').trans hstays) hreached.1
      · have hwaits : db.stateOf c.childIntentId = some .unclaimed ∧ c.progress.gateOpen ≠ true := by
          by_contra hno
          refine hbefore ⟨hblocked, fun hstate => ?_⟩
          by_contra hgate
          exact hno ⟨hstate, hgate⟩
        by_cases hstate : db'.stateOf c.childIntentId = some .unclaimed
        · have hopening := (hg.gate c hc (hreached.2 hstate)).resolve_left hwaits.2
          exact hopening.2 hwaits.1
        · exact absurd (begins_reached h hcoherent hfleets hc hwaits.1 hstate hreached.1) hwaits.2
  case pending =>
    intro c' hc' hstate
    obtain ⟨c, hc, rfl⟩ := hold c' hc'
    exact (hg.pending c hc hstate).trans (hdb.pending c hc (hunclaimed c hc hstate))
  case blocked =>
    intro b' hb' hblocked c' hc' hop hwave
    obtain ⟨b, hb, rfl⟩ := hold b' hb'
    obtain ⟨c, hc, rfl⟩ := hold c' hc'
    rcases hg.blocked b hb hblocked with hbefore | hnew
    · exact fun hstate => hdb.blocked b hb hbefore c hc hop hwave (hunclaimed c hc hstate)
    · exact hnew c hc hop hwave
  case gates =>
    intro c' hc' hopen
    obtain ⟨c, hc, rfl⟩ := hold c' hc'
    have hauthorized : GateAuthorized db c := by
      rcases hg.gate c hc hopen with hbefore | ⟨hopening, -⟩
      · exact hdb.gates c hc hbefore
      · exact hopening
    exact hauthorized.mono h hplan hc _
  case limit =>
    intro c' hc'
    obtain ⟨c, hc, rfl⟩ := hold c' hc'
    obtain ⟨plan, hplanOf, hle⟩ := hdb.limit c hc
    refine ⟨plan, (hplan c hc c.waveIndex).trans hplanOf, ?_⟩
    rw [Db.waveOf, childrenOf_advanced hg.children, advanced, filter_map, length_map]
    exact hle

/-! ## Writes -/

theorem advances_untouched (hcoherent : Coherent sv db) (hchildren : db'.fleetChildren = db.fleetChildren)
    (hunblocked : Unblocked db db') : Advances db db' FleetChildRow.progress where
  children := hchildren.trans (advanced_progress _).symm
  terminal := fun _ _ _ => rfl
  pending := fun _ _ _ => rfl
  gate := fun _ _ hopen => Or.inl hopen
  blocked := by
    intro b _ hblocked
    obtain ⟨row', hrow', hstate⟩ := Option.bind_eq_some_iff.1 hblocked
    obtain ⟨row, hrow, hid, hbefore⟩ := hunblocked row' (mem_of_lookup hrow') hstate
    have hlookup : db.intent? b.childIntentId = some row :=
      hcoherent.uniqueIds.lookup_of_mem hrow (hid.trans (lookup_key hrow'))
    exact Or.inl ((stateOf_eq hlookup).trans hbefore)

section

variable {row r : IntentRow} {f : Claim → Claim} {attempt : Option AttemptRow} {state : ClaimState}
  {outcome : Option AttemptStatus} {status : ChildStatus} {child : FleetChildRow} {fo : FleetRow} {reasonCode : String}
  {children : List FleetChildRow}

/-- a settled intent is not unclaimed -/
theorem Settling.ne_unclaimed (h : Settling row f attempt state outcome) (hsound : row.claim.Sound) :
    (f row.claim).state ≠ some .unclaimed := by
  cases h with
  | holdBack => simp
  | fence => simp [Claim.fence]
  | verdict _ _ consistent =>
    rcases consistent.2 with ⟨hs, -⟩ | ⟨hs, -⟩ | ⟨hs, -⟩ <;> simp [hs]
  | project found => exact fun hstate => found (hsound.lease_of_unclaimed hstate)

theorem blocking_of_claimed (h : r.claim.state ≠ some .unclaimed) : blocking children fo child status r = r.claim :=
  if_neg fun hblock => h hblock.2.2

/-- who has not begun does not stay unclaimed -/
theorem blocking_of_unbegun (hstops : StopsWave fo child status) (hunbegun : Unbegun children child r.intentId) :
    (blocking children fo child status r).state ≠ some .unclaimed := by
  unfold blocking
  split
  · simp
  · rename_i hkept
    exact fun hstate => hkept ⟨hstops, hunbegun, hstate⟩

/-- the tables after a settled intent and the projection of its child -/
def Db.afterProjection (sv : Services) (db : Db) (row : IntentRow) (f : Claim → Claim) (attempt : Option AttemptRow)
    (fo : FleetRow) (child : FleetChildRow) (status : ChildStatus) (reasonCode : String) : Db :=
  refreshFleet sv ((db.settled row.intentId f attempt).projected fo child status reasonCode) child.fleetOperationId

theorem intent?_afterProjection (id : String) :
    (db.afterProjection sv row f attempt fo child status reasonCode).intent? id =
      ((db.setClaim row.intentId f).intent? id).map fun r =>
        { r with claim := blocking db.fleetChildren fo child status r } :=
  intent?_mapClaims (db.settled row.intentId f attempt) (blocking db.fleetChildren fo child status) id

/-- the settled intent is not blocked -/
theorem stateOf_settled (hpresent : db.intent? row.intentId = some row) (hne : (f row.claim).state ≠ some .unclaimed) :
    (db.afterProjection sv row f attempt fo child status reasonCode).stateOf row.intentId = (f row.claim).state := by
  have hset : (db.setClaim row.intentId f).intent? row.intentId = some { row with claim := f row.claim } := by
    rw [Db.setClaim, intent?_mapClaims, hpresent, Option.map_some, if_pos rfl]
  rw [Db.stateOf, intent?_afterProjection, hset, Option.map_some, Option.bind_some]
  exact congrArg Claim.state (blocking_of_claimed hne)

/-- the others are blocked or stay -/
theorem stateOf_other (hr : db.intent? id = some r) (hne : id ≠ row.intentId) :
    (db.afterProjection sv row f attempt fo child status reasonCode).stateOf id =
      (blocking db.fleetChildren fo child status r).state := by
  have hid : r.intentId = id := lookup_key hr
  have hset : (db.setClaim row.intentId f).intent? id = some r := by
    rw [Db.setClaim, intent?_mapClaims, hr, Option.map_some, if_neg (hid ▸ hne)]
  rw [Db.stateOf, intent?_afterProjection, hset, Option.map_some, Option.bind_some]

theorem advances_projected (hcoherent : Coherent sv db) (hfleets : Fleets db) (hdb : Ordered db)
    (hpresent : db.intent? row.intentId = some row) (hsettling : Settling row f attempt state outcome)
    (hfound : db.child? row.intentId = some child)
    (hallowed : allowedChildTransition child.progress.status status = true) :
    Advances db (db.afterProjection sv row f attempt fo child status reasonCode)
      (projection fo child status reasonCode) := by
  have hchild : child ∈ db.fleetChildren := mem_of_lookup hfound
  have hchildId : child.childIntentId = row.intentId := lookup_key hfound
  have hsettled : (f row.claim).state ≠ some .unclaimed :=
    hsettling.ne_unclaimed (hcoherent.sound row (mem_of_lookup hpresent))
  constructor
  case children => rfl
  case terminal =>
    intro c hc hterminal
    unfold projection
    split
    · rename_i hid
      obtain rfl := hfleets.children c hc child hchild hid
      exact ChildStatus.allowed_of_terminal hterminal hallowed
    · split
      · rename_i hstop
        rw [hstop.2.2.2] at hterminal
        cases hterminal
      · rfl
  case pending =>
    intro c hc hunclaimed
    unfold projection
    split
    · rename_i hid
      rw [hid, hchildId, stateOf_settled hpresent hsettled] at hunclaimed
      exact absurd hunclaimed hsettled
    · rename_i hid
      split
      · rename_i hstop
        obtain ⟨r, hr, hof⟩ := hfleets.row hcoherent hc
        rw [stateOf_other hr (hchildId ▸ hid)] at hunclaimed
        exact absurd hunclaimed (blocking_of_unbegun hstop.1 ⟨c, hc, hof.id.symm, hstop.2⟩)
      · rfl
  case gate =>
    intro c _ hopen
    unfold projection at hopen
    split at hopen
    · exact Or.inl hopen
    · split at hopen
      · cases hopen
      · exact Or.inl hopen
  case blocked =>
    intro b hb hblocked
    by_cases hid : b.childIntentId = row.intentId
    · rw [hid, stateOf_settled hpresent hsettled] at hblocked
      rw [hid, stateOf_eq hpresent]
      exact Or.inl (hsettling.unblocked hblocked)
    obtain ⟨r, hr, hof⟩ := hfleets.row hcoherent hb
    rw [stateOf_other hr hid] at hblocked
    rw [stateOf_eq hr]
    unfold blocking at hblocked
    split at hblocked
    · rename_i hstop
      obtain ⟨hstops, ⟨b', hb', hid', hunstarted⟩, -⟩ := hstop
      obtain rfl := hfleets.children b' hb' b hb (hid'.trans hof.id)
      refine Or.inr fun c hc hop hwave hunclaimed => ?_
      have hlater : child.waveIndex < c.waveIndex := lt_of_lt_of_le hunstarted.2.1 hwave
      -- the settled child is of an earlier wave
      have hne : c.childIntentId ≠ row.intentId := by
        intro hsame
        obtain rfl := hfleets.children c hc child hchild (hsame.trans hchildId.symm)
        exact absurd hlater (lt_irrefl _)
      obtain ⟨s, hs, hofs⟩ := hfleets.row hcoherent hc
      rw [stateOf_other hs hne] at hunclaimed
      have hbefore : s.claim.state = some .unclaimed := by
        by_contra hclaimed
        rw [blocking_of_claimed hclaimed] at hunclaimed
        exact hclaimed hunclaimed
      have hpending := hdb.pending c hc ((stateOf_eq hs).trans hbefore)
      exact blocking_of_unbegun hstops ⟨c, hc, hofs.id.symm, hop.trans hunstarted.1, hlater, hpending⟩ hunclaimed
    · exact Or.inl hblocked

end

/-- what is checked before a gate opens -/
structure GateChecked (db : Db) (fleetOperationId : String) (currentWave nextWave : ℕ) : Prop where
  next : nextWave = currentWave + 1
  nonempty : db.waveOf fleetOperationId currentWave ≠ []
  ended : ∀ c ∈ db.waveOf fleetOperationId currentWave, c.progress.status.isTerminal = true
  failFast : db.policyOf fleetOperationId currentWave = some .failFast →
    ∀ c ∈ db.waveOf fleetOperationId currentWave, c.progress.status = .applied
  manual : db.policyOf fleetOperationId currentWave = some .manualGate →
    ∃ g ∈ db.gateDecisions, (g.fleetOperationId = fleetOperationId ∧ g.currentWave = currentWave ∧ g.nextWave = nextWave) ∧
      ∃ d ∈ db.decisions, d.decisionId = g.decisionId ∧ d.approved = true

theorem advanceWaveGate_checked {now : ℤ}
    (h : advanceWaveGate sv now fleetOperationId currentWave nextWave db = .ok db') :
    GateChecked db fleetOperationId currentWave nextWave := by
  obtain ⟨_, hnext, h⟩ := bind_ok.1 h
  obtain ⟨_, hnonempty, h⟩ := bind_ok.1 h
  obtain ⟨_, hended, h⟩ := bind_ok.1 h
  obtain ⟨fo, hfo, h⟩ := bind_ok.1 h
  replace h := passed h
  replace h := passed h
  obtain ⟨_, hfailFast, h⟩ := bind_ok.1 h
  obtain ⟨_, hmanual, -⟩ := bind_ok.1 h
  rw [reject_ok] at hnext hnonempty hended hfailFast hmanual
  push Not at hnext hended hfailFast hmanual
  have hpolicy : db.policyOf fleetOperationId currentWave = fo.waves[currentWave]?.map Wave.failurePolicy := by
    rw [Db.policyOf, Db.planOf, queryRow_ok.1 hfo, Option.bind_some, Option.map_map]
    rfl
  constructor
  case next => exact hnext
  case nonempty => exact hnonempty
  case ended => exact fun c hc => by simpa using hended c hc
  case failFast => exact fun hp => hfailFast (hpolicy.symm.trans hp)
  case manual =>
    intro hp
    obtain ⟨g, hg, ⟨hid, hcurrent, hnext', -⟩, d, hd, ⟨hdid, happroved, -⟩, -⟩ := hmanual (hpolicy.symm.trans hp)
    exact ⟨g, hg, ⟨hid, hcurrent, hnext'⟩, d, hd, hdid, happroved⟩

theorem mem_waveOf {waveIndex : ℕ} :
    c ∈ db.waveOf fleetOperationId waveIndex ↔
      c ∈ db.fleetChildren ∧ c.fleetOperationId = fleetOperationId ∧ c.waveIndex = waveIndex := by
  simp [Db.waveOf, mem_childrenOf, and_assoc]

/-- the waves before an unclaimed child have ended when its gate opens: somebody of the last one has begun -/
theorem GateChecked.below (h : GateChecked db fleetOperationId currentWave nextWave) (hdb : Ordered db)
    (hc : c ∈ db.waveOf fleetOperationId nextWave) (hunclaimed : db.stateOf c.childIntentId = some .unclaimed) :
    Below db c := by
  obtain ⟨hc, hop, hwave⟩ := mem_waveOf.1 hc
  have hnext := h.next
  intro b hb hbop hbwave
  rcases Nat.lt_or_ge b.waveIndex currentWave with hearlier | hcurrent
  · obtain ⟨e, he⟩ := exists_mem_of_ne_nil _ h.nonempty
    have hended := h.ended e he
    obtain ⟨hemem, heop, hewave⟩ := mem_waveOf.1 he
    have hreached : Reached db e := by
      constructor
      · intro hblocked
        exact hdb.blocked e hemem hblocked c hc (hop.trans heop.symm) (by omega) hunclaimed
      · intro hstate
        rw [hdb.pending e hemem hstate] at hended
        cases hended
    exact hdb.below e hemem hreached b hb (hbop.trans (hop.trans heop.symm)) (by omega)
  · have hsame : b.waveIndex = currentWave := by omega
    have hbmem : b ∈ db.waveOf fleetOperationId currentWave := mem_waveOf.2 ⟨hb, hbop.trans hop, hsame⟩
    refine ⟨h.ended b hbmem, fun hpolicy => h.failFast ?_ b hbmem⟩
    rw [← hpolicy, hbop, hop, hsame]

theorem stateOf_openWave (db : Db) (fleetOperationId : String) (waveIndex : ℕ) (id : String) :
    (openWave db fleetOperationId waveIndex).stateOf id = db.stateOf id := by
  have hlookup := intent?_mapClaims db (fun row =>
    if InWave db fleetOperationId waveIndex row.intentId then { row.claim with gateOpen := true } else row.claim) id
  refine (congrArg (Option.bind · _) hlookup).trans ?_
  rw [Db.stateOf]
  cases db.intent? id with
  | none => rfl
  | some =>
    simp only [Option.map_some, Option.bind_some]
    split <;> rfl

theorem advances_opened (hdb : Ordered db) (hchecked : GateChecked db fleetOperationId currentWave nextWave) :
    Advances db (openWave db fleetOperationId nextWave) fun c =>
      if c.fleetOperationId = fleetOperationId ∧ c.waveIndex = nextWave then { c.progress with gateOpen := true }
      else c.progress := by
  constructor
  case children => rfl
  case terminal =>
    intro c _ _
    split <;> rfl
  case pending =>
    intro c _ _
    split <;> rfl
  case gate =>
    intro c hc hopen
    split at hopen
    · rename_i hwave
      refine Or.inr ⟨?_, hchecked.below hdb (mem_waveOf.2 ⟨hc, hwave⟩)⟩
      intro k hk hpolicy
      have hnext := hchecked.next
      obtain rfl : k = currentWave := by omega
      rw [hwave.1] at hpolicy ⊢
      rw [← hnext]
      exact hchecked.manual hpolicy
    · exact Or.inl hopen
  case blocked =>
    intro b _ hblocked
    rw [stateOf_openWave] at hblocked
    exact Or.inl hblocked

/-! ## A new operation -/

section

variable {request : FleetRequest} {parent : IntentRow} {children : List (ChildRequest × IntentRow)} {fo : FleetRow}

/-- the tables with a new operation -/
def Db.withOperation (db : Db) (parent : IntentRow) (children : List (ChildRequest × IntentRow)) (fo : FleetRow) : Db :=
  { db with
    intents := db.intents ++ parent :: children.map Prod.snd, fleets := db.fleets ++ [fo]
    fleetChildren := db.fleetChildren ++ childRows fo.fleetOperationId children }

section

variable (h : Planned sv db request children fo)
include h

theorem Planned.planOf (k : ℕ) :
    (db.withOperation parent children fo).planOf fo.fleetOperationId k = request.waves[k]?.map Wave.plan := by
  have hlookup : (db.withOperation parent children fo).fleet? fo.fleetOperationId = some fo := by
    refine (lookup_append_new h.new fo.fleetOperationId).trans ?_
    rw [if_pos rfl]
  rw [Db.planOf, hlookup, Option.bind_some, h.waves]

/-- a new child waits, and has an open gate only in the first wave -/
theorem Planned.child (hadded : Added sv db db (parent :: children.map Prod.snd))
    (hcoherent : Coherent sv (db.withOperation parent children fo)) (horderly : request.Orderly)
    (hc : c ∈ childRows fo.fleetOperationId children) :
    c.fleetOperationId = fo.fleetOperationId ∧ c.progress.status = .pending ∧
      (c.progress.gateOpen = true → c.waveIndex = 0) ∧
      (db.withOperation parent children fo).stateOf c.childIntentId = some .unclaimed ∧
      ∃ w ∈ request.waves[c.waveIndex]?,
        (request.childIntents.filter fun x => decide (x.waveIndex = c.waveIndex)).length ≤ w.parallelLimit := by
  obtain ⟨x, hx, rfl⟩ := mem_childRows hc
  have hrow : x.2 ∈ parent :: children.map Prod.snd := mem_cons_of_mem _ (mem_map_of_mem hx)
  have hof := h.childOf hx
  have hrequest : x.1 ∈ request.childIntents := by
    rw [← h.requests]
    exact mem_map_of_mem hx
  obtain ⟨hstatus, hlimit⟩ := horderly x.1 hrequest
  have hlookup : (db.withOperation parent children fo).intent? x.1.intentId = some x.2 :=
    hcoherent.uniqueIds.lookup_of_mem (mem_append_right _ hrow) hof.id
  refine ⟨rfl, ?_, ?_, ?_, hlimit⟩
  · simp [childRow, hstatus]
  · simp [childRow]
  · refine (stateOf_eq hlookup).trans ?_
    rw [(hadded.fresh x.2 hrow).2, hof.child]
    rfl

end

theorem Ordered.created (hdb : Ordered db) (h : Write sv .orderly db (db.withOperation parent children fo))
    (hcoherent : Coherent sv db) (hfleets : Fleets db) (hadded : Added sv db db (parent :: children.map Prod.snd))
    (hplanned : Planned sv db request children fo) (horderly : request.Orderly) :
    Ordered (db.withOperation parent children fo) := by
  have hstate : ∀ c ∈ db.fleetChildren,
      (db.withOperation parent children fo).stateOf c.childIntentId = db.stateOf c.childIntentId := by
    intro c hc
    obtain ⟨row, hrow, -⟩ := hfleets.row hcoherent hc
    have hrow' : (db.withOperation parent children fo).intent? c.childIntentId = some row :=
      lookup_append_of_some hrow _
    rw [stateOf_eq hrow', stateOf_eq hrow]
  have hplan : ∀ c ∈ db.fleetChildren, ∀ k,
      (db.withOperation parent children fo).planOf c.fleetOperationId k = db.planOf c.fleetOperationId k :=
    fun c hc k => h.keeps_plan hcoherent hfleets hc k
  have hnew := fun {c} (hc : c ∈ childRows fo.fleetOperationId children) =>
    hplanned.child hadded (h.coherent hcoherent) horderly hc
  constructor
  case below =>
    intro c hc hreached b hb hop hwave
    rcases List.mem_append.1 hc with hc | hc
    · rcases List.mem_append.1 hb with hb | hb
      · have hbefore : Reached db c := by
          unfold Reached
          rw [← hstate c hc]
          exact hreached
        rw [policyOf_eq (hplan b hb b.waveIndex)]
        exact hdb.below c hc hbefore b hb hop hwave
      · exact absurd (hop.symm.trans (hnew hb).1) (hplanned.fresh hfleets hc)
    · obtain ⟨-, -, hgate, hunclaimed, -⟩ := hnew hc
      rw [hgate (hreached.2 hunclaimed)] at hwave
      exact absurd hwave (Nat.not_lt_zero _)
  case pending =>
    intro c hc hunclaimed
    rcases List.mem_append.1 hc with hc | hc
    · exact hdb.pending c hc ((hstate c hc).symm.trans hunclaimed)
    · exact (hnew hc).2.1
  case blocked =>
    intro b hb hblocked c hc hop hwave
    rcases List.mem_append.1 hb with hb | hb
    · rcases List.mem_append.1 hc with hc | hc
      · rw [hstate c hc]
        exact hdb.blocked b hb ((hstate b hb).symm.trans hblocked) c hc hop hwave
      · exact absurd (hop.symm.trans (hnew hc).1) (hplanned.fresh hfleets hb)
    · obtain ⟨-, -, -, hunclaimed, -⟩ := hnew hb
      rw [hunclaimed] at hblocked
      cases hblocked
  case gates =>
    intro c hc hopen k hwave hpolicy
    rcases List.mem_append.1 hc with hc | hc
    · exact (hdb.gates c hc hopen).mono h hplan hc c.progress k hwave hpolicy
    · rw [(hnew hc).2.2.1 hopen] at hwave
      cases hwave
  case limit =>
    intro c hc
    rcases List.mem_append.1 hc with hc | hc
    · -- an old operation has no new child
      rw [hplan c hc, Db.waveOf, childrenOf_other rfl (hplanned.fresh hfleets hc).symm]
      exact hdb.limit c hc
    · obtain ⟨hop, -, -, -, w, hw, hlimit⟩ := hnew hc
      rw [hop, hplanned.planOf, Db.waveOf, hplanned.childrenOf hfleets rfl, childRows, filter_map, length_map]
      -- the waves of the new operation are those of the request
      rw [← hplanned.requests, filter_map, length_map] at hlimit
      exact ⟨w.plan, Option.mem_map_of_mem _ hw, hlimit⟩

end

/-- **Every write of an orderly run keeps the order.** -/
theorem Write.keeps_ordered (h : Write sv .orderly db db') (hcoherent : Coherent sv db) (hfleets : Fleets db)
    (hdb : Ordered db) : Ordered db' := by
  cases h.fleetWrite hcoherent.uniqueIds hfleets.children with
  | untouched _ _ hchildren hunblocked =>
    exact hdb.advance h hcoherent hfleets (advances_untouched hcoherent hchildren hunblocked)
  | created _ _ _ _ permitted added planned =>
    exact hdb.created h hcoherent hfleets added planned permitted
  | projected _ present _ _ _ _ _ settling _ _ _ _ _ found allowed =>
    exact hdb.advance h hcoherent hfleets (advances_projected hcoherent hfleets hdb present settling found allowed)
  | opened _ _ _ _ advanced =>
    exact hdb.advance h hcoherent hfleets (advances_opened hdb (advanceWaveGate_checked advanced))

theorem ordered_empty : Ordered Db.empty where
  below := by simp [Db.empty]
  pending := by simp [Db.empty]
  blocked := by simp [Db.empty]
  gates := by simp [Db.empty]
  limit := by simp [Db.empty]

/-! ## Orderly runs -/

def Callback.Orderly : Callback → Prop
  | .fleet fo _ => fo.Orderly
  | _ => True

instance (callback : Callback) : Decidable callback.Orderly := by
  unfold Callback.Orderly
  split <;> infer_instance

/-- an operation is requested in order, and no child is held before the gate of its wave is open -/
def Orderly (w : World) : Op → Prop
  | .record index _ => ∀ x ∈ w.deciding[index]?, x.2.Orderly
  | .validate callId accepted => accepted = false → ∀ call ∈ w.call? callId, call.phase = .loaded →
      ∀ row ∈ w.db.intent? call.intent.effectIntentId, row.claim.state = some .unclaimed →
        ∀ c ∈ w.db.fleetChildren, c.childIntentId = row.intentId → c.progress.gateOpen = true
  | _ => True

instance (w : World) : DecidablePred (Orderly w)
  | .record .. | .validate .. | .tx _ | .decide .. | .load .. | .claim .. | .project _ | .send _ | .reply .. | .crash _ => by
    unfold Orderly
    infer_instance

theorem permitted_orderly {w : World} (hlive : Live sv w) {op : Op} (hop : Orderly w op) : Permitted sv .orderly w op := by
  have hany := permitted_any sv w op
  cases op with
  | tx t =>
    cases t with
    | fenceExpiredClaim =>
      intro row _ hclaimed hunclaimed
      rw [hclaimed] at hunclaimed
      cases hunclaimed
    | reconcileUnknown =>
      intro row result _ hunknown _ hunclaimed
      rw [hunknown] at hunclaimed
      cases hunclaimed
    | _ => exact hany
  | validate =>
    intro haccepted call row hcall hphase hrow hstate _
    exact hop haccepted call hcall hphase row hrow hstate
  | project =>
    intro call row hcall hphase hrow hunclaimed
    have hmem := mem_of_lookup hcall
    exact absurd (hlive.unleased hmem hrow hunclaimed) ((hlive.phases call hmem).1 (Or.inl hphase))
  | reply =>
    intro call row hcall hphase _ hrow hunclaimed
    have hmem := mem_of_lookup hcall
    exact absurd (hlive.unleased hmem hrow hunclaimed) ((hlive.phases call hmem).1 (Or.inr hphase))
  | record =>
    intro d callback hdeciding
    refine ⟨trivial, fun fo capture hfleet => ?_⟩
    have horderly := hop (d, callback) hdeciding
    rw [hfleet] at horderly
    exact horderly
  | _ => exact hany

/-- a child that is claimed and has not ended -/
def Active (db : Db) (c : FleetChildRow) : Prop :=
  (∃ row ∈ db.intent? c.childIntentId, row.claim.leaseId ≠ none) ∧ c.progress.status.isTerminal = false
deriving Decidable

def Db.activeOf (db : Db) (fleetOperationId : String) : List FleetChildRow :=
  (db.childrenOf fleetOperationId).filter fun c => decide (Active db c)

/-- claims follow the waves, and who is active is within the limit of the wave -/
structure InOrder (db : Db) : Prop where
  claims : ∀ c ∈ db.fleetChildren, ∀ now effectDigest leaseId leaseTtl db',
    claimIntent now c.childIntentId .unclaimed effectDigest leaseId leaseTtl db = .ok (.claimed, db') →
      Below db c ∧ GateAuthorized db c
  limit : ∀ c ∈ db.fleetChildren, Active db c → ∃ plan ∈ db.planOf c.fleetOperationId c.waveIndex,
    (db.activeOf c.fleetOperationId).length ≤ plan.2

theorem Active.reached (hcoherent : Coherent sv db) (h : Active db c) : Reached db c := by
  obtain ⟨⟨row, hrow, hlease⟩, -⟩ := h
  have hsound := hcoherent.sound row (mem_of_lookup hrow)
  have hstate := stateOf_eq hrow
  constructor
  · intro hblocked
    exact hlease (by simpa [Claim.Sound, hstate.symm.trans hblocked] using hsound)
  · intro hunclaimed
    exact absurd (hsound.lease_of_unclaimed (hstate.symm.trans hunclaimed)) hlease

/-- who is active in an operation is of one wave -/
theorem Ordered.active_wave (hdb : Ordered db) (hcoherent : Coherent sv db) {b : FleetChildRow}
    (hb : b ∈ db.fleetChildren) (hc : c ∈ db.fleetChildren) (hop : b.fleetOperationId = c.fleetOperationId)
    (hbactive : Active db b) (hcactive : Active db c) : b.waveIndex = c.waveIndex := by
  have hnot : ∀ {x y : FleetChildRow}, x ∈ db.fleetChildren → y ∈ db.fleetChildren →
      x.fleetOperationId = y.fleetOperationId → Active db x → Active db y → ¬ x.waveIndex < y.waveIndex := by
    intro x y hx hy hsame hxactive hyactive hlt
    have hended := (hdb.below y hy (hyactive.reached hcoherent) x hx hsame hlt).1
    rw [hxactive.2] at hended
    cases hended
  exact le_antisymm (not_lt.1 (hnot hc hb hop.symm hcactive hbactive)) (not_lt.1 (hnot hb hc hop hbactive hcactive))

theorem Ordered.inOrder (hdb : Ordered db) (hcoherent : Coherent sv db) (hfleets : Fleets db) : InOrder db where
  claims := by
    intro c hc now effectDigest leaseId leaseTtl db' hclaim
    obtain ⟨row, hrow, hchecked, -⟩ := claimIntent_claimed hclaim
    obtain ⟨row', hrow', hof⟩ := hfleets.row hcoherent hc
    obtain rfl : row' = row := Option.some.inj (hrow'.symm.trans hrow)
    obtain ⟨-, -, hgate⟩ := hchecked.gate
    obtain ⟨other, hother, hid, hopen⟩ := hgate.resolve_left (by simp [hof.operation])
    rw [hfleets.children other hother c hc (hid.trans hof.id)] at hopen
    have hstate : db.stateOf c.childIntentId = some .unclaimed := (stateOf_eq hrow).trans hchecked.state
    have hreached : Reached db c := ⟨by simp [hstate], fun _ => hopen⟩
    exact ⟨hdb.below c hc hreached, hdb.gates c hc hopen⟩
  limit := by
    intro c hc hactive
    obtain ⟨plan, hplan, hlimit⟩ := hdb.limit c hc
    refine ⟨plan, hplan, le_trans ?_ hlimit⟩
    rw [Db.activeOf, Db.waveOf, ← countP_eq_length_filter, ← countP_eq_length_filter]
    refine countP_mono_left fun b hb hbactive => ?_
    obtain ⟨hbmem, hop⟩ := mem_childrenOf.1 hb
    exact decide_eq_true (hdb.active_wave hcoherent hbmem hc hop (of_decide_eq_true hbactive) hactive)

/-- **Waves in order.** In every state of a run whose operations are requested without statuses and with waves within
their parallel limits, and whose children are held only behind an open gate: who is claimed has only ended waves behind,
the fail-fast ones with nothing but applied children, and an authorization for exactly the gate of its wave where that is a
manual one; and no more children of an operation are claimed and not ended than the parallel limit of their wave. -/
theorem waves_in_order (sv : Services) {ops : List Op} (h : Along (fun pre op => Orderly (run sv pre) op) ops) :
    InOrder (run sv ops).db := by
  have hpermitted : RunPermitted sv .orderly ops := h.imp fun pre _ hop => permitted_orderly (run_live sv pre) hop
  have hkeeps : ∀ db db', Coherent sv db → Fleets db ∧ Ordered db → Write sv .orderly db db' → Fleets db' ∧ Ordered db' :=
    fun _ _ hcoherent hdb hwrite => ⟨hwrite.keeps_fleets hcoherent hdb.1, hwrite.keeps_ordered hcoherent hdb.1 hdb.2⟩
  have hempty : Fleets Db.empty ∧ Ordered Db.empty := ⟨fleets_empty, ordered_empty⟩
  obtain ⟨hfleets, hordered⟩ := run_invariant hempty hkeeps hpermitted
  exact hordered.inOrder (run_live sv ops).coherent hfleets

/-- two targets in one wave -/
def pairedFleet (parallelLimit : ℕ) : List Op :=
  let p := captureProposal ["leaf-1", "leaf-2"]
  labFleetOps p (labFleet p [⟨0, ["leaf-1", "leaf-2"], parallelLimit, .failFast, false⟩]
    [labChild p "child-1" "leaf-1" 0 none, labChild p "child-2" "leaf-2" 0 none])

/-- claim the children one after the other; what both claims answer, and the tables after them -/
def claimPair (db : Db) : GoResult (CasResult × CasResult × Db) := do
  let first ← queryRow (db.intent? "child-1")
  let second ← queryRow (db.intent? "child-2")
  let (one, db) ← claimIntent 0 "child-1" .unclaimed first.intent.effectDigest "lease-1" 30000 db
  let (two, db) ← claimIntent 0 "child-2" .unclaimed second.intent.effectDigest "lease-2" 30000 db
  return (one, two, db)

/-- both children are claimed in a wave with parallel limit two -/
def claimedPair : List Op :=
  pairedFleet 2 ++ [.load 0 "child-1", .validate 0 true, .claim 0 0 "lease-1" 30000,
    .load 1 "child-2", .validate 1 true, .claim 1 0 "lease-2" 30000]

theorem pair_within_limit : let db := (run labServices claimedPair).db
    (db.activeOf "fleet-1").length = 2 ∧ InOrder db := by
  refine ⟨by decide +kernel, waves_in_order labServices ?_⟩
  exact along_of_decide (P := Orderly) (step labServices) World.init (by decide +kernel)

/-- **A limit nobody reads.** Two children of a wave with parallel limit one are claimed one after the other. -/
theorem parallel_limit_exceeded : ∃ db', claimPair (run labServices (pairedFleet 1)).db = .ok (.claimed, .claimed, db') ∧
    db'.planOf "fleet-1" 0 = some (.failFast, 1) ∧ (db'.activeOf "fleet-1").length = 2 := by
  have hclaims : (claimPair (run labServices (pairedFleet 1)).db).toOption.any (fun x =>
      decide (x.1 = .claimed ∧ x.2.1 = .claimed ∧ x.2.2.planOf "fleet-1" 0 = some (.failFast, 1) ∧
        (x.2.2.activeOf "fleet-1").length = 2)) = true := by
    decide +kernel
  cases hpair : claimPair (run labServices (pairedFleet 1)).db with
  | error =>
    rw [hpair] at hclaims
    cases hclaims
  | ok x =>
    rw [hpair] at hclaims
    obtain ⟨one, two, db'⟩ := x
    obtain ⟨rfl, rfl, hplan, hactive⟩ := of_decide_eq_true hclaims
    exact ⟨db', rfl, hplan, hactive⟩

end MasiEdge.Control
