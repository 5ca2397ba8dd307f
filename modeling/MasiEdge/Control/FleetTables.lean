/-
The fleet tables: what every write keeps of the operations and of their children.

A child belongs to one operation and to one intent. A projection sets the status of one child; when it stops a fail-fast
wave it also blocks what has not begun in later waves, and in the end it derives the operation from its children. A gate
that opens changes neither the status nor the digest of a child.

The vector of an operation is digested at two places. The creation and the two gate transactions read the effect digest of
every child; the projection does not, so its vector has empty effect digests.

* `setChildStatus_projected`: a projection, row by row;
* `Write.fleetWrite`: what a write does to the fleet tables;
* `run_fleets`: children and operations fit together in every run;
* `displayed_vector_iff`: the stored vector is the one a gate recomputes only until the first projection;
* `held_vector_displayed`: a wave that has ended, and whose gate cannot be authorized for the stored vector.
-/
import MasiEdge.Control.Approval

namespace MasiEdge.Control

open List Table

variable {sv : Services} {perm : Permit} {db db' : Db} {fo : FleetRow} {state : ClaimState} {outcome : Option AttemptStatus}
  {row : IntentRow} {g : FleetChildRow → Progress} {fleetOperationId : String} {c : FleetChildRow}
  {children : List (ChildRequest × IntentRow)} {request : FleetRequest} {attempt : Option AttemptRow} {f : Claim → Claim}

/-! ## Projections -/

/-- the projection stops a fail-fast wave -/
def StopsWave (fo : FleetRow) (child : FleetChildRow) (status : ChildStatus) : Prop :=
  waveFailurePolicy fo.waves child.waveIndex = some .failFast ∧ status.stops = true
deriving Decidable

/-- a child after the projection of `child` -/
def projection (fo : FleetRow) (child : FleetChildRow) (status : ChildStatus) (reasonCode : String) (c : FleetChildRow) :
    Progress :=
  if c.childIntentId = child.childIntentId then { c.progress with status, reasonCode }
  else if StopsWave fo child status ∧ c.Unstarted child.fleetOperationId child.waveIndex then
    ⟨.blocked, "FAIL_FAST_BLOCKED", false⟩
  else c.progress

/-- the intent of a child that has not begun -/
def Unbegun (children : List FleetChildRow) (child : FleetChildRow) (intentId : String) : Prop :=
  ∃ c ∈ children, c.childIntentId = intentId ∧ c.Unstarted child.fleetOperationId child.waveIndex
deriving Decidable

/-- a claim after the projection of `child` -/
def blocking (children : List FleetChildRow) (fo : FleetRow) (child : FleetChildRow) (status : ChildStatus)
    (row : IntentRow) : Claim :=
  if StopsWave fo child status ∧ Unbegun children child row.intentId ∧ row.claim.state = some .unclaimed then
    { row.claim with state := some .blocked, gateOpen := false }
  else row.claim

/-- the tables after the projection of `child`, before its operation is derived -/
def Db.projected (db : Db) (fo : FleetRow) (child : FleetChildRow) (status : ChildStatus) (reasonCode : String) : Db :=
  (db.mapClaims (blocking db.fleetChildren fo child status)).mapChildren (projection fo child status reasonCode)

/-- **A projection, row by row.** -/
theorem setChildStatus_projected (hunique : Table.Unique FleetChildRow.childIntentId db.fleetChildren)
    {child : FleetChildRow} (hchild : child ∈ db.fleetChildren) (status : ChildStatus) (reasonCode : String) :
    (if waveFailurePolicy fo.waves child.waveIndex = some .failFast ∧ status.stops = true then
      blockLaterWaves (setChildStatus db child.childIntentId status reasonCode) child.fleetOperationId child.waveIndex
    else setChildStatus db child.childIntentId status reasonCode) = db.projected fo child status reasonCode := by
  -- the projected child is of no later wave than its own
  have hself : ∀ c ∈ db.fleetChildren, c.childIntentId = child.childIntentId → ∀ progress,
      ¬ { c with progress }.Unstarted child.fleetOperationId child.waveIndex := by
    intro c hc hid progress hunstarted
    obtain rfl := hunique c hc child hchild hid
    exact absurd hunstarted.2.1 (lt_irrefl _)
  split
  · rename_i hstops
    have hunbegun : ∀ intentId, (∃ c ∈ (setChildStatus db child.childIntentId status reasonCode).fleetChildren,
        c.childIntentId = intentId ∧ c.Unstarted child.fleetOperationId child.waveIndex) ↔
          Unbegun db.fleetChildren child intentId := by
      intro intentId
      simp only [setChildStatus, Db.mapChildren, mem_map, Unbegun]
      constructor
      · rintro ⟨_, ⟨c, hc, rfl⟩, hid, hunstarted⟩
        have hne : c.childIntentId ≠ child.childIntentId := fun h => hself c hc h _ hunstarted
        rw [if_neg hne] at hunstarted
        exact ⟨c, hc, hid, hunstarted⟩
      · rintro ⟨c, hc, hid, hunstarted⟩
        have hne : c.childIntentId ≠ child.childIntentId := fun h => hself c hc h c.progress hunstarted
        exact ⟨_, ⟨c, hc, rfl⟩, hid, by rwa [if_neg hne]⟩
    refine congrArg₂ (fun intents children => { db with intents, fleetChildren := children }) ?_ ?_
    · refine map_congr_left fun row _ => ?_
      simp only [blocking, StopsWave, hunbegun, hstops, and_self, true_and]
    · refine List.map_map.trans (map_congr_left fun c hc => ?_)
      simp only [Function.comp_apply, projection, StopsWave, hstops, and_self, true_and]
      by_cases hid : c.childIntentId = child.childIntentId
      · simp only [if_pos hid, if_neg (hself c hc hid _)]
      · simp only [if_neg hid]
  · rename_i hstops
    have hclaims : db.mapClaims (blocking db.fleetChildren fo child status) = db := by
      have hsame : blocking db.fleetChildren fo child status = IntentRow.claim := by
        funext row
        exact if_neg fun h => hstops h.1
      rw [hsame, mapClaims_claim]
    have hchildren : projection fo child status reasonCode = fun c =>
        if c.childIntentId = child.childIntentId then { c.progress with status, reasonCode } else c.progress := by
      funext c
      simp only [projection, StopsWave, hstops, false_and, if_false]
    rw [Db.projected, hclaims, hchildren]
    rfl

/-! ## Writes -/

/-- the tables with a settled claim and its attempt -/
def Db.settled (db : Db) (intentId : String) (f : Claim → Claim) (attempt : Option AttemptRow) : Db :=
  { db.setClaim intentId f with attempts := db.attempts ++ attempt.toList }

/-- no intent is newly blocked -/
def Unblocked (db db' : Db) : Prop :=
  ∀ row' ∈ db'.intents, row'.claim.state = some .blocked →
    ∃ row ∈ db.intents, row.intentId = row'.intentId ∧ row.claim.state = some .blocked

/-- what a write does to the fleet tables -/
inductive FleetWrite (sv : Services) (perm : Permit) (db : Db) : Db → Prop
  | untouched (db' : Db) (fleets : db'.fleets = db.fleets) (children : db'.fleetChildren = db.fleetChildren)
      (unblocked : Unblocked db db') : FleetWrite sv perm db db'
  | created (request : FleetRequest) (parent : IntentRow) (children : List (ChildRequest × IntentRow)) (fo : FleetRow)
      (permitted : perm.fleet request) (added : Added sv db db (parent :: children.map Prod.snd))
      (planned : Planned sv db request children fo) :
      FleetWrite sv perm db { db with
        intents := db.intents ++ parent :: children.map Prod.snd, fleets := db.fleets ++ [fo]
        fleetChildren := db.fleetChildren ++ childRows fo.fleetOperationId children }
  | projected (row : IntentRow) (present : db.intent? row.intentId = some row) (f : Claim → Claim)
      (attempt : Option AttemptRow) (state : ClaimState) (outcome : Option AttemptStatus) (reasonCode : String)
      (settling : Settling row f attempt state outcome) (permitted : perm.settle db row state) (status : ChildStatus)
      (child : FleetChildRow) (fo : FleetRow) (image : fleetChildStatus state outcome = .ok (some status))
      (found : db.child? row.intentId = some child)
      (allowed : allowedChildTransition child.progress.status status = true)
      (operation : db.fleet? child.fleetOperationId = some fo) :
      FleetWrite sv perm db (refreshFleet sv
        ((db.settled row.intentId f attempt).projected fo child status reasonCode) child.fleetOperationId)
  | opened (now : ℤ) (fleetOperationId : String) (currentWave nextWave : ℕ)
      (advanced : advanceWaveGate sv now fleetOperationId currentWave nextWave db =
        .ok (openWave db fleetOperationId nextWave)) :
      FleetWrite sv perm db (openWave db fleetOperationId nextWave)

theorem Unblocked.of_moves {f : IntentRow → Claim} (hintents : db'.intents = moved f db.intents)
    (hf : ∀ row ∈ db.intents, (f row).state = some .blocked → row.claim.state = some .blocked) : Unblocked db db' := by
  intro row' hrow' hblocked
  rw [hintents] at hrow'
  obtain ⟨row, hrow, rfl⟩ := List.mem_map.1 hrow'
  exact ⟨row, hrow, rfl, hf row hrow hblocked⟩

theorem Unblocked.of_eq (hintents : db'.intents = db.intents) : Unblocked db db' :=
  .of_moves (hintents.trans (moved_claim _).symm) fun _ _ => id

/-- new rows are not blocked -/
theorem Unblocked.append {db₀ : Db} {rows : List IntentRow} (hadded : Added sv db db₀ rows)
    (hintents : db'.intents = db.intents ++ rows) : Unblocked db db' := by
  intro row' hrow' hblocked
  rw [hintents] at hrow'
  rcases List.mem_append.1 hrow' with hrow' | hrow'
  · exact ⟨row', hrow', rfl, hblocked⟩
  · rw [(hadded.fresh row' hrow').2] at hblocked
    split at hblocked <;> cases hblocked

theorem Quiet.unblocked {claim : Claim} (h : Quiet perm db row claim) (hblocked : claim.state = some .blocked) :
    row.claim.state = some .blocked := by
  cases h with
  | same => exact hblocked
  | openGate => exact hblocked
  | renew => exact hblocked
  | take => cases hblocked
  | shutdown => cases hblocked

theorem Settling.unblocked (h : Settling row f attempt state outcome)
    (hblocked : (f row.claim).state = some .blocked) :
    row.claim.state = some .blocked := by
  obtain rfl := h.eq_id (Or.inr hblocked)
  exact hblocked

theorem Unblocked.settled (hunique : Table.Unique IntentRow.intentId db.intents)
    (hpresent : db.intent? row.intentId = some row) (h : Settling row f attempt state outcome) :
    Unblocked db (db.settled row.intentId f attempt) := by
  refine .of_moves rfl fun other hother hblocked => ?_
  split at hblocked
  · rename_i hid
    obtain rfl := hunique other hother row (mem_of_lookup hpresent) hid
    exact h.unblocked hblocked
  · exact hblocked

/-- **What a write does to the fleet tables.** -/
theorem Write.fleetWrite (h : Write sv perm db db') (hintents : Table.Unique IntentRow.intentId db.intents)
    (hunique : Table.Unique FleetChildRow.childIntentId db.fleetChildren) :
    FleetWrite sv perm db db' := by
  cases h with
  | intents rows added | overlay rows o added new present delete => exact .untouched _ rfl rfl (.append added rfl)
  | settleActivation _ _ _ _ _ _ _ set =>
    obtain ⟨activations, rfl⟩ := setActivation_frame set
    exact .untouched _ rfl rfl (.of_eq rfl)
  | commit _ _ _ _ _ _ committed =>
    obtain ⟨bindings, activations, rfl⟩ := commitBaseline_frame committed
    exact .untouched _ rfl rfl (.of_eq rfl)
  | claims _ quiet => exact .untouched _ rfl rfl (.of_moves rfl fun row hrow => (quiet row hrow).unblocked)
  | settle row present f attempt state outcome reasonCode db' settling permitted settled =>
    have hsettled : Table.Unique FleetChildRow.childIntentId (db.settled row.intentId f attempt).fleetChildren := hunique
    change projectFleet sv row.intentId state outcome reasonCode (db.settled row.intentId f attempt) = .ok db' at settled
    rcases projectFleet_cases settled with ⟨rfl, -⟩ | ⟨status, child, fo, hstatus, hchild, hallowed, hfo, rfl⟩
    · exact .untouched _ rfl rfl (.settled hintents present settling)
    · have hprojected : _ = (db.settled row.intentId f attempt).projected fo child status reasonCode :=
        setChildStatus_projected hsettled (mem_of_lookup hchild) status reasonCode
      rw [show child.childIntentId = row.intentId from lookup_key hchild] at hprojected
      rw [hprojected]
      exact .projected row present f attempt state outcome reasonCode settling permitted status child fo hstatus hchild
        hallowed hfo
  | fleet request parent children fo permitted _ added planned =>
    exact .created request parent children fo permitted added planned
  | openWave now fleetOperationId currentWave nextWave _ advanced =>
    obtain rfl := advanceWaveGate_ok advanced
    exact .opened now fleetOperationId currentWave nextWave advanced
  | _ => exact .untouched _ rfl rfl (.of_eq rfl)

/-! ## The invariant of the fleet tables -/

/-- the intent of a child -/
structure ChildOf (c : FleetChildRow) (row : IntentRow) : Prop where
  id : row.intentId = c.childIntentId
  operation : row.fleetOperationId = some c.fleetOperationId
  target : row.intent.targetId = c.targetId
  child : row.intent.isFleetParent = false
  notBefore : row.notBeforeUnixMs = 0

structure Fleets (db : Db) : Prop where
  operations : Table.Unique FleetRow.fleetOperationId db.fleets
  children : Table.Unique FleetChildRow.childIntentId db.fleetChildren
  operation : ∀ c ∈ db.fleetChildren, ∃ fo ∈ db.fleets, fo.fleetOperationId = c.fleetOperationId
  intent : ∀ c ∈ db.fleetChildren, ∃ row ∈ db.intents, ChildOf c row
  digest : ∀ c ∈ db.fleetChildren, c.effectDigest ≠ ""

/-- children with their new progress -/
def advanced (g : FleetChildRow → Progress) (children : List FleetChildRow) : List FleetChildRow :=
  children.map fun c => { c with progress := g c }

theorem advanced_progress (children : List FleetChildRow) : advanced FleetChildRow.progress children = children := by
  simp [advanced]

/-- an update that keeps the keys of both tables -/
theorem Fleets.of_map (hdb : Fleets db) (hintents : ∀ row ∈ db.intents, ∃ claim, { row with claim } ∈ db'.intents)
    (hchildren : db'.fleetChildren = advanced g db.fleetChildren) {r : FleetRow → FleetRow}
    (hfleets : db'.fleets = db.fleets.map r) (hr : ∀ fo, (r fo).fleetOperationId = fo.fleetOperationId) :
    Fleets db' where
  operations := by
    rw [hfleets]
    exact hdb.operations.map hr
  children := by
    rw [hchildren]
    exact hdb.children.map fun _ => rfl
  operation := by
    intro c hc
    rw [hchildren] at hc
    obtain ⟨old, hold, rfl⟩ := List.mem_map.1 hc
    obtain ⟨fo, hfo, hid⟩ := hdb.operation old hold
    refine ⟨r fo, ?_, (hr fo).trans hid⟩
    rw [hfleets]
    exact mem_map_of_mem hfo
  intent := by
    intro c hc
    rw [hchildren] at hc
    obtain ⟨old, hold, rfl⟩ := List.mem_map.1 hc
    obtain ⟨row, hrow, hof⟩ := hdb.intent old hold
    obtain ⟨claim, hmem⟩ := hintents row hrow
    exact ⟨_, hmem, hof.id, hof.operation, hof.target, hof.child, hof.notBefore⟩
  digest := by
    intro c hc
    rw [hchildren] at hc
    obtain ⟨old, hold, rfl⟩ := List.mem_map.1 hc
    exact hdb.digest old hold

/-- the rows of a new operation -/
theorem mem_childRows (h : c ∈ childRows fleetOperationId children) :
    ∃ x ∈ children, c = childRow fleetOperationId x.1 x.2.intent := by
  obtain ⟨x, hx, rfl⟩ := List.mem_map.1 h
  exact ⟨x, hx, rfl⟩

theorem Planned.childOf (h : Planned sv db request children fo) {x : ChildRequest × IntentRow} (hx : x ∈ children) :
    ChildOf (childRow fo.fleetOperationId x.1 x.2.intent) x.2 := by
  obtain ⟨hid, htarget, hoperation, hchild, -, hbefore⟩ := h.rows x hx
  exact ⟨hid, hoperation, htarget, hchild, hbefore⟩

/-- a new operation has no child among the old ones -/
theorem Planned.fresh (h : Planned sv db request children fo) (hdb : Fleets db) (hc : c ∈ db.fleetChildren) :
    c.fleetOperationId ≠ fo.fleetOperationId := by
  obtain ⟨other, hother, hid⟩ := hdb.operation c hc
  rw [← hid]
  exact Table.lookup_eq_none.1 h.new other hother

/-- a new operation brings no child to an old one -/
theorem childrenOf_other (hchildren : db'.fleetChildren = db.fleetChildren ++ childRows fleetOperationId children)
    {other : String} (hne : fleetOperationId ≠ other) : db'.childrenOf other = db.childrenOf other := by
  simp [Db.childrenOf, hchildren, childRows, filter_map, Function.comp_def, childRow, hne]

theorem Planned.childrenOf (h : Planned sv db request children fo) (hdb : Fleets db)
    (hchildren : db'.fleetChildren = db.fleetChildren ++ childRows fo.fleetOperationId children) :
    db'.childrenOf fo.fleetOperationId = childRows fo.fleetOperationId children := by
  have hold : db.childrenOf fo.fleetOperationId = [] :=
    List.filter_eq_nil_iff.2 fun c hc => by simpa using h.fresh hdb hc
  rw [Db.childrenOf, hchildren, filter_append]
  refine (congrArg (· ++ _) hold).trans ?_
  simp [childRows, filter_map, Function.comp_def, childRow]

theorem Fleets.created (hdb : Fleets db) {parent : IntentRow} (hadded : Added sv db db (parent :: children.map Prod.snd))
    (hplanned : Planned sv db request children fo) :
    Fleets { db with
      intents := db.intents ++ parent :: children.map Prod.snd, fleets := db.fleets ++ [fo]
      fleetChildren := db.fleetChildren ++ childRows fo.fleetOperationId children } where
  operations := hdb.operations.append (Table.lookup_eq_none.1 hplanned.new)
  children := by
    refine hdb.children.append_list (unique_of_pairwise ?_) ?_
    · -- the intents of the children are apart, and so are the children
      have hrows := List.pairwise_map.1 (List.pairwise_cons.1 hadded.apart).2
      refine List.pairwise_map.2 (hrows.imp_of_mem fun {a b} ha hb hapart hids => ?_)
      refine hapart (Or.inl ?_)
      rw [(hplanned.rows a ha).1, (hplanned.rows b hb).1]
      exact hids
    · intro a ha b hb hids
      obtain ⟨x, hx, rfl⟩ := mem_childRows hb
      obtain ⟨row, hrow, hof⟩ := hdb.intent a ha
      have hnew := hadded.new x.2 (mem_cons_of_mem _ (mem_map_of_mem hx)) row hrow
      refine hnew (Or.inl ?_)
      rw [hof.id, hids]
      exact (hplanned.childOf hx).id.symm
  operation := by
    intro c hc
    rcases List.mem_append.1 hc with hc | hc
    · obtain ⟨other, hother, hid⟩ := hdb.operation c hc
      exact ⟨other, mem_append_left _ hother, hid⟩
    · obtain ⟨x, -, rfl⟩ := mem_childRows hc
      exact ⟨fo, mem_append_right _ (mem_singleton_self _), rfl⟩
  intent := by
    intro c hc
    rcases List.mem_append.1 hc with hc | hc
    · obtain ⟨row, hrow, hof⟩ := hdb.intent c hc
      exact ⟨row, mem_append_left _ hrow, hof⟩
    · obtain ⟨x, hx, rfl⟩ := mem_childRows hc
      refine ⟨x.2, mem_append_right _ (mem_cons_of_mem _ ?_), hplanned.childOf hx⟩
      exact mem_map_of_mem hx
  digest := by
    intro c hc
    rcases List.mem_append.1 hc with hc | hc
    · exact hdb.digest c hc
    · obtain ⟨x, hx, rfl⟩ := mem_childRows hc
      exact (hplanned.rows x hx).2.2.2.2.1

/-- **Every write keeps the fleet tables.** -/
theorem Write.keeps_fleets (h : Write sv perm db db') (hcoherent : Coherent sv db) (hdb : Fleets db) : Fleets db' := by
  have hintents : ∀ row ∈ db.intents, ∃ claim, { row with claim } ∈ db'.intents := by
    intro row hrow
    obtain ⟨claim, hmem, -⟩ := h.keeps_row hcoherent hrow
    exact ⟨claim, hmem⟩
  cases h.fleetWrite hcoherent.uniqueIds hdb.children with
  | untouched _ hfleets hchildren _ =>
    exact hdb.of_map hintents (hchildren.trans (advanced_progress _).symm) (hfleets.trans (map_id _).symm) fun _ => rfl
  | created _ _ _ _ _ added planned => exact hdb.created added planned
  | projected row present f attempt state outcome reasonCode settling permitted status child fo image found allowed operation
  | opened =>
    refine hdb.of_map hintents rfl rfl fun other => ?_
    split <;> rfl

theorem fleets_empty : Fleets Db.empty where
  operations := unique_nil
  children := unique_nil
  operation := by simp [Db.empty]
  intent := by simp [Db.empty]
  digest := by simp [Db.empty]

theorem runPermitted_any (sv : Services) (ops : List Op) : RunPermitted sv .any ops :=
  fun pre op _ _ => permitted_any sv (run sv pre) op

/-- **The fleet tables of every run.** -/
theorem run_fleets (sv : Services) (ops : List Op) : Fleets (run sv ops).db :=
  run_invariant fleets_empty (fun _ _ hcoherent hdb h => h.keeps_fleets hcoherent hdb) (runPermitted_any sv ops)

/-! ## Vectors -/

theorem childrenOf_advanced (hchildren : db'.fleetChildren = advanced g db.fleetChildren) (fleetOperationId : String) :
    db'.childrenOf fleetOperationId = advanced g (db.childrenOf fleetOperationId) := by
  unfold Db.childrenOf
  rw [hchildren, advanced, filter_map]
  rfl

theorem mem_childrenOf :
    c ∈ db.childrenOf fleetOperationId ↔ c ∈ db.fleetChildren ∧ c.fleetOperationId = fleetOperationId := by
  simp [Db.childrenOf]

/-- the stored vector of an operation: the plan's, or the one of the last projection -/
def Displayed (sv : Services) (db : Db) (fo : FleetRow) : Prop :=
  (fo.aggregateStatus = .planned ∧
    fo.completedVectorDigest = completedVectorDigest sv ((db.childrenOf fo.fleetOperationId).map FleetChildRow.entry)) ∨
  (fo.aggregateStatus ≠ .planned ∧
    fo.completedVectorDigest = completedVectorDigest sv ((db.childrenOf fo.fleetOperationId).map FleetChildRow.shownEntry))

/-- children that keep their status keep the vectors of an operation -/
theorem Displayed.of_entries {fo' : FleetRow} (h : Displayed sv db fo)
    (hid : fo'.fleetOperationId = fo.fleetOperationId) (haggregate : fo'.aggregateStatus = fo.aggregateStatus)
    (hdigest : fo'.completedVectorDigest = fo.completedVectorDigest)
    (hentries : (db'.childrenOf fo.fleetOperationId).map FleetChildRow.entry = (db.childrenOf fo.fleetOperationId).map FleetChildRow.entry)
    : Displayed sv db' fo' := by
  have hshown : (db'.childrenOf fo.fleetOperationId).map FleetChildRow.shownEntry =
      (db.childrenOf fo.fleetOperationId).map FleetChildRow.shownEntry := by
    have hmap := congrArg (List.map fun e : VectorEntry => { e with effectDigest := "" }) hentries
    rwa [map_map, map_map] at hmap
  unfold Displayed
  rw [hid, haggregate, hdigest, hentries, hshown]
  exact h

/-- **Every write keeps the vectors.** -/
theorem Write.keeps_displayed (h : Write sv perm db db') (hcoherent : Coherent sv db) (hfleets : Fleets db)
    (hdb : ∀ fo ∈ db.fleets, Displayed sv db fo) : ∀ fo ∈ db'.fleets, Displayed sv db' fo := by
  intro fo hfo
  cases h.fleetWrite hcoherent.uniqueIds hfleets.children with
  | untouched _ hsame hchildren _ =>
    rw [hsame] at hfo
    refine (hdb fo hfo).of_entries rfl rfl rfl ?_
    rw [Db.childrenOf, hchildren]
    rfl
  | created _ _ _ new _ _ planned =>
    rcases Run.mem_snoc.1 hfo with hfo | rfl
    · have hne : new.fleetOperationId ≠ fo.fleetOperationId := fun hid =>
        Table.lookup_eq_none.1 planned.new fo hfo hid.symm
      exact (hdb fo hfo).of_entries rfl rfl rfl (congrArg _ (childrenOf_other rfl hne))
    · refine Or.inl ⟨planned.aggregate, ?_⟩
      rw [planned.childrenOf hfleets rfl]
      exact planned.vector
  | projected row _ f attempt _ _ reasonCode _ _ status child op _ found _ operation =>
    have hchild : child ∈ db.fleetChildren := mem_of_lookup found
    rcases Table.mem_modify.1 hfo with ⟨hfo, hne⟩ | ⟨old, -, hid, rfl⟩
    · refine (hdb fo hfo).of_entries rfl rfl rfl (congrArg _ ?_)
      rw [childrenOf_advanced rfl]
      refine (map_congr_left fun c hc => ?_).trans (map_id _)
      obtain ⟨hc, hop⟩ := mem_childrenOf.1 hc
      -- the projection concerns another operation
      rw [projection, if_neg, if_neg]
      · rfl
      · exact fun h => hne (hop.symm.trans h.2.1)
      · exact fun hid => hne (hop.symm.trans (congrArg _ (hfleets.children c hc child hchild hid)))
    · -- the projected child is one of the operation
      have hne : ((db.settled row.intentId f attempt).projected op child status reasonCode).childrenOf
          child.fleetOperationId ≠ [] := by
        rw [childrenOf_advanced rfl, advanced, Ne, map_eq_nil_iff]
        exact ne_nil_of_mem (mem_childrenOf.2 ⟨hchild, rfl⟩)
      refine Or.inr ⟨?_, ?_⟩
      · simp only [projectAggregate]
        rw [if_neg hne]
        split_ifs <;> simp
      · dsimp only
        rw [hid]
        rfl
  | opened _ fleetOperationId _ nextWave =>
    have hentries : ∀ id, ((Control.openWave db fleetOperationId nextWave).childrenOf id).map FleetChildRow.entry =
        (db.childrenOf id).map FleetChildRow.entry := by
      intro id
      rw [childrenOf_advanced rfl, advanced, map_map]
      refine map_congr_left fun c _ => ?_
      simp only [Function.comp_apply, FleetChildRow.entry]
      split <;> rfl
    rcases Table.mem_modify.1 hfo with ⟨hfo, -⟩ | ⟨old, hold, -, rfl⟩
    · exact (hdb fo hfo).of_entries rfl rfl rfl (hentries _)
    · exact (hdb old hold).of_entries rfl rfl rfl (hentries _)

/-- the fleet tables with the vectors they store -/
structure Vectors (sv : Services) (db : Db) : Prop where
  fleets : Fleets db
  displayed : ∀ fo ∈ db.fleets, Displayed sv db fo

theorem run_vectors (sv : Services) (ops : List Op) : Vectors sv (run sv ops).db := by
  have hkeeps : ∀ db db', Coherent sv db → Vectors sv db → Write sv .any db db' → Vectors sv db' := by
    intro db db' hcoherent hdb h
    exact ⟨h.keeps_fleets hcoherent hdb.fleets, h.keeps_displayed hcoherent hdb.fleets hdb.displayed⟩
  have hempty : Vectors sv Db.empty := ⟨fleets_empty, by simp [Db.empty]⟩
  exact run_invariant hempty hkeeps (runPermitted_any sv ops)

/-- the children of a wave have ended -/
def WaveDone (db : Db) (fleetOperationId : String) (waveIndex : ℕ) : Prop :=
  db.waveOf fleetOperationId waveIndex ≠ [] ∧ ∀ c ∈ db.waveOf fleetOperationId waveIndex, c.progress.status.isTerminal = true
deriving Decidable

/-- the digest a gate recomputes from the child rows -/
def recomputedVector (sv : Services) (db : Db) (fleetOperationId : String) : String :=
  completedVectorDigest sv ((db.childrenOf fleetOperationId).map FleetChildRow.entry)

/-- the digest a projection stores -/
def shownVector (sv : Services) (db : Db) (fleetOperationId : String) : String :=
  completedVectorDigest sv ((db.childrenOf fleetOperationId).map FleetChildRow.shownEntry)

/-- the two vectors of an operation have one digest only if they have the same entries -/
def VectorsApart (sv : Services) (db : Db) (fleetOperationId : String) : Prop :=
  shownVector sv db fleetOperationId = recomputedVector sv db fleetOperationId →
    ((db.childrenOf fleetOperationId).map FleetChildRow.shownEntry).Perm
      ((db.childrenOf fleetOperationId).map FleetChildRow.entry)
deriving Decidable

/-- a projected vector has no effect digests, and every child has one -/
theorem Fleets.vectors_differ (hdb : Fleets db) (hne : db.childrenOf fleetOperationId ≠ [])
    (hapart : VectorsApart sv db fleetOperationId) :
    shownVector sv db fleetOperationId ≠ recomputedVector sv db fleetOperationId := by
  intro hsame
  obtain ⟨c, hc⟩ := exists_mem_of_ne_nil _ hne
  have hentry := (hapart hsame).mem_iff.2 (mem_map_of_mem hc)
  obtain ⟨shown, -, heq⟩ := List.mem_map.1 hentry
  exact hdb.digest c (mem_childrenOf.1 hc).1 (congrArg VectorEntry.effectDigest heq).symm

/-- **The stored vector is the recomputed one only until the first projection.** From then on a manual gate cannot be
authorized for the vector that is displayed. -/
theorem displayed_vector_iff (sv : Services) (ops : List Op) {fo : FleetRow} (hfo : fo ∈ (run sv ops).db.fleets)
    {waveIndex : ℕ} (hdone : WaveDone (run sv ops).db fo.fleetOperationId waveIndex)
    (hapart : VectorsApart sv (run sv ops).db fo.fleetOperationId) :
    (fo.completedVectorDigest = recomputedVector sv (run sv ops).db fo.fleetOperationId ↔ fo.aggregateStatus = .planned) ∧
      ∀ currentWave nextWave d db',
        authorizeManualGate sv fo.fleetOperationId currentWave nextWave fo.completedVectorDigest d (run sv ops).db = .ok db' →
        fo.aggregateStatus = .planned ∧ ∀ now, d ∈ db'.decisions → d.approved = true → now < d.expiresAtUnixMs →
          (∀ p ∈ db'.proposals, p.proposalId = d.proposalId → now < p.proposal.expiresAtUnixMs) →
          ManuallyAuthorized db' now fo.fleetOperationId currentWave nextWave
            (recomputedVector sv (run sv ops).db fo.fleetOperationId) := by
  have hfleets := run_fleets sv ops
  have hiff : fo.completedVectorDigest = recomputedVector sv (run sv ops).db fo.fleetOperationId ↔
      fo.aggregateStatus = .planned := by
    rcases (run_vectors sv ops).displayed fo hfo with ⟨hplanned, hdigest⟩ | ⟨hprojected, hdigest⟩
    · exact ⟨fun _ => hplanned, fun _ => hdigest⟩
    · have hne : (run sv ops).db.childrenOf fo.fleetOperationId ≠ [] := fun hnil => hdone.1 (by rw [Db.waveOf, hnil]; rfl)
      refine ⟨fun hsame => ?_, fun h => absurd h hprojected⟩
      exact absurd (hdigest.symm.trans hsame) (hfleets.vectors_differ hne hapart)
  refine ⟨hiff, fun currentWave nextWave d db' h => ?_⟩
  obtain ⟨hvector, ⟨p, hp⟩, row, heq, hcase⟩ := authorizeManualGate_ok h
  have hkept : row ∈ db'.gateDecisions ∧ db'.proposals = (run sv ops).db.proposals := by
    rcases hcase with ⟨rfl, hrow⟩ | rfl
    · exact ⟨hrow, rfl⟩
    · exact ⟨mem_append_right _ (mem_singleton_self _), rfl⟩
  subst heq
  refine ⟨hiff.1 hvector.symm, fun now hd happroved hexpires hproposal => ?_⟩
  have hmem : p ∈ db'.proposals := hkept.2 ▸ mem_of_lookup hp
  have hpid : p.proposalId = d.proposalId := lookup_key hp
  refine ⟨_, hkept.1, ⟨rfl, rfl, rfl, hvector.symm⟩, d, hd, ⟨rfl, happroved, hexpires⟩, p, hmem, hpid, ?_⟩
  exact hproposal p hmem hpid

/-! ## A fleet in the lab -/

/-- the operator may decide on every capture of these targets -/
def captureMapping (targetIds : List String) : RoleScopeMapping :=
  ⟨"mapping-2", [(operator.ref rollingHash, [⟨"lab", targetSetOf targetIds, [.boundedCapture], [.operator]⟩])]⟩

/-- a capture on some targets -/
def captureProposal (targetIds : List String) : Proposal :=
  labProposal "proposal-1" .boundedCapture targetIds ("sha256:" ++ rollingHash [])

def labChild (p : Proposal) (intentId targetId : String) (waveIndex : ℕ) (status : Option ChildStatus) : ChildRequest :=
  { targetId, intentId, waveIndex, status, reasonCode := "", intent := labIntent p intentId ("op-" ++ intentId) targetId }

def labFleet (p : Proposal) (waves : List Wave) (children : List ChildRequest) : FleetRequest :=
  { fleetOperationId := "fleet-1", targetSetDigest := p.targetSetDigest, waveCount := waves.length, waves
    parentIntent := labIntent p "" "" "", childIntents := children, scope := "lab" }

/-- a fleet operation, from its proposal to its approval -/
def labFleetOps (p : Proposal) (fo : FleetRequest) : List Op :=
  [.tx (.observe (labInventory p.targetIds)), .tx (.createProposal 0 p),
    .decide (some (captureMapping p.targetIds)) 0 p.proposalId operator strongAuthz "REVIEWED"
      (.fleet fo fun intentId => .ok ("capture:" ++ intentId)),
    .record 0 0]

/-- two targets in two waves, with a manual gate between them; the first child may come with a status -/
def gatedFleet (status : Option ChildStatus) : List Op :=
  let p := captureProposal ["leaf-1", "leaf-2"]
  labFleetOps p (labFleet p [⟨0, ["leaf-1"], 1, .manualGate, false⟩, ⟨1, ["leaf-2"], 1, .continueIsolated, false⟩]
    [labChild p "child-1" "leaf-1" 0 status, labChild p "child-2" "leaf-2" 1 none])

/-- the preflight refuses the first child, which is held -/
def heldFleet : List Op := gatedFleet none ++ [.load 0 "child-1", .validate 0 false]

/-- **A gate nobody can authorize for what is displayed.** The preflight has refused the child of the first wave, the
wave has ended, and the stored vector is not the one the gate recomputes. -/
theorem held_vector_displayed : let db := (run labServices heldFleet).db
    (∃ row ∈ db.intent? "child-1", validateIntent labServices 0 row.intent true db ≠ .ok ()) ∧
      WaveDone db "fleet-1" 0 ∧
      ∃ fo ∈ db.fleet? "fleet-1", fo.completedVectorDigest ≠ recomputedVector labServices db "fleet-1" := by
  decide +kernel

/-- a first wave that comes with its end, and nothing projected -/
theorem planned_vector_displayed : let db := (run labServices (gatedFleet (some .applied))).db
    ∃ fo ∈ db.fleet? "fleet-1", fo.aggregateStatus = .planned ∧
      fo.completedVectorDigest = recomputedVector labServices db fo.fleetOperationId := by
  have hrun : let db := (run labServices (gatedFleet (some .applied))).db
      ∃ fo ∈ db.fleet? "fleet-1", fo.aggregateStatus = .planned ∧ WaveDone db fo.fleetOperationId 0 ∧
        VectorsApart labServices db fo.fleetOperationId := by
    decide +kernel
  obtain ⟨fo, hfo, hplanned, hdone, hapart⟩ := hrun
  have hiff := (displayed_vector_iff labServices _ (mem_of_lookup hfo) hdone hapart).1
  exact ⟨fo, hfo, hplanned, hiff.2 hplanned⟩

end MasiEdge.Control
