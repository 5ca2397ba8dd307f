/-
Whether a stable route keeps its own target in service.

Every route stage leaves its record as the only pending one of the route journal, and only the next stage moves the
checkpoint past it. `stable_route_retained_iff`: over the WAL the stages have written, while the other logs pass, a tick
leaves the target alone exactly until the age bound of the journal has gone by since the last stage; `stable_route_held` is
an active route that holds its target.
-/
import MasiEdge.Actor.Fencing
import MasiEdge.Route.Journal

namespace MasiEdge.Actor

open Codec Route Wal List

/-- `verify_wal_retention`; every log reads its own clock -/
def verifyWalRetention : List (DurableWal × ℤ) → EdgeResult Unit
  | [] => .ok ()
  | (wal, clock) :: rest => do
    wal.checkRetention clock
    verifyWalRetention rest

variable {wal : DurableWal} {now : ℤ} {others : List (DurableWal × ℤ)}

theorem verifyWalRetention_snoc (hothers : ∀ x ∈ others, x.1.checkRetention x.2 = .ok ()) :
    verifyWalRetention (others ++ [(wal, now)]) = wal.checkRetention now := by
  induction others with
  | nil => cases h : wal.checkRetention now <;> simp [verifyWalRetention, h, bind, Except.bind]
  | cons _ _ ih =>
    obtain ⟨hx, hothers⟩ := forall_mem_cons.1 hothers
    rw [cons_append, verifyWalRetention, hx, ok_bind, ih hothers]

section

variable {crc : Bytes → UInt32} {encode : RouteWalRecord → Bytes} {cfg : RouteConfig} {limits : WalLimits}
  {commands : List (Command × StageClocks)} {a : RouteActor}

/-- the bytes the stages of a journal take on disk -/
def journalBytes (encode : RouteWalRecord → Bytes) (journal : Log RouteWalRecord) : ℕ :=
  (journal.entries.map fun record => headerBytes + (encode record).length).sum

/-- the retention cursor of the journal of an active route is the time of the last stage -/
theorem active_oldestPending (hrun : runOnDisk crc encode cfg limits commands = .ok (a, wal))
    (hactive : a.router.state = .active) (hclocks : ∀ x ∈ commands, 0 < x.2.record)
    (hfit : journalBytes encode a.journal < u64Max) :
    wal.limits = limits ∧ wal.oldestPending = some wal.lastRecordedAt := by
  obtain ⟨calls, hdisk⟩ := journal_refines hrun
  have hsize : recordsSize (appended calls) = journalBytes encode a.journal := by
    have hsizes := congrArg (map fun payload : Bytes => headerBytes + payload.length) hdisk.payloads
    rw [map_map, map_map] at hsizes
    exact congrArg sum hsizes
  obtain ⟨-, dropped, init, cur, hinv⟩ := session_inv hdisk.session (by omega)
  have hstamped : ∀ r ∈ appended calls, 0 < r.recordedAtUnixMs := by
    intro r hr
    obtain ⟨x, hx, htime⟩ := hdisk.times r hr
    have := hclocks x hx
    omega
  have hlength : (appended calls).length = checkpointOf calls + 1 := by
    have hentries := congrArg length hdisk.payloads
    rw [length_map, length_map] at hentries
    rcases run_pending hdisk.run with rfl | hlast
    · cases hactive
    · rw [hentries, hdisk.checkpoint]
      exact hlast
  refine ⟨hinv.limits_eq, ?_⟩
  rw [hinv.oldest hstamped (by omega), hinv.time]
  -- the last record is the only one behind the checkpoint
  have hlast : checkpointOf calls < (appended calls).length := by omega
  rw [chain_filter hinv.chain hinv.inRange, head?_drop, lastTime, getLast?_eq_getElem?, hlength,
    Nat.add_sub_cancel, getElem?_eq_getElem hlast]
  rfl

/-- **A stable route is retained up to the age of its last stage.** After any successful route commands that end in an active
route, with the WAL their stages have written, while every other log passes, a tick leaves the target out of the retention
hold if and only if the last stage is no older than the age bound of the route journal. -/
theorem stable_route_retained_iff (hrun : runOnDisk crc encode cfg limits commands = .ok (a, wal))
    (hactive : a.router.state = .active) (hclocks : ∀ x ∈ commands, 0 < x.2.record)
    (hfit : journalBytes encode a.journal < u64Max) (hnow : 0 ≤ now) (hfits : now.toNat ≤ u64Max)
    (hlater : wal.lastRecordedAt ≤ now.toNat) (hothers : ∀ x ∈ others, x.1.checkRetention x.2 = .ok ()) (ctx : Context)
    (target : TargetActor) (halive : target.effect.alive = true) (hfree : target.effect.hold = false) :
    (holdExpiredRetention ctx target (verifyWalRetention (others ++ [(wal, now)]))).effect.hold = false ↔
      now.toNat - wal.lastRecordedAt ≤ min (limits.maxAgeSeconds * 1000) u64Max := by
  obtain ⟨hlimits, holdest⟩ := active_oldestPending hrun hactive hclocks hfit
  have hcheck : wal.checkRetention now = .ok () ↔
      now.toNat - wal.lastRecordedAt ≤ min (limits.maxAgeSeconds * 1000) u64Max := by
    rw [DurableWal.checkRetention, (unixMs_ok _ _).2 ⟨hnow, hfits, rfl⟩, ok_bind, refuse_of_not (not_lt.2 hlater), ok_bind,
      holdest, hlimits]
    exact refuse_ok.trans not_lt
  rw [verifyWalRetention_snoc hothers, ← hcheck]
  cases wal.checkRetention now with
  | error => simp [holdExpiredRetention, hfree, Effect.step, halive]
  | ok => simp [holdExpiredRetention, hfree]

end

def journalLimits : WalLimits := ⟨1048576, 100, 65536, 1024, 60⟩

/-- `activePool`, its stages recorded at 5, 6 and 7 -/
def stableCommands : List (Command × StageClocks) := activePool.zip [⟨5, 5, 5⟩, ⟨6, 6, 6⟩, ⟨7, 7, 7⟩]

/-- a record is stored under its epoch and time -/
def stageBytes (record : RouteWalRecord) : Bytes := [.ofNat record.proposedRouteEpoch, .ofNat record.recordedAtUnixMs.toNat]

def stableWal : DurableWal :=
  match runOnDisk (fun _ => 0) stageBytes poolConfig journalLimits stableCommands with
  | .ok (_, wal) => wal
  | .error _ => freshWal Dir.empty .routeJournal journalLimits 0

/-- the other logs, all empty -/
def emptyWals (now : ℤ) : List (DurableWal × ℤ) :=
  [WalKind.source, .inferenceInput, .inferenceResult, .effectJournal].map fun kind =>
    (freshWal Dir.empty kind journalLimits 0, now)

/-- a minute after the last stage the target still works -/
theorem stable_route_in_age :
    runOnDisk (fun _ => 0) stageBytes poolConfig journalLimits stableCommands = .ok (activeActor, stableWal) ∧
      (holdExpiredRetention staleContext (waiting 0)
        (verifyWalRetention (emptyWals 60007 ++ [(stableWal, 60007)]))).effect.hold = false := by
  have hrun : runOnDisk (fun _ => 0) stageBytes poolConfig journalLimits stableCommands = .ok (activeActor, stableWal) := by
    decide +kernel
  refine ⟨hrun, (stable_route_retained_iff hrun ?_ ?_ ?_ ?_ ?_ ?_ ?_ staleContext (waiting 0) ?_ ?_).2 ?_⟩ <;> decide +kernel

/-- **A stable route holds its own target.** The journal of three stages is checkpointed up to the last one, every other log
is empty; a millisecond after the bound the target is held. -/
theorem stable_route_held :
    let target := holdExpiredRetention staleContext (waiting 0) (verifyWalRetention (emptyWals 60008 ++ [(stableWal, 60008)]))
    runOnDisk (fun _ => 0) stageBytes poolConfig journalLimits stableCommands = .ok (activeActor, stableWal) ∧
      target.effect.hold = true ∧ target.state = .hold ∧ target.reasonCode = "WAL_RETENTION_EXPIRED" := by
  decide +kernel

end MasiEdge.Actor
