/-
What becomes of every snapshot the window engine accepts.

A ledger runs beside the engine. It notes each accepted push as late or in the account of its window, and moves an
account from the open to the closed ones when the engine no longer holds the window. Records and invalid windows are
counted as the engine reports them. The ledger never steers the engine, so its books are about every run of `push` and
`tick`, with any event times and any clock.

- `engine_accounts`: every accepted snapshot is in exactly one place; an open window is the aggregate of its account;
  every closed account became one record or was counted as invalid; a start is closed at most once and never opened again;
  open windows end after everything finalized, and there are at most `max_open` of them.
- `record_features`: the packet, byte and snapshot features of a record, read back from its tensor, are the saturating
  sums over its account.
-/
import MasiEdge.Base.Run
import MasiEdge.Window.Engine

namespace MasiEdge.Window

open Codec Delivery Run
open Source (TelemetrySnapshot i64SatSub)
open List

/-! ## The ledger -/

/-- the snapshots aggregated into one window, in order -/
structure Account where
  first : TelemetrySnapshot
  rest : List TelemetrySnapshot

def Account.snapshots (a : Account) : List TelemetrySnapshot := a.first :: a.rest

/-- the start of the window -/
def Account.start (w : WindowConfig) (a : Account) : ℤ := w.startOf a.first.exportTimeUnixMs

/-- the window that aggregates exactly these snapshots -/
def Account.window (w : WindowConfig) (a : Account) : OpenWindow :=
  a.rest.foldl OpenWindow.add ((OpenWindow.opened w a.first).add a.first)

/-- put the snapshot into the account of its start, in start order -/
def addTo (w : WindowConfig) (snapshot : TelemetrySnapshot) : List Account → List Account
  | [] => [⟨snapshot, []⟩]
  | a :: rest =>
    if w.startOf snapshot.exportTimeUnixMs < a.start w then ⟨snapshot, []⟩ :: a :: rest
    else if w.startOf snapshot.exportTimeUnixMs = a.start w then ⟨a.first, a.rest ++ [snapshot]⟩ :: rest
    else a :: addTo w snapshot rest

structure Ledger where
  engine : WindowEngine
  /-- the pushes that returned `Ok` -/
  accepted : List TelemetrySnapshot
  late : List TelemetrySnapshot
  opened : List Account
  closed : List Account
  records : List InferenceRecord
  invalid : ℕ

def Ledger.empty : Ledger := ⟨WindowEngine.new, [], [], [], [], [], 0⟩

/-- an account is closed when the engine no longer holds its window -/
def Ledger.settle (w : WindowConfig) (l : Ledger) (advance : WindowAdvance) (engine : WindowEngine) : Ledger :=
  { l with
    engine
    opened := l.opened.filter fun a => (engine.window (a.start w)).isSome
    closed := l.closed ++ l.opened.filter fun a => !(engine.window (a.start w)).isSome
    records := l.records ++ advance.inferenceRecords
    invalid := l.invalid + advance.invalidFinalWindows }

inductive WindowOp where
  | push (snapshot : TelemetrySnapshot) (now : ℤ)
  | tick (now : ℤ)

section

variable (hash : Bytes → String) (w : WindowConfig)

def Ledger.step (l : Ledger) : WindowOp → Ledger
  | .push snapshot now =>
    match push hash w l.engine snapshot now with
    | .error _ => l
    | .ok (advance, engine) =>
      if advance.lateAfterFinal = 0 then
        Ledger.settle w { l with accepted := l.accepted ++ [snapshot], opened := addTo w snapshot l.opened } advance engine
      else
        Ledger.settle w { l with accepted := l.accepted ++ [snapshot], late := l.late ++ [snapshot] } advance engine
  | .tick now => l.settle w (tick hash w l.engine now).1 (tick hash w l.engine now).2

def Ledger.run (ops : List WindowOp) : Ledger := ops.foldl (Ledger.step hash w) Ledger.empty

end

/-! ## Aggregation -/

theorem add_foldl_bounds (snapshots : List TelemetrySnapshot) (x : OpenWindow) :
    (snapshots.foldl OpenWindow.add x).startMs = x.startMs ∧ (snapshots.foldl OpenWindow.add x).endMs = x.endMs := by
  induction snapshots generalizing x with
  | nil => exact ⟨rfl, rfl⟩
  | cons s _ ih => exact ih (x.add s)

@[simp] theorem Account.window_startMs (w : WindowConfig) (a : Account) : (a.window w).startMs = a.start w :=
  (add_foldl_bounds a.rest _).1

@[simp] theorem Account.window_endMs (w : WindowConfig) (a : Account) : (a.window w).endMs = a.start w + w.durationMs :=
  (add_foldl_bounds a.rest _).2

/-- saturating sums are sums up to the largest counter -/
theorem foldl_satAdd (values : List ℕ) (n : ℕ) : values.foldl satAdd (min n u64Max) = min (n + values.sum) u64Max := by
  induction values generalizing n with
  | nil => simp
  | cons v _ ih =>
    have hnext : satAdd (min n u64Max) v = min (n + v) u64Max := by
      unfold satAdd
      omega
    rw [foldl_cons, hnext, ih, sum_cons, Nat.add_assoc]

/-- a counter of the window is the saturating sum of what each snapshot adds -/
theorem Account.counter (w : WindowConfig) (a : Account) (field : OpenWindow → ℕ) (amount : TelemetrySnapshot → ℕ)
    (hadd : ∀ x s, field (OpenWindow.add x s) = satAdd (field x) (amount s))
    (hzero : field (OpenWindow.opened w a.first) = 0) :
    field (a.window w) = min (a.snapshots.map amount).sum u64Max := by
  have hfold := foldl_satAdd (a.snapshots.map amount) 0
  rw [Nat.zero_add, Nat.zero_min] at hfold
  rw [← hfold, foldl_map, Account.snapshots, foldl_cons, ← hzero, ← hadd]
  exact (foldl_hom field fun x s => (hadd x s).symm).symm

/-! ## What the engine does -/

variable {snapshot : TelemetrySnapshot} {l : Ledger} {a : Account} {w : WindowConfig} {hash : Bytes → String}
  {accounts : List Account} {α : Type}

/-- finalizing closes exactly the windows that end at or before a watermark -/
theorem finalize_closes (hash : Bytes → String) (w : WindowConfig) (e : WindowEngine) (now : ℤ) (idle : Bool) :
    ∃ (done : OpenWindow → Bool) (mark : ℤ), (∀ x y, done x = true → done y = false → x.endMs < y.endMs) ∧
      (finalize hash w e now idle).2 =
        { e with
          openWindows := e.openWindows.filter fun x => !done x
          finalizedThroughMs := (e.openWindows.filter done).foldl (fun m x => max m x.endMs) e.finalizedThroughMs } ∧
      (finalize hash w e now idle).1 =
        { inferenceRecords := ((e.openWindows.filter done).filter OpenWindow.ready).map fun x =>
            toInferenceRecord hash w x now mark
          lateAfterFinal := 0
          invalidFinalWindows := ((e.openWindows.filter done).filter fun x => !x.ready).length } := by
  unfold finalize
  cases hmax : e.maxEventTimeMs with
  | none =>
    refine ⟨fun _ => false, 0, ?_, ?_, ?_⟩
    · intro x y hx
      cases hx
    · simp [← hmax]
    · simp
  | some maxEvent =>
    refine ⟨fun x => x.endMs ≤ i64SatSub (if idle && e.idle w now then now else maxEvent) w.allowedLatenessMs, _, ?_,
      rfl, rfl⟩
    intro x y hx hy
    have hx := of_decide_eq_true hx
    have hy := of_decide_eq_false hy
    omega

/-! ## The books -/

structure Books (hash : Bytes → String) (w : WindowConfig) (l : Ledger) : Prop where
  conserved : l.accepted.Perm (l.late ++ (l.opened ++ l.closed).flatMap Account.snapshots)
  windows : l.engine.openWindows = l.opened.map (Account.window w)
  sorted : (l.opened.map (Account.start w)).Pairwise (· < ·)
  within : ∀ a ∈ l.opened ++ l.closed, ∀ x ∈ a.snapshots, w.startOf x.exportTimeUnixMs = a.start w
  after : ∀ a ∈ l.opened, l.engine.finalizedThroughMs < a.start w + w.durationMs
  before : ∀ a ∈ l.closed, a.start w + w.durationMs ≤ l.engine.finalizedThroughMs
  closedOnce : (l.closed.map (Account.start w)).Nodup
  bounded : l.engine.openWindows.length ≤ w.maxOpen
  records : List.Forall₂ (fun a r => ∃ moment mark, r = toInferenceRecord hash w (Account.window w a) moment mark)
    (l.closed.filter fun a => (a.window w).ready) l.records
  invalid : l.invalid = (l.closed.filter fun a => !(a.window w).ready).length
  lateCount : l.engine.lateAfterFinal = min l.late.length u64Max

theorem le_foldl_max (f : α → ℤ) (xs : List α) (m : ℤ) :
    m ≤ xs.foldl (fun m x => max m (f x)) m ∧ ∀ x ∈ xs, f x ≤ xs.foldl (fun m x => max m (f x)) m := by
  induction xs generalizing m with
  | nil => exact ⟨le_rfl, fun x hx => absurd hx not_mem_nil⟩
  | cons y _ ih =>
    obtain ⟨hm, hall⟩ := ih (max m (f y))
    refine ⟨(le_max_left _ _).trans hm, ?_⟩
    intro x hx
    rcases List.mem_cons.1 hx with rfl | hx
    · exact (le_max_right _ _).trans hm
    · exact hall x hx

theorem foldl_max_lt {f : α → ℤ} {xs : List α} {m c : ℤ} (hm : m < c) (hall : ∀ x ∈ xs, f x < c) :
    xs.foldl (fun m x => max m (f x)) m < c := by
  induction xs generalizing m with
  | nil => exact hm
  | cons y _ ih =>
    exact ih (max_lt hm (hall y mem_cons_self)) fun x hx => hall x (mem_cons_of_mem y hx)

/-- among the open accounts, the engine still holds those whose window is not done -/
theorem Books.still_open (h : Books hash w l) {engine : WindowEngine} {done : OpenWindow → Bool}
    (hopen : engine.openWindows = l.engine.openWindows.filter fun x => !done x) (ha : a ∈ l.opened) :
    (engine.window (a.start w)).isSome = !done (a.window w) := by
  rw [WindowEngine.window, hopen, h.windows, filter_map, Bool.eq_iff_iff, find?_isSome]
  cases hdone : done (a.window w) with
  | false =>
    simp only [Bool.not_false, iff_true]
    exact ⟨a.window w, List.mem_map.2 ⟨a, List.mem_filter.2 ⟨ha, by simp [hdone]⟩, rfl⟩, by simp⟩
  | true =>
    simp only [Bool.not_true, Bool.false_eq_true, iff_false]
    rintro ⟨x, hx, hstart⟩
    obtain ⟨b, hb, rfl⟩ := List.mem_map.1 hx
    obtain ⟨hb, hnot⟩ := List.mem_filter.1 hb
    -- open accounts are told apart by their starts
    have hstarts := List.Pairwise.imp (fun hlt => ne_of_lt hlt) h.sorted
    obtain rfl : b = a := inj_on_of_nodup_map hstarts hb ha (by simpa using hstart)
    simp [hdone] at hnot

/-- so settling splits the open accounts -/
theorem Books.split (h : Books hash w l) (engine : WindowEngine) (done : OpenWindow → Bool)
    (hopen : engine.openWindows = l.engine.openWindows.filter fun x => !done x) :
    (l.opened.filter fun a => (engine.window (a.start w)).isSome) = l.opened.filter (fun a => !done (a.window w)) ∧
      (l.opened.filter fun a => !(engine.window (a.start w)).isSome) = l.opened.filter fun a => done (a.window w) := by
  have hkept : ∀ a ∈ l.opened, (engine.window (a.start w)).isSome = !done (a.window w) := fun a ha => h.still_open hopen ha
  exact ⟨filter_congr hkept, filter_congr fun a ha => by rw [hkept a ha, Bool.not_not]⟩

/-- **Finalizing keeps the books.** -/
theorem Books.settle (h : Books hash w l) (now : ℤ) (idle : Bool) :
    Books hash w (l.settle w (finalize hash w l.engine now idle).1 (finalize hash w l.engine now idle).2) := by
  obtain ⟨done, mark, hends, hengine, hadvance⟩ := finalize_closes hash w l.engine now idle
  obtain ⟨hopened, hclosed⟩ := h.split (finalize hash w l.engine now idle).2 done (by rw [hengine])
  simp only [Ledger.settle, hopened, hclosed]
  rw [hengine, hadvance]
  have hfinal : l.engine.openWindows.filter done = (l.opened.filter fun a => done (a.window w)).map (Account.window w) := by
    rw [h.windows, filter_map]
    rfl
  have hmem : ∀ {a : Account} {p : Account → Bool}, a ∈ l.opened.filter p → a ∈ l.opened :=
    fun ha => (List.mem_filter.1 ha).1
  obtain ⟨hthrough, hends'⟩ := le_foldl_max OpenWindow.endMs (l.engine.openWindows.filter done) l.engine.finalizedThroughMs
  have hnewly : ∀ a ∈ l.opened.filter fun a => done (a.window w), a.start w + w.durationMs ≤
      (l.engine.openWindows.filter done).foldl (fun m x => max m x.endMs) l.engine.finalizedThroughMs := by
    intro a ha
    have := hends' (a.window w) (by rw [hfinal]; exact mem_map_of_mem ha)
    rwa [Account.window_endMs] at this
  refine ⟨?_, ?_, ?_, ?_, ?_, ?_, ?_, ?_, ?_, ?_, h.lateCount⟩
  · -- moving accounts from open to closed permutes them
    refine h.conserved.trans (List.Perm.append_left _ (List.Perm.flatMap_right _ ?_))
    have hsplit := filter_append_perm (fun a => !done (a.window w)) l.opened
    simp only [Bool.not_not] at hsplit
    refine (hsplit.symm.append_right l.closed).trans ?_
    rw [append_assoc]
    exact List.Perm.append_left _ perm_append_comm
  · change l.engine.openWindows.filter (fun x => !done x) = _
    rw [h.windows, filter_map]
    rfl
  · exact h.sorted.sublist (List.filter_sublist.map _)
  · intro a ha x hx
    refine h.within a ?_ x hx
    rcases List.mem_append.1 ha with ha | ha
    · exact mem_append_left _ (hmem ha)
    · rcases List.mem_append.1 ha with ha | ha
      · exact mem_append_right _ ha
      · exact mem_append_left _ (hmem ha)
  · -- a window that stays open ends after those that are done
    intro a ha
    obtain ⟨hopen, hnot⟩ := List.mem_filter.1 ha
    refine foldl_max_lt (h.after a hopen) ?_
    intro x hx
    have hlt := hends x (a.window w) (List.mem_filter.1 hx).2 (by simpa using hnot)
    rwa [Account.window_endMs] at hlt
  · intro a ha
    rcases List.mem_append.1 ha with ha | ha
    · exact (h.before a ha).trans hthrough
    · exact hnewly a ha
  · rw [map_append]
    refine List.nodup_append.2 ⟨h.closedOnce, ?_, ?_⟩
    · exact List.Pairwise.imp (fun hlt => ne_of_lt hlt) (h.sorted.sublist (List.filter_sublist.map _))
    · -- an old closed start lies before every open one
      intro x hx y hy
      obtain ⟨a, ha, rfl⟩ := List.mem_map.1 hx
      obtain ⟨b, hb, rfl⟩ := List.mem_map.1 hy
      have hold := h.before a ha
      have hnew := h.after b (hmem hb)
      omega
  · exact (length_filter_le _ _).trans h.bounded
  · rw [filter_append]
    refine rel_append h.records ?_
    rw [hfinal, filter_map, map_map]
    refine List.forall₂_map_right_iff.2 (List.forall₂_same.2 ?_)
    intro a _
    exact ⟨now, mark, rfl⟩
  · change l.invalid + ((l.engine.openWindows.filter done).filter fun x => !x.ready).length = _
    rw [h.invalid, filter_append, length_append, hfinal, filter_map, length_map]
    rfl

theorem addTo_snapshots (w : WindowConfig) (snapshot : TelemetrySnapshot) (accounts : List Account) :
    ((addTo w snapshot accounts).flatMap Account.snapshots).Perm (snapshot :: accounts.flatMap Account.snapshots) := by
  induction accounts with
  | nil => simp [addTo, Account.snapshots]
  | cons _ _ ih =>
    rw [addTo]
    split_ifs
    · simp [Account.snapshots]
    · -- the snapshot goes to the end of the first account
      simp only [flatMap_cons, Account.snapshots, ← cons_append]
      rw [append_assoc]
      exact perm_middle
    · rw [flatMap_cons, flatMap_cons]
      exact (ih.append_left _).trans perm_middle

theorem mem_addTo (h : a ∈ addTo w snapshot accounts) :
    a ∈ accounts ∨ a = ⟨snapshot, []⟩ ∨
      ∃ b ∈ accounts, w.startOf snapshot.exportTimeUnixMs = b.start w ∧ a = ⟨b.first, b.rest ++ [snapshot]⟩ := by
  induction accounts with
  | nil => exact .inr (.inl (List.mem_singleton.1 h))
  | cons b _ ih =>
    rw [addTo] at h
    split_ifs at h with hlt heq
    · rcases List.mem_cons.1 h with h | h
      · exact .inr (.inl h)
      · exact .inl h
    · rcases List.mem_cons.1 h with h | h
      · exact .inr (.inr ⟨b, mem_cons_self, heq, h⟩)
      · exact .inl (mem_cons_of_mem b h)
    · rcases List.mem_cons.1 h with h | h
      · exact .inl (h ▸ mem_cons_self)
      · rcases ih h with h | h | ⟨c, hc, hstart, h⟩
        · exact .inl (mem_cons_of_mem b h)
        · exact .inr (.inl h)
        · exact .inr (.inr ⟨c, mem_cons_of_mem b hc, hstart, h⟩)

/-- every start after adding is the snapshot's or was there before -/
theorem addTo_start (h : a ∈ addTo w snapshot accounts) :
    a.start w = w.startOf snapshot.exportTimeUnixMs ∨ ∃ b ∈ accounts, b.start w = a.start w := by
  rcases mem_addTo h with h | rfl | ⟨b, hb, -, rfl⟩
  · exact .inr ⟨a, h, rfl⟩
  · exact .inl rfl
  · exact .inr ⟨b, hb, rfl⟩

theorem addTo_sorted (snapshot : TelemetrySnapshot) (h : (accounts.map (Account.start w)).Pairwise (· < ·)) :
    ((addTo w snapshot accounts).map (Account.start w)).Pairwise (· < ·) := by
  induction accounts with
  | nil => exact pairwise_singleton _ _
  | cons _ _ ih =>
    obtain ⟨hfirst, hrest⟩ := List.pairwise_cons.1 h
    rw [addTo]
    split_ifs with hlt heq
    · refine List.pairwise_cons.2 ⟨?_, h⟩
      intro x hx
      rcases List.mem_cons.1 hx with rfl | hx
      · exact hlt
      · exact lt_trans hlt (hfirst x hx)
    · exact h
    · refine List.pairwise_cons.2 ⟨?_, ih hrest⟩
      intro x hx
      obtain ⟨b, hb, rfl⟩ := List.mem_map.1 hx
      rcases addTo_start hb with hb | ⟨c, hc, hstart⟩
      · rw [hb]
        omega
      · rw [← hstart]
        exact hfirst _ (mem_map_of_mem hc)

/-- the engine adds to its windows what the ledger adds to its accounts -/
theorem putWindow_addTo (snapshot : TelemetrySnapshot) (h : (accounts.map (Account.start w)).Pairwise (· < ·)) :
    putWindow ((((accounts.map (Account.window w)).find? fun x => x.startMs = w.startOf snapshot.exportTimeUnixMs).getD
        (OpenWindow.opened w snapshot)).add snapshot) (accounts.map (Account.window w)) =
      (addTo w snapshot accounts).map (Account.window w) := by
  set start := w.startOf snapshot.exportTimeUnixMs
  induction accounts with
  | nil => rfl
  | cons a rest ih =>
    obtain ⟨hfirst, hrest⟩ := List.pairwise_cons.1 h
    rw [addTo]
    split_ifs with hlt heq
    · -- before every account: no window of this start is open
      have hnone : (List.map (Account.window w) (a :: rest)).find?
          (fun x => x.startMs = start) = none := by
        refine List.find?_eq_none.2 fun x hx => ?_
        obtain ⟨b, hb, rfl⟩ := List.mem_map.1 hx
        rw [Account.window_startMs, decide_eq_true_eq]
        rcases List.mem_cons.1 hb with rfl | hb
        · omega
        · have := hfirst _ (mem_map_of_mem hb)
          omega
      rw [hnone, Option.getD_none, map_cons, putWindow, if_pos]
      · rfl
      · rw [Account.window_startMs]
        exact hlt
    · have hfound : (List.map (Account.window w) (a :: rest)).find?
          (fun x => x.startMs = start) = some (a.window w) := by
        rw [map_cons, find?_cons_of_pos (by simp [start, heq])]
      rw [hfound, Option.getD_some, map_cons, map_cons,
        show Account.window w ⟨a.first, a.rest ++ [snapshot]⟩ = (a.window w).add snapshot by simp [Account.window], putWindow]
      have hsame : ((a.window w).add snapshot).startMs = (a.window w).startMs := rfl
      rw [if_neg (by rw [hsame]; exact lt_irrefl _), if_pos hsame]
    · have hskip : (List.map (Account.window w) (a :: rest)).find?
          (fun x => x.startMs = start) =
          (rest.map (Account.window w)).find? fun x => x.startMs = start := by
        rw [map_cons, find?_cons_of_neg (by simpa using fun h => heq h.symm)]
      have hstart : ∀ x : OpenWindow, x = (((rest.map (Account.window w)).find? fun x =>
          x.startMs = start).getD (OpenWindow.opened w snapshot)).add snapshot →
          x.startMs = start := by
        rintro x rfl
        cases hfind : (rest.map (Account.window w)).find? fun x => x.startMs = start with
        | none => rfl
        | some =>
          have hy := find?_some hfind
          exact of_decide_eq_true hy
      rw [hskip, map_cons, map_cons, putWindow, hstart _ rfl, Account.window_startMs, if_neg hlt, if_neg heq,
        ih hrest]

theorem length_addTo_le (w : WindowConfig) (snapshot : TelemetrySnapshot) (accounts : List Account) :
    (addTo w snapshot accounts).length ≤ accounts.length + 1 := by
  induction accounts with
  | nil => simp [addTo]
  | cons _ _ ih =>
    rw [addTo]
    split_ifs
    · simp
    · simp
    · simpa using ih

theorem length_addTo_of_mem (h : (accounts.map (Account.start w)).Pairwise (· < ·)) (ha : a ∈ accounts)
    (hstart : a.start w = w.startOf snapshot.exportTimeUnixMs) : (addTo w snapshot accounts).length = accounts.length := by
  induction accounts with
  | nil => exact absurd ha not_mem_nil
  | cons _ _ ih =>
    obtain ⟨hfirst, hrest⟩ := List.pairwise_cons.1 h
    rw [addTo]
    rcases List.mem_cons.1 ha with rfl | ha
    · rw [if_neg (by omega), if_pos hstart.symm]
      rfl
    · have hlater := hfirst _ (mem_map_of_mem ha)
      rw [if_neg (by omega), if_neg (by omega), length_cons, ih hrest ha, length_cons]

/-- **Adding a snapshot keeps the books.** -/
theorem Books.add (h : Books hash w l) (snapshot : TelemetrySnapshot) (maxEvent : Option ℤ) (ingest : Option ℤ)
    (hafter : l.engine.finalizedThroughMs < w.startOf snapshot.exportTimeUnixMs + w.durationMs)
    (hroom : ¬ (l.engine.window (w.startOf snapshot.exportTimeUnixMs) = none ∧ l.engine.openWindows.length = w.maxOpen)) :
    Books hash w { l with
      accepted := l.accepted ++ [snapshot]
      opened := addTo w snapshot l.opened
      engine := { l.engine with
        openWindows := putWindow ((l.engine.target w snapshot).add snapshot) l.engine.openWindows
        maxEventTimeMs := maxEvent
        lastIngestTimeMs := ingest } } := by
  have hwindows : putWindow ((l.engine.target w snapshot).add snapshot) l.engine.openWindows =
      (addTo w snapshot l.opened).map (Account.window w) := by
    rw [WindowEngine.target, WindowEngine.window, h.windows]
    exact putWindow_addTo snapshot h.sorted
  refine ⟨?_, hwindows, addTo_sorted snapshot h.sorted, ?_, ?_, h.before, h.closedOnce, ?_, h.records, h.invalid, h.lateCount⟩
  · -- one more snapshot on both sides
    have hplaced := (addTo_snapshots w snapshot l.opened).append_right (l.closed.flatMap Account.snapshots)
    rw [← flatMap_append, cons_append, ← flatMap_append] at hplaced
    have hcons := (h.conserved.cons snapshot).trans List.perm_middle.symm
    exact (perm_append_singleton _ _).trans (hcons.trans (hplaced.symm.append_left l.late))
  · intro a ha x hx
    rcases List.mem_append.1 ha with ha | ha
    · rcases mem_addTo ha with ha | rfl | ⟨b, hb, hstart, rfl⟩
      · exact h.within a (mem_append_left _ ha) x hx
      · rw [List.mem_singleton.1 hx]
        rfl
      · rcases Run.mem_snoc.1 (show x ∈ b.snapshots ++ [snapshot] from hx) with hx | rfl
        · exact h.within b (mem_append_left _ hb) x hx
        · exact hstart
    · exact h.within a (mem_append_right _ ha) x hx
  · intro a ha
    rcases addTo_start ha with hstart | ⟨b, hb, hstart⟩
    · rw [hstart]
      exact hafter
    · rw [← hstart]
      exact h.after b hb
  · change (putWindow _ _).length ≤ w.maxOpen
    rw [hwindows, length_map]
    have hlength : l.engine.openWindows.length = l.opened.length := by rw [h.windows, length_map]
    have hbound := h.bounded
    cases hfound : l.engine.window (w.startOf snapshot.exportTimeUnixMs) with
    | none =>
      have hle := length_addTo_le w snapshot l.opened
      have hne : l.engine.openWindows.length ≠ w.maxOpen := fun heq => hroom ⟨hfound, heq⟩
      omega
    | some x =>
      have hmem := mem_of_find?_eq_some hfound
      have hstart : x.startMs = w.startOf snapshot.exportTimeUnixMs := by simpa using find?_some hfound
      rw [h.windows] at hmem
      obtain ⟨a, ha, rfl⟩ := List.mem_map.1 hmem
      rw [length_addTo_of_mem h.sorted ha (by simpa using hstart)]
      omega

/-- a late snapshot is only counted -/
theorem Books.late (h : Books hash w l) (snapshot : TelemetrySnapshot) :
    Books hash w (Ledger.settle w { l with accepted := l.accepted ++ [snapshot], late := l.late ++ [snapshot] }
      { lateAfterFinal := 1 } { l.engine with lateAfterFinal := satAdd l.engine.lateAfterFinal 1 }) := by
  obtain ⟨hopened, hclosed⟩ := h.split { l.engine with lateAfterFinal := satAdd l.engine.lateAfterFinal 1 } (fun _ => false)
    (by simp)
  simp only [Ledger.settle, hopened, hclosed, Bool.not_false, filter_true, filter_false, append_nil, Nat.add_zero]
  refine ⟨?_, h.windows, h.sorted, h.within, h.after, h.before, h.closedOnce, h.bounded, h.records, h.invalid, ?_⟩
  · have hcons := (h.conserved.cons snapshot).trans List.perm_middle.symm
    rw [append_assoc]
    exact (perm_append_singleton _ _).trans hcons
  · change satAdd l.engine.lateAfterFinal 1 = min (l.late ++ [snapshot]).length u64Max
    rw [h.lateCount, satAdd, length_append, length_singleton]
    omega

theorem Books.step (h : Books hash w l) (op : WindowOp) : Books hash w (l.step hash w op) := by
  cases op with
  | tick now => exact h.settle now true
  | push snapshot now =>
    rw [Ledger.step]
    cases hpush : push hash w l.engine snapshot now with
    | error => exact h
    | ok pushed =>
      obtain ⟨advance, engine⟩ := pushed
      rcases push_ok hpush with ⟨rfl, rfl⟩ | ⟨hafter, hroom, maxEvent, hfinal⟩
      · exact h.late snapshot
      · have hbooks := (h.add snapshot (some maxEvent) (some now) hafter hroom).settle now false
        rw [← hfinal] at hbooks
        have hlate : advance.lateAfterFinal = 0 := by
          obtain ⟨done, mark, -, -, hadvance⟩ := finalize_closes hash w _ now false
          rw [show advance = _ from congrArg Prod.fst hfinal, hadvance]
        simp only [hlate, if_true]
        exact hbooks

theorem books_run (hash : Bytes → String) (w : WindowConfig) (ops : List WindowOp) : Books hash w (Ledger.run hash w ops) := by
  refine foldl_invariant (P := Books hash w) ?_ (fun _ op ih => ih.step op) ops
  exact ⟨List.Perm.refl _, rfl, List.Pairwise.nil, fun a ha => absurd ha not_mem_nil,
    fun a ha => absurd ha not_mem_nil, fun a ha => absurd ha not_mem_nil, nodup_nil, Nat.zero_le _,
    .nil, rfl, rfl⟩

/-! ## The features of a record -/

/-- the i-th feature, read back from the tensor's bytes -/
def feature (i : ℕ) (tensor : Bytes) : ℕ := fromBe ((tensor.drop (8 * i)).take 8).reverse

theorem feature_encoded {values : List ℕ} {i v : ℕ} (hi : values[i]? = some v) (hv : v ≤ u64Max) :
    feature i (values.flatMap fun value => (toBe 8 value).reverse) = v := by
  induction values generalizing i with
  | nil => simp at hi
  | cons x rest ih =>
    have hlength : ((toBe 8 x).reverse).length = 8 := by simp
    cases i with
    | zero =>
      obtain rfl : x = v := by simpa using hi
      rw [feature, flatMap_cons, Nat.mul_zero, drop_zero, take_append_of_le_length hlength.ge,
        take_of_length_le hlength.le, reverse_reverse]
      refine fromBe_toBe 8 x ?_
      unfold u64Max at hv
      omega
    | succ i =>
      -- the eight bytes of `x` are dropped by computation
      exact ih (by simpa using hi)

/-- the record's packet, byte and snapshot features are the saturating sums over the account -/
structure SumsOver (a : Account) (r : InferenceRecord) : Prop where
  packets : feature 0 r.featureTensor = min (a.snapshots.map TelemetrySnapshot.aggregatePackets).sum u64Max
  bytes : feature 1 r.featureTensor = min (a.snapshots.map TelemetrySnapshot.aggregateBytes).sum u64Max
  snapshots : feature 5 r.featureTensor = min a.snapshots.length u64Max

theorem record_features (hash : Bytes → String) (w : WindowConfig) (a : Account) (moment mark : ℤ) :
    SumsOver a (toInferenceRecord hash w (a.window w) moment mark) := by
  have hpackets := a.counter w OpenWindow.packets TelemetrySnapshot.aggregatePackets (fun _ _ => rfl) rfl
  have hbytes := a.counter w OpenWindow.bytes TelemetrySnapshot.aggregateBytes (fun _ _ => rfl) rfl
  have hcount := a.counter w OpenWindow.snapshots (fun _ => 1) (fun _ _ => rfl) rfl
  rw [map_const', sum_replicate, smul_eq_mul, Nat.mul_one] at hcount
  refine ⟨?_, ?_, ?_⟩
  · rw [← hpackets]
    exact feature_encoded rfl (hpackets ▸ min_le_right _ _)
  · rw [← hbytes]
    exact feature_encoded rfl (hbytes ▸ min_le_right _ _)
  · rw [← hcount]
    exact feature_encoded rfl (hcount ▸ min_le_right _ _)

/-! ## Conservation -/

/-- what the ledger says of the engine -/
structure Accounted (w : WindowConfig) (l : Ledger) : Prop where
  /-- every accepted snapshot is late, in an open account or in a closed one, once -/
  once : l.accepted.Perm (l.late ++ (l.opened ++ l.closed).flatMap Account.snapshots)
  late : l.engine.lateAfterFinal = min l.late.length u64Max
  /-- an account holds snapshots of one window, and the open windows are the aggregates of the open accounts -/
  within : ∀ a ∈ l.opened ++ l.closed, ∀ x ∈ a.snapshots, w.startOf x.exportTimeUnixMs = a.start w
  windows : l.engine.openWindows = l.opened.map (Account.window w)
  /-- a closed account became one record with its sums, or was counted as invalid -/
  records : List.Forall₂ (fun a r => r.windowStartUnixMs = a.start w ∧ SumsOver a r)
    (l.closed.filter fun a => (a.window w).ready) l.records
  invalid : l.invalid = (l.closed.filter fun a => !(a.window w).ready).length
  /-- no window is finalized twice or reopened -/
  starts : ((l.closed ++ l.opened).map (Account.start w)).Nodup
  after : ∀ x ∈ l.engine.openWindows, l.engine.finalizedThroughMs < x.endMs
  bounded : l.engine.openWindows.length ≤ w.maxOpen

/-- **Conservation.** In every run of pushes and ticks, with any event times and any clock, the engine accounts for every
accepted snapshot exactly once and finalizes every window at most once. -/
theorem engine_accounts (hash : Bytes → String) (w : WindowConfig) (ops : List WindowOp) :
    Accounted w (Ledger.run hash w ops) := by
  have h := books_run hash w ops
  refine ⟨h.conserved, h.lateCount, h.within, h.windows, ?_, h.invalid, ?_, ?_, h.bounded⟩
  · refine h.records.imp ?_
    rintro a r ⟨moment, mark, rfl⟩
    exact ⟨a.window_startMs w, record_features hash w a moment mark⟩
  · rw [map_append]
    refine List.nodup_append.2 ⟨h.closedOnce, List.Pairwise.imp (fun hlt => ne_of_lt hlt) h.sorted, ?_⟩
    intro x hx y hy
    obtain ⟨a, ha, rfl⟩ := List.mem_map.1 hx
    obtain ⟨b, hb, rfl⟩ := List.mem_map.1 hy
    have hold := h.before a ha
    have hnew := h.after b hb
    omega
  · intro x hx
    rw [h.windows] at hx
    obtain ⟨a, ha, rfl⟩ := List.mem_map.1 hx
    rw [Account.window_endMs]
    exact h.after a ha

end MasiEdge.Window
