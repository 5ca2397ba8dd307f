/-
The order in which a target answers a read (`actor.rs`).

Cells and direct counters are read in batches and matched with their queries by position: `counter_value` looks at neither
the index of a counter nor the entry of a direct one. `read_order_iff`: a permutation of an answer gives the same cells, and
the rules the same counters, exactly if it only exchanges entities with equal counters. `read_order_shows`: two others do.
-/
import MasiEdge.Firewall.Compile
import MasiEdge.Source.Live

namespace MasiEdge.Source

open Codec Firewall List

def counterValue : Entity → EdgeResult Counter
  | .counterEntry _ _ (some (packets, bytes)) | .directCounterEntry _ (some (packets, bytes)) => do
    refuse (packets < 0 ∨ bytes < 0) (.precondition "COUNTER_READBACK_INVALID" "counter value is negative")
    return (packets.toNat, bytes.toNat)
  | .counterEntry .. | .directCounterEntry .. => .error (.precondition "COUNTER_READBACK_MISSING" "counter data absent")
  | _ => .error (.invalidArgument "counter_entity" "expected counter entry")

/-- what is made of an answer to `n` queries: the counters are taken by position -/
def readPositions {α : Type} (n : ℕ) (e : EdgeError) (use : List Counter → α) (readback : List Entity) : EdgeResult α := do
  refuse (readback.length ≠ n) e
  return use (← readback.mapM counterValue)

/-- the cells `finish_source_recovery` reads -/
def readbackCells (hash : Bytes → String) (cfg : SourceConfig) (epoch : ℕ) : List Entity → EdgeResult (List TelemetryCell) :=
  readPositions 256 (.precondition "SNAPSHOT_INCONSISTENT" "telemetry snapshot did not return all 256 cells")
    (snapshotCells hash cfg epoch 0)

/-- the counters `sweep_rule_observations` gives the rules -/
def sweepCounters (ruleIds : List String) : List Entity → EdgeResult (List (String × Counter)) :=
  readPositions ruleIds.length
    (.precondition "COUNTER_READBACK_MISSING" "direct counter response cardinality mismatch") ruleIds.zip

variable {hash : Bytes → String} {cfg : SourceConfig} {epoch i : ℕ} {cells cells' : List Counter}

theorem le_index_snapshotCells {c : TelemetryCell} (h : c ∈ snapshotCells hash cfg epoch i cells) : i ≤ c.index := by
  induction cells generalizing i with
  | nil => cases h
  | cons cell rest ih =>
    rw [snapshotCells] at h
    split_ifs at h
    · exact (Nat.le_succ i).trans (ih h)
    · rcases mem_cons.1 h with rfl | h
      · exact le_rfl
      · exact (Nat.le_succ i).trans (ih h)

/-- a bank of known size can be told from its non-zero cells -/
theorem snapshotCells_inj (hlength : cells.length = cells'.length)
    (h : snapshotCells hash cfg epoch i cells = snapshotCells hash cfg epoch i cells') : cells = cells' := by
  induction cells generalizing i cells' with
  | nil => exact (length_eq_zero_iff.1 hlength.symm).symm
  | cons cell rest ih =>
    obtain _ | ⟨cell', rest'⟩ := cells'
    · cases hlength
    have hrest : ∀ {j}, snapshotCells hash cfg epoch j rest = snapshotCells hash cfg epoch j rest' → rest = rest' :=
      ih (Nat.succ.inj hlength)
    simp only [snapshotCells] at h
    split_ifs at h with hz hz' hz'
    · rw [hrest h, Prod.ext (hz.1.trans hz'.1.symm) (hz.2.trans hz'.2.symm)]
    -- the cells after this one have larger indices
    · exact absurd (le_index_snapshotCells (h ▸ mem_cons_self)) (Nat.not_succ_le_self i)
    · exact absurd (le_index_snapshotCells (h ▸ mem_cons_self)) (Nat.not_succ_le_self i)
    · obtain ⟨hcell, h⟩ := cons.inj h
      injection hcell with _ hpackets hbytes
      rw [hrest h, Prod.ext hpackets hbytes]

/-- the packets and bytes an entity carries -/
def counterData : Entity → Option (ℤ × ℤ)
  | .counterEntry _ _ data | .directCounterEntry _ data => data
  | _ => none

theorem counterValue_ok {entity : Entity} {c : Counter} :
    counterValue entity = .ok c ↔ counterData entity = some ((c.1 : ℤ), (c.2 : ℤ)) := by
  have hread : ∀ data : ℤ × ℤ, (do
      refuse (data.1 < 0 ∨ data.2 < 0) (.precondition "COUNTER_READBACK_INVALID" "counter value is negative")
      return (data.1.toNat, data.2.toNat) : EdgeResult Counter) = .ok c ↔ some data = some ((c.1 : ℤ), (c.2 : ℤ)) := by
    intro data
    simp only [bind_ok, refuse_ok, exists_const, pure, Except.pure, Except.ok.injEq, Option.some.injEq, Prod.ext_iff]
    omega
  rcases entity with _ | ⟨_, _, _ | data⟩ | ⟨_, _ | data⟩ | _
  case counterEntry.some => exact hread data
  case directCounterEntry.some => exact hread data
  all_goals simp [counterValue, counterData]

section

variable {n m : ℕ} {xs : Fin m → Entity}

theorem mapM_counterValue {values : Fin m → Counter} :
    (ofFn xs).mapM counterValue = .ok (ofFn values) ↔
      ∀ i, counterData (xs i) = some (((values i).1 : ℤ), ((values i).2 : ℤ)) := by
  rw [mapM_ok, forall₂_iff_get]
  simp [Fin.forall_iff, counterValue_ok]

/-- a use of the counters that tells lists of one length apart sees every entity that takes the place of a different one -/
theorem readPositions_iff {α : Type} {e : EdgeError} {use : List Counter → α} {a : α} (σ : Equiv.Perm (Fin m))
    (huse : ∀ l l' : List Counter, l.length = n → l'.length = n → use l = use l' → l = l')
    (h : readPositions n e use (ofFn xs) = .ok a) :
    readPositions n e use (ofFn (xs ∘ σ)) = .ok a ↔ ∀ i, counterData (xs (σ i)) = counterData (xs i) := by
  obtain ⟨hn, h⟩ := refuse_then h
  obtain ⟨cs, hcs, h⟩ := bind_ok.1 h
  rw [length_ofFn] at hn
  obtain ⟨values, rfl⟩ : ∃ values : Fin m → Counter, ofFn values = cs := by
    have hlength := (mapM_ok.1 hcs).length_eq
    rw [length_ofFn] at hlength
    subst hlength
    exact ⟨cs.get, ofFn_get cs⟩
  have hdata := mapM_counterValue.1 hcs
  -- the permuted answer is read as well, each counter at its new place
  have hmoved : (ofFn (xs ∘ σ)).mapM counterValue = .ok (ofFn (values ∘ σ)) :=
    mapM_counterValue.2 fun i => hdata (σ i)
  have hread : readPositions n e use (ofFn (xs ∘ σ)) = .ok (use (ofFn (values ∘ σ))) := by
    rw [readPositions, refuse_of_not (by simpa using hn), ok_bind, hmoved]
    rfl
  have hsame : use (ofFn (values ∘ σ)) = a ↔ values ∘ σ = values := by
    rw [← Except.ok.inj h]
    constructor
    · intro huses
      exact ofFn_injective (huse _ _ (by simpa using hn) (by simpa using hn) huses)
    · intro hvalues
      rw [hvalues]
  rw [hread, Except.ok.injEq, hsame, funext_iff]
  refine forall_congr' fun i => ?_
  simp [hdata, Prod.ext_iff]

end

/-- **The order of an answer shows.** A permutation of an accepted answer leaves the cells, and the counters the rules get from
it, as they are exactly if every entity it moves carries the packets and bytes of the entity whose place it takes: no entity is
asked which cell or rule it is of. -/
theorem read_order_iff (hash : Bytes → String) (cfg : SourceConfig) (epoch : ℕ) (ruleIds : List String) {m : ℕ}
    (xs : Fin m → Entity) (σ : Equiv.Perm (Fin m)) :
    (∀ cells, readbackCells hash cfg epoch (ofFn xs) = .ok cells →
      (readbackCells hash cfg epoch (ofFn (xs ∘ σ)) = .ok cells ↔
        ∀ i, counterData (xs (σ i)) = counterData (xs i))) ∧
      ∀ counters, sweepCounters ruleIds (ofFn xs) = .ok counters →
        (sweepCounters ruleIds (ofFn (xs ∘ σ)) = .ok counters ↔
          ∀ i, counterData (xs (σ i)) = counterData (xs i)) := by
  refine ⟨fun cells => readPositions_iff σ fun l l' hl hl' h => snapshotCells_inj (hl.trans hl'.symm) h,
    fun counters => readPositions_iff σ fun l l' hl hl' h => ?_⟩
  have hzip := congrArg (map Prod.snd) h
  rwa [map_snd_zip hl.le, map_snd_zip hl'.le] at hzip

/-- two rules with equal counters may be answered in either order -/
theorem equal_counters_exchange :
    let xs : Fin 2 → Entity := fun i => .directCounterEntry (some { tableId := 1, priority := i.val }) (some (5, 5))
    sweepCounters ["a", "b"] (ofFn (xs ∘ Equiv.swap 0 1)) = .ok [("a", 5, 5), ("b", 5, 5)] :=
  ((read_order_iff (fun _ => "") ⟨"target-1", 1, "primary", none, "", 0, 0, 8⟩ 0 _ _ _).2 _ (by decide +kernel)).2 fun _ => rfl

/-- the cells of a bank after the first two, all empty -/
def otherCells : List Entity := (range' 2 254).map fun index => .counterEntry 0 (some index) (some (0, 0))

/-- **Two entities change places.** Five packets of cell 0 and of rule `a` become those of cell 1 and of rule `b`. -/
theorem read_order_shows :
    let cell := fun index packets => Entity.counterEntry 0 (some index) (some (packets, packets))
    let direct := fun priority packets => Entity.directCounterEntry (some { tableId := 1, priority }) (some (packets, packets))
    let shown := fun readback => (readbackCells (fun _ => "") ⟨"target-1", 1, "primary", none, "", 0, 0, 8⟩ 0 readback).map
      fun cells => cells.map fun c => (c.index, c.packets, c.bytes)
    (cell 0 5 :: cell 1 0 :: otherCells).Perm (cell 1 0 :: cell 0 5 :: otherCells) ∧
      shown (cell 0 5 :: cell 1 0 :: otherCells) = .ok [(0, 5, 5)] ∧
      shown (cell 1 0 :: cell 0 5 :: otherCells) = .ok [(1, 5, 5)] ∧
      sweepCounters ["a", "b"] [direct 1 5, direct 2 0] = .ok [("a", 5, 5), ("b", 0, 0)] ∧
      sweepCounters ["a", "b"] [direct 2 0, direct 1 5] = .ok [("a", 0, 0), ("b", 5, 5)] :=
  ⟨.swap _ _ _, by decide +kernel, by decide +kernel, by decide +kernel, by decide +kernel⟩

end MasiEdge.Source
