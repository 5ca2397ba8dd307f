/-
An append-only log with a checkpoint.

Entry `i` has sequence `i + 1`; the checkpoint is a sequence already reached, carried as a field, and only moves forward.
`pending` is what a reader sees: the entries after the checkpoint with their sequences. `replay` is its longest prefix
within a record and a byte bound.
-/
import Mathlib.Data.List.Basic
import Mathlib.Data.List.Induction

namespace MasiEdge

open List

structure Log (α : Type) where
  entries : List α
  checkpoint : ℕ
  inRange : checkpoint ≤ entries.length
deriving DecidableEq

namespace Log

variable {α : Type} {l l' : Log α} {n k i : ℕ} {x : ℕ × α}

def empty : Log α := ⟨[], 0, Nat.le_refl _⟩

def lastSequence (l : Log α) : ℕ := l.entries.length

def nextSequence (l : Log α) : ℕ := l.entries.length + 1

def append (l : Log α) (a : α) : Log α :=
  ⟨l.entries ++ [a], l.checkpoint, by rw [length_append]; exact Nat.le_trans l.inRange (Nat.le_add_right _ _)⟩

/-- move the checkpoint to `n`; refused below the checkpoint and past the end -/
def moveTo (l : Log α) (n : ℕ) : Option (Log α) :=
  if h : l.checkpoint ≤ n ∧ n ≤ l.entries.length then some ⟨l.entries, n, h.2⟩ else none

/-- the entries after the checkpoint, with their sequences -/
def pending (l : Log α) : List (ℕ × α) := (l.entries.drop l.checkpoint).mapIdx fun i a => (l.checkpoint + i + 1, a)

/-- the longest prefix of at most `maxRecords` items and `maxBytes` bytes -/
def within (size : α → ℕ) : ℕ → ℕ → List (ℕ × α) → List (ℕ × α)
  | 0, _, _ => []
  | _, _, [] => []
  | n + 1, maxBytes, x :: xs => if maxBytes < size x.2 then [] else x :: within size n (maxBytes - size x.2) xs

def replay (size : α → ℕ) (l : Log α) (maxRecords maxBytes : ℕ) : List (ℕ × α) := within size maxRecords maxBytes l.pending

/-! ## Sequences -/

@[simp] theorem checkpoint_append (l : Log α) (a : α) : (l.append a).checkpoint = l.checkpoint := rfl

theorem append_entries (l : Log α) (a : α) : (l.append a).entries = l.entries ++ [a] := rfl

theorem moveTo_eq_some (h : l.moveTo n = some l') :
    l.checkpoint ≤ n ∧ l'.entries = l.entries ∧ l'.checkpoint = n := by
  unfold moveTo at h
  split_ifs at h with hn
  injection h with h
  subst h
  exact ⟨hn.1, rfl, rfl⟩

theorem moveTo_isSome : (l.moveTo n).isSome ↔ l.checkpoint ≤ n ∧ n ≤ l.lastSequence := by
  unfold moveTo lastSequence
  split_ifs with h
  · simpa using h
  · simpa using h

/-! ## Pending entries -/

theorem pending_empty : (empty : Log α).pending = [] := rfl

theorem pending_append (l : Log α) (a : α) : (l.append a).pending = l.pending ++ [(l.nextSequence, a)] := by
  have hle := l.inRange
  simp only [pending, append, drop_append_of_le_length hle, mapIdx_append, mapIdx_cons, mapIdx_nil,
    length_drop, nextSequence]
  congr 3
  omega

/-- moving the checkpoint drops exactly the entries it covers -/
theorem pending_moveTo (h : l.moveTo n = some l') : l'.pending = l.pending.drop (n - l.checkpoint) := by
  obtain ⟨hlo, he, hc⟩ := moveTo_eq_some h
  simp only [pending, he, hc]
  apply ext_getElem?
  intro i
  simp only [getElem?_mapIdx, getElem?_drop, getElem?_mapIdx]
  rw [show l.checkpoint + (n - l.checkpoint + i) = n + i by omega]

theorem mem_pending (h : x ∈ l.pending) :
    l.checkpoint < x.1 ∧ x.1 ≤ l.lastSequence ∧ l.entries[x.1 - 1]? = some x.2 := by
  obtain ⟨i, hi, rfl⟩ := getElem_of_mem h
  simp only [pending, length_mapIdx, length_drop] at hi
  simp only [pending, getElem_mapIdx, getElem_drop, lastSequence]
  refine ⟨by omega, by omega, ?_⟩
  rw [show l.checkpoint + i + 1 - 1 = l.checkpoint + i by omega, getElem?_eq_getElem]

theorem pending_getElem (h : i < l.pending.length) : (l.pending[i]).1 = l.checkpoint + i + 1 := by
  simp [pending]

/-- the sequences of the first k pending entries end at checkpoint + k -/
theorem mem_take_pending (h : x ∈ l.pending.take k) : x.1 ≤ l.checkpoint + k := by
  obtain ⟨i, hi, rfl⟩ := getElem_of_mem h
  rw [length_take] at hi
  rw [getElem_take, pending_getElem]
  omega

theorem mem_drop_pending (h : x ∈ l.pending) (hk : l.checkpoint + k < x.1) :
    x ∈ l.pending.drop k := by
  rw [← take_append_drop k l.pending] at h
  rcases List.mem_append.1 h with h | h
  · have := mem_take_pending h
    omega
  · exact h

theorem pending_map_snd (l : Log α) : l.pending.map Prod.snd = l.entries.drop l.checkpoint := by
  apply ext_getElem?
  intro i
  simp only [pending, getElem?_map, getElem?_mapIdx, Option.map_map]
  exact Option.map_id'

theorem pending_getLast? (h : l.pending.getLast? = some x) :
    x.1 = l.lastSequence ∧ l.entries.getLast? = some x.2 := by
  rw [getLast?_eq_getElem?] at h
  simp only [pending, length_mapIdx, length_drop, getElem?_mapIdx, getElem?_drop,
    Option.map_eq_some_iff] at h
  obtain ⟨a, ha, rfl⟩ := h
  have hlt := (List.getElem?_eq_some_iff.1 ha).1
  refine ⟨?_, ?_⟩
  · simp only [lastSequence]
    omega
  · rw [getLast?_eq_getElem?, ← ha]
    congr 1
    omega

theorem length_pending (l : Log α) : l.pending.length = l.lastSequence - l.checkpoint := by
  simp [pending, lastSequence]

/-- a checkpoint over everything before the last entry leaves that entry -/
theorem pending_eq_nil : l.pending = [] ↔ l.checkpoint = l.lastSequence := by
  have hle := l.inRange
  simp only [pending, mapIdx_eq_nil_iff, drop_eq_nil_iff, lastSequence]
  omega

theorem within_take (size : α → ℕ) (maxRecords maxBytes : ℕ) (xs : List (ℕ × α)) :
    within size maxRecords maxBytes xs <+: xs.take maxRecords := by
  induction xs generalizing maxRecords maxBytes with
  | nil => cases maxRecords <;> simp [within]
  | cons x _ ih =>
    cases maxRecords with
    | zero => simp [within]
    | succ n =>
      rw [within]
      split_ifs
      · exact nil_prefix
      · exact (prefix_cons_inj x).2 (ih n _)

theorem replay_prefix (size : α → ℕ) (l : Log α) (maxRecords maxBytes : ℕ) :
    l.replay size maxRecords maxBytes <+: l.pending :=
  (within_take size maxRecords maxBytes l.pending).trans <| take_prefix maxRecords _

end Log

end MasiEdge
