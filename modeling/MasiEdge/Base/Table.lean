/-
Tables of rows with a key.

A table is the list of its rows in the order of insertion. A query by key is `lookup`, an update by key `modify`; an insert
appends a row whose key is new. What a table holds under a key after an update or an insert is one equation each, so a
proof about a table never looks at the list.

* `lookup_modify`: an update changes one key; `lookup_modify_column`: and keeps a column; `lookup_map`: one that runs over the whole table;
* `lookup_append_new`: an insert adds one key;
* `Unique.lookup_of_mem`: with unique keys, a row is found under its key;
* `exists_lookup`: a row that is in the table is found under its key, or an older row with that key is.
-/
import Mathlib.Data.List.Basic

namespace MasiEdge.Table

open List

variable {ρ κ : Type} [DecidableEq κ] (key : ρ → κ) {rows : List ρ} {k : κ} {r : ρ} {f : ρ → ρ}

/-- the row with the key -/
def lookup (rows : List ρ) (k : κ) : Option ρ := rows.find? fun r => key r = k

/-- update the row with the key -/
def modify (rows : List ρ) (k : κ) (f : ρ → ρ) : List ρ := rows.map fun r => if key r = k then f r else r

variable {key}

theorem lookup_key (h : lookup key rows k = some r) : key r = k := by
  simpa using find?_some h

theorem mem_of_lookup (h : lookup key rows k = some r) : r ∈ rows :=
  mem_of_find?_eq_some h

theorem exists_lookup (h : r ∈ rows) : ∃ r', lookup key rows (key r) = some r' := by
  apply Option.isSome_iff_exists.1
  rw [lookup, find?_isSome]
  exact ⟨r, h, by simp⟩

theorem lookup_eq_none : lookup key rows k = none ↔ ∀ r ∈ rows, key r ≠ k := by
  simp [lookup]

theorem lookup_modify (hf : ∀ r, key r = k → key (f r) = k) (rows : List ρ) (k' : κ) :
    lookup key (modify key rows k f) k' = if k' = k then (lookup key rows k).map f else lookup key rows k' := by
  induction rows with
  | nil => simp [modify, lookup]
  | cons r _ ih =>
    have hkey : key (if key r = k then f r else r) = key r := by
      split
      · rename_i h
        rw [hf r h, h]
      · rfl
    simp only [modify, map_cons, lookup, find?_cons, hkey] at ih ⊢
    by_cases h' : key r = k'
    · subst h'
      by_cases h : key r = k <;> simp [h]
    · rw [decide_eq_false h']
      by_cases h : k' = k
      · subst h
        rw [decide_eq_false h']
        simpa using ih
      · rw [if_neg h] at ih ⊢
        exact ih

/-- an update that keeps the keys and a column, as the column is read under any key -/
theorem lookup_modify_column {γ : Type} {column : ρ → γ} (hkey : ∀ r, key (f r) = key r)
    (hcolumn : ∀ r, column (f r) = column r) (rows : List ρ) (k k' : κ) :
    (lookup key (modify key rows k f) k').map column = (lookup key rows k').map column := by
  rw [lookup_modify fun r hr => (hkey r).trans hr]
  split
  · rename_i hk
    rw [hk, Option.map_map]
    congr 1
    funext r
    exact hcolumn r
  · rfl

/-- an update keeps a column -/
theorem map_modify {γ : Type} {column : ρ → γ} (hcolumn : ∀ r, column (f r) = column r) :
    (modify key rows k f).map column = rows.map column := by
  rw [modify, map_map]
  refine map_congr_left fun r _ => ?_
  rw [Function.comp_apply]
  split
  · exact hcolumn r
  · rfl

/-- an update of a key that is not there -/
theorem modify_of_none (h : lookup key rows k = none) (f : ρ → ρ) : modify key rows k f = rows := by
  have hsame : ∀ r ∈ rows, (if key r = k then f r else r) = id r := fun r hr => if_neg (lookup_eq_none.1 h r hr)
  rw [modify, map_congr_left hsame, map_id]

/-- an update of the whole table -/
theorem lookup_map (hf : ∀ r, key (f r) = key r) (rows : List ρ) (k : κ) :
    lookup key (rows.map f) k = (lookup key rows k).map f := by
  induction rows with
  | nil => rfl
  | cons r _ ih =>
    simp only [lookup, map_cons, find?_cons, hf] at ih ⊢
    by_cases h : key r = k
    · simp [h]
    · rw [decide_eq_false h]
      exact ih

theorem lookup_append (rows more : List ρ) (k : κ) :
    lookup key (rows ++ more) k = (lookup key rows k).or (lookup key more k) := find?_append

theorem lookup_append_new (h : lookup key rows (key r) = none) (k : κ) :
    lookup key (rows ++ [r]) k = if k = key r then some r else lookup key rows k := by
  rw [lookup_append]
  by_cases hk : k = key r
  · subst hk
    rw [h, if_pos rfl]
    simp [lookup]
  · have : lookup key [r] k = none := lookup_eq_none.2 fun x hx => by
      rw [List.mem_singleton.1 hx]
      exact fun h => hk h.symm
    rw [this, if_neg hk, Option.or_none]

/-- an insert keeps what was there -/
theorem lookup_append_of_some (h : lookup key rows k = some r) (more : List ρ) : lookup key (rows ++ more) k = some r := by
  rw [lookup_append, h, Option.some_or]

/-- what a query with a condition finds -/
theorem find_decide {α : Type} {p : α → Prop} [DecidablePred p] {l : List α} {a : α}
    (h : l.find? (fun x => decide (p x)) = some a) : a ∈ l ∧ p a := by
  refine ⟨mem_of_find?_eq_some h, ?_⟩
  simpa using find?_some h

/-! ## Keys -/

variable (key)

/-- no two rows have the same key -/
def Unique (rows : List ρ) : Prop := ∀ a ∈ rows, ∀ b ∈ rows, key a = key b → a = b

variable {key}

omit [DecidableEq κ] in
theorem unique_nil : Unique key ([] : List ρ) := by
  intro a ha
  cases ha

omit [DecidableEq κ] in
theorem Unique.append_list {more : List ρ} (h : Unique key rows) (hmore : Unique key more)
    (hnew : ∀ a ∈ rows, ∀ b ∈ more, key a ≠ key b) : Unique key (rows ++ more) := by
  intro a ha b hb hab
  rcases List.mem_append.1 ha with ha | ha <;> rcases List.mem_append.1 hb with hb | hb
  · exact h a ha b hb hab
  · exact absurd hab (hnew a ha b hb)
  · exact absurd hab.symm (hnew b hb a ha)
  · exact hmore a ha b hb hab

omit [DecidableEq κ] in
theorem Unique.append (h : Unique key rows) (hnew : ∀ a ∈ rows, key a ≠ key r) : Unique key (rows ++ [r]) :=
  h.append_list (by simp [Unique]) (by simpa using hnew)

omit [DecidableEq κ] in
theorem unique_of_pairwise (h : rows.Pairwise fun a b => key a ≠ key b) : Unique key rows := by
  induction h with
  | nil => exact unique_nil
  | cons hne _ ih =>
    intro a ha b hb hab
    rcases List.mem_cons.1 ha with rfl | hta <;> rcases List.mem_cons.1 hb with rfl | htb
    · rfl
    · exact absurd hab (hne b htb)
    · exact absurd hab.symm (hne a hta)
    · exact ih a hta b htb hab

omit [DecidableEq κ] in
theorem Unique.map (h : Unique key rows) (hf : ∀ r, key (f r) = key r) : Unique key (rows.map f) := by
  intro _ ha _ hb hab
  obtain ⟨a, ha', rfl⟩ := List.mem_map.1 ha
  obtain ⟨b, hb', rfl⟩ := List.mem_map.1 hb
  rw [hf, hf] at hab
  rw [h a ha' b hb' hab]

theorem Unique.modify (h : Unique key rows) (hf : ∀ r, key r = k → key (f r) = k) : Unique key (modify key rows k f) := by
  refine h.map fun r => ?_
  split
  · rename_i hr
    exact (hf r hr).trans hr.symm
  · rfl

/-- with unique keys, a query finds the row -/
theorem Unique.lookup_of_mem (h : Unique key rows) (hr : r ∈ rows) (hk : key r = k) : lookup key rows k = some r := by
  subst hk
  obtain ⟨r', hr'⟩ := @exists_lookup ρ κ _ key rows r hr
  rw [hr', h r' (mem_of_lookup hr') r hr (lookup_key hr')]

theorem mem_modify : r ∈ modify key rows k f ↔ (r ∈ rows ∧ key r ≠ k) ∨ ∃ a ∈ rows, key a = k ∧ f a = r := by
  simp only [modify, mem_map]
  constructor
  · rintro ⟨a, ha, rfl⟩
    by_cases hk : key a = k
    · rw [if_pos hk]
      exact Or.inr ⟨a, ha, hk, rfl⟩
    · rw [if_neg hk]
      exact Or.inl ⟨ha, hk⟩
  · rintro (⟨hr, hk⟩ | ⟨a, ha, hk, rfl⟩)
    · exact ⟨r, hr, if_neg hk⟩
    · exact ⟨a, ha, if_pos hk⟩

end MasiEdge.Table
