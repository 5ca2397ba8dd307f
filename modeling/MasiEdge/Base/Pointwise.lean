/-
Lists related element by element (`List.Forall₂`).

A translation that works rule by rule relates the list it reads to the list it writes; these are the rules for carrying
membership, images and pairwise facts from one to the other.
-/
import Mathlib.Data.List.Forall2
import Mathlib.Data.List.Pairwise
import Mathlib.Data.List.Nodup
import Mathlib.Order.Basic

namespace MasiEdge.Pointwise

open List

/-! ## Members and images -/

variable {α β γ : Type} {l : List α} {m : List β} {R : α → β → Prop} {f : α → γ}

theorem map_eq_of_forall₂ {g : β → γ} (h : List.Forall₂ R l m) (hfg : ∀ a b, R a b → g b = f a) :
    m.map g = l.map f := by
  induction h with
  | nil => rfl
  | cons hab _ ih => rw [map_cons, map_cons, hfg _ _ hab, ih]

theorem forall₂_right (h : List.Forall₂ R l m) : ∀ b ∈ m, ∃ a ∈ l, R a b := by
  induction h with
  | nil => simp
  | cons hab _ ih =>
    intro b hb
    rcases List.mem_cons.1 hb with rfl | hb
    · exact ⟨_, mem_cons_self, hab⟩
    · obtain ⟨a, ha, hr⟩ := ih b hb
      exact ⟨a, mem_cons_of_mem _ ha, hr⟩

theorem forall₂_left (h : List.Forall₂ R l m) : ∀ a ∈ l, ∃ b ∈ m, R a b := forall₂_right h.flip

/-- a choice for each element is a related list -/
theorem exists_forall₂ (h : ∀ a ∈ l, ∃ b, R a b) : ∃ m, List.Forall₂ R l m := by
  induction l with
  | nil => exact ⟨[], .nil⟩
  | cons a _ ih =>
    obtain ⟨b, hb⟩ := h a mem_cons_self
    obtain ⟨m, hm⟩ := ih fun a' ha' => h a' (mem_cons_of_mem a ha')
    exact ⟨b :: m, .cons hb hm⟩

theorem forall₂_trans_mem {S : β → γ → Prop} {n : List γ} (h : List.Forall₂ R l m) (h' : List.Forall₂ S m n) :
    List.Forall₂ (fun a c => ∃ b ∈ m, R a b ∧ S b c) l n := by
  induction h generalizing n with
  | nil =>
    cases h'
    exact .nil
  | cons hab _ ih =>
    cases h' with
    | cons hbc hrest =>
      refine .cons ⟨_, mem_cons_self, hab, hbc⟩ ((ih hrest).imp ?_)
      rintro a c ⟨b, hb, hr, hs⟩
      exact ⟨b, mem_cons_of_mem _ hb, hr, hs⟩

/-! ## Pairs -/

theorem nodup_map_iff {δ : Type} {g : β → δ} (h : List.Forall₂ R l m)
    (hfg : ∀ a b a' b', R a b → R a' b' → (f a = f a' ↔ g b = g b')) : (l.map f).Nodup ↔ (m.map g).Nodup := by
  induction h with
  | nil => simp
  | @cons a b l m hab hrest ih =>
    have hmem : f a ∈ l.map f ↔ g b ∈ m.map g := by
      constructor
      · intro hin
        obtain ⟨a', ha', hsame⟩ := List.mem_map.1 hin
        obtain ⟨i, hi, rfl⟩ := getElem_of_mem ha'
        have hi' : i < m.length := hrest.length_eq ▸ hi
        exact List.mem_map.2 ⟨m[i], getElem_mem hi', (hfg _ _ _ _ (hrest.get hi hi') hab).1 hsame⟩
      · intro hin
        obtain ⟨b', hb', hsame⟩ := List.mem_map.1 hin
        obtain ⟨i, hi, rfl⟩ := getElem_of_mem hb'
        have hi' : i < l.length := hrest.length_eq ▸ hi
        exact List.mem_map.2 ⟨l[i], getElem_mem hi', (hfg _ _ _ _ (hrest.get hi' hi) hab).2 hsame⟩
    rw [map_cons, map_cons, nodup_cons, nodup_cons, hmem, ih]

theorem pairwise_of_forall₂ {S : α → α → Prop} {T : β → β → Prop} (h : List.Forall₂ R l m) (hpairs : l.Pairwise S)
    (hST : ∀ a b a' b', R a b → R a' b' → S a a' → T b b') : m.Pairwise T := by
  induction h with
  | nil => exact .nil
  | cons hab hrest ih =>
    obtain ⟨hhead, htail⟩ := List.pairwise_cons.1 hpairs
    refine List.pairwise_cons.2 ⟨?_, ih htail⟩
    intro b' hb'
    obtain ⟨a', ha', hr⟩ := forall₂_right hrest b' hb'
    exact hST _ _ _ _ hab hr (hhead a' ha')

/-! ## Increasing keys -/

/-- in a list with increasing keys, the keys say which element comes first -/
theorem rel_of_key_lt {κ : Type} [Preorder κ] {key : α → κ} {R : α → α → Prop}
    (h : l.Pairwise fun a b => key a < key b ∧ R a b) {a b : α} (ha : a ∈ l) (hb : b ∈ l) (hlt : key a < key b) :
    R a b := by
  induction h with
  | nil => cases ha
  | cons hhead _ ih =>
    rcases List.mem_cons.1 ha with rfl | hta <;> rcases List.mem_cons.1 hb with rfl | htb
    · exact absurd hlt (lt_irrefl _)
    · exact (hhead b htb).2
    · exact absurd hlt (lt_asymm (hhead a hta).1)
    · exact ih hta htb

end MasiEdge.Pointwise
