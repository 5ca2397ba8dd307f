/-
Runs of a deterministic system.

`Along P xs` says that every element of the history `xs` meets `P` together with the history before it; `Along.invariant` is
the invariant rule for the runs that meet such a condition, `foldl_invariant` the one for all runs. A step function that may
refuse is folded with `runM`; `runM_induction` is the invariant rule for it: what holds initially and is kept by
every accepted step holds at the end of every accepted run, and the invariant may speak of the whole history. On a
concrete history, `holdsAlong` decides a condition on every state in one pass.
-/
import Mathlib.Data.List.Induction

namespace MasiEdge.Run

open List

section

variable {α : Type} {xs : List α}

/-- every element of the history meets `P` with what came before it -/
def Along (P : List α → α → Prop) (xs : List α) : Prop := ∀ pre a post, xs = pre ++ a :: post → P pre a

theorem along_nil (P : List α → α → Prop) : Along P [] := by
  intro pre a post h
  simp at h

theorem along_snoc {P : List α → α → Prop} (xs : List α) (x : α) : Along P (xs ++ [x]) ↔ Along P xs ∧ P xs x := by
  constructor
  · intro h
    refine ⟨fun pre a post hp => h pre a (post ++ [x]) (by simp [hp]), h xs x [] rfl⟩
  · rintro ⟨h, hx⟩ pre a post hp
    rcases eq_nil_or_concat post with rfl | ⟨post, y, rfl⟩
    · obtain ⟨rfl, h2⟩ := append_inj' hp rfl
      injection h2 with h2
      exact h2 ▸ hx
    · rw [concat_eq_append, ← cons_append, ← append_assoc] at hp
      exact h pre a post (append_inj' hp rfl).1

/-- check every element against the state before it, in one pass -/
def holdsAlong {σ : Type} (step : σ → α → σ) (ok : σ → α → Bool) : σ → List α → Bool
  | _, [] => true
  | s, a :: rest => ok s a && holdsAlong step ok (step s a) rest

theorem along_of_holdsAlong {σ : Type} {step : σ → α → σ} {ok : σ → α → Bool} {s : σ}
    (h : holdsAlong step ok s xs = true) : Along (fun pre a => ok (pre.foldl step s) a = true) xs := by
  induction xs generalizing s with
  | nil => exact along_nil _
  | cons _ _ ih =>
    obtain ⟨hx, hrest⟩ := Bool.and_eq_true_iff.1 h
    intro pre a post hsplit
    cases pre with
    | nil =>
      injection hsplit with hhead
      exact hhead ▸ hx
    | cons _ pre =>
      injection hsplit with hhead htail
      subst hhead
      exact ih hrest pre a post htail

/-- a decidable condition, checked on the run -/
theorem along_of_decide {σ : Type} {P : σ → α → Prop} [∀ s a, Decidable (P s a)] (step : σ → α → σ) (s : σ)
    (h : holdsAlong step (fun s a => decide (P s a)) s xs = true) : Along (fun pre a => P (pre.foldl step s) a) xs := by
  intro pre a post hsplit
  exact of_decide_eq_true (along_of_holdsAlong h pre a post hsplit)

theorem mem_snoc {x a : α} : a ∈ xs ++ [x] ↔ a ∈ xs ∨ a = x := by
  simp

theorem forall_mem_snoc {P : α → Prop} {x : α} : (∀ a ∈ xs ++ [x], P a) ↔ (∀ a ∈ xs, P a) ∧ P x := by
  simp [or_imp, forall_and]

theorem pairwise_snoc {R : α → α → Prop} {x : α} :
    (xs ++ [x]).Pairwise R ↔ xs.Pairwise R ∧ ∀ a ∈ xs, R a x := by
  simp [pairwise_append]

theorem Along.imp {P Q : List α → α → Prop} (h : Along P xs) (himp : ∀ pre a, P pre a → Q pre a) :
    Along Q xs := fun pre a post hsplit => himp pre a (h pre a post hsplit)

variable {σ : Type} {step : σ → α → σ} {s : σ} {P : σ → Prop} (h0 : P s)
include h0

/-- the invariant rule for runs whose steps meet a condition -/
theorem Along.invariant {C : List α → α → Prop} (h : Along C xs)
    (hstep : ∀ pre a, Along C pre → C pre a → P (pre.foldl step s) → P (step (pre.foldl step s) a)) :
    P (xs.foldl step s) := by
  induction xs using List.reverseRecOn with
  | nil => exact h0
  | append_singleton xs x ih =>
    obtain ⟨hpre, hx⟩ := (along_snoc xs x).1 h
    rw [foldl_append]
    exact hstep xs x hpre hx (ih hpre)

/-- the invariant rule for all runs -/
theorem foldl_invariant (hstep : ∀ (pre : List α) a, P (pre.foldl step s) → P (step (pre.foldl step s) a)) (xs : List α) :
    P (xs.foldl step s) :=
  Along.invariant h0 (C := fun _ _ => True) (fun _ _ _ _ => trivial) fun pre a _ _ => hstep pre a

end

variable {α σ ε : Type}

/-- run a list of fallible steps; the first refusal ends the run -/
def runM (step : σ → α → Except ε σ) : σ → List α → Except ε σ
  | s, [] => .ok s
  | s, a :: rest =>
    match step s a with
    | .error e => .error e
    | .ok t => runM step t rest

theorem runM_append (step : σ → α → Except ε σ) (s : σ) (xs ys : List α) (u : σ) :
    runM step s (xs ++ ys) = .ok u ↔ ∃ t, runM step s xs = .ok t ∧ runM step t ys = .ok u := by
  induction xs generalizing s with
  | nil => simp [runM]
  | cons a _ ih =>
    simp only [cons_append, runM]
    cases step s a with
    | error => simp
    | ok t => exact ih t

theorem runM_snoc (step : σ → α → Except ε σ) (s : σ) (xs : List α) (x : α) (u : σ) :
    runM step s (xs ++ [x]) = .ok u ↔ ∃ t, runM step s xs = .ok t ∧ step t x = .ok u := by
  rw [runM_append]
  refine exists_congr fun t => and_congr_right fun _ => ?_
  cases h : step t x <;> simp [runM, h]

/-- the invariant rule for accepted runs -/
theorem runM_induction (step : σ → α → Except ε σ) (s : σ) (P : List α → σ → Prop) (h0 : P [] s)
    (hstep : ∀ pre t a u, P pre t → step t a = .ok u → P (pre ++ [a]) u) (xs : List α) (t : σ)
    (h : runM step s xs = .ok t) : P xs t := by
  induction xs using List.reverseRecOn generalizing t with
  | nil =>
    injection h with h
    exact h ▸ h0
  | append_singleton xs x ih =>
    obtain ⟨u, hu, hx⟩ := (runM_snoc step s xs x t).1 h
    exact hstep xs u x t (ih u hu) hx

end MasiEdge.Run
