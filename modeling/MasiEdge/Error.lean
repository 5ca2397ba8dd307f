/-
The fail-closed error values of the Edge process (`error.rs`).

Every fallible function of the model returns `EdgeResult`. The constructors, codes and messages are the source's; the
operating-system error inside `Io` is not modelled, only the context in which it arose.
-/
import Mathlib.Tactic

namespace MasiEdge

inductive EdgeError where
  | invalidArgument (field message : String)
  | unknownMajor (version : String)
  | endpointNotAllowed (message : String)
  | tlsIdentityMismatch (message : String)
  | resourceExhausted (code message : String)
  | precondition (code message : String)
  | deadline (message : String)
  | walCorrupt (message : String)
  | io (context : String)
  | remote (code message : String)
  | unknownOutcome (message : String)
  | actorUnavailable (message : String)
deriving DecidableEq, Repr

/-- the stable reason code -/
def EdgeError.reasonCode : EdgeError → String
  | .invalidArgument _ _ => "INVALID_ARGUMENT"
  | .unknownMajor _ => "UNKNOWN_MAJOR"
  | .endpointNotAllowed _ => "ENDPOINT_NOT_ALLOWED"
  | .tlsIdentityMismatch _ => "TLS_IDENTITY_MISMATCH"
  | .resourceExhausted code _ => code
  | .precondition code _ => code
  | .deadline _ => "DEADLINE_EXCEEDED"
  | .walCorrupt _ => "WAL_CORRUPT"
  | .io _ => "LOCAL_IO"
  | .remote code _ => code
  | .unknownOutcome _ => "WRITE_OUTCOME_UNCONFIRMED"
  | .actorUnavailable _ => "ACTOR_UNAVAILABLE"

abbrev EdgeResult (α : Type) := Except EdgeError α

/-- an early return: fail with `e` when the source's condition holds -/
def refuse (bad : Prop) [Decidable bad] (e : EdgeError) : EdgeResult Unit := if bad then .error e else .ok ()

/-- a part that must be there -/
def required {α : Type} (x : Option α) (e : EdgeError) : EdgeResult α :=
  match x with
  | none => .error e
  | some a => .ok a

/-! ## Peeling a computation apart -/

section

variable {ε α β γ : Type} {f : α → Except ε β} {x : Except ε α}

theorem bind_ok {b : β} : (x >>= f) = .ok b ↔ ∃ a, x = .ok a ∧ f a = .ok b := by
  cases x with
  | error => simp [bind, Except.bind]
  | ok => simp [bind, Except.bind]

section

variable {x : Except ε Unit} {k : Unit → Except ε β} {b : β}

theorem check_ok : (x >>= k) = .ok b ↔ x = .ok () ∧ k () = .ok b := by
  cases x with
  | error => simp [bind, Except.bind]
  | ok => simp [bind, Except.bind]

/-- what follows a check that passed -/
theorem passed (h : (x >>= k) = .ok b) : k () = .ok b := (check_ok.1 h).2

end

theorem bind_error {e : ε} : (x >>= f) = .error e ↔ x = .error e ∨ ∃ a, x = .ok a ∧ f a = .error e := by
  cases x with
  | error => simp [bind, Except.bind]
  | ok => simp [bind, Except.bind]

@[simp] theorem ok_bind (a : α) (f : α → Except ε β) : ((.ok a : Except ε α) >>= f) = f a := rfl

/-- a computation whose rest is mapped is mapped as a whole -/
theorem bind_eq_map {f' : α → Except ε γ} {g : β → γ} (h : ∀ a, f' a = (f a).map g) :
    x >>= f' = (x >>= f).map g := by
  cases x with
  | error => rfl
  | ok a => exact h a

/-- a loop that succeeds has a result for each element -/
theorem mapM_ok {l : List α} {r : List β} : l.mapM f = .ok r ↔ List.Forall₂ (fun a b => f a = .ok b) l r := by
  induction l generalizing r with
  | nil =>
    rw [List.mapM_nil, List.forall₂_nil_left_iff]
    exact ⟨fun h => (Except.ok.inj h).symm, fun h => h ▸ rfl⟩
  | cons _ _ ih =>
    rw [List.mapM_cons, List.forall₂_cons_left_iff]
    constructor
    · intro h
      obtain ⟨b, hb, h⟩ := bind_ok.1 h
      obtain ⟨bs, hbs, h⟩ := bind_ok.1 h
      exact ⟨b, bs, hb, ih.1 hbs, (Except.ok.inj h).symm⟩
    · rintro ⟨b, bs, hb, hbs, rfl⟩
      rw [hb, ok_bind, ih.2 hbs]
      rfl

end

variable {bad : Prop} {e : EdgeError}

@[simp] theorem refuse_ok [Decidable bad] {u : Unit} : refuse bad e = .ok u ↔ ¬ bad := by
  by_cases h : bad <;> simp [refuse, h]

/-- a check that passed, and what follows it -/
theorem refuse_then [Decidable bad] {β : Type} {k : Unit → EdgeResult β} {b : β}
    (h : (refuse bad e >>= k) = .ok b) : ¬ bad ∧ k () = .ok b := by
  obtain ⟨hgood, hrest⟩ := check_ok.1 h
  exact ⟨refuse_ok.1 hgood, hrest⟩

theorem required_ok {α : Type} {x : Option α} {e : EdgeError} {a : α} (h : required x e = .ok a) :
    x = some a := by
  cases x with
  | none => cases h
  | some => exact congrArg some (Except.ok.inj h)

theorem refuse_error [Decidable bad] {e' : EdgeError} : refuse bad e = .error e' ↔ bad ∧ e = e' := by
  by_cases h : bad <;> simp [refuse, h]

/-- what follows a check that did not give this error -/
theorem passed_error [Decidable bad] {e' : EdgeError} {β : Type} {k : Unit → EdgeResult β}
    (h : (refuse bad e >>= k) = .error e') (hne : e ≠ e' := by decide) : k () = .error e' := by
  rcases bind_error.1 h with h | ⟨_, -, hrest⟩
  · exact absurd (refuse_error.1 h).2 hne
  · exact hrest

theorem refuse_of_not [Decidable bad] (h : ¬ bad) : refuse bad e = .ok () := by
  simp [h]

/-- a change in place does what the pure function says, and nothing when that fails -/
def Atomic {α σ : Type} (s : σ) : EdgeResult (α × σ) → EdgeResult α × σ → Prop
  | .ok (a, t), y => y = (.ok a, t)
  | .error e, y => y = (.error e, s)

theorem Atomic.refuse [Decidable bad] {α σ : Type} {s : σ} {x : EdgeResult (α × σ)} {y : EdgeResult α × σ}
    (h : ¬ bad → Atomic s x y) :
    Atomic s (MasiEdge.refuse bad e >>= fun _ => x) (if bad then (.error e, s) else y) := by
  by_cases hbad : bad
  · rw [if_pos hbad, MasiEdge.refuse, if_pos hbad]
    rfl
  · rw [if_neg hbad, refuse_of_not hbad]
    exact h hbad

end MasiEdge
