/-
Fixed-width big-endian byte codecs, and the saturating arithmetic of a fixed-width counter.

`toBe w n` is the w-byte big-endian encoding of n; `fromBe` reads any byte string. The round trip `fromBe_toBe` holds
for n below 256^w. `slice` is the half-open slice of a byte string. Nothing here is specific to one file format.
-/
import Mathlib.Tactic

namespace MasiEdge.Codec

/-- a byte string -/
abbrev Bytes := List UInt8

/-! ## Big-endian integers -/

def toBe : ℕ → ℕ → Bytes
  | 0, _ => []
  | w + 1, n => toBe w (n / 256) ++ [UInt8.ofNat n]

def fromBe (l : Bytes) : ℕ := l.foldl (fun acc b => acc * 256 + b.toNat) 0

@[simp] theorem length_toBe (w n : ℕ) : (toBe w n).length = w := by
  induction w generalizing n with
  | zero => rfl
  | succ _ ih => simp [toBe, ih]

theorem fromBe_snoc (l : Bytes) (b : UInt8) : fromBe (l ++ [b]) = fromBe l * 256 + b.toNat := by
  simp [fromBe, List.foldl_append]

theorem fromBe_toBe_mod (w n : ℕ) : fromBe (toBe w n) = n % 256 ^ w := by
  induction w generalizing n with
  | zero => simp [toBe, fromBe, Nat.mod_one]
  | succ _ ih =>
    rw [toBe, fromBe_snoc, ih, pow_succ', Nat.mod_mul]
    simp
    ring

/-- **Integer round trip** for values that fit the width -/
theorem fromBe_toBe (w n : ℕ) (h : n < 256 ^ w) : fromBe (toBe w n) = n := by
  rw [fromBe_toBe_mod, Nat.mod_eq_of_lt h]

/-! ## Slices -/

/-- bytes a (inclusive) to b (exclusive) -/
def slice (l : Bytes) (a b : ℕ) : Bytes := (l.drop a).take (b - a)

/-- the middle part of a three-part string -/
theorem slice_mid (x y z : Bytes) (a b : ℕ) (ha : x.length = a) (hb : x.length + y.length = b) :
    slice (x ++ (y ++ z)) a b = y := by
  subst ha
  have hlen : b - x.length = y.length := by omega
  simp [slice, hlen]

/-! ## Saturating counters -/

/-- the largest value of a 64-bit counter -/
def u64Max : ℕ := 2 ^ 64 - 1

theorem fromBe_toBe_u64 {n : ℕ} (h : n ≤ u64Max) : fromBe (toBe 8 n) = n :=
  fromBe_toBe _ _ (by unfold u64Max at h; norm_num at h ⊢; omega)

def satAdd (a b : ℕ) : ℕ := min (a + b) u64Max

theorem satAdd_eq {a b : ℕ} (h : a + b ≤ u64Max) : satAdd a b = a + b := min_eq_left h

theorem satAdd_le_add (a b : ℕ) : satAdd a b ≤ a + b := min_le_left _ _

end MasiEdge.Codec
