/-
Addresses in dotted decimal: four fields of one to three digits, each at most 255 and without a leading zero.

`parseAddr` reads the text and `formatAddr` writes it.
-/
import Mathlib.Tactic

namespace MasiEdge.Dotted

/-! ## Text -/

def parseField (digits : List Char) : Option ℕ :=
  if digits = [] ∨ 3 < digits.length ∨ digits.all Char.isDigit = false ∨ (1 < digits.length ∧ digits.head? = some '0') then none
  else
    let value := digits.foldl (fun n c => n * 10 + (c.toNat - 48)) 0
    if 255 < value then none else some value

def parseFields : List (List Char) → Option (ℕ × ℕ × ℕ × ℕ)
  | [a, b, c, d] => do
    let a ← parseField a
    let b ← parseField b
    let c ← parseField c
    let d ← parseField d
    return (a, b, c, d)
  | _ => none

def ofFields : ℕ × ℕ × ℕ × ℕ → UInt32
  | (a, b, c, d) => UInt32.ofNat (((a * 256 + b) * 256 + c) * 256 + d)

def parseAddr (text : String) : Option UInt32 := (parseFields (text.toList.splitOn '.')).map ofFields

/-- the fields of an address -/
def toFields (address : UInt32) : List ℕ :=
  let n := address.toNat
  [n / 256 / 256 / 256, n / 256 / 256 % 256, n / 256 % 256, n % 256]

def formatAddr (address : UInt32) : String :=
  String.ofList (['.'].intercalate ((toFields address).map (Nat.toDigits 10)))

end MasiEdge.Dotted
