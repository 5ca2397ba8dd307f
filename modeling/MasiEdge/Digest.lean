/-
Digest and identity spelling (`digest.rs`).

SHA-256 itself stays a parameter: `hash` gives the hexadecimal part of the digest of a byte string. What a proof needs of
it is a hypothesis of that proof.
-/
import MasiEdge.Base.Codec
import MasiEdge.Error

namespace MasiEdge

open Codec

def asBytes (s : String) : Bytes := s.toUTF8.data.toList

/-- fields joined with NUL, as the source builds digest material -/
def joined (fields : List String) : Bytes := asBytes ("\x00".intercalate fields)

/-- a lowercase `sha256:` digest -/
def sha256 (hash : Bytes → String) (payload : Bytes) : String := "sha256:" ++ hash payload

@[simp] theorem asBytes_append (a b : String) : asBytes (a ++ b) = asBytes a ++ asBytes b := by
  simp [asBytes]

theorem asBytes_inj {a b : String} (h : asBytes a = asBytes b) : a = b := by
  apply String.toByteArray_inj.1
  apply ByteArray.ext
  exact Array.toList_inj.1 h

theorem sha256_inj {hash : Bytes → String} {payload payload' : Bytes} (h : sha256 hash payload = sha256 hash payload') :
    hash payload = hash payload' := by
  apply asBytes_inj
  have hbytes := congrArg asBytes h
  simpa [sha256] using hbytes

def isHexLower (byte : UInt8) : Bool :=
  let b := byte.toNat
  (48 ≤ b && b ≤ 57) || (97 ≤ b && b ≤ 102)

/-- `validate_sha256` -/
def validateSha256 (value field : String) : EdgeResult Unit := do
  refuse ((asBytes value).take 7 ≠ asBytes "sha256:") (.invalidArgument field "digest must start with sha256:")
  let hexPart := (asBytes value).drop 7
  refuse (hexPart.length ≠ 64 ∨ hexPart.all isHexLower = false)
    (.invalidArgument field "digest must contain 64 lowercase hexadecimal characters")

/-- the digest is spelled with 64 lowercase hexadecimal digits -/
structure HexHash (hash : Bytes → String) : Prop where
  length : ∀ payload, (asBytes (hash payload)).length = 64
  digits : ∀ payload, (asBytes (hash payload)).all isHexLower = true

/-- an ASCII letter or digit, or one of `-`, `_`, `.`, `:`, `/` -/
def isIdentityByte (byte : UInt8) : Bool :=
  let b := byte.toNat
  (45 ≤ b && b ≤ 58) || (65 ≤ b && b ≤ 90) || (97 ≤ b && b ≤ 122) || b == 95

/-- `validate_identity` -/
def validateIdentity (value field : String) : EdgeResult Unit := do
  refuse (value = "" ∨ 128 < (asBytes value).length) (.invalidArgument field "identity length must be in [1,128]")
  refuse ((asBytes value).all isIdentityByte = false) (.invalidArgument field "identity contains a forbidden character")

theorem asBytes_sha256 (hash : Bytes → String) (payload : Bytes) :
    (asBytes (sha256 hash payload)).take 7 = asBytes "sha256:" ∧
      (asBytes (sha256 hash payload)).drop 7 = asBytes (hash payload) := by
  have hlength : (asBytes "sha256:").length = 7 := by decide +kernel
  rw [sha256, asBytes_append]
  exact ⟨List.take_left' hlength, List.drop_left' hlength⟩

theorem HexHash.validateSha256 {hash : Bytes → String} (h : HexHash hash) (payload : Bytes) (field : String) :
    MasiEdge.validateSha256 (sha256 hash payload) field = .ok () := by
  obtain ⟨htake, hdrop⟩ := asBytes_sha256 hash payload
  unfold MasiEdge.validateSha256
  rw [refuse_of_not (by rw [htake]; exact not_not.2 rfl), ok_bind]
  apply refuse_of_not
  rw [hdrop, h.length, h.digits]
  decide

/-! ## Which spellings pass -/

structure IsIdentity (value : String) : Prop where
  nonempty : value ≠ ""
  length : (asBytes value).length ≤ 128
  bytes : (asBytes value).all isIdentityByte = true

structure IsDigest (value : String) : Prop where
  head : (asBytes value).take 7 = asBytes "sha256:"
  length : ((asBytes value).drop 7).length = 64
  digits : ((asBytes value).drop 7).all isHexLower = true

variable {value field : String} {e : EdgeError}

theorem validateIdentity_iff : validateIdentity value field = .ok () ↔ IsIdentity value := by
  unfold validateIdentity
  simp only [bind_ok, refuse_ok, not_or, not_lt, Bool.not_eq_false, exists_const]
  exact ⟨fun ⟨⟨hne, hlength⟩, hbytes⟩ => ⟨hne, hlength, hbytes⟩, fun h => ⟨⟨h.nonempty, h.length⟩, h.bytes⟩⟩

instance : Decidable (IsIdentity value) := decidable_of_iff (validateIdentity value "" = .ok ()) validateIdentity_iff

theorem isIdentity_append {tail : String} (hvalue : IsIdentity value) (htail : (asBytes tail).all isIdentityByte = true) :
    IsIdentity (value ++ tail) ↔ (asBytes value).length + (asBytes tail).length ≤ 128 := by
  constructor
  · intro h
    simpa using h.length
  · intro h
    exact ⟨by simp [hvalue.nonempty], by simpa using h, by simp [hvalue.bytes, htail]⟩

/-- a digest behind a short identity is one -/
theorem HexHash.isIdentity {hash : Bytes → String} (h : HexHash hash) (hvalue : IsIdentity value)
    (hlength : (asBytes value).length ≤ 64) (payload : Bytes) : IsIdentity (value ++ hash payload) := by
  have hbytes : (asBytes (hash payload)).all isIdentityByte = true := by
    refine List.all_eq_true.2 fun byte hbyte => ?_
    have hdigit := List.all_eq_true.1 (h.digits payload) byte hbyte
    simp only [isHexLower, isIdentityByte, Bool.or_eq_true, Bool.and_eq_true, decide_eq_true_eq] at hdigit ⊢
    omega
  rw [isIdentity_append hvalue hbytes, h.length]
  omega

theorem validateSha256_iff : validateSha256 value field = .ok () ↔ IsDigest value := by
  unfold validateSha256
  simp only [bind_ok, refuse_ok, not_or, not_not, Bool.not_eq_false, exists_const]
  exact ⟨fun ⟨hhead, hlength, hdigits⟩ => ⟨hhead, hlength, hdigits⟩, fun h => ⟨h.head, h.length, h.digits⟩⟩

/-! ## What a refused spelling says -/

theorem validateSha256_error (h : validateSha256 value field = .error e) :
    ∃ message, e = .invalidArgument field message := by
  rcases bind_error.1 h with h | ⟨_, -, h⟩
  · exact ⟨_, (refuse_error.1 h).2.symm⟩
  · exact ⟨_, (refuse_error.1 h).2.symm⟩

end MasiEdge
