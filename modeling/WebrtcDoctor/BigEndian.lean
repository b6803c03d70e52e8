import Mathlib.Tactic.Common

/-!
# Integers as bytes

Unsigned integers of 16 and 32 bits and their bytes, most significant first
(`ofU16`, `ofU32`) or least significant first (`ofU32le`), and the integers read back
from bytes. Both directions are inverse, and reading carries XOR over (`toU32_xor`).
-/

namespace BigEndian

/-- The two bytes of a 16-bit integer, most significant first. -/
def ofU16 (x : UInt16) : List UInt8 :=
  [UInt8.ofNat (x.toNat / 256), UInt8.ofNat x.toNat]

/-- The 16-bit integer of two bytes, most significant first. -/
def toU16 (b₀ b₁ : UInt8) : UInt16 :=
  UInt16.ofNat (b₀.toNat * 256 + b₁.toNat)

/-- The four bytes of a 32-bit integer, most significant first. -/
def ofU32 (x : UInt32) : List UInt8 :=
  [UInt8.ofNat (x.toNat / 16777216), UInt8.ofNat (x.toNat / 65536),
    UInt8.ofNat (x.toNat / 256), UInt8.ofNat x.toNat]

/-- The 32-bit integer of four bytes, most significant first. -/
def toU32 (b₀ b₁ b₂ b₃ : UInt8) : UInt32 :=
  UInt32.ofNat (b₀.toNat * 16777216 + b₁.toNat * 65536 + b₂.toNat * 256 + b₃.toNat)

/-- The four bytes of a 32-bit integer, least significant first. -/
def ofU32le (x : UInt32) : List UInt8 := (ofU32 x).reverse

/-- The 32-bit integer of four bytes, least significant first. -/
def toU32le (b₀ b₁ b₂ b₃ : UInt8) : UInt32 := toU32 b₃ b₂ b₁ b₀

@[simp] theorem length_ofU16 (x : UInt16) : (ofU16 x).length = 2 := rfl

@[simp] theorem length_ofU32 (x : UInt32) : (ofU32 x).length = 4 := rfl

@[simp] theorem length_ofU32le (x : UInt32) : (ofU32le x).length = 4 := rfl

theorem toNat_toU16 (b₀ b₁ : UInt8) : (toU16 b₀ b₁).toNat = b₀.toNat * 256 + b₁.toNat := by
  have h₀ := b₀.toNat_lt
  have h₁ := b₁.toNat_lt
  rw [toU16, UInt16.toNat_ofNat']
  omega

theorem toNat_toU32 (b₀ b₁ b₂ b₃ : UInt8) : (toU32 b₀ b₁ b₂ b₃).toNat =
    b₀.toNat * 16777216 + b₁.toNat * 65536 + b₂.toNat * 256 + b₃.toNat := by
  have h₀ := b₀.toNat_lt
  have h₁ := b₁.toNat_lt
  have h₂ := b₂.toNat_lt
  have h₃ := b₃.toNat_lt
  rw [toU32, UInt32.toNat_ofNat']
  omega

/-- Reading back the bytes of a 16-bit integer. -/
@[simp] theorem toU16_ofU16 (x : UInt16) :
    toU16 (UInt8.ofNat (x.toNat / 256)) (UInt8.ofNat x.toNat) = x := by
  have hx := x.toNat_lt
  apply UInt16.toNat_inj.1
  rw [toNat_toU16, UInt8.toNat_ofNat', UInt8.toNat_ofNat']
  omega

/-- Every two bytes are the bytes of the integer they read as. -/
@[simp] theorem ofU16_toU16 (b₀ b₁ : UInt8) : ofU16 (toU16 b₀ b₁) = [b₀, b₁] := by
  have h₀ := b₀.toNat_lt
  have h₁ := b₁.toNat_lt
  simp only [ofU16, toNat_toU16, List.cons.injEq, and_true, ← UInt8.toNat_inj,
    UInt8.toNat_ofNat']
  omega

@[simp] theorem toU32_ofU32 (x : UInt32) :
    toU32 (UInt8.ofNat (x.toNat / 16777216)) (UInt8.ofNat (x.toNat / 65536))
      (UInt8.ofNat (x.toNat / 256)) (UInt8.ofNat x.toNat) = x := by
  have hx := x.toNat_lt
  apply UInt32.toNat_inj.1
  simp only [toNat_toU32, UInt8.toNat_ofNat']
  omega

@[simp] theorem ofU32_toU32 (b₀ b₁ b₂ b₃ : UInt8) :
    ofU32 (toU32 b₀ b₁ b₂ b₃) = [b₀, b₁, b₂, b₃] := by
  have h₀ := b₀.toNat_lt
  have h₁ := b₁.toNat_lt
  have h₂ := b₂.toNat_lt
  have h₃ := b₃.toNat_lt
  simp only [ofU32, toNat_toU32, List.cons.injEq, and_true, ← UInt8.toNat_inj,
    UInt8.toNat_ofNat']
  omega

/-- The bytes of a little-endian number are those it was read from. -/
theorem ofU32le_toU32le (b₀ b₁ b₂ b₃ : UInt8) :
    ofU32le (toU32le b₀ b₁ b₂ b₃) = [b₀, b₁, b₂, b₃] := by
  simp [ofU32le, toU32le]

/-- A length cast to 16 bits reads back if it fits. -/
theorem toNat_cast_of_lt {n : ℕ} (h : n < 65536) : (UInt16.ofNat n).toNat = n := by
  rw [UInt16.toNat_ofNat']
  omega

/-! ## XOR -/

/-- XOR goes digit by digit. -/
theorem xor_mul_add {a b c d : ℕ} (hb : b < 256) (hd : d < 256) :
    (a * 256 + b) ^^^ (c * 256 + d) = (a ^^^ c) * 256 + (b ^^^ d) := by
  set x := (a * 256 + b) ^^^ (c * 256 + d) with hx
  have hdiv : x / 2 ^ 8 = a ^^^ c := by
    rw [hx, Nat.xor_div_two_pow, show (a * 256 + b) / 2 ^ 8 = a by omega,
      show (c * 256 + d) / 2 ^ 8 = c by omega]
  have hmod : x % 2 ^ 8 = b ^^^ d := by
    rw [hx, Nat.xor_mod_two_pow, show (a * 256 + b) % 2 ^ 8 = b by omega,
      show (c * 256 + d) % 2 ^ 8 = d by omega]
  rw [← hdiv, ← hmod]
  omega

/-- Reading two bytes commutes with the exclusive or. -/
theorem toU16_xor (a b c d : UInt8) : toU16 (a ^^^ c) (b ^^^ d) = toU16 a b ^^^ toU16 c d := by
  apply UInt16.toNat_inj.1
  rw [UInt16.toNat_xor, toNat_toU16, toNat_toU16, toNat_toU16, UInt8.toNat_xor, UInt8.toNat_xor,
    xor_mul_add b.toNat_lt d.toNat_lt]

/-- Reading four bytes commutes with the exclusive or. -/
theorem toU32_xor (a b c d a' b' c' d' : UInt8) :
    toU32 (a ^^^ a') (b ^^^ b') (c ^^^ c') (d ^^^ d') = toU32 a b c d ^^^ toU32 a' b' c' d' := by
  have hdigits : ∀ x y z w : ℕ, x * 16777216 + y * 65536 + z * 256 + w =
      ((x * 256 + y) * 256 + z) * 256 + w := by
    intro x y z w
    omega
  apply UInt32.toNat_inj.1
  rw [UInt32.toNat_xor, toNat_toU32, toNat_toU32, toNat_toU32]
  simp only [hdigits, UInt8.toNat_xor]
  rw [xor_mul_add d.toNat_lt d'.toNat_lt, xor_mul_add c.toNat_lt c'.toNat_lt,
    xor_mul_add b.toNat_lt b'.toNat_lt]

end BigEndian
