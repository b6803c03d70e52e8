import Mathlib.Data.List.Basic
import Mathlib.Tactic.Common

/-!
# Lossy UTF-8 decoding

`fromUtf8Lossy` decodes any byte string. `next` reads one scalar value off the front,
or the longest prefix that begins a well-formed sequence but cannot be continued. Each
such prefix, and each byte that begins no sequence, becomes one `U+FFFD`. The bytes of a
string decode to the string (`fromUtf8Lossy_asBytes`).
-/

namespace Utf8

/-- The UTF-8 bytes of a string. -/
def asBytes (s : String) : List UInt8 := s.toList.flatMap String.utf8EncodeChar

/-- The bytes of two texts one after the other. -/
theorem asBytes_append (s t : String) : asBytes (s ++ t) = asBytes s ++ asBytes t := by
  rw [asBytes, String.toList_append, List.flatMap_append]
  rfl

/-- A byte that continues a sequence. -/
def isCont (b : UInt8) : Bool := 0x80 ≤ b.toNat && b.toNat ≤ 0xBF

/-- The second byte of a three-byte sequence. It excludes overlong forms and surrogates. -/
def isSecond₃ (b₀ b₁ : UInt8) : Bool :=
  (if b₀.toNat = 0xE0 then 0xA0 else 0x80) ≤ b₁.toNat &&
    b₁.toNat ≤ (if b₀.toNat = 0xED then 0x9F else 0xBF)

/-- The second byte of a four-byte sequence. It excludes overlong forms and values past
`U+10FFFF`. -/
def isSecond₄ (b₀ b₁ : UInt8) : Bool :=
  (if b₀.toNat = 0xF0 then 0x90 else 0x80) ≤ b₁.toNat &&
    b₁.toNat ≤ (if b₀.toNat = 0xF4 then 0x8F else 0xBF)

/-- The six payload bits of a continuation byte. -/
def payload (b : UInt8) : ℕ := b.toNat % 64

/-- The first scalar value of `b₀ :: bs`, or none for an ill-formed prefix, and the bytes
after it. -/
def next (b₀ : UInt8) (bs : List UInt8) : Option Char × List UInt8 :=
  if b₀.toNat < 0x80 then (some (Char.ofNat b₀.toNat), bs)
  else if 0xC2 ≤ b₀.toNat ∧ b₀.toNat ≤ 0xDF then
    match bs with
    | b₁ :: bs₁ =>
      if isCont b₁ then (some (Char.ofNat (b₀.toNat % 32 * 64 + payload b₁)), bs₁)
      else (none, bs)
    | [] => (none, [])
  else if 0xE0 ≤ b₀.toNat ∧ b₀.toNat ≤ 0xEF then
    match bs with
    | b₁ :: bs₁ =>
      if isSecond₃ b₀ b₁ then
        match bs₁ with
        | b₂ :: bs₂ =>
          if isCont b₂ then
            (some (Char.ofNat (b₀.toNat % 16 * 4096 + payload b₁ * 64 + payload b₂)), bs₂)
          else (none, bs₁)
        | [] => (none, [])
      else (none, bs)
    | [] => (none, [])
  else if 0xF0 ≤ b₀.toNat ∧ b₀.toNat ≤ 0xF4 then
    match bs with
    | b₁ :: bs₁ =>
      if isSecond₄ b₀ b₁ then
        match bs₁ with
        | b₂ :: bs₂ =>
          if isCont b₂ then
            match bs₂ with
            | b₃ :: bs₃ =>
              if isCont b₃ then
                (some (Char.ofNat (b₀.toNat % 8 * 262144 + payload b₁ * 4096 +
                  payload b₂ * 64 + payload b₃)), bs₃)
              else (none, bs₂)
            | [] => (none, [])
          else (none, bs₁)
        | [] => (none, [])
      else (none, bs)
    | [] => (none, [])
  else (none, bs)

theorem length_next_le (b₀ : UInt8) (bs : List UInt8) : (next b₀ bs).2.length ≤ bs.length := by
  unfold next
  split_ifs <;> (repeat' split) <;> simp <;> omega

/-- The scalar values of a byte string, `U+FFFD` for each ill-formed prefix. -/
def chars : List UInt8 → List Char
  | [] => []
  | b₀ :: bs => (next b₀ bs).1.getD '\uFFFD' :: chars (next b₀ bs).2
termination_by bs => bs.length
decreasing_by
  have := length_next_le b₀ bs
  simp only [List.length_cons]
  omega

/-- `String::from_utf8_lossy`. -/
def fromUtf8Lossy (bs : List UInt8) : String := String.ofList (chars bs)

/-- The encoding of a scalar value reads back as it, whatever follows. -/
theorem next_utf8EncodeChar (c : Char) (rest : List UInt8) :
    ∃ b t, String.utf8EncodeChar c = b :: t ∧ next b (t ++ rest) = (some c, rest) := by
  have hc : Char.ofNat c.val.toNat = c := Char.ofNat_toNat c
  have hv : c.val.toNat < 0xD800 ∨ 0xDFFF < c.val.toNat ∧ c.val.toNat < 0x110000 := c.valid
  generalize hn : c.val.toNat = n at hc hv
  simp only [String.utf8EncodeChar, hn]
  by_cases h₁ : n ≤ 0x7f
  · refine ⟨_, _, if_pos h₁, ?_⟩
    have hb : (UInt8.ofNat n).toNat = n := by rw [UInt8.toNat_ofNat']; omega
    simp only [List.nil_append, next, hb]
    rw [if_pos (by omega), hc]
  by_cases h₂ : n ≤ 0x7ff
  · refine ⟨_, _, by rw [if_neg h₁, if_pos h₂], ?_⟩
    have hb₀ : (UInt8.ofNat (n / 64 % 0x20 + 0xc0)).toNat = n / 64 + 0xc0 := by
      rw [UInt8.toNat_ofNat']; omega
    have hb₁ : (UInt8.ofNat (n % 0x40 + 0x80)).toNat = n % 64 + 0x80 := by
      rw [UInt8.toNat_ofNat']; omega
    simp only [List.cons_append, List.nil_append, next, isCont, payload, hb₀, hb₁]
    rw [if_neg (by omega), if_pos (by omega), if_pos (by simp; omega),
      show (n / 64 + 0xc0) % 32 * 64 + (n % 64 + 0x80) % 64 = n by omega, hc]
  by_cases h₃ : n ≤ 0xffff
  · refine ⟨_, _, by rw [if_neg h₁, if_neg h₂, if_pos h₃], ?_⟩
    have hb₀ : (UInt8.ofNat (n / 4096 % 0x10 + 0xe0)).toNat = n / 4096 + 0xe0 := by
      rw [UInt8.toNat_ofNat']; omega
    have hb₁ : (UInt8.ofNat (n / 64 % 0x40 + 0x80)).toNat = n / 64 % 64 + 0x80 := by
      rw [UInt8.toNat_ofNat']; omega
    have hb₂ : (UInt8.ofNat (n % 0x40 + 0x80)).toNat = n % 64 + 0x80 := by
      rw [UInt8.toNat_ofNat']; omega
    have hsec : isSecond₃ (UInt8.ofNat (n / 4096 % 0x10 + 0xe0))
        (UInt8.ofNat (n / 64 % 0x40 + 0x80)) = true := by
      simp only [isSecond₃, hb₀, hb₁, Bool.and_eq_true, decide_eq_true_eq]
      split_ifs <;> omega
    simp only [List.cons_append, List.nil_append, next, hsec, isCont, payload, hb₀, hb₁, hb₂]
    rw [if_neg (by omega), if_neg (by omega), if_pos (by omega), if_pos trivial,
      if_pos (by simp; omega),
      show (n / 4096 + 0xe0) % 16 * 4096 + (n / 64 % 64 + 0x80) % 64 * 64 +
        (n % 64 + 0x80) % 64 = n by omega, hc]
  · refine ⟨_, _, by rw [if_neg h₁, if_neg h₂, if_neg h₃], ?_⟩
    have hb₀ : (UInt8.ofNat (n / 262144 % 0x08 + 0xf0)).toNat = n / 262144 + 0xf0 := by
      rw [UInt8.toNat_ofNat']; omega
    have hb₁ : (UInt8.ofNat (n / 4096 % 0x40 + 0x80)).toNat = n / 4096 % 64 + 0x80 := by
      rw [UInt8.toNat_ofNat']; omega
    have hb₂ : (UInt8.ofNat (n / 64 % 0x40 + 0x80)).toNat = n / 64 % 64 + 0x80 := by
      rw [UInt8.toNat_ofNat']; omega
    have hb₃ : (UInt8.ofNat (n % 0x40 + 0x80)).toNat = n % 64 + 0x80 := by
      rw [UInt8.toNat_ofNat']; omega
    have hsec : isSecond₄ (UInt8.ofNat (n / 262144 % 0x08 + 0xf0))
        (UInt8.ofNat (n / 4096 % 0x40 + 0x80)) = true := by
      simp only [isSecond₄, hb₀, hb₁, Bool.and_eq_true, decide_eq_true_eq]
      split_ifs <;> omega
    simp only [List.cons_append, List.nil_append, next, hsec, isCont, payload, hb₀, hb₁, hb₂,
      hb₃]
    rw [if_neg (by omega), if_neg (by omega), if_neg (by omega), if_pos (by omega), if_pos trivial,
      if_pos (by simp; omega), if_pos (by simp; omega),
      show (n / 262144 + 0xf0) % 8 * 262144 + (n / 4096 % 64 + 0x80) % 64 * 4096 +
        (n / 64 % 64 + 0x80) % 64 * 64 + (n % 64 + 0x80) % 64 = n by omega, hc]

theorem chars_flatMap_utf8EncodeChar (cs : List Char) :
    chars (cs.flatMap String.utf8EncodeChar) = cs := by
  induction cs with
  | nil => simp [chars]
  | cons c cs ih =>
    obtain ⟨b, t, hb, hnext⟩ := next_utf8EncodeChar c (cs.flatMap String.utf8EncodeChar)
    rw [List.flatMap_cons, hb, List.cons_append, chars, hnext, ih]
    rfl

/-- The bytes of a string decode to the string. -/
theorem fromUtf8Lossy_asBytes (s : String) : fromUtf8Lossy (asBytes s) = s := by
  rw [fromUtf8Lossy, asBytes, chars_flatMap_utf8EncodeChar, String.ofList_toList]

/-- `asBytes` is the byte array a string is stored as. -/
theorem toByteArray_eq (s : String) : s.toByteArray = (asBytes s).toByteArray := by
  conv_lhs => rw [← String.ofList_toList (s := s)]
  rfl

-- A truncated sequence is one replacement character, a stray byte is another.
example : chars [0x41, 0xE2, 0x82, 0x42, 0xFF] = ['A', '\uFFFD', 'B', '\uFFFD'] := by
  decide +kernel

end Utf8
