import Mathlib.Data.Nat.Digits.Lemmas

/-!
# Address blocks

An address of `w` bits is a number below `2 ^ w`. A block holds the addresses that begin with the
same bits (`Block.Contains`), as in `127.0.0.0/8`. An address that is given in groups of bits, most
significant first, is `ofGroups` of them, and its first groups are its quotient by a power of two
(`ofGroups_append_div`).
-/

namespace AddressBlock

/-- The number with the groups of `g` bits `groups`, most significant first. -/
def ofGroups (g : ℕ) (groups : List ℕ) : ℕ := Nat.ofDigits (2 ^ g) groups.reverse

/-- The addresses of `w` bits whose first `len` bits are `bits`. -/
structure Block (w : ℕ) where
  bits : ℕ
  len : ℕ
  len_le : len ≤ w := by decide
  bits_lt : bits < 2 ^ len := by decide

variable {w : ℕ}

/-- An address lies in a block if it begins with its bits. -/
def Block.Contains (b : Block w) (a : ℕ) : Prop := a / 2 ^ (w - b.len) = b.bits

instance (b : Block w) (a : ℕ) : Decidable (b.Contains a) :=
  inferInstanceAs (Decidable (a / 2 ^ (w - b.len) = b.bits))

variable {g : ℕ}

theorem ofGroups_inj (hg : g ≠ 0) {xs ys : List ℕ} (hlen : xs.length = ys.length)
    (hxs : ∀ x ∈ xs, x < 2 ^ g) (hys : ∀ y ∈ ys, y < 2 ^ g) :
    ofGroups g xs = ofGroups g ys ↔ xs = ys := by
  refine ⟨fun h => ?_, congrArg _⟩
  refine List.reverse_injective (Nat.ofDigits_inj_of_len_eq (Nat.one_lt_two_pow hg) ?_ ?_ ?_ h)
  · rw [List.length_reverse, List.length_reverse, hlen]
  · exact fun x hx => hxs x (List.mem_reverse.1 hx)
  · exact fun y hy => hys y (List.mem_reverse.1 hy)

/-- The first groups of an address. -/
theorem ofGroups_append_div {xs ys : List ℕ} (hxs : ∀ x ∈ xs ++ ys, x < 2 ^ g) :
    ofGroups g (xs ++ ys) / 2 ^ (g * ys.length) = ofGroups g xs := by
  have hdigits : ∀ l ∈ (xs ++ ys).reverse, l < 2 ^ g := fun l hl => hxs l (List.mem_reverse.1 hl)
  rw [ofGroups, pow_mul, Nat.ofDigits_div_pow_eq_ofDigits_drop _ (Nat.two_pow_pos g) _ hdigits,
    List.reverse_append, List.drop_left' List.length_reverse, ofGroups]

end AddressBlock
