import Mathlib.Algebra.Ring.Nat
import WebrtcDoctor.Checked

/-!
# Texts cut at byte indices

A text of UTF-8 is indexed by its bytes. `find` and `rfind` give the index of a character, and a
text is cut at an index, which panics beyond the end and inside a character. An index that a
search gave is where a character begins, so a cut at it gives the text before the character
(`splitAt_byteLen`).
-/

open Checked

namespace ByteIndex

variable {ε : Type*}

/-- The length of a text in bytes. -/
def byteLen (cs : List Char) : ℕ := (cs.map Char.utf8Size).sum

/-- The index of the first `sep`. -/
def find (sep : Char) : List Char → Option ℕ
  | [] => none
  | c :: cs => if c = sep then some 0 else (find sep cs).map (c.utf8Size + ·)

/-- The index of the last `sep`. -/
def rfind (sep : Char) : List Char → Option ℕ
  | [] => none
  | c :: cs =>
    match rfind sep cs with
    | some i => some (c.utf8Size + i)
    | none => if c = sep then some 0 else none

/-- The texts before and from an index. -/
def splitAt : List Char → ℕ → Checked ε (List Char × List Char)
  | cs, 0 => .ok ([], cs)
  | [], _ + 1 => .panic
  | c :: cs, i + 1 =>
    if i + 1 < c.utf8Size then .panic
    else do
      let (before, after) ← splitAt cs (i + 1 - c.utf8Size)
      return (c :: before, after)

/-- The text up to an index. -/
def sliceTo (cs : List Char) (i : ℕ) : Checked ε (List Char) := do return (← splitAt cs i).1

/-- The text from an index. -/
def sliceFrom (cs : List Char) (i : ℕ) : Checked ε (List Char) := do return (← splitAt cs i).2

@[simp] theorem byteLen_nil : byteLen [] = 0 := rfl

@[simp] theorem byteLen_cons (c : Char) (cs : List Char) :
    byteLen (c :: cs) = c.utf8Size + byteLen cs := rfl

theorem byteLen_append (as bs : List Char) : byteLen (as ++ bs) = byteLen as + byteLen bs := by
  rw [byteLen, List.map_append, List.sum_append]
  rfl

/-! ## Searches -/

/-- The first separator is after a text without one. -/
theorem find_append {sep : Char} : ∀ {as : List Char} (bs : List Char), sep ∉ as →
    find sep (as ++ sep :: bs) = some (byteLen as)
  | [], bs, _ => if_pos rfl
  | a :: as, bs, h => by
    obtain ⟨hne, has⟩ := not_or.1 (mt List.mem_cons.2 h)
    rw [List.cons_append, find, if_neg (Ne.symm hne), find_append bs has]
    rfl

/-- No separator is found in a text without one. -/
theorem find_eq_none {sep : Char} : ∀ {cs : List Char}, sep ∉ cs → find sep cs = none
  | [], _ => rfl
  | c :: cs, h => by
    obtain ⟨hne, hcs⟩ := not_or.1 (mt List.mem_cons.2 h)
    rw [find, if_neg (Ne.symm hne), find_eq_none hcs]
    rfl

/-- No last separator is found in a text without one. -/
theorem rfind_eq_none {sep : Char} : ∀ {cs : List Char}, sep ∉ cs → rfind sep cs = none
  | [], _ => rfl
  | c :: cs, h => by
    obtain ⟨hne, hcs⟩ := not_or.1 (mt List.mem_cons.2 h)
    rw [rfind, rfind_eq_none hcs]
    exact if_neg (Ne.symm hne)

/-- The last separator is before a text without one. -/
theorem rfind_append {sep : Char} : ∀ (as : List Char) {bs : List Char}, sep ∉ bs →
    rfind sep (as ++ sep :: bs) = some (byteLen as)
  | [], bs, h => by
    rw [List.nil_append, rfind, rfind_eq_none h]
    exact if_pos rfl
  | a :: as, bs, h => by
    rw [List.cons_append, rfind, rfind_append as h]
    rfl

/-! ## Cuts -/

/-- At the end of a text there is a boundary. -/
theorem splitAt_byteLen : ∀ (as bs : List Char),
    (splitAt (as ++ bs) (byteLen as) : Checked ε (List Char × List Char)) = .ok (as, bs)
  | [], bs => by rw [byteLen_nil, splitAt, List.nil_append]
  | a :: as, bs => by
    obtain ⟨n, hn⟩ := Nat.exists_eq_add_of_lt (Nat.add_pos_left a.utf8Size_pos (byteLen as))
    rw [Nat.zero_add] at hn
    have hsize : ¬n + 1 < a.utf8Size := by omega
    have hrest : n + 1 - a.utf8Size = byteLen as := by omega
    rw [List.cons_append, byteLen_cons, hn, splitAt, if_neg hsize, hrest, splitAt_byteLen as bs]
    rfl

/-- The slice up to the length of the first part is the first part. -/
theorem sliceTo_byteLen (as bs : List Char) :
    (sliceTo (as ++ bs) (byteLen as) : Checked ε (List Char)) = .ok as := by
  rw [sliceTo, splitAt_byteLen]
  rfl

/-- The slice from the length of the first part is the second. -/
theorem sliceFrom_byteLen (as bs : List Char) :
    (sliceFrom (as ++ bs) (byteLen as) : Checked ε (List Char)) = .ok bs := by
  rw [sliceFrom, splitAt_byteLen]
  rfl

/-- Behind a character of one byte there is a boundary. -/
theorem sliceFrom_succ {sep : Char} (hsep : sep.utf8Size = 1) (as bs : List Char) :
    (sliceFrom (as ++ sep :: bs) (byteLen as + 1) : Checked ε (List Char)) = .ok bs := by
  have hlen : byteLen (as ++ [sep]) = byteLen as + 1 := by
    rw [byteLen_append, byteLen_cons, byteLen_nil, hsep]
  rw [← hlen, ← List.singleton_append, ← List.append_assoc, sliceFrom_byteLen]

end ByteIndex
