import Mathlib.Algebra.Order.Ring.Nat
import Mathlib.Data.List.Basic
import Mathlib.Logic.Relation
import Mathlib.Tactic.Common

/-!
# Sections of padded items

A section is a sequence of items, each a fixed-width head that declares the length of
the value after it, then the value, then padding up to a multiple of the alignment.
`Format` is such a layout over any symbols and any type of items. Its laws say that a
head reads back as its item's and that the length it declares is the value's, for
values shorter than `limit`.

`decode` reads a section front to back and fails at a value that runs past the end.
It inverts `encode` on short values (`decode_encode_append`). It fails exactly if the
cursor reaches a head that declares too much (`decode_drop_eq_none_iff`). On success
each value lies in the section at its offset in `starts` (`values_of_decode`), in
order and apart (`starts_pairwise`), and an aligned section is the encoding of what was
read, padding aside (`encode_of_decode`). On failure `readable` is what precedes the head
that declares too much (`decode_take_of_overruns`).
-/

namespace Tlv

variable {β ι : Type*}

/-- The layout of padded items of type `ι` over symbols `β`. -/
structure Format (β ι : Type*) where
  headLen : ℕ
  align : ℕ
  /-- Lengths below `limit` fit the head. -/
  limit : ℕ
  head : ι → List β
  value : ι → List β
  /-- The length a head declares. -/
  len : List β → ℕ
  read : List β → List β → ι
  headLen_pos : 0 < headLen
  align_pos : 0 < align
  length_head : ∀ a, (head a).length = headLen
  len_head : ∀ a, (value a).length < limit → len (head a) = (value a).length
  read_head_value : ∀ a, read (head a) (value a) = a
  value_read : ∀ h v, value (read h v) = v
  head_read : ∀ h v, h.length = headLen → v.length = len h → head (read h v) = h

namespace Format

variable (F : Format β ι)

/-- The padding after a value of length `n`. -/
def pad (n : ℕ) : ℕ := (F.align - n % F.align) % F.align

/-- The length of an item with its head and padding. -/
def span (a : ι) : ℕ := F.headLen + (F.value a).length + F.pad (F.value a).length

/-- The length of a section of items. -/
def size (as : List ι) : ℕ := (as.map F.span).sum

/-- An item with its head and its padding. -/
def encodeItem (zero : β) (a : ι) : List β :=
  F.head a ++ F.value a ++ List.replicate (F.pad (F.value a).length) zero

/-- A section of items, one after the other. -/
def encode (zero : β) (as : List ι) : List β := as.flatMap (F.encodeItem zero)

/-- The items of a section. A tail too short for a head is left unread. -/
def decode (sec : List β) : Option (List ι) :=
  if F.headLen ≤ sec.length then
    if F.headLen + F.len (sec.take F.headLen) ≤ sec.length then
      (decode (sec.drop (F.headLen + F.len (sec.take F.headLen) +
        F.pad (F.len (sec.take F.headLen))))).map
        (F.read (sec.take F.headLen)
          ((sec.drop F.headLen).take (F.len (sec.take F.headLen))) :: ·)
    else none
  else some []
termination_by sec.length
decreasing_by
  have := F.headLen_pos
  rw [List.length_drop]
  omega

@[simp] theorem size_nil : F.size [] = 0 := rfl

@[simp] theorem size_cons (a : ι) (as : List ι) : F.size (a :: as) = F.span a + F.size as := by
  simp [size]

@[simp] theorem encode_nil (zero : β) : F.encode zero [] = [] := rfl

@[simp] theorem encode_cons (zero : β) (a : ι) (as : List ι) :
    F.encode zero (a :: as) = F.encodeItem zero a ++ F.encode zero as := rfl

/-- Items are written one after the other. -/
theorem encode_append (zero : β) (as bs : List ι) :
    F.encode zero (as ++ bs) = F.encode zero as ++ F.encode zero bs := by
  simp [encode]

theorem length_encodeItem (zero : β) (a : ι) : (F.encodeItem zero a).length = F.span a := by
  simp [encodeItem, span, F.length_head, Nat.add_assoc]

/-- The section is as long as the spans of its items add up to. -/
theorem length_encode (zero : β) (as : List ι) : (F.encode zero as).length = F.size as := by
  induction as with
  | nil => rfl
  | cons a as ih => rw [encode_cons, List.length_append, ih, length_encodeItem, size_cons]

theorem length_value_le_size {a : ι} {as : List ι} (ha : a ∈ as) :
    F.headLen + (F.value a).length ≤ F.size as := by
  induction as with
  | nil => simp at ha
  | cons b as ih =>
    rw [size_cons]
    rcases List.mem_cons.1 ha with rfl | ha
    · simp only [span]
      omega
    · have := ih ha
      omega

/-- What is too short for a header holds no items. -/
theorem decode_of_lt {sec : List β} (h : sec.length < F.headLen) : F.decode sec = some [] := by
  rw [decode, if_neg (by omega)]

/-! ## Round trip -/

/-- What is decoded after the encoding of short values is those values, then what the
rest decodes to. -/
theorem decode_encode_append (zero : β) (as : List ι)
    (h : ∀ a ∈ as, (F.value a).length < F.limit) (rest : List β) :
    F.decode (F.encode zero as ++ rest) = (F.decode rest).map (as ++ ·) := by
  induction as with
  | nil => simp
  | cons a as ih =>
    have hlen := F.len_head a (h a (by simp))
    set sec := F.encode zero (a :: as) ++ rest with hsec
    have happ : sec = F.head a ++ (F.value a ++
        (List.replicate (F.pad (F.value a).length) zero ++ (F.encode zero as ++ rest))) := by
      simp [hsec, encodeItem]
    have htake : sec.take F.headLen = F.head a := by
      rw [happ, List.take_left' (F.length_head a)]
    have hdrop : sec.drop F.headLen = F.value a ++
        (List.replicate (F.pad (F.value a).length) zero ++ (F.encode zero as ++ rest)) := by
      rw [happ, List.drop_left' (F.length_head a)]
    have hnext : sec.drop (F.headLen + (F.value a).length + F.pad (F.value a).length) =
        F.encode zero as ++ rest := by
      rw [Nat.add_assoc, ← List.drop_drop, hdrop, ← List.drop_drop, List.drop_left' rfl,
        List.drop_left' (by simp)]
    have hle : F.headLen + (F.value a).length ≤ sec.length := by
      rw [happ]
      simp only [List.length_append, F.length_head]
      omega
    rw [decode, htake, hlen, if_pos (by omega), if_pos hle, hnext, hdrop, List.take_left' rfl,
      F.read_head_value, ih fun b hb => h b (by simp [hb]), Option.map_map]
    rfl

/-- Decoding inverts encoding on short values. -/
theorem decode_encode (zero : β) {as : List ι} (h : ∀ a ∈ as, (F.value a).length < F.limit) :
    F.decode (F.encode zero as) = some as := by
  have hnil : F.decode [] = some [] := F.decode_of_lt F.headLen_pos
  have := F.decode_encode_append zero as h []
  simpa [hnil] using this

/-! ## The cursor -/

/-- The length declared by the head at offset `o`. -/
def lenAt (sec : List β) (o : ℕ) : ℕ := F.len ((sec.drop o).take F.headLen)

/-- The cursor moves over one whole item. -/
def Next (sec : List β) (o o' : ℕ) : Prop :=
  o + F.headLen + F.lenAt sec o ≤ sec.length ∧
    o' = o + F.headLen + F.lenAt sec o + F.pad (F.lenAt sec o)

/-- From offset `o`, the cursor reaches a head that declares more than the section holds. -/
def OverrunsFrom (sec : List β) (o : ℕ) : Prop :=
  ∃ o', Relation.ReflTransGen (F.Next sec) o o' ∧ o' + F.headLen ≤ sec.length ∧
    sec.length < o' + F.headLen + F.lenAt sec o'

theorem overrunsFrom_iff (sec : List β) (o : ℕ) : F.OverrunsFrom sec o ↔
    o + F.headLen ≤ sec.length ∧ (sec.length < o + F.headLen + F.lenAt sec o ∨
      F.OverrunsFrom sec (o + F.headLen + F.lenAt sec o + F.pad (F.lenAt sec o))) := by
  constructor
  · rintro ⟨o', hr, hh, hl⟩
    rcases hr.cases_head with rfl | ⟨m, ⟨hm, rfl⟩, hr'⟩
    · exact ⟨hh, Or.inl hl⟩
    · exact ⟨by omega, Or.inr ⟨o', hr', hh, hl⟩⟩
  · rintro ⟨hh, hl | ⟨o', hr, hh', hl⟩⟩
    · exact ⟨o, .refl, hh, hl⟩
    · by_cases hle : o + F.headLen + F.lenAt sec o ≤ sec.length
      · exact ⟨o', .head ⟨hle, rfl⟩ hr, hh', hl⟩
      · exact ⟨o, .refl, hh, by omega⟩

/-- `decode` at an offset, one item at a time. -/
theorem decode_drop (sec : List β) (o : ℕ) : F.decode (sec.drop o) =
    if o + F.headLen ≤ sec.length then
      if o + F.headLen + F.lenAt sec o ≤ sec.length then
        (F.decode (sec.drop (o + F.headLen + F.lenAt sec o + F.pad (F.lenAt sec o)))).map
          (F.read ((sec.drop o).take F.headLen)
            ((sec.drop (o + F.headLen)).take (F.lenAt sec o)) :: ·)
      else none
    else some [] := by
  have hpos := F.headLen_pos
  rw [decode, List.length_drop]
  by_cases h₁ : o + F.headLen ≤ sec.length
  · rw [if_pos h₁, if_pos (by omega), List.drop_drop, List.drop_drop]
    by_cases h₂ : o + F.headLen + F.lenAt sec o ≤ sec.length
    · rw [if_pos h₂, if_pos (by unfold lenAt at h₂; omega)]
      simp only [lenAt, Nat.add_assoc]
    · rw [if_neg h₂, if_neg (by unfold lenAt at h₂; omega)]
  · rw [if_neg h₁, if_neg (by omega)]

/-- Decoding fails exactly at a reached head that declares too much. -/
theorem decode_drop_eq_none_iff (sec : List β) (o : ℕ) :
    F.decode (sec.drop o) = none ↔ F.OverrunsFrom sec o := by
  induction hn : sec.length - o using Nat.strongRecOn generalizing o with
  | _ n ih =>
    have hpos := F.headLen_pos
    rw [decode_drop, overrunsFrom_iff]
    split_ifs with h₁ h₂
    · rw [Option.map_eq_none_iff, ih _ (by omega) _ rfl]
      simp [h₁, h₂]
    · simp [h₁, Nat.lt_of_not_le h₂]
    · simp [h₁]

/-! ## Before a head that declares too much -/

/-- The items up to the first head that declares too much, all of them if none does. -/
def readable (sec : List β) : List ι :=
  if F.headLen ≤ sec.length then
    if F.headLen + F.len (sec.take F.headLen) ≤ sec.length then
      F.read (sec.take F.headLen) ((sec.drop F.headLen).take (F.len (sec.take F.headLen))) ::
        readable (sec.drop (F.headLen + F.len (sec.take F.headLen) +
          F.pad (F.len (sec.take F.headLen))))
    else []
  else []
termination_by sec.length
decreasing_by
  have := F.headLen_pos
  rw [List.length_drop]
  omega

/-- `readable` at an offset, one item at a time. -/
theorem readable_drop (sec : List β) (o : ℕ) : F.readable (sec.drop o) =
    if o + F.headLen ≤ sec.length then
      if o + F.headLen + F.lenAt sec o ≤ sec.length then
        F.read ((sec.drop o).take F.headLen) ((sec.drop (o + F.headLen)).take (F.lenAt sec o)) ::
          F.readable (sec.drop (o + F.headLen + F.lenAt sec o + F.pad (F.lenAt sec o)))
      else []
    else [] := by
  have hpos := F.headLen_pos
  rw [readable, List.length_drop]
  by_cases h₁ : o + F.headLen ≤ sec.length
  · rw [if_pos h₁, if_pos (by omega), List.drop_drop, List.drop_drop]
    by_cases h₂ : o + F.headLen + F.lenAt sec o ≤ sec.length
    · rw [if_pos h₂, if_pos (by unfold lenAt at h₂; omega)]
      simp only [lenAt, Nat.add_assoc]
    · rw [if_neg h₂, if_neg (by unfold lenAt at h₂; omega)]
  · rw [if_neg h₁, if_neg (by omega)]

theorem readable_of_decode {sec : List β} {as : List ι} (h : F.decode sec = some as) :
    F.readable sec = as := by
  induction hn : sec.length using Nat.strongRecOn generalizing sec as with
  | _ n ih =>
    have hpos := F.headLen_pos
    rw [decode] at h
    rw [readable]
    split_ifs at h ⊢ with h₁ h₂
    · obtain ⟨as', has, rfl⟩ := Option.map_eq_some_iff.1 h
      rw [ih _ (by rw [List.length_drop]; omega) has rfl]
    · exact Option.some.inj h

theorem le_of_next {sec : List β} {i o : ℕ} (h : Relation.ReflTransGen (F.Next sec) i o) :
    i ≤ o := by
  induction h with
  | refl => exact Nat.le_refl i
  | tail _ hnext ih =>
    obtain ⟨-, rfl⟩ := hnext
    omega

/-- Cut at the head that declares too much, a section decodes to what precedes it. -/
theorem decode_take_of_overruns {sec : List β} {i o : ℕ}
    (hr : Relation.ReflTransGen (F.Next sec) i o) (ho : o + F.headLen ≤ sec.length)
    (hlt : sec.length < o + F.headLen + F.lenAt sec o) :
    F.decode ((sec.take o).drop i) = some (F.readable (sec.drop i)) := by
  have hpos := F.headLen_pos
  induction hr using Relation.ReflTransGen.head_induction_on with
  | refl =>
    rw [readable_drop, if_pos ho, if_neg (by omega), decode_of_lt]
    rw [List.length_drop, List.length_take]
    omega
  | @head i m hnext hrest ih =>
    obtain ⟨hle, rfl⟩ := hnext
    have hmo := F.le_of_next hrest
    have hlen : (sec.take o).length = o := by
      rw [List.length_take]
      omega
    have htake : ((sec.take o).drop i).take F.headLen = (sec.drop i).take F.headLen := by
      rw [List.drop_take, List.take_take, Nat.min_eq_left (by omega)]
    have hlenAt : F.lenAt (sec.take o) i = F.lenAt sec i := by
      rw [lenAt, lenAt, htake]
    have hval : ((sec.take o).drop (i + F.headLen)).take (F.lenAt sec i) =
        (sec.drop (i + F.headLen)).take (F.lenAt sec i) := by
      rw [List.drop_take, List.take_take, Nat.min_eq_left (by omega)]
    rw [decode_drop, readable_drop, hlen, hlenAt, if_pos (by omega), if_pos (by omega), ih,
      if_pos (by omega), if_pos hle, htake, hval, Option.map_some]

/-! ## Where the values lie -/

/-- The offsets of the values of items laid out from offset `o`. -/
def starts : ℕ → List ι → List ℕ
  | _, [] => []
  | o, a :: as => (o + F.headLen) :: starts (o + F.span a) as

@[simp] theorem length_starts (o : ℕ) (as : List ι) : (F.starts o as).length = as.length := by
  induction as generalizing o with
  | nil => rfl
  | cons a as ih => simp [starts, ih]

theorem le_of_mem_starts {as : List ι} {o s : ℕ} (h : s ∈ F.starts o as) : o + F.headLen ≤ s := by
  induction as generalizing o with
  | nil => simp [starts] at h
  | cons a as ih =>
    rcases List.mem_cons.1 h with rfl | h
    · exact Nat.le_refl _
    · have := ih h
      simp only [span] at this
      omega

/-- Each value ends before the head of the next. -/
theorem starts_pairwise (o : ℕ) (as : List ι) : (as.zip (F.starts o as)).Pairwise fun p q =>
    p.2 + (F.value p.1).length + F.headLen ≤ q.2 := by
  induction as generalizing o with
  | nil => exact List.Pairwise.nil
  | cons a as ih =>
    refine List.Pairwise.cons (fun q hq => ?_) (ih _)
    have := F.le_of_mem_starts (List.of_mem_zip hq).2
    simp only [span] at this ⊢
    omega

/-- A padded length is a multiple of the alignment. -/
theorem align_dvd_add_pad (n : ℕ) : F.align ∣ n + F.pad n := by
  unfold pad
  have hlt := Nat.mod_lt n F.align_pos
  rcases Nat.eq_zero_or_pos (n % F.align) with h0 | h0
  · simpa [h0] using Nat.dvd_of_mod_eq_zero h0
  · rw [Nat.mod_eq_of_lt (by omega)]
    have hn := Nat.div_add_mod n F.align
    exact ⟨n / F.align + 1, by rw [Nat.mul_succ]; omega⟩

theorem align_dvd_span (hh : F.align ∣ F.headLen) (a : ι) : F.align ∣ F.span a := by
  rw [span, Nat.add_assoc]
  exact Nat.dvd_add hh (F.align_dvd_add_pad _)

/-- Where heads are aligned, so are the values of items laid out from an aligned offset. -/
theorem align_dvd_of_mem_starts (hh : F.align ∣ F.headLen) {as : List ι} {o s : ℕ}
    (ho : F.align ∣ o) (h : s ∈ F.starts o as) : F.align ∣ s := by
  induction as generalizing o with
  | nil => simp [starts] at h
  | cons a as ih =>
    rcases List.mem_cons.1 h with rfl | h
    · exact Nat.dvd_add ho hh
    · exact ih (Nat.dvd_add ho (F.align_dvd_span hh a)) h

/-- The head at an offset of a decoded section, its item, and what is decoded after it. -/
theorem decode_drop_eq_some_cons {sec : List β} {o : ℕ} {a : ι} {as : List ι}
    (h : F.decode (sec.drop o) = some (a :: as)) :
    o + F.headLen + (F.value a).length ≤ sec.length ∧
      F.head a = (sec.drop o).take F.headLen ∧
      F.value a = (sec.drop (o + F.headLen)).take (F.value a).length ∧
      F.decode (sec.drop (o + F.span a)) = some as := by
  rw [decode_drop] at h
  split_ifs at h with h₁ h₂
  swap
  · simp at h
  obtain ⟨as', has, hcons⟩ := Option.map_eq_some_iff.1 h
  obtain ⟨rfl, rfl⟩ := List.cons.inj hcons
  have hv : ((sec.drop (o + F.headLen)).take (F.lenAt sec o)).length = F.lenAt sec o := by
    rw [List.length_take, List.length_drop]
    omega
  have hhead : ((sec.drop o).take F.headLen).length = F.headLen := by
    rw [List.length_take, List.length_drop]
    omega
  refine ⟨?_, F.head_read _ _ hhead hv, ?_, ?_⟩
  · rw [F.value_read, hv]
    exact h₂
  · rw [F.value_read, hv]
  · rw [span, F.value_read, hv, ← Nat.add_assoc, ← Nat.add_assoc]
    exact has

theorem decode_drop_eq_some_nil {sec : List β} {o : ℕ} (h : F.decode (sec.drop o) = some []) :
    sec.length < o + F.headLen := by
  rw [decode_drop] at h
  split_ifs at h with h₁ h₂
  · obtain ⟨as, -, hcons⟩ := Option.map_eq_some_iff.1 h
    simp at hcons
  · omega

/-- Every value decoded lies in the section at its offset. -/
theorem values_of_decode {sec : List β} {o : ℕ} {as : List ι}
    (h : F.decode (sec.drop o) = some as) : ∀ p ∈ as.zip (F.starts o as),
      p.2 + (F.value p.1).length ≤ sec.length ∧
        F.value p.1 = (sec.drop p.2).take (F.value p.1).length := by
  induction as generalizing o with
  | nil => simp
  | cons a as ih =>
    obtain ⟨hle, -, hval, hrest⟩ := F.decode_drop_eq_some_cons h
    intro p hp
    rcases List.mem_cons.1 hp with rfl | hp
    · exact ⟨hle, hval⟩
    · exact ih hrest p hp

/-! ## Reading and writing back -/

/-- Offset `i` is in the padding after an item of `as`, laid out from offset `o`. -/
def Padding (o : ℕ) (as : List ι) (i : ℕ) : Prop :=
  ∃ p ∈ as.zip (F.starts o as), p.2 + (F.value p.1).length ≤ i ∧
    i < p.2 + (F.value p.1).length + F.pad (F.value p.1).length

/-- An aligned section is the encoding of what it decodes to, except in padding. -/
theorem encode_of_decode (zero : β) (hh : F.align ∣ F.headLen) {sec : List β} {o : ℕ}
    {as : List ι} (hs : F.align ∣ sec.length) (ho : F.align ∣ o) (hle : o ≤ sec.length)
    (ha : F.headLen ≤ F.align) (h : F.decode (sec.drop o) = some as) :
    o + F.size as = sec.length ∧ ∀ i, F.Padding o as (o + i) ∨
      (F.encode zero as)[i]? = (sec.drop o)[i]? := by
  induction as generalizing o with
  | nil =>
    have hlt := F.decode_drop_eq_some_nil h
    have hsub : F.align ∣ sec.length - o := Nat.dvd_sub hs ho
    have heq : sec.length - o = 0 := Nat.eq_zero_of_dvd_of_lt hsub (by omega)
    refine ⟨by simp; omega, fun i => Or.inr ?_⟩
    rw [List.drop_eq_nil_of_le (by omega), encode_nil]
  | cons a as ih =>
    obtain ⟨hval_le, hhead, hval, hrest⟩ := F.decode_drop_eq_some_cons h
    set n := (F.value a).length with hn
    have hspan := F.align_dvd_span hh a
    have hnext : o + F.span a ≤ sec.length := by
      obtain ⟨k, hk⟩ := hs
      obtain ⟨l, hl⟩ := Nat.dvd_add ho hspan
      have hpad : F.pad n < F.align := Nat.mod_lt _ F.align_pos
      rw [hl, hk]
      refine Nat.mul_le_mul_left _ (Nat.le_of_lt_succ (Nat.lt_of_mul_lt_mul_left (a := F.align) ?_))
      rw [← hl, Nat.mul_succ, ← hk, span, ← hn]
      omega
    obtain ⟨hsize, hget⟩ := ih (Nat.dvd_add ho hspan) hnext hrest
    refine ⟨by rw [size_cons]; omega, fun i => ?_⟩
    by_cases hi : i < F.span a
    · by_cases hp : i < F.headLen + n
      · right
        have hpre : (sec.drop o).take (F.headLen + n) = F.head a ++ F.value a := by
          rw [List.take_add, List.drop_drop, ← hhead, ← hval]
        have henc : F.encode zero (a :: as) = (F.head a ++ F.value a) ++
            (List.replicate (F.pad n) zero ++ F.encode zero as) := by
          simp [encodeItem, hn]
        rw [henc, List.getElem?_append_left (by simp [F.length_head, ← hn]; omega), ← hpre,
          List.getElem?_take_of_lt hp]
      · left
        refine ⟨(a, o + F.headLen), by simp [starts], ?_, ?_⟩
        · simp only [← hn]
          omega
        · simp only [span, ← hn] at hi ⊢
          omega
    · obtain ⟨j, rfl⟩ : ∃ j, i = F.span a + j := ⟨i - F.span a, by omega⟩
      rcases hget j with ⟨p, hp, hpi⟩ | hj
      · left
        refine ⟨p, List.mem_cons_of_mem _ hp, ?_⟩
        rw [← Nat.add_assoc]
        exact hpi
      · right
        rw [encode_cons, List.getElem?_append_right (by rw [length_encodeItem]; omega),
          length_encodeItem, Nat.add_sub_cancel_left, hj, ← List.drop_drop,
          List.getElem?_drop]

end Format

end Tlv
