import Mathlib.Data.List.TakeWhile
import WebrtcDoctor.NetAddrRoundTrip

/-!
# The text of an IPv6 address

What `readV6` reads holds no brackets and at least two colons (`IsV6.noBrackets`,
`IsV6.two_le_count`). Each reader consumes a prefix without brackets (`Consumes`), and of the
groups after the first, each takes a colon.
-/

namespace NetAddr

/-- The text of an IPv6 address. -/
def IsV6 (v : List Char) : Prop := ∃ segs, readV6 v = some (segs, [])

/-- Neither bracket is in the text. -/
def NoBrackets (cs : List Char) : Prop := '[' ∉ cs ∧ ']' ∉ cs

theorem noBrackets_append {as bs : List Char} :
    NoBrackets (as ++ bs) ↔ NoBrackets as ∧ NoBrackets bs := by
  simp only [NoBrackets, List.mem_append, not_or]
  exact and_and_and_comm

/-- `rest` is what is left of `cs` after a prefix without brackets. -/
def Consumes (cs rest : List Char) : Prop := ∃ pre, cs = pre ++ rest ∧ NoBrackets pre

namespace Consumes

/-- Nothing is consumed. -/
theorem refl (cs : List Char) : Consumes cs cs := ⟨[], rfl, nofun, nofun⟩

/-- What is consumed in two steps. -/
theorem trans {as bs cs : List Char} (h : Consumes as bs) (h' : Consumes bs cs) :
    Consumes as cs := by
  obtain ⟨pre, rfl, hpre⟩ := h
  obtain ⟨pre', rfl, hpre'⟩ := h'
  exact ⟨pre ++ pre', (List.append_assoc ..).symm, noBrackets_append.2 ⟨hpre, hpre'⟩⟩

/-- What is consumed has some of each character. -/
theorem count_le {cs rest : List Char} (h : Consumes cs rest) (c : Char) :
    rest.count c ≤ cs.count c := by
  obtain ⟨pre, rfl, -⟩ := h
  rw [List.count_append]
  exact Nat.le_add_left _ _

end Consumes

/-! ## The readers -/

theorem toDigit_bracket (radix : ℕ) : toDigit radix '[' = none ∧ toDigit radix ']' = none := by
  constructor <;> simp [toDigit]

/-- A number is read without brackets. -/
theorem consumes_readNumber {radix bound n : ℕ} {maxDigits : Option ℕ} {zeroPrefix : Bool}
    {cs rest : List Char} (h : readNumber radix maxDigits zeroPrefix bound cs = some (n, rest)) :
    Consumes cs rest := by
  obtain ⟨hopen, hclose⟩ := toDigit_bracket radix
  refine ⟨cs.takeWhile fun c => (toDigit radix c).isSome, ?_, fun hmem => ?_, fun hmem => ?_⟩
  · rw [eq_dropWhile_of_readNumber h, List.takeWhile_append_dropWhile]
  · have := List.mem_takeWhile_imp hmem
    rw [hopen] at this
    cases this
  · have := List.mem_takeWhile_imp hmem
    rw [hclose] at this
    cases this

theorem eq_cons_of_readChar {c : Char} {cs rest : List Char} (h : readChar c cs = some rest) :
    cs = c :: rest := by
  cases cs with
  | nil => cases h
  | cons c' cs =>
    rw [readChar] at h
    split_ifs at h with hc
    rw [hc, Option.some.inj h]

theorem consumes_cons {c : Char} (h : NoBrackets [c]) (rest : List Char) :
    Consumes (c :: rest) rest := ⟨[c], rfl, h⟩

/-- After a separator, or without one at index 0. -/
theorem consumes_readSeparator {α : Type} {sep : Char} {index : ℕ} {a : α}
    {inner : List Char → Option (α × List Char)} {cs rest : List Char} (hsep : NoBrackets [sep])
    (hinner : ∀ cs rest a, inner cs = some (a, rest) → Consumes cs rest)
    (h : readSeparator sep index inner cs = some (a, rest)) :
    Consumes cs rest ∧ (0 < index → rest.count sep + 1 ≤ cs.count sep) := by
  rw [readSeparator] at h
  split_ifs at h with hi
  · obtain ⟨cs', hchar, hread⟩ := Option.bind_eq_some_iff.1 h
    obtain rfl := eq_cons_of_readChar hchar
    have hrest := hinner _ _ _ hread
    refine ⟨(consumes_cons hsep cs').trans hrest, fun _ => ?_⟩
    rw [List.count_cons_self]
    exact Nat.succ_le_succ (hrest.count_le sep)
  · exact ⟨hinner _ _ _ h, fun hi' => absurd hi' hi⟩

/-- Octets are read without brackets. -/
theorem consumes_readOctets : ∀ {n index : ℕ} {cs rest : List Char} {os : List ℕ},
    readOctets n index cs = some (os, rest) → Consumes cs rest
  | 0, _, cs, rest, os, h => by
    rw [readOctets] at h
    obtain ⟨-, rfl⟩ := Prod.mk.inj (Option.some.inj h)
    exact .refl cs
  | n + 1, index, cs, rest, os, h => by
    rw [readOctets] at h
    obtain ⟨⟨o, cs₁⟩, hfirst, h⟩ := Option.bind_eq_some_iff.1 h
    obtain ⟨⟨os', cs₂⟩, hmore, h⟩ := Option.bind_eq_some_iff.1 h
    obtain ⟨-, rfl⟩ := Prod.mk.inj (Option.some.inj h)
    exact (consumes_readSeparator (by simp [NoBrackets]) (fun _ _ _ => consumes_readNumber)
      hfirst).1.trans (consumes_readOctets hmore)

/-- Of the groups read, all but the first two have taken a colon each, or two of them one. -/
theorem consumes_readGroups {limit i : ℕ} {cs : List Char} :
    Consumes cs (readGroups limit i cs).2.2 ∧
      (readGroups limit i cs).1.length + 2 * (readGroups limit i cs).2.2.count ':' ≤
        2 * cs.count ':' + if i = 0 then 2 else 0 := by
  have hcolon : NoBrackets [':'] := by simp [NoBrackets]
  induction hn : limit - i using Nat.strongRecOn generalizing i cs with
  | _ n ih =>
    rw [readGroups]
    by_cases hi : i < limit
    swap
    · rw [if_neg hi]
      exact ⟨.refl cs, by simp⟩
    rw [if_pos hi]
    split
    · rename_i os cs' hv4
      split_ifs at hv4 with hi'
      obtain ⟨hcons, hcount⟩ := consumes_readSeparator hcolon
        (fun _ _ _ => consumes_readOctets) hv4
      refine ⟨hcons, ?_⟩
      have hle := hcons.count_le ':'
      rcases Nat.eq_zero_or_pos i with rfl | hpos
      · simp only [List.length_cons, List.length_nil, if_true]
        omega
      · have := hcount hpos
        simp only [List.length_cons, List.length_nil, if_neg (Nat.pos_iff_ne_zero.1 hpos)]
        omega
    · split
      · rename_i g cs' hgroup
        obtain ⟨hcons, hcount⟩ := consumes_readSeparator hcolon
          (fun _ _ _ => consumes_readNumber) hgroup
        obtain ⟨hcons', hcount'⟩ := @ih _ (by omega) (i + 1) cs' rfl
        have hle := hcons.count_le ':'
        rw [if_neg (Nat.succ_ne_zero i)] at hcount'
        generalize readGroups limit (i + 1) cs' = more at hcons' hcount' ⊢
        obtain ⟨gs, v4, rest⟩ := more
        refine ⟨hcons.trans hcons', ?_⟩
        dsimp only at hcount' ⊢
        rcases Nat.eq_zero_or_pos i with rfl | hpos
        · simp only [List.length_cons, if_true]
          omega
        · have := hcount hpos
          simp only [List.length_cons, if_neg (Nat.pos_iff_ne_zero.1 hpos)]
          omega
      · exact ⟨.refl cs, by simp⟩

/-- An IPv6 address has two colons at least and no brackets. -/
theorem consumes_readV6 {cs rest : List Char} {segs : List ℕ} (h : readV6 cs = some (segs, rest)) :
    Consumes cs rest ∧ 2 + rest.count ':' ≤ cs.count ':' := by
  have hcolon : NoBrackets [':'] := by simp [NoBrackets]
  obtain ⟨hcons, hcount⟩ := @consumes_readGroups 8 0 cs
  rw [readV6] at h
  generalize readGroups 8 0 cs = groups at h hcons hcount
  obtain ⟨head, v4, cs₁⟩ := groups
  dsimp only at h hcons hcount
  rw [if_pos rfl] at hcount
  split_ifs at h with hlen hv4
  · obtain ⟨-, rfl⟩ := Prod.mk.inj (Option.some.inj h)
    rw [hlen] at hcount
    exact ⟨hcons, by omega⟩
  · obtain ⟨cs₂, hfirst, h₁⟩ := Option.bind_eq_some_iff.1 h
    obtain ⟨cs₃, hsecond, h₂⟩ := Option.bind_eq_some_iff.1 h₁
    clear h h₁
    obtain rfl := eq_cons_of_readChar hfirst
    obtain rfl := eq_cons_of_readChar hsecond
    obtain ⟨hcons', -⟩ := @consumes_readGroups (8 - (head.length + 1)) 0 cs₃
    have hrest : (readGroups (8 - (head.length + 1)) 0 cs₃).2.2 = rest :=
      (Prod.mk.inj (Option.some.inj h₂)).2
    rw [hrest] at hcons'
    have hle := hcons.count_le ':'
    rw [List.count_cons_self, List.count_cons_self] at hle
    have hle' := hcons'.count_le ':'
    exact ⟨hcons.trans ((consumes_cons hcolon _).trans ((consumes_cons hcolon _).trans hcons')),
      by omega⟩

theorem IsV6.noBrackets {v : List Char} (h : IsV6 v) : NoBrackets v := by
  obtain ⟨segs, h⟩ := h
  obtain ⟨⟨pre, hpre, hno⟩, -⟩ := consumes_readV6 h
  rw [List.append_nil] at hpre
  rwa [hpre]

theorem IsV6.two_le_count {v : List Char} (h : IsV6 v) : 2 ≤ v.count ':' := by
  obtain ⟨segs, h⟩ := h
  exact (consumes_readV6 h).2

end NetAddr
