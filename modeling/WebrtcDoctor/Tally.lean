import Mathlib.Data.Finset.Card
import Mathlib.Data.Fintype.Card
import Mathlib.Data.List.ReduceOption
import Mathlib.Tactic.Common

/-!
# Tallies

A tally of a stream of keys and noise : which keys were heard, and how often a key was
heard again. The keys heard and the repeats add up to the keys in the stream
(`card_add_repeats`), and the keys heard are the stream's as a set
(`heard_hearAll`), so they depend on neither order nor repetition nor noise
(`heard_hearAll_congr`). A reader that stops once it has heard `n` keys (`stopAt`) has heard
all there are, if there are no more than `n` (`heard_take_stopAt`).
-/

/-- The keys heard, and how many entries repeated one of them. -/
structure Tally (α : Type*) where
  heard : Finset α
  repeats : ℕ

namespace Tally

variable {α : Type*} [DecidableEq α]

/-- Nothing is heard yet. -/
def empty : Tally α := ⟨∅, 0⟩

/-- One entry of the stream, a key or noise. -/
def hear (t : Tally α) : Option α → Tally α
  | none => t
  | some a => if a ∈ t.heard then ⟨t.heard, t.repeats + 1⟩ else ⟨insert a t.heard, t.repeats⟩

/-- The tally after a stream. -/
def hearAll (t : Tally α) (as : List (Option α)) : Tally α := as.foldl hear t

/-- How many entries a reader takes that stops once `n` keys are heard. -/
def stopAt (n : ℕ) : Tally α → List (Option α) → ℕ
  | _, [] => 0
  | t, a :: as => if t.heard.card < n then stopAt n (t.hear a) as + 1 else 0

@[simp] theorem hear_none (t : Tally α) : t.hear none = t := rfl

theorem hear_some (t : Tally α) (a : α) : t.hear (some a) =
    if a ∈ t.heard then ⟨t.heard, t.repeats + 1⟩ else ⟨insert a t.heard, t.repeats⟩ := rfl

@[simp] theorem hearAll_nil (t : Tally α) : t.hearAll [] = t := rfl

@[simp] theorem hearAll_cons (t : Tally α) (a : Option α) (as : List (Option α)) :
    t.hearAll (a :: as) = (t.hear a).hearAll as := rfl

theorem heard_hear_some (t : Tally α) (a : α) : (t.hear (some a)).heard = insert a t.heard := by
  rw [hear_some]
  split_ifs with h
  · rw [Finset.insert_eq_of_mem h]
  · rfl

/-! ## What a stream leaves -/

/-- The keys heard are those of the stream. -/
theorem heard_hearAll : ∀ (t : Tally α) (as : List (Option α)),
    (t.hearAll as).heard = t.heard ∪ as.reduceOption.toFinset
  | t, [] => by simp
  | t, none :: as => by
    rw [hearAll_cons, hear_none, heard_hearAll t as, List.reduceOption_cons_of_none]
  | t, some a :: as => by
    rw [hearAll_cons, heard_hearAll (t.hear (some a)) as, heard_hear_some,
      List.reduceOption_cons_of_some, List.toFinset_cons, Finset.insert_union,
      Finset.union_insert]

theorem mem_heard_hearAll_empty {as : List (Option α)} {a : α} :
    a ∈ (empty.hearAll as).heard ↔ some a ∈ as := by
  rw [heard_hearAll, Finset.mem_union, List.mem_toFinset, List.reduceOption_mem_iff]
  simp [empty]

/-- Every key of the stream is a key heard for the first time or a repeat. -/
theorem card_add_repeats : ∀ (t : Tally α) (as : List (Option α)),
    (t.hearAll as).heard.card + (t.hearAll as).repeats =
      t.heard.card + t.repeats + as.reduceOption.length
  | t, [] => by simp
  | t, none :: as => by
    rw [hearAll_cons, hear_none, card_add_repeats t as, List.reduceOption_cons_of_none]
  | t, some a :: as => by
    have hstep : (t.hear (some a)).heard.card + (t.hear (some a)).repeats =
        t.heard.card + t.repeats + 1 := by
      rw [hear_some]
      split_ifs with h
      · exact (Nat.add_assoc _ _ _).symm
      · rw [Finset.card_insert_of_notMem h]
        exact Nat.add_right_comm _ _ _
    rw [hearAll_cons, card_add_repeats (t.hear (some a)) as, hstep,
      List.reduceOption_cons_of_some, List.length_cons]
    omega

/-- Streams of the same keys leave the same keys heard, whatever their order, their repeats
and their noise. -/
theorem heard_hearAll_congr (t : Tally α) {as bs : List (Option α)}
    (h : ∀ a, some a ∈ as ↔ some a ∈ bs) : (t.hearAll as).heard = (t.hearAll bs).heard := by
  ext a
  simp only [heard_hearAll, Finset.mem_union, List.mem_toFinset, List.reduceOption_mem_iff, h a]

/-! ## A reader that stops -/

/-- The reader stops at the end of the stream or with `n` keys heard. -/
theorem stopAt_cases (n : ℕ) : ∀ (t : Tally α) (as : List (Option α)),
    stopAt n t as = as.length ∨ n ≤ (t.hearAll (as.take (stopAt n t as))).heard.card
  | _, [] => Or.inl rfl
  | t, a :: as => by
    rw [stopAt]
    split_ifs with h
    · rcases stopAt_cases n (t.hear a) as with heq | hle
      · exact Or.inl (congrArg (· + 1) heq)
      · exact Or.inr hle
    · exact Or.inr (Nat.le_of_not_lt h)

/-- Before it stops, it has heard fewer than `n` keys. -/
theorem card_lt_of_lt_stopAt (n : ℕ) : ∀ (t : Tally α) (as : List (Option α)) {j : ℕ},
    j < stopAt n t as → (t.hearAll (as.take j)).heard.card < n
  | _, [], _, hj => absurd hj (Nat.not_lt_zero _)
  | t, a :: as, j, hj => by
    rw [stopAt] at hj
    split_ifs at hj with h
    · cases j with
      | zero => exact h
      | succ j => exact card_lt_of_lt_stopAt n (t.hear a) as (Nat.lt_of_succ_lt_succ hj)
    · exact absurd hj (Nat.not_lt_zero _)

/-- Where there are at most `n` keys, a reader that stops at `n` has heard every key of the
stream. -/
theorem heard_take_stopAt [Fintype α] (t : Tally α) (as : List (Option α)) :
    (t.hearAll (as.take (stopAt (Fintype.card α) t as))).heard = (t.hearAll as).heard := by
  rcases stopAt_cases (Fintype.card α) t as with heq | hle
  · rw [heq, List.take_length]
  · have huniv : (t.hearAll (as.take (stopAt (Fintype.card α) t as))).heard = Finset.univ :=
      Finset.eq_univ_of_card _ (Nat.le_antisymm (Finset.card_le_univ _) hle)
    refine Finset.Subset.antisymm ?_ (by rw [huniv]; exact Finset.subset_univ _)
    rw [heard_hearAll, heard_hearAll]
    refine Finset.union_subset_union Finset.Subset.rfl fun a ha => ?_
    rw [List.mem_toFinset, List.reduceOption_mem_iff] at ha ⊢
    exact List.mem_of_mem_take ha

end Tally
