import Mathlib.Tactic.Common
import Mathlib.Data.List.Basic

/-!
# Computations that may panic

A call ends in one of three ways : it returns a value, it returns an error, or it
panics, because an index or a slice range lies outside its buffer. `Checked` is the
type of these outcomes, a monad in which an error and a panic both end the call, so a
`?` and an index expression are both a bind.

`Checked.Safe` says a call does not panic. It is derived by `safe_bind` along the call
and from the bounds of each `get` and `slice`, and `Checked.result` reads a safe call as
an `Except`. What a call returns is read off its binds by `bind_eq_ok`.
-/

universe u v w

/-- How a call ends. -/
inductive Checked (ε : Type u) (α : Type v) where
  | ok (a : α)
  | err (e : ε)
  | panic
deriving DecidableEq, Repr

namespace Checked

variable {ε : Type u} {ε' : Type w} {α β : Type v}

instance : Monad (Checked ε) where
  pure := ok
  bind c f := match c with
    | ok a => f a
    | err e => err e
    | panic => panic

@[simp] theorem pure_eq_ok (a : α) : (pure a : Checked ε α) = ok a := rfl

@[simp] theorem ok_bind (a : α) (f : α → Checked ε β) : (ok a >>= f) = f a := rfl

@[simp] theorem err_bind (e : ε) (f : α → Checked ε β) : (err e >>= f) = err e := rfl

@[simp] theorem panic_bind (f : α → Checked ε β) : (panic >>= f) = panic := rfl

instance : LawfulMonad (Checked ε) :=
  LawfulMonad.mk' (Checked ε) (fun c => by cases c <;> rfl) (fun _ _ => rfl)
    (fun c _ _ => by cases c <;> rfl)

/-- A bind returns what its second half returns on the value of its first. -/
theorem bind_eq_ok {c : Checked ε α} {f : α → Checked ε β} {b : β} :
    (c >>= f) = ok b ↔ ∃ a, c = ok a ∧ f a = ok b := by
  cases c <;> simp

/-- A sequence gives a value exactly if both parts do. -/
theorem except_bind_eq_ok {x : Except ε α} {f : α → Except ε β} {b : β} :
    x >>= f = .ok b ↔ ∃ a, x = .ok a ∧ f a = .ok b := by
  cases x <;> simp [bind, Except.bind]

/-- The same call with its error read as another type's, as `?` does through `From`. -/
def mapErr (g : ε → ε') : Checked ε α → Checked ε' α
  | ok a => ok a
  | err e => err (g e)
  | panic => panic

@[simp] theorem mapErr_ok (g : ε → ε') (a : α) : (ok a : Checked ε α).mapErr g = ok a := rfl

@[simp] theorem mapErr_err (g : ε → ε') (e : ε) :
    (err e : Checked ε α).mapErr g = err (g e) := rfl

/-- Renaming errors changes no value. -/
theorem mapErr_eq_ok {g : ε → ε'} {c : Checked ε α} {a : α} :
    c.mapErr g = ok a ↔ c = ok a := by
  cases c <;> simp [mapErr]

/-- A call that cannot panic. -/
def ofResult : Except ε α → Checked ε α
  | .ok a => ok a
  | .error e => err e

theorem ofResult_eq_ok {x : Except ε α} {a : α} : ofResult x = ok a ↔ x = .ok a := by
  cases x <;> simp [ofResult]

/-! ## Bounds-checked reads -/

/-- The element at an index. -/
def get {β : Type v} (xs : List β) (i : ℕ) : Checked ε β :=
  match xs[i]? with
  | some b => ok b
  | none => panic

/-- The elements from index `i` up to, not including, index `j`. -/
def slice {β : Type v} (xs : List β) (i j : ℕ) : Checked ε (List β) :=
  if i ≤ j ∧ j ≤ xs.length then ok ((xs.drop i).take (j - i)) else panic

/-- A slice copied into an array of fixed length. -/
def toVector {β : Type v} (n : ℕ) (xs : List β) : Checked ε (Vector β n) :=
  if h : xs.length = n then ok ⟨xs.toArray, by simpa using h⟩ else panic

theorem get_eq_ok {xs : List β} {i : ℕ} {b : β} :
    (get xs i : Checked ε β) = ok b ↔ xs[i]? = some b := by
  unfold get
  cases xs[i]? <;> simp

theorem get_of_lt {xs : List β} {i : ℕ} (h : i < xs.length) :
    (get xs i : Checked ε β) = ok xs[i] :=
  get_eq_ok.2 (List.getElem?_eq_getElem h)

/-- A slice within bounds gives its bytes. -/
theorem slice_of_le {xs : List β} {i j : ℕ} (hij : i ≤ j) (hj : j ≤ xs.length) :
    (slice xs i j : Checked ε (List β)) = ok ((xs.drop i).take (j - i)) :=
  if_pos ⟨hij, hj⟩

theorem toVector_of_length {n : ℕ} {xs : List β} (h : xs.length = n) :
    (toVector n xs : Checked ε (Vector β n)) = ok ⟨xs.toArray, by simpa using h⟩ :=
  dif_pos h

/-- A map of computations that all give values gives the list of them. -/
theorem mapM_eq_ok {f : α → Checked ε β} {g : α → β} {xs : List α}
    (h : ∀ x ∈ xs, f x = ok (g x)) : xs.mapM f = ok (xs.map g) := by
  induction xs with
  | nil => rfl
  | cons x xs ih =>
    rw [List.mapM_cons, h x (by simp), ih fun y hy => h y (by simp [hy])]
    rfl

/-! ## Calls that do not panic -/

/-- The call does not panic. -/
def Safe (c : Checked ε α) : Prop := c ≠ panic

theorem safe_ok (a : α) : (ok a : Checked ε α).Safe := nofun

theorem safe_err (e : ε) : (err e : Checked ε α).Safe := nofun

theorem safe_ofResult (x : Except ε α) : (ofResult x).Safe := by
  cases x <;> nofun

/-- A sequence is safe if its parts are. -/
theorem safe_bind {c : Checked ε α} {f : α → Checked ε β} (hc : c.Safe)
    (hf : ∀ a, c = ok a → (f a).Safe) : (c >>= f).Safe := by
  cases c with
  | ok a => exact hf a rfl
  | err e => exact safe_err e
  | panic => exact absurd rfl hc

/-- A branch is safe if each side is under its condition. -/
theorem safe_ite {p : Prop} [Decidable p] {c d : Checked ε α} (hc : p → c.Safe)
    (hd : ¬p → d.Safe) : (if p then c else d).Safe := by
  split_ifs with h
  · exact hc h
  · exact hd h

theorem safe_mapErr {g : ε → ε'} {c : Checked ε α} (hc : c.Safe) : (c.mapErr g).Safe := by
  cases c with
  | ok a => exact safe_ok a
  | err e => exact safe_err _
  | panic => exact absurd rfl hc

/-- Reading within bounds is safe. -/
theorem safe_get {xs : List β} {i : ℕ} (h : i < xs.length) : (get xs i : Checked ε β).Safe := by
  rw [get_of_lt h]
  exact safe_ok _

/-- Slicing within bounds is safe. -/
theorem safe_slice {xs : List β} {i j : ℕ} (hij : i ≤ j) (hj : j ≤ xs.length) :
    (slice xs i j : Checked ε (List β)).Safe := by
  rw [slice_of_le hij hj]
  exact safe_ok _

/-- A loop over a list is safe if its body is, on every element and accumulator. -/
theorem safe_foldlM {σ : Type v} {f : σ → β → Checked ε σ} {xs : List β}
    (hf : ∀ s, ∀ x ∈ xs, (f s x).Safe) (s : σ) : (xs.foldlM f s).Safe := by
  induction xs generalizing s with
  | nil => exact safe_ok s
  | cons x xs ih =>
    rw [List.foldlM_cons]
    exact safe_bind (hf s x (by simp)) fun s' _ => ih (fun t y hy => hf t y (by simp [hy])) s'

/-- A call that does not panic, as the value or error it returns. -/
def result (c : Checked ε α) (h : c.Safe) : Except ε α :=
  match c, h with
  | ok a, _ => .ok a
  | err e, _ => .error e
  | panic, h => absurd rfl h

/-- The result of a safe computation gives a value exactly if the computation does. -/
theorem result_eq_ok {c : Checked ε α} {h : c.Safe} {a : α} :
    c.result h = .ok a ↔ c = ok a := by
  cases c with
  | ok b => simp [result]
  | err e => simp [result]
  | panic => exact absurd rfl h

end Checked
