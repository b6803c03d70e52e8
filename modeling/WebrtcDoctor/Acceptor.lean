import Mathlib.Algebra.Ring.Nat
import Mathlib.Data.List.Basic

/-!
# Acceptors

A partial step function reads a trace event by event, and rejects at the first event that it has
no step for. `Acceptor.run` is its state after a trace. A trace is accepted where a run over it
ends in some state, so what each event may do is said once, by the step.

`Acceptor.weight_add_left_le` bounds what an accepted trace can contain by a quantity that every
step pays for.
-/

universe u v

/-- A step function on states `S` for events `E`. -/
structure Acceptor (S : Type u) (E : Type v) where
  next : S → E → Option S

namespace Acceptor

variable {S : Type u} {E : Type v} (a : Acceptor S E)

/-- The state after a trace, if it is accepted. -/
def run : S → List E → Option S
  | s, [] => some s
  | s, e :: es => (a.next s e).bind fun s' => run s' es

/-- Each event of the trace is one the acceptor has a step for. -/
def Accepts (s : S) (es : List E) : Prop := ∃ s', a.run s es = some s'

@[simp] theorem run_nil (s : S) : a.run s [] = some s := rfl

@[simp] theorem run_cons (s : S) (e : E) (es : List E) :
    a.run s (e :: es) = (a.next s e).bind fun s' => a.run s' es := rfl

/-- A trace is read one part after the other. -/
theorem run_append (s : S) : ∀ es es' : List E,
    a.run s (es ++ es') = (a.run s es).bind fun s' => a.run s' es'
  | [], _ => rfl
  | e :: es, es' => by
    rw [List.cons_append, run_cons, run_cons]
    cases a.next s e with
    | none => rfl
    | some s' => exact run_append s' es es'

/-- An accepted trace goes on from the state it leads to. -/
theorem run_append_of_run {s s' : S} {es : List E} (h : a.run s es = some s') (es' : List E) :
    a.run s (es ++ es') = a.run s' es' := by
  rw [run_append, h, Option.bind_some]

/-- What is accepted where an accepted trace leads to makes a longer one. -/
theorem accepts_append {s s' : S} {es es' : List E} (h : a.run s es = some s')
    (h' : a.Accepts s' es') : a.Accepts s (es ++ es') := by
  obtain ⟨t, ht⟩ := h'
  exact ⟨t, (a.run_append_of_run h es').trans ht⟩

variable {a} {weight : E → ℕ} {left : S → ℕ}

/-- Where each step uses up the weight of its event, a trace weighs no more than what was left
at its start. -/
theorem weight_add_left_le
    (hstep : ∀ {s s' e}, a.next s e = some s' → weight e + left s' ≤ left s) :
    ∀ {es : List E} {s s' : S}, a.run s es = some s' → (es.map weight).sum + left s' ≤ left s
  | [], s, s', h => by
    obtain rfl : s = s' := Option.some.inj h
    exact Nat.le_of_eq (Nat.zero_add _)
  | e :: es, s, s', h => by
    obtain ⟨s₁, hnext, hrun⟩ := Option.bind_eq_some_iff.1 h
    have hfirst := hstep hnext
    have hrest := weight_add_left_le hstep hrun
    rw [List.map_cons, List.sum_cons]
    omega

end Acceptor
