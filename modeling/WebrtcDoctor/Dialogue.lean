import Mathlib.Data.List.Basic
import Mathlib.Tactic.Common

/-!
# Dialogues

A dialogue asks questions, each chosen after the reply to the one before, and ends with a
value. Against a peer that replies `f` to the questions asked so far, `asked` are the
questions and `outcome` is the value. `runOver` is the dialogue over a transport, which may
fail. A transport that carries the questions of the dialogue to such a peer, and its replies
back, asks those questions and ends with that value (`runOver_of_carries`). So two such
transports do the same.
-/

/-- A value, or a question and how to go on after the reply. -/
inductive Dialogue (Q R α : Type*) where
  | done (a : α)
  | ask (q : Q) (next : R → Dialogue Q R α)

namespace Dialogue

variable {Q R α σ ε : Type*}

/-- The questions, after `qs`, that a peer is asked that replies with `f`. -/
def asked (f : List Q → R) : Dialogue Q R α → List Q → List Q
  | done _, qs => qs
  | ask q next, qs => (next (f (qs ++ [q]))).asked f (qs ++ [q])

/-- How the dialogue ends with a peer that replies with `f`, after the questions `qs`. -/
def outcome (f : List Q → R) : Dialogue Q R α → List Q → α
  | done a, _ => a
  | ask q next, qs => (next (f (qs ++ [q]))).outcome f (qs ++ [q])

/-- The dialogue over a transport, of which `round` asks one question and gives the reply. -/
def runOver (round : σ → Q → Except ε R × σ) : Dialogue Q R α → σ → Except ε α × σ
  | done a, s => (.ok a, s)
  | ask q next, s =>
    match round s q with
    | (.error e, s) => (.error e, s)
    | (.ok r, s) => (next r).runOver round s

/-- A question that fails ends the dialogue. -/
theorem runOver_ask_of_error {round : σ → Q → Except ε R × σ} {q : Q} {next : R → Dialogue Q R α}
    {s s' : σ} {e : ε} (h : round s q = (.error e, s')) :
    (ask q next).runOver round s = (.error e, s') := by
  rw [runOver, h]

/-- A question that is answered goes on with its reply. -/
theorem runOver_ask_of_ok {round : σ → Q → Except ε R × σ} {q : Q} {next : R → Dialogue Q R α}
    {s s' : σ} {r : R} (h : round s q = (.ok r, s')) :
    (ask q next).runOver round s = (next r).runOver round s' := by
  rw [runOver, h]

theorem prefix_asked (f : List Q → R) : ∀ (d : Dialogue Q R α) (qs : List Q), qs <+: d.asked f qs
  | done _, qs => List.prefix_refl qs
  | ask q next, qs =>
    (List.prefix_append qs [q]).trans (prefix_asked f (next (f (qs ++ [q]))) (qs ++ [q]))

/-- From states that hold the questions asked, `round` carries the next one of `questions` to
a peer that replies with `f`, and its reply back. -/
def Carries (f : List Q → R) (round : σ → Q → Except ε R × σ) (holds : List Q → σ → Prop)
    (questions : List Q) : Prop :=
  ∀ qs q s, qs ++ [q] <+: questions → holds qs s →
    ∃ s', round s q = (.ok (f (qs ++ [q])), s') ∧ holds (qs ++ [q]) s'

/-- Over a transport that carries the questions of the dialogue, the peer is asked them, and
the dialogue ends as it does against the peer. -/
theorem runOver_of_carries {f : List Q → R} {round : σ → Q → Except ε R × σ}
    {holds : List Q → σ → Prop} : ∀ (d : Dialogue Q R α) {qs : List Q} {s : σ}, holds qs s →
      Carries f round holds (d.asked f qs) →
      ∃ s', d.runOver round s = (.ok (d.outcome f qs), s') ∧ holds (d.asked f qs) s'
  | done a, _, s, hs, _ => ⟨s, rfl, hs⟩
  | ask q next, qs, s, hs, hround => by
    obtain ⟨s', heq, hs'⟩ := hround qs q s (prefix_asked f _ (qs ++ [q])) hs
    rw [runOver_ask_of_ok heq]
    exact runOver_of_carries (next (f (qs ++ [q]))) hs' hround

end Dialogue
