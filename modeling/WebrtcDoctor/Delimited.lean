import Mathlib.Algebra.Ring.Nat
import Mathlib.Data.List.Basic
import Mathlib.Tactic.Common

/-!
# Streams of messages that carry their length

On a stream each message has to say where it ends. A `Layout` is messages that do so
themselves, over any symbols : a head of fixed length declares the length of the body after it,
and nothing stands between messages. `split` is its receiver. It reads a stream as exactly the
messages that the stream is the concatenation of (`split_flatten`, `flatten_of_split`), so what
it reads has no symbol more or less than the stream (`length_of_split`).
-/

namespace Delimited

variable {β : Type*}

/-- Messages with a head that declares the length of the body. -/
structure Layout (β : Type*) where
  headLen : ℕ
  headLen_pos : 0 < headLen
  /-- The length of the body after a head. -/
  bodyLen : List β → ℕ

namespace Layout

variable (L : Layout β)

/-- The length that the head at the front of a stream declares. -/
def span (stream : List β) : ℕ := L.headLen + L.bodyLen (stream.take L.headLen)

/-- A message is as long as its head declares. -/
def Whole (msg : List β) : Prop := msg.length = L.span msg

/-- The messages of a stream, none if it ends inside a message. -/
def split (stream : List β) : Option (List (List β)) :=
  if stream.length = 0 then some []
  else if L.headLen ≤ stream.length ∧ L.span stream ≤ stream.length then
    (split (stream.drop (L.span stream))).map (stream.take (L.span stream) :: ·)
  else none
termination_by stream.length
decreasing_by
  have := L.headLen_pos
  rw [List.length_drop]
  unfold span
  omega

variable {L}

theorem Whole.headLen_le {msg : List β} (h : L.Whole msg) : L.headLen ≤ msg.length := by
  rw [h]
  exact Nat.le_add_right _ _

theorem split_nil : L.split [] = some [] := by
  rw [split]
  rfl

/-- A whole message at the front of a stream is the first that is read. -/
theorem split_append {msg : List β} (h : L.Whole msg) (rest : List β) :
    L.split (msg ++ rest) = (L.split rest).map (msg :: ·) := by
  have hhead := h.headLen_le
  have hpos := L.headLen_pos
  have hspan : L.span (msg ++ rest) = msg.length := by
    rw [h, span, span, List.take_append_of_le_length hhead]
  have hlen : (msg ++ rest).length = msg.length + rest.length := List.length_append
  rw [split, if_neg (by omega), if_pos (by omega), hspan, List.drop_left' rfl, List.take_left' rfl]

/-- The concatenation of whole messages is read as these. -/
theorem split_flatten : ∀ {msgs : List (List β)}, (∀ msg ∈ msgs, L.Whole msg) →
    L.split msgs.flatten = some msgs
  | [], _ => split_nil
  | msg :: msgs, h => by
    rw [List.flatten_cons, split_append (h msg (List.mem_cons_self ..)),
      split_flatten fun m hm => h m (List.mem_cons_of_mem _ hm), Option.map_some]

/-- A stream is the concatenation of what is read, all of it whole messages. -/
theorem flatten_of_split {stream : List β} {msgs : List (List β)}
    (h : L.split stream = some msgs) : stream = msgs.flatten ∧ ∀ msg ∈ msgs, L.Whole msg := by
  induction hn : stream.length using Nat.strongRecOn generalizing stream msgs with
  | _ n ih =>
    have hpos := L.headLen_pos
    rw [split] at h
    by_cases h₀ : stream.length = 0
    · rw [if_pos h₀] at h
      obtain rfl := Option.some.inj h
      exact ⟨List.length_eq_zero_iff.1 h₀, nofun⟩
    by_cases h₁ : L.headLen ≤ stream.length ∧ L.span stream ≤ stream.length
    swap
    · rw [if_neg h₀, if_neg h₁] at h
      cases h
    rw [if_neg h₀, if_pos h₁] at h
    obtain ⟨msgs', hrest, rfl⟩ := Option.map_eq_some_iff.1 h
    have hspan : L.headLen ≤ L.span stream := Nat.le_add_right _ _
    obtain ⟨hflatten, hwhole⟩ := ih _ (by rw [List.length_drop]; omega) hrest rfl
    refine ⟨by rw [List.flatten_cons, ← hflatten, List.take_append_drop], fun msg hmsg => ?_⟩
    rcases List.mem_cons.1 hmsg with rfl | hmsg
    · have hhead : (stream.take (L.span stream)).take L.headLen = stream.take L.headLen := by
        rw [List.take_take, Nat.min_eq_left hspan]
      rw [Whole, List.length_take, Nat.min_eq_left h₁.2]
      show L.span stream = L.headLen + L.bodyLen ((stream.take (L.span stream)).take L.headLen)
      rw [hhead, span]
    · exact hwhole msg hmsg

/-- The messages of a stream make up its whole length. -/
theorem length_of_split {stream : List β} {msgs : List (List β)}
    (h : L.split stream = some msgs) : stream.length = (msgs.map List.length).sum := by
  rw [(flatten_of_split h).1, List.length_flatten]

end Layout

end Delimited
