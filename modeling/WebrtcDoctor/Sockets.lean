import Mathlib.Data.List.Sort
import Mathlib.Tactic.Common
import WebrtcDoctor.BigEndian
import WebrtcDoctor.NetAddr

/-!
# Sockets in discrete time

A UDP socket and a TLS stream, each with the clock of its run. Time is in nanoseconds and
passes only while a check waits : in a receive, up to the arrival or to the timeout, in
a sleep, and while a message is written to a stream, which has no timeout. What the network
does is part of the socket. `UdpSocket.react` gives, for the datagrams sent so far and the
time, the arrivals the last of them causes, or the error the send returns.
`TlsStream.flush` does the same for the bytes written so far, and `TlsStream.hold` says how
long the peer holds up the writing of a message. A write that never returns has no model :
the check then reports nothing.

A UDP queue is kept in the order of arrival. A receive gives its head, if it arrives
before the timeout, cut to the 1500 bytes of the callers' buffer.
-/

open NetAddr

namespace WebrtcDoctor

/-- How a receive under a timeout ends. -/
inductive Recv (α : Type) where
  | elapsed
  | failed (e : String)
  | received (a : α)
deriving DecidableEq, Repr

/-! ## UDP -/

/-- A datagram with its source. -/
structure Datagram where
  source : SocketAddr
  bytes : List UInt8
deriving DecidableEq, Repr

/-- A datagram, or an error of the socket, and when it arrives. -/
structure Arrival where
  time : ℕ
  event : Except String Datagram

/-- A send, its target and its bytes. -/
structure Sent where
  target : SocketAddr
  bytes : List UInt8
deriving DecidableEq, Repr

/-- Arrivals in the order of their times. Of two at one time the earlier in the list comes
first. -/
def inOrder (arrivals : List Arrival) : List Arrival :=
  arrivals.insertionSort fun a b => a.time ≤ b.time

/-- A bound UDP socket, with the network behind it. -/
structure UdpSocket where
  now : ℕ
  /-- What has arrived and is not read, and what is on its way. -/
  queue : List Arrival
  /-- The sends so far, oldest first. -/
  sent : List Sent
  react : List Sent → ℕ → Except String (List Arrival)

namespace UdpSocket

/-- `send_to`. -/
def sendTo (s : UdpSocket) (bytes : List UInt8) (target : SocketAddr) : Except String UdpSocket :=
  match s.react (s.sent ++ [⟨target, bytes⟩]) s.now with
  | .error e => .error e
  | .ok arrivals =>
    .ok { s with sent := s.sent ++ [⟨target, bytes⟩], queue := inOrder (s.queue ++ arrivals) }

/-- The length of the callers' receive buffer. -/
def bufLen : ℕ := 1500

/-- `recv_from` under a timeout, into a buffer of `bufLen` bytes. -/
def recvFrom (s : UdpSocket) (timeout : ℕ) : Recv Datagram × UdpSocket :=
  match s.queue with
  | [] => (.elapsed, { s with now := s.now + timeout })
  | a :: queue =>
    if a.time ≤ s.now + timeout then
      let s := { s with now := max s.now a.time, queue := queue }
      match a.event with
      | .error e => (.failed e, s)
      | .ok d => (.received ⟨d.source, d.bytes.take bufLen⟩, s)
    else (.elapsed, { s with now := s.now + timeout })

/-- A network in which `peer` answers the sends in turn with `replies`, each after `delay`. -/
def answers (peer : SocketAddr) (delay : ℕ) (replies : List (List UInt8)) (sent : List Sent)
    (now : ℕ) : Except String (List Arrival) :=
  .ok (replies[sent.length - 1]?.toList.map fun bytes => ⟨now + delay, .ok ⟨peer, bytes⟩⟩)

/-- `sleep`. -/
def sleep (s : UdpSocket) (d : ℕ) : UdpSocket := { s with now := s.now + d }

theorem sent_of_sendTo {s s' : UdpSocket} {bytes : List UInt8} {target : SocketAddr}
    (h : s.sendTo bytes target = .ok s') : s'.sent = s.sent ++ [⟨target, bytes⟩] := by
  unfold sendTo at h
  split at h
  · cases h
  · cases h
    rfl

theorem now_of_sendTo {s s' : UdpSocket} {bytes : List UInt8} {target : SocketAddr}
    (h : s.sendTo bytes target = .ok s') : s'.now = s.now := by
  unfold sendTo at h
  split at h
  · cases h
  · cases h
    rfl

@[simp] theorem sent_recvFrom (s : UdpSocket) (timeout : ℕ) :
    (s.recvFrom timeout).2.sent = s.sent := by
  unfold recvFrom
  rcases hq : s.queue with _ | ⟨⟨time, e | d⟩, queue⟩ <;> dsimp only <;> split_ifs <;> rfl

@[simp] theorem react_recvFrom (s : UdpSocket) (timeout : ℕ) :
    (s.recvFrom timeout).2.react = s.react := by
  unfold recvFrom
  rcases hq : s.queue with _ | ⟨⟨time, e | d⟩, queue⟩ <;> dsimp only <;> split_ifs <;> rfl

theorem queue_recvFrom_subset (s : UdpSocket) (timeout : ℕ) :
    (s.recvFrom timeout).2.queue ⊆ s.queue := by
  unfold recvFrom
  rcases s.queue with _ | ⟨⟨time, e | d⟩, queue⟩ <;> dsimp only
  · exact List.Subset.refl _
  · split_ifs
    · exact List.subset_cons_self _ _
    · exact List.Subset.refl _
  · split_ifs
    · exact List.subset_cons_self _ _
    · exact List.Subset.refl _

theorem recvFrom_nil {s : UdpSocket} (h : s.queue = []) (timeout : ℕ) :
    s.recvFrom timeout = (.elapsed, { s with now := s.now + timeout }) := by
  unfold recvFrom
  rw [h]

theorem recvFrom_cons_of_le {s : UdpSocket} {a : Arrival} {queue : List Arrival} {timeout : ℕ}
    {d : Datagram} (h : s.queue = a :: queue) (hd : a.event = .ok d)
    (ht : a.time ≤ s.now + timeout) :
    s.recvFrom timeout = (.received ⟨d.source, d.bytes.take bufLen⟩,
      { s with now := max s.now a.time, queue := queue }) := by
  unfold recvFrom
  rw [h]
  simp only [if_pos ht, hd]

/-- What a receive leaves unread is no more than what was there, and less if it gave
anything. -/
theorem length_queue_recvFrom (s : UdpSocket) (timeout : ℕ) :
    (s.recvFrom timeout).1 = .elapsed ∧ (s.recvFrom timeout).2.queue = s.queue ∨
      (s.recvFrom timeout).2.queue.length < s.queue.length := by
  unfold recvFrom
  rcases hq : s.queue with _ | ⟨⟨time, e | d⟩, queue⟩
  · exact Or.inl ⟨rfl, rfl⟩
  · simp only
    split_ifs
    · exact Or.inr (Nat.lt_succ_self _)
    · exact Or.inl ⟨rfl, rfl⟩
  · simp only
    split_ifs
    · exact Or.inr (Nat.lt_succ_self _)
    · exact Or.inl ⟨rfl, rfl⟩

end UdpSocket

/-! ## TLS -/

/-- What a read of a stream can meet. -/
inductive StreamEvent where
  | byte (b : UInt8)
  | eof
  | error (e : String)
deriving DecidableEq, Repr

/-- An established TLS stream. After `incoming` it stalls. -/
structure TlsStream where
  now : ℕ
  /-- What can be read, with its times. -/
  incoming : List (ℕ × StreamEvent)
  /-- The bytes written so far. -/
  written : List UInt8
  /-- The error, if any, of the write that brings the bytes written to these. -/
  write : List UInt8 → Option String
  /-- What a flush of these bytes makes the peer send. -/
  flush : List UInt8 → ℕ → Except String (List (ℕ × StreamEvent))
  /-- How long the writing of a message takes that brings the bytes written to these, with its
  flush, and whether it succeeds or not. -/
  hold : List UInt8 → ℕ → ℕ := fun _ _ => 0

namespace TlsStream

/-- `write_all`. -/
def writeAll (s : TlsStream) (bytes : List UInt8) : Except String TlsStream :=
  match s.write (s.written ++ bytes) with
  | some e => .error e
  | none => .ok { s with written := s.written ++ bytes }

/-- `flush`. -/
def flushAll (s : TlsStream) : Except String TlsStream :=
  match s.flush s.written s.now with
  | .error e => .error e
  | .ok events => .ok { s with incoming := s.incoming ++ events }

/-- `read_exact` of `n` bytes, up to a deadline. -/
def readExact (deadline : ℕ) : ℕ → TlsStream → Recv (List UInt8) × TlsStream
  | 0, s => (.received [], s)
  | n + 1, s =>
    match s.incoming with
    | [] => (.elapsed, { s with now := deadline })
    | (time, event) :: incoming =>
      if time ≤ deadline then
        let s := { s with now := max s.now time, incoming := incoming }
        match event with
        | .error e => (.failed e, s)
        | .eof => (.failed "early eof", s)
        | .byte b =>
          match readExact deadline n s with
          | (.received bytes, s) => (.received (b :: bytes), s)
          | r => r
      else (.elapsed, { s with now := deadline })

/-- `send_framed` : a message after its length. -/
def sendFramed (s : TlsStream) (msg : List UInt8) : Except String TlsStream := do
  let s ← s.writeAll (BigEndian.ofU16 (UInt16.ofNat msg.length))
  let s ← s.writeAll msg
  s.flushAll

/-- `recv_framed` under a timeout : a length, then a message of that length. -/
def recvFramed (s : TlsStream) (timeout : ℕ) : Recv (List UInt8) × TlsStream :=
  let deadline := s.now + timeout
  match readExact deadline 2 s with
  | (.received lenBuf, s) =>
    readExact deadline (BigEndian.toU16 (lenBuf.getD 0 0) (lenBuf.getD 1 0)).toNat s
  | r => r

/-- A message after its length, as `sendFramed` writes it. -/
def frame (msg : List UInt8) : List UInt8 := BigEndian.ofU16 (UInt16.ofNat msg.length) ++ msg

/-- The stream when the writing of `msg` ends. -/
def held (s : TlsStream) (msg : List UInt8) : TlsStream :=
  { s with now := s.now + s.hold (s.written ++ frame msg) s.now }

end TlsStream

end WebrtcDoctor
