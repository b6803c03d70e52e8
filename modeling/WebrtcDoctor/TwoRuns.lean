import Mathlib.Data.List.Forall2
import WebrtcDoctor.TurnsAlloc

/-!
# Two runs over networks that answer alike

A relation `V` says which bytes are not told apart. Two sockets are alike if their owners have sent
such bytes to the same targets, and their networks answer any such sends alike
(`UdpSocket.Alike`). The operations keep two sockets alike and give the same on both, and so do two
streams, where a frame's length is related with its message (`TlsStream.Alike`). So a round of the
allocation dance ends the same on both (`allocateRound_alike`).
-/

open NetAddr

namespace WebrtcDoctor

/-- The same error, or states related by `R`. -/
inductive SameOutcome {ε σ σ' : Type} (R : σ → σ' → Prop) : Except ε σ → Except ε σ' → Prop
  | error (e : ε) : SameOutcome R (.error e) (.error e)
  | ok {s : σ} {s' : σ'} (h : R s s') : SameOutcome R (.ok s) (.ok s')

theorem SameOutcome.bind {ε σ σ' τ τ' : Type} {R : σ → σ' → Prop} {S : τ → τ' → Prop}
    {x : Except ε σ} {x' : Except ε σ'} {f : σ → Except ε τ} {f' : σ' → Except ε τ'}
    (hx : SameOutcome R x x') (hf : ∀ s s', R s s' → SameOutcome S (f s) (f' s')) :
    SameOutcome S (x >>= f) (x' >>= f') := by
  cases hx with
  | error e => exact .error e
  | ok h => exact hf _ _ h

/-- The same value, and states related by `R`. -/
structure SameResult {α σ σ' : Type} (R : σ → σ' → Prop) (x : α × σ) (x' : α × σ') : Prop where
  value : x'.1 = x.1
  state : R x.2 x'.2

theorem SameResult.exists {α σ σ' : Type} {R : σ → σ' → Prop} {x : α × σ} {x' : α × σ'}
    (h : SameResult R x x') : ∃ a s s', x = (a, s) ∧ x' = (a, s') ∧ R s s' :=
  ⟨x.1, x.2, x'.2, rfl, Prod.ext h.value rfl, h.state⟩

variable {V : List UInt8 → List UInt8 → Prop}

/-! ## UDP -/

/-- Bytes to the same target that are not told apart. -/
structure Sent.Alike (V : List UInt8 → List UInt8 → Prop) (a a' : Sent) : Prop where
  target : a'.target = a.target
  bytes : V a.bytes a'.bytes

namespace UdpSocket

/-- Sockets whose owners have sent what is not told apart, on networks that answer it alike. -/
structure Alike (V : List UInt8 → List UInt8 → Prop) (s s' : UdpSocket) : Prop where
  now : s'.now = s.now
  queue : s'.queue = s.queue
  sent : List.Forall₂ (Sent.Alike V) s.sent s'.sent
  react : ∀ sent sent', List.Forall₂ (Sent.Alike V) sent sent' →
    ∀ now, s'.react sent' now = s.react sent now

namespace Alike

variable {s s' : UdpSocket}

/-- Two messages that are not told apart leave alike sockets alike. -/
theorem sendTo (h : Alike V s s') {bytes bytes' : List UInt8} (hbytes : V bytes bytes')
    (target : SocketAddr) :
    SameOutcome (Alike V) (s.sendTo bytes target) (s'.sendTo bytes' target) := by
  have hsent : List.Forall₂ (Sent.Alike V) (s.sent ++ [⟨target, bytes⟩])
      (s'.sent ++ [⟨target, bytes'⟩]) :=
    List.rel_append h.sent (.cons ⟨rfl, hbytes⟩ .nil)
  unfold UdpSocket.sendTo
  rw [h.react _ _ hsent, h.now]
  cases s.react (s.sent ++ [⟨target, bytes⟩]) s.now with
  | error e => exact .error e
  | ok arrivals => exact .ok ⟨rfl, by rw [h.queue], hsent, h.react⟩

/-- Alike sockets receive the same. -/
theorem recvFrom (h : Alike V s s') (timeout : ℕ) :
    SameResult (Alike V) (s.recvFrom timeout) (s'.recvFrom timeout) := by
  obtain ⟨now, queue, sent, react⟩ := s
  obtain ⟨now', queue', sent', react'⟩ := s'
  obtain ⟨rfl, rfl, hsent, hreact⟩ := h
  unfold UdpSocket.recvFrom
  dsimp only
  split
  · exact ⟨rfl, rfl, rfl, hsent, hreact⟩
  split
  · split <;> exact ⟨rfl, rfl, rfl, hsent, hreact⟩
  · exact ⟨rfl, rfl, rfl, hsent, hreact⟩

theorem sleep (h : Alike V s s') (d : ℕ) : Alike V (s.sleep d) (s'.sleep d) :=
  ⟨congrArg (· + d) h.now, h.queue, h.sent, h.react⟩

end Alike

end UdpSocket

/-! ## TLS -/

/-- Bytes of a stream that are not told apart, frame by frame. -/
inductive Framed (V : List UInt8 → List UInt8 → Prop) : List UInt8 → List UInt8 → Prop
  | nil : Framed V [] []
  | length {ws ws' bytes bytes' : List UInt8} (h : Framed V ws ws') (hbytes : V bytes bytes') :
      Framed V (ws ++ BigEndian.ofU16 (UInt16.ofNat bytes.length))
        (ws' ++ BigEndian.ofU16 (UInt16.ofNat bytes'.length))
  | message {ws ws' bytes bytes' : List UInt8} (h : Framed V ws ws') (hbytes : V bytes bytes') :
      Framed V (ws ++ bytes) (ws' ++ bytes')

namespace TlsStream

/-- Streams on which the messages written are related by `V`, and which the peer does not tell
apart. -/
structure Alike (V : List UInt8 → List UInt8 → Prop) (s s' : TlsStream) : Prop where
  now : s'.now = s.now
  incoming : s'.incoming = s.incoming
  written : Framed V s.written s'.written
  write : ∀ ws ws', Framed V ws ws' → s'.write ws' = s.write ws
  flush : ∀ ws ws', Framed V ws ws' → ∀ now, s'.flush ws' now = s.flush ws now
  hold : ∀ ws ws', Framed V ws ws' → ∀ now, s'.hold ws' now = s.hold ws now

namespace Alike

variable {s s' : TlsStream}

theorem at_time (h : Alike V s s') (now : ℕ) :
    Alike V { s with now := now } { s' with now := now } :=
  ⟨rfl, h.incoming, h.written, h.write, h.flush, h.hold⟩

/-- The two messages are written in the same time. -/
theorem held (h : Alike V s s') {bytes bytes' : List UInt8} (hbytes : V bytes bytes') :
    Alike V (s.held bytes) (s'.held bytes') := by
  have hframed : Framed V (s.written ++ frame bytes) (s'.written ++ frame bytes') := by
    rw [frame, frame, ← List.append_assoc, ← List.append_assoc]
    exact .message (.length h.written hbytes) hbytes
  rw [TlsStream.held, TlsStream.held, h.now, h.hold _ _ hframed]
  exact h.at_time _

theorem writeAll (h : Alike V s s') {bytes bytes' : List UInt8}
    (hbytes : Framed V (s.written ++ bytes) (s'.written ++ bytes')) :
    SameOutcome (fun t t' => Alike V t t' ∧ t.written = s.written ++ bytes ∧
      t'.written = s'.written ++ bytes') (s.writeAll bytes) (s'.writeAll bytes') := by
  unfold TlsStream.writeAll
  rw [h.write _ _ hbytes]
  cases s.write (s.written ++ bytes) with
  | some e => exact .error e
  | none => exact .ok ⟨⟨h.now, h.incoming, hbytes, h.write, h.flush, h.hold⟩, rfl, rfl⟩

theorem flushAll (h : Alike V s s') : SameOutcome (Alike V) s.flushAll s'.flushAll := by
  unfold TlsStream.flushAll
  rw [h.flush _ _ h.written, h.now]
  cases s.flush s.written s.now with
  | error e => exact .error e
  | ok events => exact .ok ⟨rfl, by rw [h.incoming], h.written, h.write, h.flush, h.hold⟩

theorem sendFramed (h : Alike V s s') {bytes bytes' : List UInt8} (hbytes : V bytes bytes') :
    SameOutcome (Alike V) (s.sendFramed bytes) (s'.sendFramed bytes') := by
  refine (h.writeAll (.length h.written hbytes)).bind fun t t' ⟨ht, hw, hw'⟩ => ?_
  refine (ht.writeAll (.message ht.written hbytes)).bind fun u u' ⟨hu, _, _⟩ => ?_
  exact hu.flushAll

theorem readExact (deadline : ℕ) : ∀ (n : ℕ) {s s' : TlsStream}, Alike V s s' →
    SameResult (Alike V) (TlsStream.readExact deadline n s) (TlsStream.readExact deadline n s')
  | 0, _, _, h => ⟨rfl, h⟩
  | n + 1, s, s', h => by
    unfold TlsStream.readExact
    rw [h.incoming, h.now]
    split
    · exact ⟨rfl, rfl, rfl, h.written, h.write, h.flush, h.hold⟩
    next time event incoming _ =>
    split
    swap
    · exact ⟨rfl, rfl, rfl, h.written, h.write, h.flush, h.hold⟩
    have hnext : Alike V { s with now := max s.now time, incoming := incoming }
        { s' with now := max s.now time, incoming := incoming } :=
      ⟨rfl, rfl, h.written, h.write, h.flush, h.hold⟩
    cases event with
    | error e => exact ⟨rfl, hnext⟩
    | eof => exact ⟨rfl, hnext⟩
    | byte b =>
      obtain ⟨r, t, t', hr, hr', ht⟩ := (readExact deadline n hnext).exists
      dsimp only
      rw [hr, hr']
      cases r with
      | received bytes => exact ⟨rfl, ht⟩
      | elapsed => exact ⟨rfl, ht⟩
      | failed e => exact ⟨rfl, ht⟩

/-- Alike streams bring the same frames. -/
theorem recvFramed (h : Alike V s s') (timeout : ℕ) :
    SameResult (Alike V) (s.recvFramed timeout) (s'.recvFramed timeout) := by
  unfold TlsStream.recvFramed
  rw [h.now]
  obtain ⟨r, t, t', hr, hr', ht⟩ := (h.readExact (s.now + timeout) 2).exists
  dsimp only
  rw [hr, hr']
  cases r with
  | received lenBuf => exact readExact _ _ ht
  | elapsed => exact ⟨rfl, ht⟩
  | failed e => exact ⟨rfl, ht⟩

end Alike

end TlsStream

/-- Receives that end alike, with states related by `R`. -/
inductive Recv.Alike {σ σ' : Type} (R : σ → σ' → Prop) : Recv σ → Recv σ' → Prop
  | elapsed : Recv.Alike R .elapsed .elapsed
  | failed (e : String) : Recv.Alike R (.failed e) (.failed e)
  | received {s : σ} {s' : σ'} (h : R s s') : Recv.Alike R (.received s) (.received s')

/-! ## A round -/

/-- A round on states that the transport keeps related ends the same. -/
theorem allocateRound_alike {σ σ' : Type} {R : σ → σ' → Prop}
    {send : σ → List UInt8 → Except String σ} {send' : σ' → List UInt8 → Except String σ'}
    {recv : σ → Recv (List UInt8) × σ} {recv' : σ' → Recv (List UInt8) × σ'} {texts : RoundTexts}
    {s : σ} {s' : σ'} {txid : TxId} {bytes bytes' : List UInt8} (hs : R s s')
    (hsend : SameOutcome R (send s bytes) (send' s' bytes'))
    (hrecv : ∀ s s', R s s' → SameResult R (recv s) (recv' s')) :
    SameResult R (allocateRound send recv texts s (txid, bytes))
      (allocateRound send' recv' texts s' (txid, bytes')) := by
  unfold allocateRound
  dsimp only
  generalize send s bytes = x, send' s' bytes' = x' at hsend
  cases hsend with
  | error e => exact ⟨rfl, hs⟩
  | ok h =>
    obtain ⟨r, t, t', hr, hr', ht⟩ := (hrecv _ _ h).exists
    dsimp only
    rw [hr, hr']
    cases r with
    | failed e => exact ⟨rfl, ht⟩
    | elapsed => exact ⟨rfl, ht⟩
    | received buf =>
      dsimp only
      cases (parseAllocateResponse buf txid).result (parseAllocateResponse_safe _ _) <;>
        exact ⟨rfl, ht⟩

end WebrtcDoctor
