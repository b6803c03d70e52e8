import Mathlib.Algebra.Ring.Nat
import WebrtcDoctor.Checked
import WebrtcDoctor.Sockets

/-!
# Frames on a TLS stream

`sendFramed` writes a message after its 16-bit length, and `recvFramed` reads one back. A message
of up to 65535 bytes is read as it was written and what follows it stays unread
(`recvFramed_frame`), so a sequence of messages is read back exactly if each is that short
(`framing_iff`). The cut of a longer length has no check.

Nothing else passes for a message. What is received takes its whole frame off the stream
(`arrive_of_recvFramed`), and a stream that ends inside a frame is an error
(`recvFramed_of_cut`).
-/

open BigEndian Checked

namespace WebrtcDoctor

namespace TlsStream

/-! ## Writing -/

/-- A write appends its bytes. -/
theorem written_of_writeAll {s s' : TlsStream} {bytes : List UInt8}
    (h : s.writeAll bytes = .ok s') : s'.written = s.written ++ bytes := by
  rw [writeAll] at h
  split at h
  · cases h
  · obtain rfl := Except.ok.inj h
    rfl

/-- A flush leaves what was written. -/
theorem written_of_flushAll {s s' : TlsStream} (h : s.flushAll = .ok s') :
    s'.written = s.written := by
  rw [flushAll] at h
  split at h
  · cases h
  · obtain rfl := Except.ok.inj h
    rfl

/-- A framed send appends the frame. -/
theorem written_of_sendFramed {s s' : TlsStream} {msg : List UInt8}
    (h : s.sendFramed msg = .ok s') : s'.written = s.written ++ frame msg := by
  obtain ⟨s₁, hlen, h⟩ := except_bind_eq_ok.1 h
  obtain ⟨s₂, hmsg, hflush⟩ := except_bind_eq_ok.1 h
  rw [written_of_flushAll hflush, written_of_writeAll hmsg, written_of_writeAll hlen,
    List.append_assoc, frame]

/-- Framed sends append the frames, one after the other. -/
theorem written_of_sendAll : ∀ {msgs : List (List UInt8)} {s s' : TlsStream},
    msgs.foldlM sendFramed s = .ok s' → s'.written = s.written ++ msgs.flatMap frame
  | [], s, s', h => by
    obtain rfl := Except.ok.inj h
    simp
  | msg :: msgs, s, s', h => by
    rw [List.foldlM_cons] at h
    obtain ⟨s₁, hfirst, hrest⟩ := except_bind_eq_ok.1 h
    rw [written_of_sendAll hrest, written_of_sendFramed hfirst, List.append_assoc,
      List.flatMap_cons]

/-! ## Arrivals -/

/-- Of what comes in, `bytes` arrive by the deadline, and then there is `rest`. -/
def Arrive (deadline : ℕ) (bytes : List UInt8) (incoming rest : List (ℕ × StreamEvent)) : Prop :=
  ∃ events, incoming = events ++ rest ∧ events.map Prod.snd = bytes.map .byte ∧
    ∀ p ∈ events, p.1 ≤ deadline

variable {deadline : ℕ} {incoming rest : List (ℕ × StreamEvent)}

theorem arrive_nil : Arrive deadline [] incoming rest ↔ incoming = rest := by
  constructor
  · rintro ⟨events, rfl, hbytes, -⟩
    rw [List.map_nil, List.map_eq_nil_iff] at hbytes
    rw [hbytes, List.nil_append]
  · rintro rfl
    exact ⟨[], rfl, rfl, nofun⟩

theorem arrive_cons {b : UInt8} {bytes : List UInt8} :
    Arrive deadline (b :: bytes) incoming rest ↔ ∃ time ≤ deadline, ∃ tail,
      incoming = (time, .byte b) :: tail ∧ Arrive deadline bytes tail rest := by
  constructor
  · rintro ⟨_ | ⟨⟨time, event⟩, events⟩, rfl, hbytes, htime⟩
    · cases hbytes
    obtain ⟨hevent, htail⟩ := List.cons.inj hbytes
    obtain rfl : event = .byte b := hevent
    exact ⟨time, htime _ List.mem_cons_self, events ++ rest, rfl, events, rfl, htail,
      fun p hp => htime p (List.mem_cons_of_mem _ hp)⟩
  · rintro ⟨time, hle, tail, rfl, events, rfl, hbytes, htime⟩
    exact ⟨(time, .byte b) :: events, rfl, by rw [List.map_cons, hbytes, List.map_cons],
      List.forall_mem_cons.2 ⟨hle, htime⟩⟩

/-- Bytes arrive in time exactly if the first part does and then the rest. -/
theorem arrive_append {as bs : List UInt8} : Arrive deadline (as ++ bs) incoming rest ↔
    ∃ mid, Arrive deadline as incoming mid ∧ Arrive deadline bs mid rest := by
  induction as generalizing incoming with
  | nil => simp [arrive_nil]
  | cons a as ih =>
    simp only [List.cons_append, arrive_cons, ih]
    constructor
    · rintro ⟨time, hle, tail, htail, mid, has, hbs⟩
      exact ⟨mid, ⟨time, hle, tail, htail, has⟩, hbs⟩
    · rintro ⟨mid, ⟨time, hle, tail, htail, has⟩, hbs⟩
      exact ⟨time, hle, tail, htail, mid, has, hbs⟩

/-- What arrives by a deadline arrives by a later one. -/
theorem Arrive.mono {bytes : List UInt8} {later : ℕ} (h : Arrive deadline bytes incoming rest)
    (hle : deadline ≤ later) : Arrive later bytes incoming rest := by
  obtain ⟨events, hincoming, hbytes, htime⟩ := h
  exact ⟨events, hincoming, hbytes, fun p hp => (htime p hp).trans hle⟩

/-! ## Reading -/

/-- Bytes that arrive in time are read. -/
theorem readExact_of_arrive : ∀ {bytes : List UInt8} {s : TlsStream},
    Arrive deadline bytes s.incoming rest → ∃ now, s.now ≤ now ∧
      readExact deadline bytes.length s = (.received bytes, { s with now := now, incoming := rest })
  | [], s, h => ⟨s.now, le_rfl, by rw [← arrive_nil.1 h]; rfl⟩
  | b :: bytes, s, h => by
    obtain ⟨time, hle, tail, htail, hbytes⟩ := arrive_cons.1 h
    obtain ⟨now, hnow, hread⟩ := readExact_of_arrive
      (s := { s with now := max s.now time, incoming := tail }) hbytes
    refine ⟨now, (le_max_left _ _).trans hnow, ?_⟩
    rw [List.length_cons, readExact, htail]
    dsimp only
    rw [if_pos hle, hread]

/-- What is read is as long as asked for, and has arrived. -/
theorem arrive_of_readExact : ∀ {n : ℕ} {s s' : TlsStream} {bytes : List UInt8},
    readExact deadline n s = (.received bytes, s') →
      bytes.length = n ∧ Arrive deadline bytes s.incoming s'.incoming
  | 0, s, s', bytes, h => by
    obtain ⟨hbytes, rfl⟩ := Prod.mk.inj h
    obtain rfl := Recv.received.inj hbytes
    exact ⟨rfl, arrive_nil.2 rfl⟩
  | n + 1, s, s', bytes, h => by
    rw [readExact] at h
    rcases hincoming : s.incoming with _ | ⟨⟨time, event⟩, tail⟩
    · rw [hincoming] at h
      cases h
    rw [hincoming] at h
    dsimp only at h
    by_cases hle : time ≤ deadline
    swap
    · rw [if_neg hle] at h
      cases h
    rw [if_pos hle] at h
    cases event with
    | eof => cases h
    | error e => cases h
    | byte b =>
      dsimp only at h
      split at h
      · rename_i read s'' hread
        obtain ⟨hlen, harrive⟩ := arrive_of_readExact hread
        cases h
        exact ⟨by rw [List.length_cons, hlen], arrive_cons.2 ⟨time, hle, tail, rfl, harrive⟩⟩
      · rename_i hno
        exact absurd h (hno _ _)

/-- The end of the stream before enough bytes is an error. -/
theorem readExact_of_eof {time : ℕ} (hle : time ≤ deadline) : ∀ {bytes : List UInt8} {n : ℕ}
    {s : TlsStream}, Arrive deadline bytes s.incoming ((time, .eof) :: rest) → bytes.length < n →
      (readExact deadline n s).1 = .failed "early eof"
  | [], n + 1, s, h, _ => by
    rw [readExact, arrive_nil.1 h]
    dsimp only
    rw [if_pos hle]
  | b :: bytes, n + 1, s, h, hlen => by
    obtain ⟨time', hle', tail, htail, hbytes⟩ := arrive_cons.1 h
    have hread := readExact_of_eof hle (s := { s with now := max s.now time', incoming := tail })
      hbytes (Nat.lt_of_succ_lt_succ hlen)
    rw [readExact, htail]
    dsimp only
    rw [if_pos hle']
    split
    · rename_i hreceived
      rw [hreceived] at hread
      cases hread
    · exact hread

/-! ## Frames -/

/-- The length that two bytes at the front of a stream stand for. -/
theorem toU16_frame (n : ℕ) (h : n < 2 ^ 16) :
    (toU16 ((ofU16 (UInt16.ofNat n)).getD 0 0) ((ofU16 (UInt16.ofNat n)).getD 1 0)).toNat = n := by
  rw [show toU16 ((ofU16 (UInt16.ofNat n)).getD 0 0) ((ofU16 (UInt16.ofNat n)).getD 1 0) =
    UInt16.ofNat n from toU16_ofU16 _, UInt16.toNat_ofNat_of_lt' h]

/-- A message that arrives in time is read, and what follows it stays. -/
theorem recvFramed_frame {msg : List UInt8} {timeout : ℕ} {s : TlsStream}
    (h : Arrive (s.now + timeout) (frame msg) s.incoming rest) (hlen : msg.length < 2 ^ 16) :
    ∃ now, s.now ≤ now ∧
      s.recvFramed timeout = (.received msg, { s with now := now, incoming := rest }) := by
  obtain ⟨mid, hlenBuf, hmsg⟩ := arrive_append.1 h
  obtain ⟨now, hnow, hread⟩ := readExact_of_arrive hlenBuf
  obtain ⟨now', hnow', hread'⟩ := readExact_of_arrive
    (s := { s with now := now, incoming := mid }) hmsg
  rw [length_ofU16] at hread
  refine ⟨now', hnow.trans hnow', ?_⟩
  rw [recvFramed, hread]
  dsimp only
  rw [toU16_frame _ hlen, hread']

/-- To receive a message is to read a length and then as many bytes. -/
theorem readExact_of_recvFramed {timeout : ℕ} {s s' : TlsStream} {msg : List UInt8}
    (h : s.recvFramed timeout = (.received msg, s')) : ∃ lenBuf s₁,
      readExact (s.now + timeout) 2 s = (.received lenBuf, s₁) ∧
        readExact (s.now + timeout) (toU16 (lenBuf.getD 0 0) (lenBuf.getD 1 0)).toNat s₁ =
          (.received msg, s') := by
  rw [recvFramed] at h
  split at h
  · rename_i lenBuf s₁ hlenBuf
    exact ⟨lenBuf, s₁, hlenBuf, h⟩
  · rename_i hno
    exact absurd h (hno _ _)

/-- What is received has arrived, as one whole frame. -/
theorem arrive_of_recvFramed {timeout : ℕ} {s s' : TlsStream} {msg : List UInt8}
    (h : s.recvFramed timeout = (.received msg, s')) :
    Arrive (s.now + timeout) (frame msg) s.incoming s'.incoming := by
  obtain ⟨lenBuf, s₁, hlenBuf, hmsg⟩ := readExact_of_recvFramed h
  obtain ⟨hlen, hfirst⟩ := arrive_of_readExact hlenBuf
  obtain ⟨hmsgLen, hrest⟩ := arrive_of_readExact hmsg
  obtain ⟨b₀, b₁, rfl⟩ := List.length_eq_two.1 hlen
  refine arrive_append.2 ⟨s₁.incoming, ?_, hrest⟩
  rw [hmsgLen, UInt16.ofNat_toNat]
  exact (ofU16_toU16 b₀ b₁).symm ▸ hfirst

/-- A frame holds less than `2 ^ 16` bytes. -/
theorem length_of_recvFramed {timeout : ℕ} {s s' : TlsStream} {msg : List UInt8}
    (h : s.recvFramed timeout = (.received msg, s')) : msg.length < 2 ^ 16 := by
  obtain ⟨lenBuf, s₁, -, hmsg⟩ := readExact_of_recvFramed h
  rw [(arrive_of_readExact hmsg).1]
  exact UInt16.toNat_lt _

/-- The bytes end inside a length, or inside the message after it. -/
def Cut (bytes : List UInt8) : Prop :=
  bytes.length < 2 ∨ bytes.length < 2 + (toU16 (bytes.getD 0 0) (bytes.getD 1 0)).toNat

/-- A stream that ends inside a frame is an error. -/
theorem recvFramed_of_cut {timeout time : ℕ} {s : TlsStream} {bytes : List UInt8}
    (hcut : Cut bytes) (h : Arrive (s.now + timeout) bytes s.incoming ((time, .eof) :: rest))
    (hle : time ≤ s.now + timeout) : (s.recvFramed timeout).1 = .failed "early eof" := by
  rw [recvFramed]
  by_cases hlen : bytes.length < 2
  · have hread := readExact_of_eof hle h hlen
    split
    · rename_i hreceived
      rw [hreceived] at hread
      cases hread
    · exact hread
  obtain ⟨b₀, b₁, body, rfl⟩ : ∃ b₀ b₁ body, bytes = b₀ :: b₁ :: body := by
    rcases bytes with _ | ⟨b₀, _ | ⟨b₁, body⟩⟩
    · simp at hlen
    · simp at hlen
    · exact ⟨b₀, b₁, body, rfl⟩
  rw [show b₀ :: b₁ :: body = [b₀, b₁] ++ body from rfl] at h
  obtain ⟨mid, hlenBuf, hbody⟩ := arrive_append.1 h
  obtain ⟨now, -, hread⟩ := readExact_of_arrive hlenBuf
  rw [show readExact (s.now + timeout) 2 s = _ from hread]
  have hshort : body.length < (toU16 b₀ b₁).toNat := by
    have := hcut.resolve_left hlen
    simp only [List.length_cons, List.getD_cons_zero, List.getD_cons_succ] at this
    omega
  exact readExact_of_eof hle (s := { s with now := now, incoming := mid }) hbody hshort

/-! ## Sequences of frames -/

/-- `recvFramed`, `n` times. -/
def recvMany (timeout : ℕ) : ℕ → TlsStream → Recv (List (List UInt8)) × TlsStream
  | 0, s => (.received [], s)
  | n + 1, s =>
    match s.recvFramed timeout with
    | (.elapsed, s) => (.elapsed, s)
    | (.failed e, s) => (.failed e, s)
    | (.received msg, s) =>
      match recvMany timeout n s with
      | (.received msgs, s) => (.received (msg :: msgs), s)
      | r => r

/-- Messages that fit their lengths are read back in order. -/
theorem recvMany_frames {timeout : ℕ} : ∀ {msgs : List (List UInt8)} {s : TlsStream},
    Arrive (s.now + timeout) (msgs.flatMap frame) s.incoming rest →
      (∀ msg ∈ msgs, msg.length < 2 ^ 16) → ∃ now,
        s.recvMany timeout msgs.length = (.received msgs, { s with now := now, incoming := rest })
  | [], s, h, _ => ⟨s.now, by rw [← arrive_nil.1 h]; rfl⟩
  | msg :: msgs, s, h, hlen => by
    rw [List.flatMap_cons] at h
    obtain ⟨mid, hmsg, hmsgs⟩ := arrive_append.1 h
    obtain ⟨now, hnow, hrecv⟩ := recvFramed_frame hmsg (hlen msg List.mem_cons_self)
    obtain ⟨now', hrest⟩ := recvMany_frames (s := { s with now := now, incoming := mid })
      (hmsgs.mono (Nat.add_le_add_right hnow timeout))
      fun m hm => hlen m (List.mem_cons_of_mem _ hm)
    refine ⟨now', ?_⟩
    rw [List.length_cons, recvMany, hrecv]
    dsimp only
    rw [hrest]

/-- A framed message has a length of sixteen bits. -/
theorem length_of_recvMany {timeout : ℕ} : ∀ {n : ℕ} {s s' : TlsStream}
    {msgs : List (List UInt8)}, s.recvMany timeout n = (.received msgs, s') →
      ∀ msg ∈ msgs, msg.length < 2 ^ 16
  | 0, s, s', msgs, h => by
    cases h
    nofun
  | n + 1, s, s', msgs, h => by
    rw [recvMany] at h
    split at h
    · cases h
    · cases h
    rename_i msg s₁ hmsg
    split at h
    · rename_i msgs₁ s₂ hmsgs
      cases h
      exact List.forall_mem_cons.2 ⟨length_of_recvFramed hmsg, length_of_recvMany hmsgs⟩
    · rename_i hno
      exact absurd h (hno _ _)

/-- Messages written one after the other are read back in order, and what follows them stays
unread, exactly if each fits its length. A stream that ends inside a frame is an error, and what
is received has come as one whole frame. -/
theorem framing_iff (timeout : ℕ) :
    (∀ (msgs : List (List UInt8)) (s s' : TlsStream), msgs.foldlM sendFramed s = .ok s' →
      ∃ framed, s'.written = s.written ++ framed ∧ ∀ (reader : TlsStream) rest,
        Arrive (reader.now + timeout) framed reader.incoming rest →
          ((∃ now, reader.recvMany timeout msgs.length =
              (.received msgs, { reader with now := now, incoming := rest })) ↔
            ∀ msg ∈ msgs, msg.length ≤ 65535)) ∧
    (∀ (reader : TlsStream) (bytes : List UInt8) (time : ℕ) rest, Cut bytes →
      Arrive (reader.now + timeout) bytes reader.incoming ((time, .eof) :: rest) →
        time ≤ reader.now + timeout →
          (reader.recvFramed timeout).1 = .failed "early eof") ∧
    ∀ (reader reader' : TlsStream) (msg : List UInt8),
      reader.recvFramed timeout = (.received msg, reader') →
        Arrive (reader.now + timeout) (frame msg) reader.incoming reader'.incoming := by
  refine ⟨fun msgs s s' hsend => ⟨_, written_of_sendAll hsend, fun reader rest h => ?_⟩,
    fun reader bytes time rest hcut h hle => recvFramed_of_cut hcut h hle,
    fun reader reader' msg h => arrive_of_recvFramed h⟩
  constructor
  · rintro ⟨now, hread⟩ msg hmsg
    exact Nat.le_of_lt_succ (length_of_recvMany hread msg hmsg)
  · exact fun hlen => recvMany_frames h fun msg hmsg => Nat.lt_succ_of_le (hlen msg hmsg)

/-- Two messages, one of them empty, and a byte after them. -/
theorem framing_iff_two : ∃ now,
    recvMany 5 2 ⟨0, [0, 1, 7, 0, 0, 9].map fun b => (0, .byte b), [], fun _ => none,
        fun _ _ => .ok [], fun _ _ => 0⟩ =
      (.received [[7], []],
        ⟨now, [(0, .byte 9)], [], fun _ => none, fun _ _ => .ok [], fun _ _ => 0⟩) := by
  obtain ⟨framed, hframed, hread⟩ := (framing_iff 5).1 [[7], []]
    ⟨0, [], [], fun _ => none, fun _ _ => .ok [], fun _ _ => 0⟩ _ rfl
  obtain rfl : [0, 1, 7, 0, 0] = framed := hframed
  exact (hread _ [(0, .byte 9)] ⟨[0, 1, 7, 0, 0].map fun b => (0, .byte b), rfl, rfl, by simp⟩).2
    (by simp)

end TlsStream

end WebrtcDoctor
