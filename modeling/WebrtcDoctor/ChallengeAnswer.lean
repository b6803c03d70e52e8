import WebrtcDoctor.AllocateDance
import WebrtcDoctor.StreamFraming

/-!
# The answer to a challenge on a stream

The second Allocate request carries the realm and the nonce of the server's challenge and the
user's name. Its lengths are cut to 16 bits : that of each attribute, that of the section with
MESSAGE-INTEGRITY, and on a stream that of the whole message. `answerReadable_iff` says when
nothing is cut. The limit is that of the frame : the message, header included, has to fit 65535
bytes.
-/

open BigEndian Checked

namespace WebrtcDoctor

/-- The request that answers the challenge of `realm` and `nonce`. -/
def answer (crypto : Crypto) (txid : TxId) (username password realm : String)
    (nonce : List UInt8) : List UInt8 :=
  (buildAllocateAuthed crypto txid username realm nonce
    (longTermKey crypto username realm password)).2

/-- The attributes of the answer before MESSAGE-INTEGRITY. -/
def answerAttrs (username realm : String) (nonce : List UInt8) : List Attr :=
  [⟨attr.requestedTransport, [17, 0, 0, 0]⟩, ⟨attr.username, Utf8.asBytes username⟩,
    ⟨attr.realm, Utf8.asBytes realm⟩, ⟨attr.nonce, nonce⟩]

/-- The length of a value of length `n` with its padding. -/
def paddedLen (n : ℕ) : ℕ := n + (4 - n % 4) % 4

section

variable (crypto : Crypto) (txid : TxId) (username password realm : String) (nonce : List UInt8)

/-- The answer is the message of its attributes. -/
theorem answer_eq_message : ∃ digest,
    answer crypto txid username password realm nonce = message allocateRequest txid
      (answerAttrs username realm nonce ++ [⟨attr.messageIntegrity, digest⟩]) ∧
    digest.length = 20 :=
  ⟨_, buildAllocateAuthed_eq crypto txid ⟨username, password, realm, nonce⟩ _, by simp⟩

/-- The length of the answer, its four values padded. -/
theorem length_answer : (answer crypto txid username password realm nonce).length =
    64 + paddedLen (Utf8.asBytes username).length + paddedLen (Utf8.asBytes realm).length +
      paddedLen nonce.length := by
  obtain ⟨digest, hmsg, hdigest⟩ := answer_eq_message crypto txid username password realm nonce
  rw [hmsg, length_message]
  simp only [sectionLen, answerAttrs, paddedLen, List.cons_append, List.nil_append, List.map_cons,
    List.map_nil, List.sum_cons, List.sum_nil, List.length_cons, List.length_nil, hdigest]
  omega

end

/-! ## Frames -/

namespace TlsStream

/-- A stream over which `bytes` have arrived. -/
def delivering (bytes : List UInt8) : TlsStream :=
  ⟨0, bytes.map fun b => (0, .byte b), [], fun _ => none, fun _ _ => .ok [], fun _ _ => 0⟩

/-- A frame that fits its length is read back. -/
theorem recvFramed_delivering {msg : List UInt8} (hlen : msg.length < 2 ^ 16) (timeout : ℕ) :
    ∃ now, (delivering (frame msg)).recvFramed timeout =
      (.received msg, { delivering (frame msg) with now := now, incoming := [] }) := by
  have harrive : Arrive ((delivering (frame msg)).now + timeout) (frame msg)
      (delivering (frame msg)).incoming [] := by
    refine ⟨_, (List.append_nil _).symm, by rw [delivering, List.map_map]; rfl, fun p hp => ?_⟩
    obtain ⟨b, -, rfl⟩ := List.mem_map.1 hp
    exact Nat.zero_le _
  obtain ⟨now, -, hrecv⟩ := recvFramed_frame harrive hlen
  exact ⟨now, hrecv⟩

end TlsStream

/-! ## The answer -/

/-- What is written for the answer, wherever writing succeeds, is read back as the answer, and
its header and attributes are those of the answer. -/
def AnswerReadable (crypto : Crypto) (txid : TxId) (username password realm : String)
    (nonce : List UInt8) : Prop :=
  ∀ (s s' : TlsStream) (timeout : ℕ),
    s.sendFramed (answer crypto txid username password realm nonce) = .ok s' →
      ∃ framed, s'.written = s.written ++ framed ∧
        (∃ rest, (TlsStream.delivering framed).recvFramed timeout =
          (.received (answer crypto txid username password realm nonce), rest) ∧
            rest.incoming = []) ∧
        ∃ h, parseHeader (answer crypto txid username password realm nonce) txid = .ok h ∧
          h.attrsLen.toNat = (answer crypto txid username password realm nonce).length - 20 ∧
          ∃ digest, walkAttrs (answer crypto txid username password realm nonce) h.attrsLen =
            .ok (answerAttrs username realm nonce ++ [⟨attr.messageIntegrity, digest⟩])

/-- An answer that can be read fits the frame's length. -/
theorem length_le_of_readable {crypto : Crypto} {txid : TxId} {username password realm : String}
    {nonce : List UInt8} (h : AnswerReadable crypto txid username password realm nonce) :
    (answer crypto txid username password realm nonce).length ≤ 65535 := by
  obtain ⟨framed, -, ⟨rest, hrecv, -⟩, -⟩ := h Sample.acceptingStream _ 0 rfl
  exact Nat.le_of_lt_succ (TlsStream.length_of_recvFramed hrecv)

/-- The answer is written without a length cut short exactly if the user's name, the realm and
the nonce, each padded to four bytes, and the 64 bytes around them fit a frame. -/
theorem answerReadable_iff (crypto : Crypto) (txid : TxId) (username password realm : String)
    (nonce : List UInt8) : AnswerReadable crypto txid username password realm nonce ↔
      64 + paddedLen (Utf8.asBytes username).length + paddedLen (Utf8.asBytes realm).length +
        paddedLen nonce.length ≤ 65535 := by
  rw [← length_answer crypto txid username password realm nonce]
  refine ⟨length_le_of_readable, fun hlen s s' timeout hsend => ?_⟩
  obtain ⟨now, hrecv⟩ := TlsStream.recvFramed_delivering (Nat.lt_succ_of_le hlen) timeout
  obtain ⟨digest, hmsg, -⟩ := answer_eq_message crypto txid username password realm nonce
  have hfit : sectionLen (answerAttrs username realm nonce ++ [⟨attr.messageIntegrity, digest⟩]) ≤
      65535 := by
    rw [hmsg, length_message] at hlen
    omega
  obtain ⟨hheader, hwalk⟩ := parse_message allocateRequest txid hfit
  refine ⟨_, TlsStream.written_of_sendFramed hsend, ⟨_, hrecv, rfl⟩, _, by rw [hmsg]; exact hheader,
    ?_, digest, by rw [hmsg]; exact hwalk⟩
  rw [hmsg, length_message, Nat.add_sub_cancel_left]
  exact toNat_cast_of_lt (by omega)

theorem length_asBytes_replicate (n : ℕ) :
    (Utf8.asBytes (String.ofList (List.replicate n 'a'))).length = n := by
  rw [Utf8.asBytes, String.toList_ofList]
  induction n with
  | zero => rfl
  | succ n ih =>
    rw [List.replicate_succ, List.flatMap_cons, List.length_append, ih, Nat.add_comm]
    rfl

open Sample in
/-- A user's name of 65536 letters does not fit the answer to the challenge of the login. -/
theorem answer_truncated :
    (∃ rest, (TlsStream.delivering (TlsStream.frame (challenge (txid 1)))).recvFramed 0 =
      (.received (challenge (txid 1)), rest)) ∧
    parseAllocateResponse (challenge (txid 1)) (txid 1) =
      .ok (.unauthorized "example.org" (Utf8.asBytes "nonce")) ∧
    ¬AnswerReadable crypto (txid 2) (String.ofList (List.replicate 65536 'a')) "pass" "example.org"
      (Utf8.asBytes "nonce") := by
  refine ⟨⟨_, rfl⟩, by decide +kernel, fun h => ?_⟩
  have hlen := length_le_of_readable h
  rw [length_answer, length_asBytes_replicate, paddedLen] at hlen
  omega

end WebrtcDoctor
