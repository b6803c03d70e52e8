import WebrtcDoctor.Credential
import WebrtcDoctor.Delimited
import WebrtcDoctor.Frames

/-!
# TURN messages on a stream

A STUN message declares its own length, so on a stream a server delimits each message by its
header (`stunLayout`). A request of the TURN builders is whole in this sense, and the
concatenation of requests is read as these requests. `sendFramed` writes the length of each
message in front of it, so what it writes is read so only if it writes nothing
(`turnsStream_iff`).
-/

open BigEndian Checked NetAddr Delimited

namespace WebrtcDoctor

/-- STUN messages, delimited by the length in the header. -/
def stunLayout : Layout UInt8 where
  headLen := 20
  headLen_pos := by decide
  bodyLen head := (toU16 (head.getD 2 0) (head.getD 3 0)).toNat

theorem bodyLen_bytes (h : Header) : stunLayout.bodyLen h.bytes = h.attrsLen.toNat := by
  simp only [stunLayout, Header.bytes, ofU16, List.cons_append, List.nil_append,
    List.getD_cons_succ, List.getD_cons_zero, toU16_ofU16]

/-- A message within the limit is as long as its header says. -/
theorem whole_message (method : UInt16) (txid : TxId) {attrs : List Attr}
    (hfit : sectionLen attrs ≤ 65535) : stunLayout.Whole (message method txid attrs) := by
  have htake : (message method txid attrs).take 20 =
      (Header.mk method (UInt16.ofNat (attrFormat.size attrs)) txid).bytes := by
    rw [message_eq, List.take_left' (Header.length_bytes _)]
  rw [Layout.Whole, Layout.span, length_message, show stunLayout.headLen = 20 from rfl, htake,
    bodyLen_bytes, ← sectionLen_eq_size, toNat_cast_of_lt (by omega)]

/-! ## Requests -/

/-- A request of the TURN builders. -/
inductive TurnRequest where
  | allocateUnauth (txid : TxId)
  | allocateAuthed (txid : TxId) (username realm : String) (nonce : List UInt8) (key : Key)
  | createPermission (txid : TxId) (username realm : String) (nonce : List UInt8) (key : Key)
      (peer : SocketAddr)

namespace TurnRequest

/-- What is sent over UDP. -/
def bytes (crypto : Crypto) : TurnRequest → List UInt8
  | allocateUnauth txid => (buildAllocateUnauth txid).2
  | allocateAuthed txid username realm nonce key =>
    (buildAllocateAuthed crypto txid username realm nonce key).2
  | createPermission txid username realm nonce key peer =>
    (TurnEchoCheck.buildCreatePermission crypto txid username realm nonce key peer).2

/-- The attributes fit the length field of the header. -/
def Fits (crypto : Crypto) (r : TurnRequest) : Prop := (r.bytes crypto).length - 20 ≤ 65535

theorem bytes_eq_message (crypto : Crypto) : ∀ r : TurnRequest,
    ∃ method txid attrs, r.bytes crypto = message method txid attrs
  | allocateUnauth txid =>
    ⟨allocateRequest, txid, [⟨attr.requestedTransport, ofU32 transportUdp⟩], rfl⟩
  | allocateAuthed txid username realm nonce key =>
    ⟨_, _, _, buildAllocateAuthed_eq crypto txid ⟨username, "", realm, nonce⟩ key⟩
  | createPermission txid username realm nonce key peer =>
    ⟨_, _, _, buildCreatePermission_eq crypto txid ⟨username, "", realm, nonce⟩ key peer⟩

theorem whole_bytes {crypto : Crypto} {r : TurnRequest} (h : r.Fits crypto) :
    stunLayout.Whole (r.bytes crypto) := by
  obtain ⟨method, txid, attrs, hmsg⟩ := bytes_eq_message crypto r
  rw [Fits, hmsg, length_message, Nat.add_sub_cancel_left] at h
  rw [hmsg]
  exact whole_message method txid h

end TurnRequest

/-! ## The stream -/

theorem length_flatMap_frame (msgs : List (List UInt8)) :
    (msgs.flatMap TlsStream.frame).length = (msgs.map List.length).sum + 2 * msgs.length := by
  induction msgs with
  | nil => rfl
  | cons msg msgs ih =>
    rw [List.flatMap_cons, List.length_append, ih, List.map_cons, List.sum_cons, List.length_cons,
      TlsStream.frame, List.length_append, length_ofU16]
    omega

/-- A server that delimits messages by their headers reads requests one after the other as
these requests. What is written for them on the TLS stream it reads as them exactly if there
are none. -/
theorem turnsStream_iff (crypto : Crypto) (requests : List TurnRequest)
    (hfit : ∀ r ∈ requests, r.Fits crypto) {s s' : TlsStream} (hs : s.written = [])
    (hsend : (requests.map (TurnRequest.bytes crypto)).foldlM TlsStream.sendFramed s = .ok s') :
    stunLayout.split (requests.map (TurnRequest.bytes crypto)).flatten =
        some (requests.map (TurnRequest.bytes crypto)) ∧
      (stunLayout.split s'.written = some (requests.map (TurnRequest.bytes crypto)) ↔
        requests = []) := by
  have hwritten := TlsStream.written_of_sendAll hsend
  rw [hs, List.nil_append] at hwritten
  refine ⟨Layout.split_flatten fun msg hmsg => ?_, fun hread => ?_, ?_⟩
  · obtain ⟨r, hr, rfl⟩ := List.mem_map.1 hmsg
    exact TurnRequest.whole_bytes (hfit r hr)
  · have hlen := Layout.length_of_split hread
    rw [hwritten, length_flatMap_frame, List.length_map] at hlen
    exact List.length_eq_zero_iff.1 (by omega)
  · rintro rfl
    rw [hwritten]
    exact Layout.split_nil

namespace Sample

/-- A stream that accepts what is written. -/
def acceptingStream : TlsStream := ⟨0, [], [], fun _ => none, fun _ _ => .ok [], fun _ _ => 0⟩

/-- The two Allocate requests of the login. -/
def allocateRequests : List TurnRequest :=
  [.allocateUnauth (txid 1), .allocateAuthed (txid 2) "user" "example.org" (Utf8.asBytes "nonce")
    (longTermKey crypto "user" "example.org" "pass")]

end Sample

open Sample in
/-- The two Allocate requests of a login are read off their concatenation. -/
theorem turnsStream_iff_login :
    stunLayout.split (allocateRequests.map (TurnRequest.bytes crypto)).flatten =
      some (allocateRequests.map (TurnRequest.bytes crypto)) :=
  (turnsStream_iff crypto allocateRequests (by unfold TurnRequest.Fits; decide +kernel)
    (s := acceptingStream) rfl rfl).1

open Sample in
/-- Written on the stream, not even the first is. -/
theorem framed_allocate_unread : ∃ s',
    acceptingStream.sendFramed ((TurnRequest.allocateUnauth (txid 1)).bytes crypto) = .ok s' ∧
      stunLayout.split s'.written ≠ some [(TurnRequest.allocateUnauth (txid 1)).bytes crypto] :=
  ⟨_, rfl, by decide +kernel⟩

end WebrtcDoctor
