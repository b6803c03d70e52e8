import WebrtcDoctor.Credential
import WebrtcDoctor.DataIndication
import WebrtcDoctor.MappedAddress

/-!
# A relay

The TURN server that the probe is made for, in its own terms : a Binding server and a relay
(RFC 5389, RFC 5766) as it deals with one client. It challenges an Allocate request without
credentials, allocates for one with those of its user, installs the permissions it is asked
for, and indicates to the client what peers with a permission send to the relayed address.

`Relay.step` is one datagram, `Relay.answers` what a whole trace of them makes it send last. An
answer may carry other attributes around those it is sent for (`Relay.others`), as a SOFTWARE or a
MESSAGE-INTEGRITY. A `Relay` carries what keeps its answers readable : its 401 is one, the other
attributes do not take the place of those that the probe reads, and each answer fits in the buffer
of the probe.
-/

open BigEndian Checked NetAddr

namespace WebrtcDoctor

open TurnEchoCheck (messageType ownTxid dataIndication)
open LongTermServer

/-- A relay and what it knows of one client. -/
structure Relay where
  crypto : Crypto
  login : LongTermServer
  /-- Where it listens. -/
  addr : SocketAddr
  /-- What it allocates. -/
  relayed : SocketAddr
  /-- The client as it sees it. -/
  client : SocketAddr
  lifetime : UInt32
  /-- The attributes of its 401. -/
  challengeAttrs : List Attr
  /-- The attributes of an answer before and after those it is sent for. -/
  others : UInt16 → TxId → List Attr × List Attr
  /-- The transaction ID of its indications. -/
  indicationTxid : TxId
  relayed_ne : relayed ≠ addr
  challenge : login.IsChallenge challengeAttrs
  fits : 20 + sectionLen challengeAttrs ≤ UdpSocket.bufLen
  others_fit : ∀ method txid,
    sectionLen (others method txid).1 + sectionLen (others method txid).2 ≤ 1300
  others_mapped : ∀ txid, ∀ a ∈ (others StunBindingCheck.bindingSuccess txid).1,
    a.attrType ≠ attr.xorMappedAddress ∧ a.attrType ≠ attr.mappedAddress
  others_grant : ∀ txid,
    ∀ a ∈ (others allocateSuccess txid).1 ++ (others allocateSuccess txid).2,
      a.attrType ≠ attr.xorRelayedAddress ∧ a.attrType ≠ attr.lifetime
  others_data : ∀ txid, ∀ a ∈ (others dataIndication txid).1, a.attrType ≠ attr.data
  /-- A username has less than 513 bytes. -/
  username_short : (Utf8.asBytes login.username).length < 513

namespace Relay

/-- What the relay keeps of the client. -/
structure State where
  allocated : Bool
  /-- Whom the client has asked to hear. A permission is for an IP address, whatever the port. -/
  permitted : List IpAddr
deriving DecidableEq

/-- Nothing is allocated yet. -/
def start : State := ⟨false, []⟩

/-- The attributes of a request. -/
def attrsOf (request : List UInt8) : List Attr := (attrFormat.decode (request.drop 20)).getD []

/-- The peer that a CreatePermission request names. -/
def peerOf (request : List UInt8) : Option SocketAddr :=
  (valueOf (attrsOf request) attr.xorPeerAddress).bind fun value =>
    match parseXorAddress value (ownTxid request) with
    | .ok peer => some peer
    | _ => none

variable (r : Relay)

/-- The 401 to a request. -/
def unauthorized (method : UInt16) (txid : TxId) : List UInt8 :=
  message method txid r.challengeAttrs

/-- `own` between the other attributes of an answer. -/
def around (method : UInt16) (txid : TxId) (own : List Attr) : List Attr :=
  (r.others method txid).1 ++ (own ++ (r.others method txid).2)

/-- An answer that is sent for `own`. -/
def answer (method : UInt16) (txid : TxId) (own : List Attr) : List UInt8 :=
  message method txid (r.around method txid own)

/-- The answer to an Allocate request with the credentials of the user. -/
def grant (txid : TxId) : List UInt8 :=
  r.answer allocateSuccess txid
    [⟨attr.xorRelayedAddress, buildXorAddress r.relayed txid⟩, ⟨attr.lifetime, ofU32 r.lifetime⟩]

/-- The answer to a CreatePermission request with the credentials of the user. -/
def permitted (txid : TxId) : List UInt8 := r.answer createPermissionSuccess txid []

/-- What the client is sent for the datagram `data` of a peer, the client itself. -/
def indicate (data : List UInt8) : List UInt8 :=
  r.answer dataIndication r.indicationTxid
    [⟨attr.xorPeerAddress, buildXorAddress r.client r.indicationTxid⟩, ⟨attr.data, data⟩]

/-- The answer to a Binding request. -/
def mapped (txid : TxId) : List UInt8 :=
  r.answer StunBindingCheck.bindingSuccess txid
    [⟨attr.xorMappedAddress, buildXorAddress r.client txid⟩]

/-- A request of the client to the relay's own address. -/
def onRequest (s : State) (request : List UInt8) : State × List (List UInt8) :=
  if messageType request = StunBindingCheck.bindingRequest then (s, [r.mapped (ownTxid request)])
  else if messageType request = allocateRequest then
    if accepts r.crypto r.login request then
      ({ s with allocated := true }, [r.grant (ownTxid request)])
    else (s, [r.unauthorized allocateError (ownTxid request)])
  else if messageType request = createPermissionRequest then
    if s.allocated ∧ accepts r.crypto r.login request then
      ({ s with permitted := s.permitted ++ ((peerOf request).map SocketAddr.ip).toList },
        [r.permitted (ownTxid request)])
    else (s, [r.unauthorized createPermissionError (ownTxid request)])
  else (s, [])

/-- One datagram of the client. -/
def step (s : State) (d : Sent) : State × List (List UInt8) :=
  if d.target = r.addr then r.onRequest s d.bytes
  else if d.target = r.relayed ∧ s.allocated ∧ r.client.ip ∈ s.permitted then
    (s, [r.indicate d.bytes])
  else (s, [])

/-- What the relay keeps after a trace of datagrams. -/
def stateAfter (sent : List Sent) : State := sent.foldl (fun s d => (r.step s d).1) start

/-- What the last datagram of a trace makes the relay send. -/
def answers (sent : List Sent) : List (List UInt8) :=
  match sent.getLast? with
  | none => []
  | some d => (r.step (r.stateAfter sent.dropLast) d).2

/-- The same over a path on which some of the datagrams to the relayed address, or what they
bring back, are lost. -/
def answersOver (delivers : List UInt8 → Bool) (sent : List Sent) : List (List UInt8) :=
  match sent.getLast? with
  | none => []
  | some d => if d.target = r.relayed ∧ !delivers d.bytes then [] else r.answers sent

/-- The relay as another socket of the client meets it. -/
def seenFrom (client : SocketAddr) : Relay := { r with client := client }

theorem stateAfter_concat (sent : List Sent) (d : Sent) :
    r.stateAfter (sent ++ [d]) = (r.step (r.stateAfter sent) d).1 := by
  rw [stateAfter, List.foldl_append]
  rfl

theorem answers_concat (sent : List Sent) (d : Sent) :
    r.answers (sent ++ [d]) = (r.step (r.stateAfter sent) d).2 := by
  rw [answers, List.getLast?_concat, List.dropLast_concat]

theorem answersOver_concat (delivers : List UInt8 → Bool) (sent : List Sent) (d : Sent) :
    r.answersOver delivers (sent ++ [d]) =
      if d.target = r.relayed ∧ !delivers d.bytes then [] else r.answers (sent ++ [d]) := by
  rw [answersOver, List.getLast?_concat]

end Relay

/-! ## Reading a message -/

@[simp] theorem messageType_message (method : UInt16) (txid : TxId) (attrs : List Attr) :
    messageType (message method txid attrs) = method := by
  rw [message_eq]
  exact toU16_ofU16 method

@[simp] theorem ownTxid_message (method : UInt16) (txid : TxId) (attrs : List Attr) :
    ownTxid (message method txid attrs) = txid := by
  rw [message_eq]
  refine Vector.ext fun i hi => ?_
  set header := Header.mk method (UInt16.ofNat (attrFormat.size attrs)) txid
  have hlen : 8 + i < header.bytes.length := by
    rw [Header.length_bytes]
    omega
  have hdrop : header.bytes.drop 8 = txid.toList := rfl
  have hbyte : header.bytes[8 + i]? = txid.toList[i]? := by rw [← hdrop, List.getElem?_drop]
  rw [ownTxid, Vector.getElem_ofFn, List.getD_append _ _ _ _ hlen, List.getD_eq_getElem?_getD,
    hbyte, Vector.getElem?_toList, Vector.getElem?_eq_getElem hi, Option.getD_some]

theorem decode_message (method : UInt16) (txid : TxId) {attrs : List Attr}
    (h : sectionLen attrs ≤ 65535) :
    attrFormat.decode ((message method txid attrs).drop 20) = some attrs := by
  rw [message_eq, List.drop_left' (Header.length_bytes _)]
  refine attrFormat.decode_encode 0 fun a ha => ?_
  have hle := attrFormat.length_value_le_size ha
  rw [← sectionLen_eq_size] at hle
  have hlimit : attrFormat.limit = 65536 := rfl
  omega

/-- A request that is accepted names the user. -/
theorem username_of_accepts {crypto : Crypto} {s : LongTermServer} {method : UInt16} {txid : TxId}
    {attrs : List Attr} (h : accepts crypto s (message method txid attrs)) :
    valueOf (beforeIntegrity attrs) attr.username = some (Utf8.asBytes s.username) := by
  simp only [accepts, Bool.and_eq_true, decide_eq_true_eq] at h
  obtain ⟨⟨-, hlen⟩, h⟩ := h
  have hfit : sectionLen attrs ≤ 65535 := by
    rw [length_message] at hlen
    have := (toU16 ((message method txid attrs).getD 2 0)
      ((message method txid attrs).getD 3 0)).toNat_lt
    omega
  rw [decode_message method txid hfit] at h
  simp only [Bool.and_eq_true, decide_eq_true_eq] at h
  exact h.1.1.1

end WebrtcDoctor
