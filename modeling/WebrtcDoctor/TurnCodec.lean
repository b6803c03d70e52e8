import WebrtcDoctor.StunCodec

/-!
# Building and parsing TURN messages

The message builders, the MESSAGE-INTEGRITY attachment, the long-term credential key and
the Allocate response parser of `turn_codec.rs`. MD5 and HMAC-SHA1 are a `Crypto`, a pair
of functions with outputs of fixed length. A new transaction ID is an argument of the
builder that draws it.

A built message is a header followed by the encoding of its attributes (`message_eq`,
`attachMessageIntegrity_eq`).
-/

open BigEndian Checked NetAddr

namespace WebrtcDoctor

/-- The digests the builders use. -/
structure Crypto where
  md5 : List UInt8 → Vector UInt8 16
  /-- HMAC-SHA1 of a message under a key. -/
  hmacSha1 : List UInt8 → List UInt8 → Vector UInt8 20

/-- `[u8; 16]`, a long-term credential key. -/
abbrev Key := Vector UInt8 16

/-! ## Method codes -/

/-- An Allocate request. -/
def allocateRequest : UInt16 := 0x0003

/-- The success response to it. -/
def allocateSuccess : UInt16 := 0x0103

/-- The error response to it. -/
def allocateError : UInt16 := 0x0113

/-- A CreatePermission request. -/
def createPermissionRequest : UInt16 := 0x0008

/-- The success response to it. -/
def createPermissionSuccess : UInt16 := 0x0108

/-- The error response to it. -/
def createPermissionError : UInt16 := 0x0118

/-- REQUESTED-TRANSPORT value for UDP (RFC 5766 §14.7). -/
def transportUdp : UInt32 := (17 : UInt32) <<< 24

/-! ## Message building -/

/-- A 20-byte header for `method`, its length left at zero. -/
def stunHeader (method : UInt16) (txid : TxId) : List UInt8 :=
  ofU16 method ++ ofU16 0 ++ ofU32 magicCookie ++ txid.toList

/-- Append an attribute, padding the value to four bytes. -/
def appendAttr (msg : List UInt8) (attrType : UInt16) (value : List UInt8) : List UInt8 :=
  msg ++ ofU16 attrType ++ ofU16 (UInt16.ofNat value.length) ++ value ++
    List.replicate ((4 - value.length % 4) % 4) 0

/-- Rewrite the header's length field to what follows the header. -/
def setAttrsLength (msg : List UInt8) : List UInt8 :=
  let attrsLen := UInt16.ofNat (msg.length - 20)
  msg.take 2 ++ ofU16 attrsLen ++ msg.drop 4

/-- Append MESSAGE-INTEGRITY. The length field covers it, the digest is of the bytes
before it. -/
def attachMessageIntegrity (crypto : Crypto) (msg : List UInt8) (key : Key) : List UInt8 :=
  let lengthWithMi := UInt16.ofNat (msg.length - 20 + 24)
  let msg := msg.take 2 ++ ofU16 lengthWithMi ++ msg.drop 4
  let digest := crypto.hmacSha1 key.toList msg
  msg ++ ofU16 attr.messageIntegrity ++ ofU16 20 ++ digest.toList

/-- `MD5(username ":" realm ":" password)`. -/
def longTermKey (crypto : Crypto) (username realm password : String) : Key :=
  crypto.md5 (Utf8.asBytes username ++ Utf8.asBytes ":" ++ Utf8.asBytes realm ++
    Utf8.asBytes ":" ++ Utf8.asBytes password)

/-- An unauthenticated Allocate request. -/
def buildAllocateUnauth (txid : TxId) : TxId × List UInt8 :=
  let msg := stunHeader allocateRequest txid
  let msg := appendAttr msg attr.requestedTransport (ofU32 transportUdp)
  (txid, setAttrsLength msg)

/-- An Allocate request with the long-term credentials. -/
def buildAllocateAuthed (crypto : Crypto) (txid : TxId) (username realm : String)
    (nonce : List UInt8) (key : Key) : TxId × List UInt8 :=
  let msg := stunHeader allocateRequest txid
  let msg := appendAttr msg attr.requestedTransport (ofU32 transportUdp)
  let msg := appendAttr msg attr.username (Utf8.asBytes username)
  let msg := appendAttr msg attr.realm (Utf8.asBytes realm)
  let msg := appendAttr msg attr.nonce nonce
  (txid, attachMessageIntegrity crypto msg key)

/-! ## Allocate responses -/

/-- Outcome of an Allocate request from the server's perspective. -/
inductive AllocateOutcome where
  | success (relayed : SocketAddr) (lifetime : UInt32)
  /-- 401 with REALM and NONCE, the challenge. -/
  | unauthorized (realm : String) (nonce : List UInt8)
  | error (code : UInt16) (reason : String)
deriving DecidableEq, Repr

/-- Why an Allocate response is rejected. -/
inductive AllocateError where
  | codec (e : CodecError)
  | wrongType (msgType : UInt16)
  | missingAttr (name : String)
deriving DecidableEq, Repr

instance : ToString AllocateError where
  toString
    | .codec e => toString e
    | .wrongType msgType => "unexpected message type 0x" ++ hexPad 4 msgType.toNat
    | .missingAttr name => s!"missing required attribute {name}"

/-- One attribute of a success response, over the relay address and lifetime so far. -/
def allocateSuccessStep (txid : TxId) (s : Option SocketAddr × UInt32) (a : Attr) :
    Checked CodecError (Option SocketAddr × UInt32) :=
  if a.attrType = attr.xorRelayedAddress then do
    return (some (← parseXorAddress a.value txid), s.2)
  else if a.attrType = attr.lifetime ∧ 4 ≤ a.value.length then do
    return (s.1, toU32 (← get a.value 0) (← get a.value 1) (← get a.value 2) (← get a.value 3))
  else return s

/-- What an error response has told so far. -/
structure ErrorFields where
  code : UInt16
  reason : String
  realm : Option String
  nonce : Option (List UInt8)
deriving DecidableEq, Repr

/-- One attribute of an error response. -/
def allocateErrorStep (s : ErrorFields) (a : Attr) : Checked CodecError ErrorFields :=
  if a.attrType = attr.errorCode then do
    let ec ← parseErrorCode a.value
    return { s with code := ec.code, reason := ec.reason }
  else if a.attrType = attr.realm then
    return { s with realm := some (Utf8.fromUtf8Lossy a.value) }
  else if a.attrType = attr.nonce then return { s with nonce := some a.value }
  else return s

/-- Parse an Allocate success or error response to the request `txid`. -/
def parseAllocateResponse (buf : List UInt8) (txid : TxId) :
    Checked AllocateError AllocateOutcome := do
  let header ← (parseHeader buf txid).mapErr .codec
  let attrs ← (walkAttrs buf header.attrsLen).mapErr .codec
  if header.msgType = allocateSuccess then do
    let (relayed, lifetime) ←
      (attrs.foldlM (allocateSuccessStep txid) (none, 0)).mapErr .codec
    match relayed with
    | some relayed => return .success relayed lifetime
    | none => .err (.missingAttr "XOR-RELAYED-ADDRESS")
  else if header.msgType = allocateError then do
    let s ← (attrs.foldlM allocateErrorStep ⟨0, "", none, none⟩).mapErr .codec
    if s.code = 401 then
      match s.realm, s.nonce with
      | none, _ => .err (.missingAttr "REALM")
      | some _, none => .err (.missingAttr "NONCE")
      | some realm, some nonce => return .unauthorized realm nonce
    else return .error s.code s.reason
  else .err (.wrongType header.msgType)

/-! ## Built messages -/

/-- The header `method txid` followed by `attrs` in order, with its length set. -/
def message (method : UInt16) (txid : TxId) (attrs : List Attr) : List UInt8 :=
  setAttrsLength
    (attrs.foldl (fun msg a => appendAttr msg a.attrType a.value) (stunHeader method txid))

theorem stunHeader_eq (method : UInt16) (txid : TxId) :
    stunHeader method txid = (Header.mk method 0 txid).bytes := rfl

@[simp] theorem length_stunHeader (method : UInt16) (txid : TxId) :
    (stunHeader method txid).length = 20 := by
  rw [stunHeader_eq, Header.length_bytes]

theorem appendAttr_eq (msg : List UInt8) (attrType : UInt16) (value : List UInt8) :
    appendAttr msg attrType value = msg ++ attrFormat.encodeItem 0 ⟨attrType, value⟩ := by
  simp only [appendAttr, List.append_assoc]
  rfl

theorem foldl_appendAttr (msg : List UInt8) (attrs : List Attr) :
    attrs.foldl (fun msg a => appendAttr msg a.attrType a.value) msg =
      msg ++ attrFormat.encode 0 attrs := by
  induction attrs generalizing msg with
  | nil => simp
  | cons a attrs ih => rw [List.foldl_cons, ih, appendAttr_eq, List.append_assoc]; rfl

/-- A length written into a fresh header. -/
theorem setLength_stunHeader (method : UInt16) (txid : TxId) (n : UInt16) (body : List UInt8) :
    (stunHeader method txid ++ body).take 2 ++ ofU16 n ++ (stunHeader method txid ++ body).drop 4 =
      (Header.mk method n txid).bytes ++ body := by
  simp only [stunHeader, Header.bytes, ofU16, List.cons_append, List.nil_append,
    List.take_succ_cons, List.take_zero, List.drop_succ_cons, List.drop_zero, List.append_assoc]

theorem setAttrsLength_eq (method : UInt16) (txid : TxId) (body : List UInt8) :
    setAttrsLength (stunHeader method txid ++ body) =
      (Header.mk method (UInt16.ofNat body.length) txid).bytes ++ body := by
  simp only [setAttrsLength, List.length_append, length_stunHeader, Nat.add_sub_cancel_left,
    setLength_stunHeader]

/-- A finished message is its header, with the length of the section, and the section. -/
theorem message_eq (method : UInt16) (txid : TxId) (attrs : List Attr) :
    message method txid attrs =
      (Header.mk method (UInt16.ofNat (attrFormat.size attrs)) txid).bytes ++
        attrFormat.encode 0 attrs := by
  rw [message, foldl_appendAttr, setAttrsLength_eq, attrFormat.length_encode]

/-- The MESSAGE-INTEGRITY attribute of a message of `attrs` under `key`. -/
def integrityAttr (crypto : Crypto) (method : UInt16) (txid : TxId) (attrs : List Attr)
    (key : Key) : Attr :=
  ⟨attr.messageIntegrity, (crypto.hmacSha1 key.toList
    ((Header.mk method (UInt16.ofNat (attrFormat.size attrs + 24)) txid).bytes ++
      attrFormat.encode 0 attrs)).toList⟩

theorem span_integrityAttr (crypto : Crypto) (method : UInt16) (txid : TxId) (attrs : List Attr)
    (key : Key) : attrFormat.span (integrityAttr crypto method txid attrs key) = 24 := by
  simp [Tlv.Format.span, Tlv.Format.pad, attrFormat, integrityAttr]

/-- Attaching MESSAGE-INTEGRITY gives a message of the attributes and the integrity
attribute. -/
theorem attachMessageIntegrity_eq (crypto : Crypto) (method : UInt16) (txid : TxId)
    (attrs : List Attr) (key : Key) :
    attachMessageIntegrity crypto (stunHeader method txid ++ attrFormat.encode 0 attrs) key =
      message method txid (attrs ++ [integrityAttr crypto method txid attrs key]) := by
  have hsize : attrFormat.size (attrs ++ [integrityAttr crypto method txid attrs key]) =
      attrFormat.size attrs + 24 := by
    rw [Tlv.Format.size, List.map_append, List.sum_append, List.map_singleton, List.sum_singleton,
      span_integrityAttr]
    rfl
  have hitem : attrFormat.encodeItem 0 (integrityAttr crypto method txid attrs key) =
      ofU16 attr.messageIntegrity ++ ofU16 20 ++
        (integrityAttr crypto method txid attrs key).value := by
    simp [Tlv.Format.encodeItem, Tlv.Format.pad, attrFormat, integrityAttr]
  rw [message_eq, hsize, attrFormat.encode_append, attrFormat.encode_cons, attrFormat.encode_nil,
    hitem]
  simp only [attachMessageIntegrity, List.length_append, length_stunHeader,
    Nat.add_sub_cancel_left, attrFormat.length_encode, setLength_stunHeader, integrityAttr]
  simp only [List.append_assoc, List.append_nil]

/-! ## The parser cannot panic -/

theorem allocateSuccessStep_safe (txid : TxId) (s : Option SocketAddr × UInt32) (a : Attr) :
    (allocateSuccessStep txid s a).Safe := by
  refine safe_ite (fun _ => ?_) fun _ => safe_ite (fun h => ?_) fun _ => safe_ok _
  · exact safe_bind (parseXorAddress_safe _ _) fun _ _ => safe_ok _
  · obtain ⟨-, h⟩ := h
    iterate 4 refine safe_bind (safe_get (by omega)) fun _ _ => ?_
    exact safe_ok _

theorem allocateErrorStep_safe (s : ErrorFields) (a : Attr) : (allocateErrorStep s a).Safe := by
  refine safe_ite (fun _ => ?_) fun _ => safe_ite (fun _ => safe_ok _) fun _ =>
    safe_ite (fun _ => safe_ok _) fun _ => safe_ok _
  exact safe_bind (parseErrorCode_safe _) fun _ _ => safe_ok _

/-- No read of the parser is outside the buffer. -/
theorem parseAllocateResponse_safe (buf : List UInt8) (txid : TxId) :
    (parseAllocateResponse buf txid).Safe := by
  refine safe_bind (safe_mapErr (parseHeader_safe _ _)) fun h hh => ?_
  refine safe_bind (safe_mapErr (walkAttrs_safe (mapErr_eq_ok.1 hh))) fun attrs _ => ?_
  refine safe_ite (fun _ => ?_) fun _ => safe_ite (fun _ => ?_) fun _ => safe_err _
  · refine safe_bind (safe_mapErr (safe_foldlM (fun s a _ => allocateSuccessStep_safe txid s a) _))
      fun s _ => ?_
    obtain ⟨_ | relayed, lifetime⟩ := s
    · exact safe_err _
    · exact safe_ok _
  · refine safe_bind (safe_mapErr (safe_foldlM (fun s a _ => allocateErrorStep_safe s a) _))
      fun s _ => safe_ite (fun _ => ?_) fun _ => safe_ok _
    obtain ⟨code, reason, _ | realm, _ | nonce⟩ := s
    · exact safe_err _
    · exact safe_err _
    · exact safe_err _
    · exact safe_ok _

end WebrtcDoctor
