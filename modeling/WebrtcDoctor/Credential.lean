import WebrtcDoctor.AllocateFields
import WebrtcDoctor.TurnAlloc
import WebrtcDoctor.TurnEcho

/-!
# The long-term credential handshake

`LongTermServer` is the server's side of the long-term credential mechanism of RFC 5389, in
its own terms : what it holds of a user, the 401 it answers a request without credentials
with, and the verifier `accepts` of a request with them. The verifier finds
MESSAGE-INTEGRITY in the section, and computes the digest over the bytes before it with a
length that ends after it.

A message whose last attribute is that of `integrityAttr` is accepted
(`accepts_message`). The two requests the probe signs are such messages, of four attributes
each. `credential_accepted` takes them from the server's 401, through the parser and the
builders and through a run that stores its session, to the verifier.
-/

open BigEndian Checked NetAddr

namespace WebrtcDoctor

/-! ## The server -/

/-- What the server holds of one user. -/
structure LongTermServer where
  username : String
  password : String
  realm : String
  nonce : List UInt8

namespace LongTermServer

/-- The value of the first attribute of a type. -/
def valueOf (attrs : List Attr) (attrType : UInt16) : Option (List UInt8) :=
  (attrs.find? fun a => a.attrType = attrType).map Attr.value

/-- The attributes before MESSAGE-INTEGRITY. -/
def beforeIntegrity (attrs : List Attr) : List Attr :=
  attrs.takeWhile fun a => a.attrType ≠ attr.messageIntegrity

/-- What MESSAGE-INTEGRITY at offset `o` is the digest of : the bytes before it, under a
length that ends after it. -/
def integrityInput (request : List UInt8) (o : ℕ) : List UInt8 :=
  request.take 2 ++ ofU16 (UInt16.ofNat (o + 24 - 20)) ++ (request.take o).drop 4

/-- The key of the user. -/
def key (crypto : Crypto) (s : LongTermServer) : Key :=
  crypto.md5 (Utf8.asBytes (s.username ++ ":" ++ s.realm ++ ":" ++ s.password))

/-- The verifier. The request is one whole message, it names the user and repeats the realm
and the nonce, and its digest is the one the server computes. -/
def accepts (crypto : Crypto) (s : LongTermServer) (request : List UInt8) : Bool :=
  (request.drop 4).take 4 = ofU32 magicCookie &&
  (toU16 (request.getD 2 0) (request.getD 3 0)).toNat + 20 = request.length &&
  match attrFormat.decode (request.drop 20) with
  | none => false
  | some attrs =>
    let signed := beforeIntegrity attrs
    valueOf signed attr.username = some (Utf8.asBytes s.username) &&
    valueOf signed attr.realm = some (Utf8.asBytes s.realm) &&
    valueOf signed attr.nonce = some s.nonce &&
    valueOf attrs attr.messageIntegrity =
      some (crypto.hmacSha1 (s.key crypto).toList
        (integrityInput request (20 + sectionLen signed))).toList

/-- The attributes of a 401 : one ERROR-CODE, the realm and the nonce, and any others, in
any order. -/
structure IsChallenge (s : LongTermServer) (attrs : List Attr) : Prop where
  code : ∃ reason, attrs.filter (fun a => a.attrType = attr.errorCode) =
    [⟨attr.errorCode, 0 :: 0 :: 4 :: 1 :: reason⟩]
  realm : attrs.filter (fun a => a.attrType = attr.realm) = [⟨attr.realm, Utf8.asBytes s.realm⟩]
  nonce : attrs.filter (fun a => a.attrType = attr.nonce) = [⟨attr.nonce, s.nonce⟩]

/-- The attributes that carry the credentials. -/
def credentialAttrs (s : LongTermServer) : List Attr :=
  [⟨attr.username, Utf8.asBytes s.username⟩, ⟨attr.realm, Utf8.asBytes s.realm⟩,
    ⟨attr.nonce, s.nonce⟩]

/-- The signed attributes of the second Allocate request. -/
def allocateAttrs (s : LongTermServer) : List Attr :=
  ⟨attr.requestedTransport, [17, 0, 0, 0]⟩ :: s.credentialAttrs

/-- The signed attributes of the CreatePermission request for `peer`. -/
def permissionAttrs (s : LongTermServer) (txid : TxId) (peer : SocketAddr) : List Attr :=
  ⟨attr.xorPeerAddress, buildXorAddress peer txid⟩ :: s.credentialAttrs

end LongTermServer

open LongTermServer

/-! ## The probe's reading of a 401 -/

/-- Class 4 and number 1 make a 401. -/
theorem parseErrorCode_unauthorized (reason : List UInt8) :
    parseErrorCode (0 :: 0 :: 4 :: 1 :: reason) = .ok ⟨401, Utf8.fromUtf8Lossy reason⟩ := by
  have hslice : (slice (0 :: 0 :: 4 :: 1 :: reason) 4 (0 :: 0 :: 4 :: 1 :: reason).length :
      Checked CodecError (List UInt8)) = .ok reason := by
    rw [slice_of_le (by simp) le_rfl]
    simp
  unfold parseErrorCode
  rw [if_neg (by simp), hslice]
  rfl

/-- The probe reads the server's realm and nonce off its 401. -/
theorem parse_challenge {s : LongTermServer} {attrs : List Attr} (h : s.IsChallenge attrs)
    (hfit : sectionLen attrs ≤ 65535) (txid : TxId) :
    parseAllocateResponse (message allocateError txid attrs) txid =
      .ok (.unauthorized s.realm s.nonce) := by
  obtain ⟨⟨reason, hcode⟩, hrealm, hnonce⟩ := h
  have hfold := errorFold_eq (fun _ => ⟨401, Utf8.fromUtf8Lossy reason⟩) attrs ⟨0, "", none, none⟩
    fun a ha ht => by
      rw [eq_of_filter hcode ha ht]
      exact parseErrorCode_unauthorized reason
  rw [lastAttr_of_filter hcode, lastAttr_of_filter hrealm, lastAttr_of_filter hnonce] at hfold
  rw [parse_error_message hfit, hfold, mapErr_ok, ok_bind, ErrorFields.outcome]
  simp [Utf8.fromUtf8Lossy_asBytes]

/-! ## The probe's requests -/

/-- The probe and the server have the same key. -/
theorem longTermKey_eq (crypto : Crypto) (s : LongTermServer) :
    longTermKey crypto s.username s.realm s.password = s.key crypto := by
  simp only [longTermKey, LongTermServer.key, Utf8.asBytes_append]

/-- The second Allocate is a message whose last attribute signs it. -/
theorem buildAllocateAuthed_eq (crypto : Crypto) (txid : TxId) (s : LongTermServer) (key : Key) :
    (buildAllocateAuthed crypto txid s.username s.realm s.nonce key).2 =
      message allocateRequest txid (s.allocateAttrs ++
        [integrityAttr crypto allocateRequest txid s.allocateAttrs key]) := by
  show attachMessageIntegrity crypto (s.allocateAttrs.foldl
    (fun msg a => appendAttr msg a.attrType a.value) (stunHeader allocateRequest txid)) key = _
  rw [foldl_appendAttr, attachMessageIntegrity_eq]

/-- The CreatePermission is a message whose last attribute signs it. -/
theorem buildCreatePermission_eq (crypto : Crypto) (txid : TxId) (s : LongTermServer) (key : Key)
    (peer : SocketAddr) :
    (TurnEchoCheck.buildCreatePermission crypto txid s.username s.realm s.nonce key peer).2 =
      message createPermissionRequest txid (s.permissionAttrs txid peer ++
        [integrityAttr crypto createPermissionRequest txid (s.permissionAttrs txid peer) key]) := by
  show attachMessageIntegrity crypto ((s.permissionAttrs txid peer).foldl
    (fun msg a => appendAttr msg a.attrType a.value) (stunHeader createPermissionRequest txid))
    key = _
  rw [foldl_appendAttr, attachMessageIntegrity_eq]

theorem sectionLen_append_integrityAttr (crypto : Crypto) (method : UInt16) (txid : TxId)
    (attrs : List Attr) (key : Key) :
    sectionLen (attrs ++ [integrityAttr crypto method txid attrs key]) = sectionLen attrs + 24 := by
  simp [sectionLen, integrityAttr]

/-! ## The verifier -/

/-- What the verifier digests of a message is what was digested to build it. -/
theorem integrityInput_message (method : UInt16) (txid : TxId) (attrs : List Attr) (last : Attr) :
    integrityInput (message method txid (attrs ++ [last])) (20 + sectionLen attrs) =
      (Header.mk method (UInt16.ofNat (attrFormat.size attrs + 24)) txid).bytes ++
        attrFormat.encode 0 attrs := by
  have htake : (message method txid (attrs ++ [last])).take (20 + sectionLen attrs) =
      (Header.mk method (UInt16.ofNat (attrFormat.size (attrs ++ [last]))) txid).bytes ++
        attrFormat.encode 0 attrs := by
    rw [message_eq, attrFormat.encode_append, ← List.append_assoc, List.take_left']
    rw [List.length_append, Header.length_bytes, attrFormat.length_encode, sectionLen_eq_size]
  have htake₂ : (message method txid (attrs ++ [last])).take 2 = ofU16 method := by
    rw [message_eq]
    rfl
  rw [integrityInput, htake, htake₂, sectionLen_eq_size,
    show 20 + attrFormat.size attrs + 24 - 20 = attrFormat.size attrs + 24 by omega]
  simp only [Header.bytes, ofU16, List.cons_append, List.nil_append, List.drop_succ_cons,
    List.drop_zero, List.append_assoc]

/-- A message that carries the user's attributes and ends in the integrity attribute under
the user's key is accepted. -/
theorem accepts_message {crypto : Crypto} {s : LongTermServer} {attrs : List Attr}
    (method : UInt16) (txid : TxId) (hfit : sectionLen attrs + 24 ≤ 65535)
    (hno : ∀ a ∈ attrs, a.attrType ≠ attr.messageIntegrity)
    (huser : valueOf attrs attr.username = some (Utf8.asBytes s.username))
    (hrealm : valueOf attrs attr.realm = some (Utf8.asBytes s.realm))
    (hnonce : valueOf attrs attr.nonce = some s.nonce) :
    accepts crypto s (message method txid (attrs ++
      [integrityAttr crypto method txid attrs (s.key crypto)])) := by
  set mi := integrityAttr crypto method txid attrs (s.key crypto) with hmi
  have hsize : sectionLen (attrs ++ [mi]) = sectionLen attrs + 24 :=
    sectionLen_append_integrityAttr crypto method txid attrs (s.key crypto)
  have hmsg := message_eq method txid (attrs ++ [mi])
  have hcookie : ((message method txid (attrs ++ [mi])).drop 4).take 4 = ofU32 magicCookie := by
    rw [hmsg]
    rfl
  have hlen : (toU16 ((message method txid (attrs ++ [mi])).getD 2 0)
      ((message method txid (attrs ++ [mi])).getD 3 0)).toNat + 20 =
        (message method txid (attrs ++ [mi])).length := by
    rw [length_message, hmsg, ← sectionLen_eq_size, hsize]
    show (toU16 (UInt8.ofNat ((UInt16.ofNat (sectionLen attrs + 24)).toNat / 256))
      (UInt8.ofNat (UInt16.ofNat (sectionLen attrs + 24)).toNat)).toNat + 20 = _
    rw [toU16_ofU16, toNat_cast_of_lt (by omega), Nat.add_comm]
  have hdec : attrFormat.decode ((message method txid (attrs ++ [mi])).drop 20) =
      some (attrs ++ [mi]) := by
    rw [hmsg, List.drop_left' (Header.length_bytes _)]
    refine attrFormat.decode_encode 0 fun a ha => ?_
    have hle := attrFormat.length_value_le_size ha
    rw [← sectionLen_eq_size, hsize] at hle
    have hlimit : attrFormat.limit = 65536 := rfl
    omega
  have hbefore : beforeIntegrity (attrs ++ [mi]) = attrs := by
    rw [beforeIntegrity, List.takeWhile_append_of_pos (by simpa using hno)]
    simp [hmi, integrityAttr]
  have hvalue : valueOf (attrs ++ [mi]) attr.messageIntegrity = some mi.value := by
    have hnone : attrs.find? (fun a => a.attrType = attr.messageIntegrity) = none := by
      simpa using hno
    rw [valueOf, List.find?_append, hnone]
    simp [hmi, integrityAttr]
  simp only [accepts, hcookie, hlen, hdec, hbefore, hvalue, huser, hrealm, hnonce,
    integrityInput_message, decide_true, Bool.true_and]
  simp [hmi, integrityAttr]

/-- The server accepts the second Allocate of its user. -/
theorem accepts_allocate (crypto : Crypto) (s : LongTermServer) (txid : TxId)
    (hfit : sectionLen s.allocateAttrs + 24 ≤ 65535) :
    accepts crypto s
      (buildAllocateAuthed crypto txid s.username s.realm s.nonce (s.key crypto)).2 := by
  rw [buildAllocateAuthed_eq]
  refine accepts_message _ _ hfit ?_ rfl rfl rfl
  simp only [allocateAttrs, credentialAttrs, List.forall_mem_cons]
  exact ⟨by decide, by decide, by decide, by decide, nofun⟩

/-- The server accepts the CreatePermission of its user. -/
theorem accepts_permission (crypto : Crypto) (s : LongTermServer) (txid : TxId) (peer : SocketAddr)
    (hfit : sectionLen (s.permissionAttrs txid peer) + 24 ≤ 65535) :
    accepts crypto s (TurnEchoCheck.buildCreatePermission crypto txid s.username s.realm s.nonce
      (s.key crypto) peer).2 := by
  rw [buildCreatePermission_eq]
  refine accepts_message _ _ hfit ?_ rfl rfl rfl
  simp only [permissionAttrs, credentialAttrs, List.forall_mem_cons]
  exact ⟨by decide, by decide, by decide, by decide, nofun⟩

/-- The probe reads the request to `txid` as `attrs` and MESSAGE-INTEGRITY after them. -/
def WalksAs (request : List UInt8) (txid : TxId) (attrs : List Attr) : Prop :=
  ∃ h digest, parseHeader request txid = .ok h ∧
    walkAttrs request h.attrsLen = .ok (attrs ++ [⟨attr.messageIntegrity, digest⟩])

/-- The walk of a signed message gives its attributes. -/
theorem walksAs_message (crypto : Crypto) (method : UInt16) (txid : TxId) {attrs : List Attr}
    (key : Key) (hfit : sectionLen attrs + 24 ≤ 65535) :
    WalksAs (message method txid (attrs ++ [integrityAttr crypto method txid attrs key])) txid
      attrs := by
  rw [← sectionLen_append_integrityAttr crypto method txid attrs key] at hfit
  obtain ⟨hheader, hwalk⟩ := parse_message method txid hfit
  exact ⟨_, _, hheader, hwalk⟩

/-- From the server's 401 the probe takes its realm and nonce. The Allocate request it builds
with them and the CreatePermission it builds from the session that a passed run stores are
accepted, and each holds its four attributes and MESSAGE-INTEGRITY, in this order. -/
theorem credential_accepted (env : TurnAllocEnv) (s : LongTermServer) (txid3 : TxId)
    (peer : SocketAddr) {attrs : List Attr} (hchallenge : s.IsChallenge attrs)
    (hfit : sectionLen attrs ≤ 65535) (hallocate : sectionLen s.allocateAttrs + 24 ≤ 65535)
    (hpermission : sectionLen (s.permissionAttrs txid3 peer) + 24 ≤ 65535) :
    let key := longTermKey env.crypto s.username s.realm s.password
    let request := (buildAllocateAuthed env.crypto env.txid2 s.username s.realm s.nonce key).2
    let permission := (TurnEchoCheck.buildCreatePermission env.crypto txid3 s.username s.realm
      s.nonce key peer).2
    parseAllocateResponse (message allocateError env.txid1 attrs) env.txid1 =
        .ok (.unauthorized s.realm s.nonce) ∧
      accepts env.crypto s request ∧ accepts env.crypto s permission ∧
      WalksAs request env.txid2 s.allocateAttrs ∧
      WalksAs permission txid3 (s.permissionAttrs txid3 peer) ∧
      ∀ ctx port ip sock sent sock',
        ctx.port = some port → ctx.resolvedIps.head? = some ip →
        env.bind (localBind ip) = .ok sock →
        ctx.turnUser = some s.username → ctx.turnPass = some s.password →
        sock.sendTo (buildAllocateUnauth env.txid1).2 ⟨ip, port⟩ = .ok sent →
        TurnAllocateCheck.recvAny (ctx.timeoutOr (Duration.fromSecs 5)) sent =
          (.received (message allocateError env.txid1 attrs), sock') →
        (TurnAllocateCheck.run env ctx).2.status = .pass →
        ∃ session, (TurnAllocateCheck.run env ctx).1.turnSession = some session ∧
          session.socket.sent = sock.sent ++
            [⟨⟨ip, port⟩, (buildAllocateUnauth env.txid1).2⟩, ⟨⟨ip, port⟩, request⟩] ∧
          (TurnEchoCheck.buildCreatePermission env.crypto txid3 session.username session.realm
            session.nonce session.key peer).2 = permission := by
  intro key request permission
  have hkey : key = s.key env.crypto := longTermKey_eq env.crypto s
  have hparse := parse_challenge hchallenge hfit env.txid1
  refine ⟨hparse, ?_, ?_, ?_, ?_, ?_⟩
  · have hrequest : request = (buildAllocateAuthed env.crypto env.txid2 s.username s.realm s.nonce
        (s.key env.crypto)).2 := by rw [← hkey]
    rw [hrequest]
    exact accepts_allocate env.crypto s env.txid2 hallocate
  · have hpermission' : permission = (TurnEchoCheck.buildCreatePermission env.crypto txid3
        s.username s.realm s.nonce (s.key env.crypto) peer).2 := by rw [← hkey]
    rw [hpermission']
    exact accepts_permission env.crypto s txid3 peer hpermission
  · rw [show request = _ from buildAllocateAuthed_eq env.crypto env.txid2 s key]
    exact walksAs_message env.crypto allocateRequest env.txid2 key hallocate
  · rw [show permission = _ from buildCreatePermission_eq env.crypto txid3 s key peer]
    exact walksAs_message env.crypto createPermissionRequest txid3 key hpermission
  · intro ctx port ip sock sent sock' hport hip hsock huser hpass hsent hrecv hrun
    have heq := TurnAllocateCheck.run_of_challenge hport hip hsock huser hpass hsent hrecv hparse
    rw [heq] at hrun ⊢
    obtain ⟨sock'', relayed, hsent', hsession⟩ := TurnAllocateCheck.runAuthed_pass hrun
    have hsock' : sock'.sent = sock.sent ++ [⟨⟨ip, port⟩, (buildAllocateUnauth env.txid1).2⟩] := by
      rw [← UdpSocket.sent_of_sendTo hsent,
        ← TurnAllocateCheck.sent_recvAny sent (ctx.timeoutOr (Duration.fromSecs 5)), hrecv]
    refine ⟨_, hsession, ?_, rfl⟩
    rw [hsent', hsock', List.append_assoc]
    rfl

/-! ## A login -/

namespace Sample

/-- The transaction ID of twelve bytes `b`. -/
def txid (b : UInt8) : TxId := Vector.replicate 12 b

/-- Where the server of the samples listens. -/
def server : SocketAddr := ⟨.v4 0xC0000201, 3478⟩

/-- The client as the server sees it. -/
def srflx : SocketAddr := ⟨.v4 0xCB007105, 40000⟩

/-- What the server allocates. -/
def relayed : SocketAddr := ⟨.v4 0xC0000201, 49152⟩

/-- The one user of the server. -/
def login : LongTermServer where
  username := "user"
  password := "pass"
  realm := "example.org"
  nonce := Utf8.asBytes "nonce"

/-- The digests of this login : its key, and those under it of the Allocate request and of
the CreatePermission request for `srflx`. -/
def crypto : Crypto where
  md5 _ := #v[171, 202, 53, 53, 111, 75, 0, 251, 195, 62, 45, 140, 44, 67, 185, 214]
  hmacSha1 _ msg :=
    if msg.take 2 = ofU16 allocateRequest then
      #v[208, 213, 187, 57, 133, 123, 213, 55, 115, 40, 44, 208, 181, 17, 94, 125, 195, 237, 87,
        198]
    else
      #v[82, 119, 208, 14, 194, 35, 72, 56, 222, 144, 153, 37, 43, 134, 87, 71, 221, 133, 248, 91]

/-- The attributes of its 401. -/
def challengeAttrs : List Attr :=
  [⟨attr.errorCode, 0 :: 0 :: 4 :: 1 :: Utf8.asBytes "Unauthorized"⟩,
    ⟨attr.realm, Utf8.asBytes login.realm⟩, ⟨attr.nonce, login.nonce⟩]

/-- Its 401 to an Allocate request. -/
def challenge (id : TxId) : List UInt8 := message allocateError id challengeAttrs

/-- Its grant of an Allocate request. -/
def grant (id : TxId) : List UInt8 :=
  message allocateSuccess id [⟨attr.xorRelayedAddress, buildXorAddress relayed id⟩,
    ⟨attr.lifetime, ofU32 600⟩]

/-- A Data Indication that brings packet `seq` back. -/
def echo (seq : UInt32) : List UInt8 :=
  message TurnEchoCheck.dataIndication (txid 9)
    [⟨attr.xorPeerAddress, buildXorAddress srflx (txid 9)⟩,
      ⟨attr.data, TurnEchoCheck.makePayload seq⟩]

/-- A socket over which the server answers in turn with `replies`. -/
def socket (replies : List (List UInt8)) : UdpSocket :=
  ⟨0, [], [], UdpSocket.answers server (Duration.fromMillis 10) replies⟩

/-- An environment in which the server answers with `replies`. -/
def allocEnv (replies : List (List UInt8)) : TurnAllocEnv :=
  ⟨crypto, txid 1, txid 2, fun _ => .ok (socket replies)⟩

/-- The context of the allocation check of this login. -/
def loginCtx : ProbeContext :=
  { ProbeContext.new with
    host := some "turn.example.org"
    port := some server.port
    resolvedIps := [server.ip]
    turnUser := some "user"
    turnPass := some "pass" }

end Sample

open Sample in
/-- The server challenges the login and grants it. The run passes, and the session it stores makes
the CreatePermission that the server accepts. -/
theorem credential_login :
    let env := allocEnv [challenge (txid 1), grant (txid 2)]
    let key := longTermKey crypto "user" "example.org" "pass"
    let request := (buildAllocateAuthed crypto (txid 2) "user" "example.org"
      (Utf8.asBytes "nonce") key).2
    let permission := (TurnEchoCheck.buildCreatePermission crypto (txid 3) "user" "example.org"
      (Utf8.asBytes "nonce") key srflx).2
    parseAllocateResponse (challenge (txid 1)) (txid 1) =
        .ok (.unauthorized "example.org" (Utf8.asBytes "nonce")) ∧
      accepts crypto login request ∧ accepts crypto login permission ∧
      (TurnAllocateCheck.run env loginCtx).2.status = .pass ∧
      ∃ session, (TurnAllocateCheck.run env loginCtx).1.turnSession = some session ∧
        session.socket.sent = [⟨server, (buildAllocateUnauth (txid 1)).2⟩, ⟨server, request⟩] ∧
        (TurnEchoCheck.buildCreatePermission crypto (txid 3) session.username session.realm
          session.nonce session.key srflx).2 = permission := by
  intro env key request permission
  have hchallenge : login.IsChallenge challengeAttrs :=
    ⟨⟨Utf8.asBytes "Unauthorized", by decide⟩, by decide, by decide⟩
  obtain ⟨hparse, hrequest, hpermission, -, -, hsession⟩ :=
    credential_accepted env login (txid 3) srflx hchallenge (by decide) (by decide) (by decide)
  have hpass : (TurnAllocateCheck.run env loginCtx).2.status = .pass := by decide +kernel
  obtain ⟨sent, hsent⟩ : ∃ sent, (socket [challenge (txid 1), grant (txid 2)]).sendTo
      (buildAllocateUnauth (txid 1)).2 server = .ok sent := ⟨_, rfl⟩
  have hrecv : (TurnAllocateCheck.recvAny (loginCtx.timeoutOr (Duration.fromSecs 5)) sent).1 =
      .received (challenge (txid 1)) := by
    obtain rfl := Except.ok.inj hsent
    decide +kernel
  exact ⟨hparse, hrequest, hpermission, hpass, hsession loginCtx server.port server.ip
    (socket [challenge (txid 1), grant (txid 2)]) sent _ rfl rfl rfl rfl rfl hsent
    (Prod.ext hrecv rfl) hpass⟩

end WebrtcDoctor
