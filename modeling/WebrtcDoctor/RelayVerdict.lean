import WebrtcDoctor.FullReport
import WebrtcDoctor.Interference
import WebrtcDoctor.Relay
import WebrtcDoctor.Verdict

/-!
# The verdict on a relay

What the `turn` pipeline reports of a relay that does what one should (`Relay`), over a network
that brings the answer to every request in time and loses some of the packets to the relayed address
and nothing else (`turn_verdict`).

The requests of the probe are messages, so the relay reads in them what the probe put there, and the
answers of the relay are messages, so the probe reads in them what the relay put there. With this
`session_declined`, `session_refused` and `session_admitted` follow the session request by request.
What then comes back of the packets is `echoed_iff`.
-/

open BigEndian Checked NetAddr

namespace WebrtcDoctor

open LongTermServer

namespace Relay

variable (r : Relay)

/-! ## The requests of the probe -/

theorem length_buildXorAddress (addr : SocketAddr) (txid : TxId) :
    (buildXorAddress addr txid).length ≤ 20 := by
  rw [← maskValue_plainAddress, length_maskValue, plainAddress]
  obtain ⟨raw | raw, port⟩ := addr <;> simp

theorem mem_of_filter_eq_singleton {p : Attr → Bool} {attrs : List Attr} {a : Attr}
    (h : attrs.filter p = [a]) : a ∈ attrs :=
  List.mem_of_mem_filter (h ▸ List.mem_singleton_self a)

/-- The realm and the nonce come in the 401, so they fit beside the name and an address. -/
theorem credentials_fit : sectionLen r.login.credentialAttrs + 56 ≤ 65535 := by
  have hfits : sectionLen r.challengeAttrs ≤ 1480 := by
    have := r.fits
    rw [UdpSocket.bufLen] at this
    omega
  have hrealm : 4 + (Utf8.asBytes r.login.realm).length ≤ sectionLen r.challengeAttrs :=
    attrFormat.length_value_le_size (mem_of_filter_eq_singleton r.challenge.realm)
  have hnonce : 4 + r.login.nonce.length ≤ sectionLen r.challengeAttrs :=
    attrFormat.length_value_le_size (mem_of_filter_eq_singleton r.challenge.nonce)
  have huser := r.username_short
  simp only [sectionLen, credentialAttrs, List.map_cons, List.map_nil, List.sum_cons, List.sum_nil]
  omega

theorem allocate_fits : sectionLen r.login.allocateAttrs + 24 ≤ 65535 := by
  have h := r.credentials_fit
  have hcons : sectionLen r.login.allocateAttrs = 8 + sectionLen r.login.credentialAttrs := rfl
  omega

theorem permission_fits (txid : TxId) (peer : SocketAddr) :
    sectionLen (r.login.permissionAttrs txid peer) + 24 ≤ 65535 := by
  have h := r.credentials_fit
  have hpeer := length_buildXorAddress peer txid
  have hcons : sectionLen (r.login.permissionAttrs txid peer) =
      4 + (buildXorAddress peer txid).length + (4 - (buildXorAddress peer txid).length % 4) % 4 +
        sectionLen r.login.credentialAttrs := rfl
  omega

/-- The authenticated request of a login as `user` with `pass`. -/
def authedRequest (txid : TxId) (user pass : String) : List UInt8 :=
  (buildAllocateAuthed r.crypto txid user r.login.realm r.login.nonce
    (longTermKey r.crypto user r.login.realm pass)).2

/-- The CreatePermission request of the user's login. -/
def permissionRequest (txid : TxId) (peer : SocketAddr) : List UInt8 :=
  (TurnEchoCheck.buildCreatePermission r.crypto txid r.login.username r.login.realm r.login.nonce
    (longTermKey r.crypto r.login.username r.login.realm r.login.password) peer).2

/-- The relay takes `user` and `pass` for its user's. -/
def Admits (txid : TxId) (user pass : String) : Prop :=
  accepts r.crypto r.login (r.authedRequest txid user pass)

instance (txid : TxId) (user pass : String) : Decidable (r.Admits txid user pass) :=
  inferInstanceAs (Decidable (_ = true))

/-- It takes those of its user. -/
theorem admits_login (txid : TxId) : r.Admits txid r.login.username r.login.password := by
  rw [Admits, authedRequest, longTermKey_eq]
  exact accepts_allocate r.crypto r.login txid r.allocate_fits

/-- It takes no other name. -/
theorem username_of_admits {txid : TxId} {user pass : String} (h : r.Admits txid user pass) :
    user = r.login.username := by
  let claimed : LongTermServer := ⟨user, pass, r.login.realm, r.login.nonce⟩
  have hrequest := buildAllocateAuthed_eq r.crypto txid claimed
    (longTermKey r.crypto user r.login.realm pass)
  rw [Admits, authedRequest, hrequest] at h
  have hname := username_of_accepts h
  have hbytes : Utf8.asBytes user = Utf8.asBytes r.login.username := Option.some.inj hname
  rw [← Utf8.fromUtf8Lossy_asBytes user, hbytes, Utf8.fromUtf8Lossy_asBytes]

/-- A request without credentials is challenged and changes nothing at the relay. -/
theorem onRequest_unauth (s : State) (txid : TxId) :
    r.onRequest s (buildAllocateUnauth txid).2 = (s, [r.unauthorized allocateError txid]) := by
  have hrequest : (buildAllocateUnauth txid).2 =
      message allocateRequest txid [⟨attr.requestedTransport, ofU32 transportUdp⟩] := rfl
  have hreject : ¬accepts r.crypto r.login (buildAllocateUnauth txid).2 := by
    intro h
    rw [hrequest] at h
    cases username_of_accepts h
  have htype : allocateRequest ≠ StunBindingCheck.bindingRequest := by decide
  rw [onRequest, hrequest, messageType_message, ownTxid_message, ← hrequest, if_neg htype,
    if_pos rfl, if_neg hreject]

theorem authedRequest_eq (txid : TxId) (user pass : String) :
    ∃ attrs, r.authedRequest txid user pass = message allocateRequest txid attrs :=
  ⟨_, buildAllocateAuthed_eq r.crypto txid ⟨user, pass, r.login.realm, r.login.nonce⟩ _⟩

theorem messageType_unauth (txid : TxId) :
    TurnEchoCheck.messageType (buildAllocateUnauth txid).2 = allocateRequest :=
  messageType_message allocateRequest txid [⟨attr.requestedTransport, ofU32 transportUdp⟩]

theorem messageType_authed (txid : TxId) (user pass : String) :
    TurnEchoCheck.messageType (r.authedRequest txid user pass) = allocateRequest := by
  obtain ⟨attrs, hrequest⟩ := r.authedRequest_eq txid user pass
  rw [hrequest, messageType_message]

theorem messageType_permission (txid : TxId) (peer : SocketAddr) :
    TurnEchoCheck.messageType (r.permissionRequest txid peer) = createPermissionRequest := by
  rw [permissionRequest, longTermKey_eq, buildCreatePermission_eq, messageType_message]

/-- An authenticated request is granted exactly if the relay admits its login. -/
theorem onRequest_authed (s : State) (txid : TxId) (user pass : String) :
    r.onRequest s (r.authedRequest txid user pass) =
      if r.Admits txid user pass then ({ s with allocated := true }, [r.grant txid])
      else (s, [r.unauthorized allocateError txid]) := by
  obtain ⟨attrs, hrequest⟩ := r.authedRequest_eq txid user pass
  have htype : allocateRequest ≠ StunBindingCheck.bindingRequest := by decide
  rw [onRequest, hrequest, messageType_message, ownTxid_message, ← hrequest, if_neg htype,
    if_pos rfl]
  rfl

/-- A client with an allocation gets its permission. -/
theorem onRequest_permission {s : State} (h : s.allocated) (txid : TxId) (peer : SocketAddr) :
    r.onRequest s (r.permissionRequest txid peer) =
      ({ s with permitted := s.permitted ++ [peer.ip] },
        [r.permitted txid]) := by
  have hrequest := buildCreatePermission_eq r.crypto txid r.login (r.login.key r.crypto) peer
  set attrs := r.login.permissionAttrs txid peer ++ [integrityAttr r.crypto createPermissionRequest
    txid (r.login.permissionAttrs txid peer) (r.login.key r.crypto)] with hattrs
  have haccepts := accepts_permission r.crypto r.login txid peer (r.permission_fits txid peer)
  have hfit : sectionLen attrs ≤ 65535 := by
    rw [hattrs, sectionLen_append_integrityAttr]
    exact r.permission_fits txid peer
  have hpeer : peerOf (message createPermissionRequest txid attrs) = some peer := by
    rw [peerOf, attrsOf, decode_message _ _ hfit, ownTxid_message]
    have hvalue : valueOf ((some attrs).getD []) attr.xorPeerAddress =
        some (buildXorAddress peer txid) := rfl
    rw [hvalue, Option.bind_some, parseXorAddress_buildXorAddress]
  have htypes : createPermissionRequest ≠ StunBindingCheck.bindingRequest ∧
      createPermissionRequest ≠ allocateRequest := by decide
  rw [permissionRequest, longTermKey_eq, onRequest, hrequest, messageType_message, ownTxid_message,
    hpeer, ← hrequest, if_neg htypes.1, if_neg htypes.2, if_pos rfl, if_pos ⟨h, haccepts⟩]
  rfl

/-! ## The answers of the relay -/

/-- The challenge is parsed as one, whatever attributes stand around it. -/
theorem parse_unauthorized (txid : TxId) :
    parseAllocateResponse (r.unauthorized allocateError txid) txid =
      .ok (.unauthorized r.login.realm r.login.nonce) := by
  have hfits := r.fits
  rw [UdpSocket.bufLen] at hfits
  exact parse_challenge r.challenge (by omega) txid

theorem sectionLen_append (attrs attrs' : List Attr) :
    sectionLen (attrs ++ attrs') = sectionLen attrs + sectionLen attrs' := by
  simp only [sectionLen, List.map_append, List.sum_append]

/-- What stands around the relay's own attributes takes at most 1300 bytes. -/
theorem sectionLen_around (method : UInt16) (txid : TxId) (own : List Attr) :
    sectionLen (r.around method txid own) ≤ 1300 + sectionLen own := by
  have hfit := r.others_fit method txid
  rw [around, sectionLen_append, sectionLen_append]
  omega

/-- What an answer is sent for takes no more than a packet and an address. -/
theorem length_answer {own : List Attr} (h : sectionLen own ≤ 180) (method : UInt16)
    (txid : TxId) : (r.answer method txid own).length ≤ UdpSocket.bufLen := by
  have hle := r.sectionLen_around method txid own
  rw [answer, length_message, UdpSocket.bufLen]
  omega

/-- Of a type that the other attributes leave alone, an answer carries what it is sent for. -/
theorem filter_around {method t : UInt16} {txid : TxId}
    (h : ∀ a ∈ (r.others method txid).1 ++ (r.others method txid).2, a.attrType ≠ t)
    (own : List Attr) : ((r.around method txid own).filter fun a => a.attrType = t) =
      own.filter fun a => a.attrType = t := by
  have hnone : ∀ attrs ⊆ (r.others method txid).1 ++ (r.others method txid).2,
      (attrs.filter fun a => a.attrType = t) = [] := fun attrs hsub =>
    List.filter_eq_nil_iff.2 fun a ha => by simpa using h a (hsub ha)
  rw [around, List.filter_append, List.filter_append, hnone _ (List.subset_append_left _ _),
    hnone _ (List.subset_append_right _ _), List.nil_append, List.append_nil]

/-- The grant is parsed with its address and lifetime, whatever attributes stand around them. -/
theorem parse_grant (txid : TxId) :
    parseAllocateResponse (r.grant txid) txid = .ok (.success r.relayed r.lifetime) := by
  set own : List Attr := [⟨attr.xorRelayedAddress, buildXorAddress r.relayed txid⟩,
    ⟨attr.lifetime, ofU32 r.lifetime⟩] with hown
  have hle := r.sectionLen_around allocateSuccess txid own
  have hfit : sectionLen (r.around allocateSuccess txid own) ≤ 65535 := by
    have hlen := length_buildXorAddress r.relayed txid
    simp only [hown, sectionLen, List.map_cons, List.map_nil, List.sum_cons, List.sum_nil,
      length_ofU32] at hle ⊢
    omega
  have hrelayed := r.filter_around (fun a ha => (r.others_grant txid a ha).1) own
  have hlifetime := r.filter_around (fun a ha => (r.others_grant txid a ha).2) own
  rw [show (own.filter fun a => a.attrType = attr.xorRelayedAddress) =
    [⟨attr.xorRelayedAddress, buildXorAddress r.relayed txid⟩] from rfl] at hrelayed
  rw [show (own.filter fun a => a.attrType = attr.lifetime) =
    [⟨attr.lifetime, ofU32 r.lifetime⟩] from rfl] at hlifetime
  refine parse_success_message hfit ?_
  rw [successFold_eq (fun _ => r.relayed) (fun _ => r.lifetime), lastAttr_of_filter hrelayed,
    lastAttr_of_filter hlifetime]
  · rfl
  · intro a ha ht
    rw [eq_of_filter hrelayed ha ht, parseXorAddress_buildXorAddress]
  · intro a ha ht
    rw [eq_of_filter hlifetime ha ht]

/-- The answer to a CreatePermission is parsed as a success. -/
theorem parse_permitted (txid : TxId) :
    TurnEchoCheck.parseCreatePermissionResponse (r.permitted txid) txid = .ok .success := by
  have hle := r.sectionLen_around createPermissionSuccess txid []
  have hfit : sectionLen (r.around createPermissionSuccess txid []) ≤ 65535 :=
    hle.trans (by decide)
  obtain ⟨hheader, -⟩ := parse_message createPermissionSuccess txid hfit
  rw [permitted, answer, TurnEchoCheck.parseCreatePermissionResponse, hheader]
  rfl

/-- A request is answered whatever becomes of the datagrams to the relayed address. -/
theorem answersOver_request (delivers : List UInt8 → Bool) (asked : List (List UInt8))
    (request : List UInt8) :
    r.answersOver delivers ((asked ++ [request]).map (Sent.mk r.addr)) =
      (r.onRequest (r.stateAfter (asked.map (Sent.mk r.addr))) request).2 := by
  rw [List.map_append, List.map_singleton, answersOver_concat, answers_concat,
    if_neg fun h => r.relayed_ne h.1.symm, step, if_pos rfl]

theorem stateAfter_request (asked : List (List UInt8)) (request : List UInt8) :
    r.stateAfter ((asked ++ [request]).map (Sent.mk r.addr)) =
      (r.onRequest (r.stateAfter (asked.map (Sent.mk r.addr))) request).1 := by
  rw [List.map_append, List.map_singleton, stateAfter_concat, step, if_pos rfl]

/-- An answer that fits in the buffer is read whole. -/
theorem replyOf_request {delivers : List UInt8 → Bool} {asked : List (List UInt8)}
    {request answer : List UInt8} {s : State}
    (h : r.onRequest (r.stateAfter (asked.map (Sent.mk r.addr))) request = (s, [answer]))
    (hlen : answer.length ≤ UdpSocket.bufLen) :
    replyOf (r.answersOver delivers) r.addr (asked ++ [request]) = answer := by
  rw [replyOf, answersOver_request, h]
  exact List.take_of_length_le hlen

theorem length_unauthorized (method : UInt16) (txid : TxId) :
    (r.unauthorized method txid).length ≤ UdpSocket.bufLen := by
  rw [unauthorized, length_message]
  exact r.fits

theorem length_grant (txid : TxId) : (r.grant txid).length ≤ UdpSocket.bufLen := by
  have hlen := length_buildXorAddress r.relayed txid
  refine r.length_answer ?_ _ _
  simp only [sectionLen, List.map_cons, List.map_nil, List.sum_cons, List.sum_nil, length_ofU32]
  omega

theorem length_permitted (txid : TxId) : (r.permitted txid).length ≤ UdpSocket.bufLen :=
  r.length_answer (Nat.zero_le _) _ _

/-! ## The session with the relay -/

section

variable {delivers : List UInt8 → Bool} {alloc : TurnAllocEnv} {echo : TurnEchoEnv}
  {ctx : ProbeContext}

theorem replyOf_unauth (txid : TxId) :
    replyOf (r.answersOver delivers) r.addr [(buildAllocateUnauth txid).2] =
      r.unauthorized allocateError txid :=
  @replyOf_request r delivers [] _ _ _ (r.onRequest_unauth _ txid) (r.length_unauthorized _ txid)

/-- Without both credentials the session ends with the challenge. -/
theorem session_declined (h : ctx.turnUser = none ∨ ctx.turnPass = none) :
    sessionRequests alloc echo ctx r.addr (r.answersOver delivers) =
        [(buildAllocateUnauth alloc.txid1).2] ∧
      sessionEnd alloc echo ctx r.addr (r.answersOver delivers) =
        .ended .warn (TurnEchoCheck.run echo ctx).2.status := by
  unfold sessionRequests sessionEnd sessionDance
  rw [Dialogue.asked, Dialogue.outcome, List.nil_append, r.replyOf_unauth,
    result_eq_ok.2 (r.parse_unauthorized alloc.txid1)]
  rcases h with h | h
  · rw [h]
    exact ⟨rfl, rfl⟩
  · rw [h]
    cases ctx.turnUser <;> exact ⟨rfl, rfl⟩

variable {user pass : String} (huser : ctx.turnUser = some user) (hpass : ctx.turnPass = some pass)
  (hcrypto : alloc.crypto = r.crypto)

include huser hpass hcrypto

/-- With credentials that are not those of its user, it ends with a second 401. -/
theorem session_refused (h : ¬r.Admits alloc.txid2 user pass) :
    sessionRequests alloc echo ctx r.addr (r.answersOver delivers) =
        [(buildAllocateUnauth alloc.txid1).2, r.authedRequest alloc.txid2 user pass] ∧
      sessionEnd alloc echo ctx r.addr (r.answersOver delivers) =
        .ended .fail (TurnEchoCheck.run echo ctx).2.status := by
  have hauthed : replyOf (r.answersOver delivers) r.addr
      ([(buildAllocateUnauth alloc.txid1).2] ++ [r.authedRequest alloc.txid2 user pass]) =
        r.unauthorized allocateError alloc.txid2 :=
    r.replyOf_request (by rw [onRequest_authed, if_neg h]) (r.length_unauthorized _ _)
  unfold sessionRequests sessionEnd sessionDance authedSession
  rw [Dialogue.asked, Dialogue.outcome, List.nil_append, r.replyOf_unauth,
    result_eq_ok.2 (r.parse_unauthorized alloc.txid1), huser, hpass, hcrypto]
  dsimp only
  rw [Dialogue.asked, Dialogue.outcome]
  rw [show (buildAllocateAuthed r.crypto alloc.txid2 user r.login.realm r.login.nonce
    (longTermKey r.crypto user r.login.realm pass)).2 = r.authedRequest alloc.txid2 user pass
    from rfl, hauthed, result_eq_ok.2 (r.parse_unauthorized alloc.txid2)]
  exact ⟨rfl, rfl⟩

end

/-- What an admitted user is granted. -/
def granted : Grant where
  relayed := r.relayed
  realm := r.login.realm
  nonce := r.login.nonce
  key := longTermKey r.crypto r.login.username r.login.realm r.login.password
  username := r.login.username

/-- The requests of a session that gets its permission. -/
def requests (alloc : TurnAllocEnv) (echo : TurnEchoEnv) (srflx : SocketAddr) :
    List (List UInt8) :=
  [(buildAllocateUnauth alloc.txid1).2,
    r.authedRequest alloc.txid2 r.login.username r.login.password,
    r.permissionRequest echo.txid srflx]

/-- After the session's requests the relay has its allocation and its permission. -/
theorem stateAfter_requests (alloc : TurnAllocEnv) (echo : TurnEchoEnv) (srflx : SocketAddr) :
    r.stateAfter ((r.requests alloc echo srflx).map (Sent.mk r.addr)) = ⟨true, [srflx.ip]⟩ := by
  set unauth := (buildAllocateUnauth alloc.txid1).2
  set authed := r.authedRequest alloc.txid2 r.login.username r.login.password
  have hunauth : r.stateAfter (([] ++ [unauth]).map (Sent.mk r.addr)) = start := by
    rw [stateAfter_request, onRequest_unauth]
    rfl
  have hauthed : r.stateAfter (([] ++ [unauth] ++ [authed]).map (Sent.mk r.addr)) = ⟨true, []⟩ := by
    rw [stateAfter_request, hunauth, onRequest_authed, if_pos (r.admits_login alloc.txid2)]
    rfl
  show r.stateAfter (([] ++ [unauth] ++ [authed] ++ [r.permissionRequest echo.txid srflx]).map
    (Sent.mk r.addr)) = _
  rw [stateAfter_request, hauthed, onRequest_permission _ rfl]
  rfl

section

variable {delivers : List UInt8 → Bool} {alloc : TurnAllocEnv} {echo : TurnEchoEnv}
  {ctx : ProbeContext} {srflx : SocketAddr}
  (huser : ctx.turnUser = some r.login.username) (hpass : ctx.turnPass = some r.login.password)
  (halloc : alloc.crypto = r.crypto) (hecho : echo.crypto = r.crypto)
  (hsrflx : ctx.scratch "srflx" = some (toString srflx))

include huser hpass halloc hecho hsrflx

/-- With the credentials of its user, the session gets the permission. -/
theorem session_admitted :
    sessionRequests alloc echo ctx r.addr (r.answersOver delivers) =
        r.requests alloc echo srflx ∧
      sessionEnd alloc echo ctx r.addr (r.answersOver delivers) = .permitted r.granted := by
  have hauthed : replyOf (r.answersOver delivers) r.addr ([(buildAllocateUnauth alloc.txid1).2] ++
      [r.authedRequest alloc.txid2 r.login.username r.login.password]) = r.grant alloc.txid2 :=
    r.replyOf_request (by rw [onRequest_authed, if_pos (r.admits_login _)]) (r.length_grant _)
  have hallocated : (r.stateAfter (([(buildAllocateUnauth alloc.txid1).2] ++
      [r.authedRequest alloc.txid2 r.login.username r.login.password]).map
        (Sent.mk r.addr))).allocated := by
    rw [stateAfter_request, onRequest_authed, if_pos (r.admits_login _)]
  have hpermission : replyOf (r.answersOver delivers) r.addr
      ([(buildAllocateUnauth alloc.txid1).2] ++
        [r.authedRequest alloc.txid2 r.login.username r.login.password] ++
          [r.permissionRequest echo.txid srflx]) = r.permitted echo.txid :=
    r.replyOf_request (r.onRequest_permission hallocated echo.txid srflx) (r.length_permitted _)
  unfold sessionRequests sessionEnd sessionDance authedSession
  rw [Dialogue.asked, Dialogue.outcome, List.nil_append, r.replyOf_unauth,
    result_eq_ok.2 (r.parse_unauthorized alloc.txid1), huser, hpass, halloc]
  dsimp only
  rw [Dialogue.asked, Dialogue.outcome]
  rw [show (buildAllocateAuthed r.crypto alloc.txid2 r.login.username r.login.realm r.login.nonce
    (longTermKey r.crypto r.login.username r.login.realm r.login.password)).2 =
      r.authedRequest alloc.txid2 r.login.username r.login.password from rfl, hauthed,
    result_eq_ok.2 (r.parse_grant alloc.txid2), hsrflx, Option.bind_some, SocketAddr.parse_display]
  dsimp only [permissionDance]
  rw [Dialogue.asked, Dialogue.outcome, hecho]
  rw [show (TurnEchoCheck.buildCreatePermission r.crypto echo.txid r.login.username r.login.realm
    r.login.nonce (longTermKey r.crypto r.login.username r.login.realm r.login.password) srflx).2 =
      r.permissionRequest echo.txid srflx from rfl, hpermission,
    result_eq_ok.2 (r.parse_permitted echo.txid)]
  exact ⟨rfl, rfl⟩

end

/-- Of the requests of a session every one is answered, once. -/
theorem answersOnce {delivers : List UInt8 → Bool} {alloc : TurnAllocEnv} {echo : TurnEchoEnv}
    {ctx : ProbeContext}
    (h : ∀ q ∈ sessionRequests alloc echo ctx r.addr (r.answersOver delivers),
      TurnEchoCheck.messageType q = allocateRequest ∨
        TurnEchoCheck.messageType q = createPermissionRequest) :
    AnswersOnce alloc echo ctx r.addr (r.answersOver delivers) := by
  intro requests hne hpre
  obtain ⟨asked, q, rfl⟩ := List.eq_nil_or_concat' requests |>.resolve_left hne
  have htypes : allocateRequest ≠ StunBindingCheck.bindingRequest ∧
      createPermissionRequest ≠ StunBindingCheck.bindingRequest ∧
      createPermissionRequest ≠ allocateRequest := by decide
  rw [answersOver_request, onRequest]
  rcases h q (hpre.subset (by simp)) with htype | htype
  · rw [htype, if_neg htypes.1, if_pos rfl]
    split_ifs <;> rfl
  · rw [htype, if_neg htypes.2.1, if_neg htypes.2.2, if_pos rfl]
    split_ifs <;> rfl

/-! ## The packets -/

/-- Two packets with the same payload have the same number. -/
theorem makePayload_inj {count : UInt32} {p q : Fin count.toNat}
    (h : TurnEchoCheck.makePayload (UInt32.ofNat p) = TurnEchoCheck.makePayload (UInt32.ofNat q)) :
    p = q := by
  have hseq := (TurnEchoCheck.parseSeq_eq_some_iff _ _).2 h
  rw [(TurnEchoCheck.parseSeq_eq_some_iff _ _).2 rfl] at hseq
  have hval := congrArg UInt32.toNat (Option.some.inj hseq)
  rw [UInt32.toNat_ofNat_of_lt' (p.isLt.trans count.toNat_lt),
    UInt32.toNat_ofNat_of_lt' (q.isLt.trans count.toNat_lt)] at hval
  exact Fin.ext hval

/-- A Data Indication of a packet is parsed as the packet. -/
theorem parse_indicate {data : List UInt8} (h : data.length ≤ 100) :
    TurnEchoCheck.parseDataIndication ((r.indicate data).take UdpSocket.bufLen) =
      .ok (some data) := by
  set own : List Attr := [⟨attr.xorPeerAddress, buildXorAddress r.client r.indicationTxid⟩,
    ⟨attr.data, data⟩] with hown
  have hsize : sectionLen own ≤ 180 := by
    have hlen := length_buildXorAddress r.client r.indicationTxid
    simp only [hown, sectionLen, List.map_cons, List.map_nil, List.sum_cons, List.sum_nil]
    omega
  have hmessage : r.indicate data = r.answer TurnEchoCheck.dataIndication r.indicationTxid own :=
    rfl
  have hle := r.sectionLen_around TurnEchoCheck.dataIndication r.indicationTxid own
  obtain ⟨hheader, hwalk⟩ := parse_message TurnEchoCheck.dataIndication r.indicationTxid
    (by omega : sectionLen (r.around TurnEchoCheck.dataIndication r.indicationTxid own) ≤ 65535)
  have hfirst : TurnEchoCheck.firstData (r.around TurnEchoCheck.dataIndication r.indicationTxid
      own) = some ⟨attr.data, data⟩ := by
    have hnone : TurnEchoCheck.firstData (r.others TurnEchoCheck.dataIndication
        r.indicationTxid).1 = none :=
      List.find?_eq_none.2 fun a ha => by simpa using r.others_data _ a ha
    rw [TurnEchoCheck.firstData, around, List.find?_append,
      show List.find? _ (r.others TurnEchoCheck.dataIndication r.indicationTxid).1 = none
        from hnone]
    rfl
  rw [List.take_of_length_le (hmessage ▸ r.length_answer hsize _ _), hmessage, answer,
    TurnEchoCheck.parseDataIndication_of_walk (by rw [ownTxid_message]; exact hheader)
      (messageType_message _ _ _) hwalk, hfirst]
  rfl

theorem length_makePayload (seq : UInt32) : (TurnEchoCheck.makePayload seq).length ≤ 100 := by
  have hprefix : TurnEchoCheck.echoPrefix.length = 24 := by decide
  rw [TurnEchoCheck.makePayload, List.length_append, hprefix, length_ofU32le]
  decide

/-- The packets leave the state of the relay as it is. -/
theorem stateAfter_packets (sent : List Sent) {n : ℕ} (ps : List (Fin n)) :
    r.stateAfter (sent ++ ps.map (TurnEchoCheck.packet r.relayed)) = r.stateAfter sent := by
  induction ps using List.reverseRecOn with
  | nil => rw [List.map_nil, List.append_nil]
  | append_singleton ps p ih =>
    rw [List.map_append, List.map_singleton, ← List.append_assoc, stateAfter_concat, ih, step,
      if_neg (show (TurnEchoCheck.packet r.relayed p).target ≠ r.addr from r.relayed_ne)]
    split_ifs <;> rfl

/-- A packet is echoed exactly if the relay lets its sender through and the path delivers it. -/
theorem answersOver_packets {sent : List Sent} {peer : IpAddr} {n : ℕ} (ps : List (Fin n))
    (p : Fin n) (delivers : List UInt8 → Bool) (hstate : r.stateAfter sent = ⟨true, [peer]⟩) :
    r.answersOver delivers (sent ++ (ps ++ [p]).map (TurnEchoCheck.packet r.relayed)) =
      if r.client.ip = peer ∧ delivers (TurnEchoCheck.makePayload (UInt32.ofNat p)) then
        [r.indicate (TurnEchoCheck.makePayload (UInt32.ofNat p))] else [] := by
  rw [List.map_append, List.map_singleton, ← List.append_assoc, answersOver_concat, answers_concat,
    stateAfter_packets, hstate, step,
    if_neg (show (TurnEchoCheck.packet r.relayed p).target ≠ r.addr from r.relayed_ne)]
  simp only [TurnEchoCheck.packet, true_and, List.mem_singleton]
  by_cases hip : r.client.ip = peer <;>
    cases delivers (TurnEchoCheck.makePayload (UInt32.ofNat p)) <;> simp [hip]

/-- The packets the relay echoes to a client that asked to hear `srflx`. -/
theorem echoed_iff {delivers : List UInt8 → Bool} {alloc : TurnAllocEnv} {echo : TurnEchoEnv}
    {ctx : ProbeContext} {srflx : SocketAddr} {count : UInt32}
    (hrequests : sessionRequests alloc echo ctx r.addr (r.answersOver delivers) =
      r.requests alloc echo srflx) (seq : Fin count.toNat) :
    Echoed alloc echo ctx r.addr (r.answersOver delivers) r.granted seq ↔
      r.client.ip = srflx.ip ∧ delivers (TurnEchoCheck.makePayload (UInt32.ofNat seq)) := by
  have hanswers := fun ps (p : Fin count.toNat) => r.answersOver_packets ps p delivers
    (r.stateAfter_requests alloc echo srflx)
  rw [Echoed, hrequests]
  constructor
  · rintro ⟨ps, hne, -, bytes, hbytes, -, hecho⟩
    obtain ⟨ps, p, rfl⟩ := List.eq_nil_or_concat' ps |>.resolve_left hne
    rw [show r.granted.relayed = r.relayed from rfl, hanswers] at hbytes
    split_ifs at hbytes with h
    · rw [List.mem_singleton.1 hbytes, TurnEchoCheck.asRead,
        r.parse_indicate (length_makePayload _)] at hecho
      rwa [makePayload_inj (Option.some.inj (Checked.ok.inj hecho))] at h
    · cases hbytes
  · intro h
    have htake : (List.finRange count.toNat).take (seq.val + 1) =
        (List.finRange count.toNat).take seq.val ++ [seq] := by
      rw [List.take_succ_eq_append_getElem (by simp), List.getElem_finRange]
      rfl
    refine ⟨_, by rw [htake]; exact List.concat_ne_nil _ _, List.take_prefix (seq.val + 1) _,
      r.indicate (TurnEchoCheck.makePayload (UInt32.ofNat seq)), ?_, rfl,
      r.parse_indicate (length_makePayload _)⟩
    rw [htake, show r.granted.relayed = r.relayed from rfl, hanswers, if_pos h]
    exact List.mem_singleton_self _

/-! ## The statuses -/

/-- The status of an echo check that hears the packets `heard`. -/
def echoStatus {n : ℕ} (heard : Finset (Fin n)) : CheckStatus :=
  if heard = ∅ then .fail else if heard = Finset.univ then .pass else .warn

/-- The packets of `count` that come back to a client that asked to hear `srflx`. -/
def heard (delivers : List UInt8 → Bool) (srflx : SocketAddr) (count : UInt32) :
    Finset (Fin count.toNat) :=
  Finset.univ.filter fun seq =>
    r.client.ip = srflx.ip ∧ delivers (TurnEchoCheck.makePayload (UInt32.ofNat seq))

section

variable {delivers : List UInt8 → Bool} {alloc : TurnAllocEnv} {echo : TurnEchoEnv}
  {ctx : ProbeContext} {sock : UdpSocket} (hport : ctx.port = some r.addr.port)
  (hip : ctx.resolvedIps.head? = some r.addr.ip)
  (hnet : BringsOnly (r.answersOver delivers) r.addr (sessionTimeout ctx) sock)

include hport hip hnet

theorem statuses_of_ended {requests : List (List UInt8)} {a e : CheckStatus}
    (h : sessionRequests alloc echo ctx r.addr (r.answersOver delivers) = requests ∧
      sessionEnd alloc echo ctx r.addr (r.answersOver delivers) = .ended a e)
    (htypes : ∀ q ∈ requests, TurnEchoCheck.messageType q = allocateRequest) :
    statuses alloc echo ctx sock = (a, e) := by
  obtain ⟨hrequests, hend⟩ := h
  have honce : AnswersOnce alloc echo ctx r.addr (r.answersOver delivers) :=
    r.answersOnce fun q hq => .inl (htypes q (hrequests ▸ hq))
  have hgives := (hnet.unconfused honce).gives hport hip
  rwa [hend] at hgives

/-- Without both credentials the allocation warns and the echo is skipped. -/
theorem statuses_of_declined (hsession : ctx.turnSession = none)
    (h : ctx.turnUser = none ∨ ctx.turnPass = none) :
    statuses alloc echo ctx sock = (.warn, .skip) := by
  have hskip : (TurnEchoCheck.run echo ctx).2.status = .skip := by
    rw [TurnEchoCheck.run_of_no_session hsession]
    rfl
  refine r.statuses_of_ended hport hip hnet (hskip ▸ r.session_declined h) fun q hq => ?_
  rw [List.mem_singleton.1 hq, messageType_unauth]

/-- With a login that the relay does not admit the allocation fails and the echo is skipped. -/
theorem statuses_of_refused (hcrypto : alloc.crypto = r.crypto) (hsession : ctx.turnSession = none)
    {user pass : String} (huser : ctx.turnUser = some user) (hpass : ctx.turnPass = some pass)
    (h : ¬r.Admits alloc.txid2 user pass) : statuses alloc echo ctx sock = (.fail, .skip) := by
  have hskip : (TurnEchoCheck.run echo ctx).2.status = .skip := by
    rw [TurnEchoCheck.run_of_no_session hsession]
    rfl
  refine r.statuses_of_ended hport hip hnet (hskip ▸ r.session_refused huser hpass hcrypto h)
    fun q hq => ?_
  rcases List.mem_cons.1 hq with hq | hq
  · rw [hq, messageType_unauth]
  · rw [List.mem_singleton.1 hq, messageType_authed]

/-- With the user's own login the allocation passes and the echo reports what was heard. -/
theorem statuses_of_admitted (halloc : alloc.crypto = r.crypto) (hecho : echo.crypto = r.crypto)
    {srflx : SocketAddr} (hsrflx : ctx.scratch "srflx" = some (toString srflx))
    (huser : ctx.turnUser = some r.login.username) (hpass : ctx.turnPass = some r.login.password) :
    statuses alloc echo ctx sock =
      (.pass, echoStatus (r.heard delivers srflx (max ctx.echoCount 1))) := by
  obtain ⟨hrequests, hend⟩ :=
    @session_admitted r delivers alloc echo ctx srflx huser hpass halloc hecho hsrflx
  have honce : AnswersOnce alloc echo ctx r.addr (r.answersOver delivers) := by
    refine r.answersOnce fun q hq => ?_
    rw [hrequests, requests] at hq
    simp only [List.mem_cons, List.not_mem_nil, or_false] at hq
    rcases hq with hq | hq | hq
    · exact .inl (hq ▸ messageType_unauth alloc.txid1)
    · exact .inl (hq ▸ r.messageType_authed alloc.txid2 _ _)
    · exact .inr (hq ▸ r.messageType_permission echo.txid srflx)
  have hunconfused := hnet.unconfused honce
  have hgives := hunconfused.gives hport hip
  rw [hend] at hgives
  obtain ⟨sock₀, srflx', hcreate, hstatuses⟩ := hgives
  have hheard : ∀ seq : Fin (max ctx.echoCount 1).toNat, seq ∈ r.heard delivers srflx _ ↔
      Echoed alloc echo ctx r.addr (r.answersOver delivers) r.granted seq := by
    intro seq
    rw [r.echoed_iff hrequests, heard, Finset.mem_filter, and_iff_right (Finset.mem_univ seq)]
  rw [hstatuses, hunconfused.status hnet.brings hend hheard hcreate]
  rfl

end

/-- The relay's answer to a Binding request is parsed as the client's address. -/
theorem parse_mapped (txid : TxId) :
    StunBindingCheck.parseBindingResponse (r.mapped txid) txid = .ok r.client := by
  have hlen := length_buildXorAddress r.client txid
  set own : List Attr := [⟨attr.xorMappedAddress, buildXorAddress r.client txid⟩] with hown
  have hle := r.sectionLen_around StunBindingCheck.bindingSuccess txid own
  have hfit : sectionLen (r.around StunBindingCheck.bindingSuccess txid own) ≤ 65535 := by
    simp only [hown, sectionLen, List.map_cons, List.map_nil, List.sum_cons, List.sum_nil] at hle ⊢
    omega
  have hfirst : StunBindingCheck.leadingForm (r.around StunBindingCheck.bindingSuccess txid own) =
      some ⟨attr.xorMappedAddress, buildXorAddress r.client txid⟩ := by
    have hnone : StunBindingCheck.leadingForm (r.others StunBindingCheck.bindingSuccess txid).1 =
        none := List.find?_eq_none.2 fun a ha => by simpa using r.others_mapped txid a ha
    rw [StunBindingCheck.leadingForm, around, List.find?_append,
      show List.find? _ (r.others StunBindingCheck.bindingSuccess txid).1 = none from hnone]
    rfl
  rw [mapped, answer, StunBindingCheck.parseBindingResponse_message hfit,
    StunBindingCheck.firstMappedAddress_eq, hfirst]
  dsimp only
  rw [if_pos rfl, parseXorAddress_buildXorAddress]
  rfl

theorem length_mapped (txid : TxId) : (r.mapped txid).length ≤ UdpSocket.bufLen := by
  have hlen := length_buildXorAddress r.client txid
  refine r.length_answer ?_ _ _
  simp only [sectionLen, List.map_cons, List.map_nil, List.sum_cons, List.sum_nil]
  omega

/-- A Binding request is answered with the address it came from. -/
theorem answers_binding (txid : TxId) :
    r.answers [⟨r.addr, (StunBindingCheck.buildBindingRequest txid).2⟩] = [r.mapped txid] := by
  have hrequest : (StunBindingCheck.buildBindingRequest txid).2 =
      message StunBindingCheck.bindingRequest txid [] := by
    rw [message_eq, attrFormat.size_nil, attrFormat.encode_nil, List.append_nil]
    rfl
  rw [show [Sent.mk r.addr (StunBindingCheck.buildBindingRequest txid).2] =
    [] ++ [⟨r.addr, (StunBindingCheck.buildBindingRequest txid).2⟩] from rfl, answers_concat, step,
    if_pos rfl, onRequest, hrequest, messageType_message, ownTxid_message, if_pos rfl]

end Relay

/-! ## The pipeline -/

theorem DnsCheck.dedupIps_cons (sa : SocketAddr) (more : List SocketAddr) :
    ∃ ips, DnsCheck.dedupIps (sa :: more) = sa.ip :: ips := by
  induction more using List.reverseRecOn with
  | nil => exact ⟨[], rfl⟩
  | append_singleton more sb ih =>
    obtain ⟨ips, hips⟩ := ih
    rw [← List.cons_append, DnsCheck.dedupIps_snoc, hips]
    split_ifs
    · exact ⟨ips, rfl⟩
    · exact ⟨ips ++ [sb.ip], rfl⟩

theorem DnsCheck.run_of_lookup {env : DnsEnv} {ctx : ProbeContext} {host : String} {port : UInt16}
    {sa : SocketAddr} {more : List SocketAddr} (hhost : ctx.host = some host)
    (hport : ctx.port = some port) (h : env.lookupHost s!"{host}:{port}" = .ok (sa :: more)) :
    ∃ ips, (DnsCheck.run env ctx).1 = { ctx with resolvedIps := sa.ip :: ips } ∧
      (DnsCheck.run env ctx).2.status = .pass := by
  obtain ⟨ips, hips⟩ := DnsCheck.dedupIps_cons sa more
  refine ⟨ips, ?_⟩
  unfold DnsCheck.run
  rw [hhost, hport]
  dsimp only [Option.getD_some]
  rw [h]
  dsimp only
  rw [hips]
  exact ⟨rfl, by simp⟩

theorem StunBindingCheck.run_of_decodes {env : StunEnv} {ctx : ProbeContext} {srflx : SocketAddr}
    (h : StunBindingCheck.Decodes env ctx srflx) :
    (StunBindingCheck.run env ctx).1 = ctx.insertScratch "srflx" (toString srflx) ∧
      (StunBindingCheck.run env ctx).2.status = .pass := by
  obtain ⟨port, ip, sock, sent, d, sock', hport, hip, hbind, hsend, hrecv, hparse⟩ := h
  unfold StunBindingCheck.run
  rw [hport, hip]
  dsimp only
  rw [hbind]
  dsimp only
  rw [hsend]
  dsimp only
  rw [hrecv]
  dsimp only
  rw [show (StunBindingCheck.buildBindingRequest env.txid).1 = env.txid from rfl,
    result_eq_ok.2 hparse]
  exact ⟨rfl, by simp⟩

/-- The datagram that a network of the server's answers alone brings back for the first
request. -/
theorem BringsOnly.first {answers : List Sent → List (List UInt8)} {server : SocketAddr}
    {timeout : ℕ} {sock : UdpSocket} (h : BringsOnly answers server timeout sock)
    {request answer : List UInt8} (hanswer : answers [⟨server, request⟩] = [answer]) :
    ∃ sent sock', sock.sendTo request server = .ok sent ∧
      sent.recvFrom timeout = (.received ⟨server, answer.take UdpSocket.bufLen⟩, sock') := by
  obtain ⟨arrivals, hreact, hevents, htimes⟩ := h.reacts [⟨server, request⟩] sock.now (by simp)
  rw [hanswer, List.map_singleton] at hevents
  obtain ⟨a, rfl, hevent⟩ := List.map_eq_singleton_iff.1 hevents
  let sent : UdpSocket := { sock with sent := [⟨server, request⟩], queue := [a] }
  have hsend : sock.sendTo request server = .ok sent := by
    rw [UdpSocket.sendTo, h.nothingSent, List.nil_append, hreact, h.nothingQueued]
    rfl
  exact ⟨sent, _, hsend, UdpSocket.recvFrom_cons_of_le rfl hevent
    (htimes a (List.mem_singleton_self a)).le⟩

/-- The outside world of a `turn` pipeline is the relay. The client's sockets reach it, the
Binding request from `mapped`. Each request is answered once and in time, and the path to the
relayed address and back delivers the datagrams that `delivers` picks. -/
structure Relay.Reached (r : Relay) (env : PipelineEnv) (t : Target) (mapped : SocketAddr)
    (delivers : List UInt8 → Bool) : Prop where
  port : t.port = r.addr.port
  resolves : ∃ port more, env.dns.lookupHost s!"{t.host}:{t.port}" = .ok (⟨r.addr.ip, port⟩ :: more)
  binding : ∃ sock, env.stun.bind (localBind r.addr.ip) = .ok sock ∧
    BringsOnly (r.seenFrom mapped).answers r.addr (Duration.fromSecs 5) sock
  session : ∃ sock, env.turnAlloc.bind (localBind r.addr.ip) = .ok sock ∧
    BringsOnly (r.answersOver delivers) r.addr (Duration.fromSecs 5) sock
  alloc : env.turnAlloc.crypto = r.crypto
  echo : env.turnEcho.crypto = r.crypto

theorem TurnAllocateCheck.run_withSocket {env : TurnAllocEnv} {ctx : ProbeContext} {port : UInt16}
    {ip : IpAddr} {sock : UdpSocket} (hport : ctx.port = some port)
    (hip : ctx.resolvedIps.head? = some ip) (hbind : env.bind (localBind ip) = .ok sock) :
    TurnAllocateCheck.run env ctx = TurnAllocateCheck.run (env.withSocket sock) ctx := by
  unfold TurnAllocateCheck.run
  rw [hport, hip]
  dsimp only
  rw [hbind]
  rfl

namespace Pipeline

theorem step_of_pass {s : State ProbeContext} {check : Check ProbeContext}
    (hgate : ∀ id ∈ check.requires, id ∈ s.passed) (hpass : (check.run s.ctx).2.status = .pass) :
    step s check = ⟨(check.run s.ctx).1, insert check.id s.passed,
      s.results ++ [(check.run s.ctx).2]⟩ := by
  rw [step_of_gate _ _ hgate, if_pos hpass]

theorem step_of_ne_pass {s : State ProbeContext} {check : Check ProbeContext}
    (hgate : ∀ id ∈ check.requires, id ∈ s.passed) (hpass : (check.run s.ctx).2.status ≠ .pass) :
    step s check = ⟨(check.run s.ctx).1, s.passed, s.results ++ [(check.run s.ctx).2]⟩ := by
  rw [step_of_gate _ _ hgate, if_neg hpass]

/-- The results of an allocation and of the echo check after it, in a pipeline in which the other
requirements of both have passed. -/
theorem statuses_allocate_echo {s : State ProbeContext} {alloc : TurnAllocEnv} {echo : TurnEchoEnv}
    {sock : UdpSocket} (hdns : DnsCheck.id ∈ s.passed) (hstun : StunBindingCheck.id ∈ s.passed)
    (halloc : TurnAllocateCheck.id ∉ s.passed)
    (hrun : TurnAllocateCheck.run alloc s.ctx =
      TurnAllocateCheck.run (alloc.withSocket sock) s.ctx) :
    (([TurnAllocateCheck.check alloc, TurnEchoCheck.check echo].foldl step s).results.map
        CheckResult.status) = s.results.map CheckResult.status ++
      [(statuses alloc echo s.ctx sock).1, if (statuses alloc echo s.ctx sock).1 = .pass then
        (statuses alloc echo s.ctx sock).2 else .skip] := by
  have hboth : statuses alloc echo s.ctx sock =
      statusesAfter echo ((TurnAllocateCheck.check alloc).run s.ctx) :=
    congrArg (statusesAfter echo) hrun.symm
  have hgate : ∀ id ∈ (TurnAllocateCheck.check alloc).requires, id ∈ s.passed := by
    intro id hid
    rw [List.mem_singleton.1 hid]
    exact hdns
  rw [hboth, statusesAfter, List.foldl_cons, List.foldl_cons, List.foldl_nil]
  by_cases hpass : ((TurnAllocateCheck.check alloc).run s.ctx).2.status = .pass
  · rw [step_of_pass hgate hpass, step_of_gate, if_pos hpass]
    · simp only [List.map_append, List.map_cons, List.map_nil, List.append_assoc,
        List.cons_append, List.nil_append]
      rfl
    · intro id hid
      rcases List.mem_cons.1 hid with rfl | hid
      · exact Finset.mem_insert_self _ _
      · rw [List.mem_singleton.1 hid]
        exact Finset.mem_insert_of_mem hstun
  · rw [step_of_ne_pass hgate hpass, step_of_not_gate, if_neg hpass]
    · simp only [List.map_append, List.map_cons, List.map_nil, List.append_assoc,
        List.cons_append, List.nil_append]
      rfl
    · exact fun hall => halloc (hall _ (List.mem_cons_self ..))

end Pipeline

theorem timeoutOr_of_default {ctx : ProbeContext} {d : ℕ} (h : ctx.defaultTimeout = d) (hd : 0 < d)
    (fallback : ℕ) : ctx.timeoutOr fallback = d := by
  rw [ProbeContext.timeoutOr, h, if_neg (Nat.ne_of_gt hd)]

section

open Pipeline

variable {r : Relay} {env : PipelineEnv} {t : Target} {mapped : SocketAddr}
  {delivers : List UInt8 → Bool} (h : r.Reached env t mapped delivers) (user pass : Option String)
  (echoCount : UInt32)

include h

/-- In the world of the relay, the first two checks of the pipeline pass and the others meet it
with the address of the client in the context. -/
theorem statuses_turnJob :
    ∃ (ctx : ProbeContext) (sock : UdpSocket), ctx.port = some r.addr.port ∧
      ctx.resolvedIps.head? = some r.addr.ip ∧ ctx.turnUser = user ∧ ctx.turnPass = pass ∧
      ctx.echoCount = echoCount ∧ ctx.turnSession = none ∧
      ctx.scratch "srflx" = some (toString mapped) ∧
      BringsOnly (r.answersOver delivers) r.addr (sessionTimeout ctx) sock ∧
      (turnJob env t user pass echoCount).report.results.map CheckResult.status =
        [.pass, .pass, (statuses env.turnAlloc env.turnEcho ctx sock).1,
          if (statuses env.turnAlloc env.turnEcho ctx sock).1 = .pass then
            (statuses env.turnAlloc env.turnEcho ctx sock).2 else .skip] := by
  set ctx₀ := (turnJob env t user pass echoCount).ctx with hctx₀
  obtain ⟨port, more, hlookup⟩ := h.resolves
  have hhost : ctx₀.host = some t.host := rfl
  obtain ⟨ips, hdns, hdnsPass⟩ := DnsCheck.run_of_lookup hhost rfl hlookup
  set ctx₁ := { ctx₀ with resolvedIps := r.addr.ip :: ips } with hctx₁
  obtain ⟨stunSock, hstunBind, hstunNet⟩ := h.binding
  obtain ⟨sent, sock', hsend, hrecv⟩ :=
    hstunNet.first ((r.seenFrom mapped).answers_binding env.stun.txid)
  have hparse := (r.seenFrom mapped).parse_mapped env.stun.txid
  rw [List.take_of_length_le ((r.seenFrom mapped).length_mapped _)] at hrecv
  have htimeout : ctx₁.timeoutOr (Duration.fromSecs 5) = Duration.fromSecs 5 :=
    timeoutOr_of_default (d := Duration.fromSecs 5) rfl (by decide) _
  rw [← htimeout] at hrecv
  have hdecodes : StunBindingCheck.Decodes env.stun ctx₁ mapped :=
    ⟨_, _, stunSock, sent, _, sock', congrArg some h.port, rfl, hstunBind, hsend, hrecv, hparse⟩
  obtain ⟨hstun, hstunPass⟩ := StunBindingCheck.run_of_decodes hdecodes
  set ctx₂ := ctx₁.insertScratch "srflx" (toString mapped) with hctx₂
  obtain ⟨sock, hbind, hnet⟩ := h.session
  have hport : ctx₂.port = some r.addr.port := congrArg some h.port
  have htimeout₂ : sessionTimeout ctx₂ = Duration.fromSecs 5 :=
    timeoutOr_of_default (d := Duration.fromSecs 5) rfl (by decide) _
  refine ⟨ctx₂, sock, hport, rfl, rfl, rfl, rfl, rfl, ctx₁.insertScratch_scratch_self _ _,
    htimeout₂ ▸ hnet, ?_⟩
  have hdnsStep : step ⟨ctx₀, ∅, []⟩ (DnsCheck.check env.dns) =
      ⟨ctx₁, {DnsCheck.id}, [(DnsCheck.run env.dns ctx₀).2]⟩ := by
    rw [step_of_pass (fun _ hid => absurd hid (List.not_mem_nil)) hdnsPass]
    exact congrArg (State.mk · _ _) hdns
  have hstunStep : step ⟨ctx₁, {DnsCheck.id}, [(DnsCheck.run env.dns ctx₀).2]⟩
      (StunBindingCheck.check env.stun) = ⟨ctx₂, {StunBindingCheck.id, DnsCheck.id},
        [(DnsCheck.run env.dns ctx₀).2, (StunBindingCheck.run env.stun ctx₁).2]⟩ := by
    rw [step_of_pass (fun id hid => List.mem_singleton.1 hid ▸ Finset.mem_singleton_self _)
      hstunPass]
    exact congrArg (State.mk · _ _) hstun
  have hpair := @statuses_allocate_echo ⟨ctx₂, {StunBindingCheck.id, DnsCheck.id},
      [(DnsCheck.run env.dns ctx₀).2, (StunBindingCheck.run env.stun ctx₁).2]⟩ env.turnAlloc
    env.turnEcho sock (Finset.mem_insert_of_mem (Finset.mem_singleton_self _))
    (Finset.mem_insert_self _ _)
    (by decide : TurnAllocateCheck.id ∉ ({StunBindingCheck.id, DnsCheck.id} : Finset String))
    (TurnAllocateCheck.run_withSocket hport rfl hbind)
  rw [List.map_cons, List.map_cons, List.map_nil, hdnsPass, hstunPass] at hpair
  have hchecks : (turnJob env t user pass echoCount).checks = [DnsCheck.check env.dns,
      StunBindingCheck.check env.stun, TurnAllocateCheck.check env.turnAlloc,
      TurnEchoCheck.check env.turnEcho] := rfl
  rw [Job.report, Pipeline.run, ← hctx₀, hchecks, List.foldl_cons, List.foldl_cons, hdnsStep,
    hstunStep]
  exact hpair

end

/-! ## The verdict -/

/-- The verdict is a matter of the statuses alone. -/
theorem Report.verdict_of_statuses {report : Report} {statuses : List CheckStatus}
    (h : report.results.map CheckResult.status = statuses) :
    report.verdict =
      if .fail ∈ statuses then .failed else if .warn ∈ statuses then .warnings else .healthy := by
  have hmem : ∀ status, status ∈ statuses ↔ ∃ r ∈ report.results, r.status = status := by
    intro status
    rw [← h, List.mem_map]
  split_ifs with hfail hwarn
  · exact Report.verdict_eq_failed_iff.2 ((hmem _).1 hfail)
  · rw [hmem] at hfail hwarn
    push Not at hfail
    exact Report.verdict_eq_warnings_iff.2 ⟨hfail, hwarn⟩
  · rw [hmem] at hfail hwarn
    push Not at hfail hwarn
    exact report.verdict_eq_healthy_iff.2 fun r hr => ⟨hfail r hr, hwarn r hr⟩

theorem Relay.echoStatus_eq_pass_iff {count : UInt32} (hcount : 0 < count)
    (heard : Finset (Fin count.toNat)) : Relay.echoStatus heard = .pass ↔ heard = Finset.univ := by
  have hseq : (⟨0, UInt32.lt_iff_toNat_lt.1 hcount⟩ : Fin count.toNat) ∈ Finset.univ :=
    Finset.mem_univ _
  unfold Relay.echoStatus
  split_ifs with hnone hall
  · rw [hnone]
    refine iff_of_false (by decide) fun h => ?_
    rw [← h] at hseq
    exact absurd hseq (Finset.notMem_empty _)
  · simp [hall]
  · simp [hall]

theorem Relay.echoStatus_ne_skip {n : ℕ} (heard : Finset (Fin n)) :
    Relay.echoStatus heard ≠ .skip := by
  unfold Relay.echoStatus
  split_ifs <;> decide

/-- The `turn` pipeline against a relay whose answers to requests all come in time. Without
credentials it warns, with others than those of the relay's user it fails, and with these the
allocation passes and the echo check tells which packets came back. The exit code is 0 exactly if
every one did. -/
theorem turn_verdict {r : Relay} {env : PipelineEnv} {t : Target} {mapped : SocketAddr}
    {delivers : List UInt8 → Bool} (h : r.Reached env t mapped delivers)
    (user pass : Option String) (echoCount : UInt32) :
    let report := (turnJob env t user pass echoCount).report
    let statuses := report.results.map CheckResult.status
    (user = none ∨ pass = none →
      statuses = [.pass, .pass, .warn, .skip] ∧ report.verdict.exitCode = 2) ∧
    (∀ u p, user = some u → pass = some p → ¬r.Admits env.turnAlloc.txid2 u p →
      statuses = [.pass, .pass, .fail, .skip] ∧ report.verdict.exitCode = 1) ∧
    (∀ u p, r.Admits env.turnAlloc.txid2 u p → u = r.login.username) ∧
    (user = some r.login.username → pass = some r.login.password →
      statuses =
        [.pass, .pass, .pass, Relay.echoStatus (r.heard delivers mapped (max echoCount 1))] ∧
      (report.verdict.exitCode = 0 ↔ r.client.ip = mapped.ip ∧
        ∀ seq : Fin (max echoCount 1).toNat,
          delivers (TurnEchoCheck.makePayload (UInt32.ofNat seq)))) := by
  intro report statuses
  obtain ⟨ctx, sock, hport, hip, rfl, rfl, rfl, hsession, hsrflx, hnet, hstatuses⟩ :=
    statuses_turnJob h user pass echoCount
  refine ⟨fun hdeclined => ?_, fun u p huser hpass hrefused => ?_,
    fun u p => r.username_of_admits, fun huser hpass => ?_⟩
  · rw [r.statuses_of_declined hport hip hnet hsession hdeclined, if_neg (by decide)] at hstatuses
    exact ⟨hstatuses, by rw [Report.verdict_of_statuses hstatuses]; rfl⟩
  · rw [r.statuses_of_refused hport hip hnet h.alloc hsession huser hpass hrefused,
      if_neg (by decide)] at hstatuses
    exact ⟨hstatuses, by rw [Report.verdict_of_statuses hstatuses]; rfl⟩
  · rw [r.statuses_of_admitted hport hip hnet h.alloc h.echo hsrflx huser hpass, if_pos rfl]
      at hstatuses
    refine ⟨hstatuses, ?_⟩
    have hheard : r.heard delivers mapped (max ctx.echoCount 1) = Finset.univ ↔
        r.client.ip = mapped.ip ∧ ∀ seq : Fin (max ctx.echoCount 1).toNat,
          delivers (TurnEchoCheck.makePayload (UInt32.ofNat seq)) := by
      rw [Relay.heard, Finset.filter_eq_self]
      constructor
      · intro hall
        have hfirst := hall ⟨0, UInt32.lt_iff_toNat_lt.1 (max_one_pos _)⟩ (Finset.mem_univ _)
        exact ⟨hfirst.1, fun seq => (hall seq (Finset.mem_univ _)).2⟩
      · exact fun hall seq _ => ⟨hall.1, hall.2 seq⟩
    rw [Verdict.exitCode_eq_zero_iff, Report.verdict_of_statuses hstatuses, ← hheard,
      ← Relay.echoStatus_eq_pass_iff (max_one_pos _)]
    have hskip := Relay.echoStatus_ne_skip (r.heard delivers mapped (max ctx.echoCount 1))
    revert hskip
    cases Relay.echoStatus (r.heard delivers mapped (max ctx.echoCount 1)) <;> decide

/-! ## A relay that drops one packet -/

namespace Sample

/-- A relay with the login of the samples. It names its software in every answer. -/
def turnRelay : Relay where
  crypto := crypto
  login := login
  addr := server
  relayed := relayed
  client := srflx
  lifetime := 600
  challengeAttrs := challengeAttrs
  others _ _ := ([⟨0x8022, Utf8.asBytes "relay"⟩], [])
  indicationTxid := txid 9
  relayed_ne := by decide
  challenge := ⟨⟨Utf8.asBytes "Unauthorized", by decide⟩, by decide, by decide⟩
  fits := by decide
  others_fit _ _ := by decide
  others_mapped _ := by decide
  others_grant _ := by decide
  others_data _ := by decide
  username_short := by decide

/-- A socket on a network that brings `answers` after ten milliseconds. -/
def answering (answers : List Sent → List (List UInt8)) : UdpSocket where
  now := 0
  queue := []
  sent := []
  react sent now :=
    .ok ((answers sent).map fun bytes => ⟨now + Duration.fromMillis 10, .ok ⟨server, bytes⟩⟩)

/-- A socket that answers each request at once brings only the answers. -/
theorem bringsOnly_answering (answers : List Sent → List (List UInt8)) :
    BringsOnly answers server (Duration.fromSecs 5) (answering answers) where
  nothingSent := rfl
  nothingQueued := rfl
  reacts sent now _ := by
    refine ⟨_, rfl, by simp [Function.comp_def], fun a ha => ?_⟩
    obtain ⟨bytes, -, rfl⟩ := List.mem_map.1 ha
    exact Nat.add_lt_add_left (by decide) now

/-- The path delivers every packet but the second. -/
def dropsSecond (data : List UInt8) : Bool := data ≠ TurnEchoCheck.makePayload 1

/-- The network of a `turn` run with that relay, over that path. -/
def relayEnv : PipelineEnv :=
  { env [] with
    stun := ⟨txid 0, fun _ => .ok (answering (turnRelay.seenFrom srflx).answers)⟩
    turnAlloc := ⟨crypto, txid 1, txid 2,
      fun _ => .ok (answering (turnRelay.answersOver dropsSecond))⟩ }

/-- The sample environment is one in which the relay is reached. -/
theorem reached_relayEnv :
    turnRelay.Reached relayEnv ⟨"192.0.2.1", 3478⟩ srflx dropsSecond where
  port := rfl
  resolves := ⟨_, _, rfl⟩
  binding := ⟨_, rfl, bringsOnly_answering _⟩
  session := ⟨_, rfl, bringsOnly_answering _⟩
  alloc := rfl
  echo := rfl

end Sample

open Sample

/-- Three packets, of which the second is lost. -/
theorem turn_verdict_dropsSecond :
    let report := (turnJob relayEnv ⟨"192.0.2.1", 3478⟩ (some "user") (some "pass") 3).report
    report.results.map CheckResult.status = [.pass, .pass, .pass, .warn] ∧
      report.verdict.exitCode ≠ 0 := by
  intro report
  obtain ⟨-, -, -, hadmitted⟩ := turn_verdict reached_relayEnv (some "user") (some "pass") 3
  obtain ⟨hstatuses, hexit⟩ := hadmitted rfl rfl
  have hheard : Relay.echoStatus (turnRelay.heard dropsSecond srflx (max 3 1)) = .warn := by decide
  refine ⟨hheard ▸ hstatuses, fun h => ?_⟩
  have hsecond := (hexit.1 h).2 ⟨1, by decide⟩
  exact absurd hsecond (by decide)

end WebrtcDoctor
