import WebrtcDoctor.Acceptor
import WebrtcDoctor.Budget

/-!
# What a session sends

The allocation and the echo check of a TURN session share a socket. `sessionEvents` are the sends
of both and what their own receives returned, in order, up to the last packet. Over any network
they are a trace of the protocol (`session_lawful`), which `protocol` states as an acceptor : a
digest of the password is sent only after a challenge was read in answer to the first request, a
CreatePermission only after a grant was read in answer to the second, and a packet only after a
permission was read, in order, to the address granted. From a step that fails there is no way on.

A reply is any datagram that the receive returned, for the checks do not look at its source.
-/

open NetAddr

namespace WebrtcDoctor

/-- What a check does with its socket, and what comes of it. -/
inductive SocketEvent where
  | sent (d : Sent)
  | refused (d : Sent)
  | read (r : Recv Datagram)

namespace SocketEvent

/-- The datagram that left, if any. -/
def sent? : SocketEvent → Option Sent
  | .sent d => some d
  | .refused _ => none
  | .read _ => none

/-- What left the socket, in order. -/
def sends (events : List SocketEvent) : List Sent := events.filterMap sent?

@[simp] theorem sends_nil : sends [] = [] := rfl

theorem sends_append (events events' : List SocketEvent) :
    sends (events ++ events') = sends events ++ sends events' := List.filterMap_append

/-- The number of sends as a sum, event by event. -/
theorem length_sends : ∀ events : List SocketEvent,
    (sends events).length = (events.map fun e => e.sent?.toList.length).sum
  | [] => rfl
  | e :: events => by
    rw [List.map_cons, List.sum_cons, ← length_sends events]
    cases e with
    | sent d => exact Nat.add_comm _ 1
    | refused d => exact (Nat.zero_add _).symm
    | read r => exact (Nat.zero_add _).symm

end SocketEvent

open SocketEvent (sends sent? length_sends sends_append)

/-- A send and, if it goes out, what the receive after it returns. -/
def UdpSocket.exchangeEvents (sock : UdpSocket) (d : Sent) (timeout : ℕ) : List SocketEvent :=
  match sock.sendTo d.bytes d.target with
  | .error _ => [.refused d]
  | .ok sock => [.sent d, .read (sock.recvFrom timeout).1]

/-- An exchange sends what its events say. -/
theorem UdpSocket.sent_exchange {sock sock' : UdpSocket} {d : Sent}
    (h : sock.sendTo d.bytes d.target = .ok sock') (timeout : ℕ) :
    (sock'.recvFrom timeout).2.sent = sock.sent ++ sends (sock.exchangeEvents d timeout) := by
  rw [exchangeEvents, h, sent_recvFrom, sent_of_sendTo h]
  rfl

/-! ## The session -/

section

variable (alloc : TurnAllocEnv) (echo : TurnEchoEnv) (ctx : ProbeContext) (server : SocketAddr)

/-- The first Allocate request. -/
def sentUnauth : Sent := ⟨server, (buildAllocateUnauth alloc.txid1).2⟩

/-- The Allocate request that answers a challenge. -/
def sentAuthed (realm : String) (nonce : List UInt8) (user pass : String) : Sent :=
  ⟨server, (buildAllocateAuthed alloc.crypto alloc.txid2 user realm nonce
    (longTermKey alloc.crypto user realm pass)).2⟩

/-- What a server that challenges with `realm` and `nonce` grants `user`. -/
def granted (realm : String) (nonce : List UInt8) (user pass : String) (relayed : SocketAddr) :
    Grant :=
  ⟨relayed, realm, nonce, longTermKey alloc.crypto user realm pass, user⟩

/-- The CreatePermission request of a grant. -/
def sentPermission (grant : Grant) (srflx : SocketAddr) : Sent :=
  ⟨server, (TurnEchoCheck.buildCreatePermission echo.crypto echo.txid grant.username grant.realm
    grant.nonce grant.key srflx).2⟩

/-- The events of the allocation. -/
def allocEvents (sock : UdpSocket) : List SocketEvent :=
  let timeout := sessionTimeout ctx
  sock.exchangeEvents (sentUnauth alloc server) timeout ++
    match TurnAllocateCheck.udpRound server timeout (TurnAllocateCheck.unauthTexts server timeout)
      sock (buildAllocateUnauth alloc.txid1), ctx.turnUser, ctx.turnPass with
    | (.ok (.unauthorized realm nonce), sock), some user, some pass =>
      sock.exchangeEvents (sentAuthed alloc server realm nonce user pass) timeout
    | _, _, _ => []

/-- The events of the packets `seqs`. -/
def packetEvents (relayed : SocketAddr) {n : ℕ} : List (Fin n) → UdpSocket → List SocketEvent
  | [], _ => []
  | seq :: seqs, sock =>
    let d := TurnEchoCheck.packet relayed seq
    match sock.sendTo d.bytes d.target with
    | .error _ => [.refused d]
    | .ok sock => .sent d :: packetEvents relayed seqs
        (if seq.val + 1 < n then sock.sleep TurnEchoCheck.echoInterval else sock)

/-- The events of the echo check over a granted session, up to its last packet. -/
def echoEvents (grant : Grant) (srflx : SocketAddr) (recvTimeout : ℕ) (count : UInt32)
    (sock : UdpSocket) : List SocketEvent :=
  sock.exchangeEvents (sentPermission echo server grant srflx) recvTimeout ++
    match TurnEchoCheck.createPermission echo (grant.session server sock) srflx recvTimeout with
    | (.ok (), sock) => packetEvents grant.relayed (List.finRange count.toNat) sock
    | (.error _, _) => []

/-- The grant of a session. -/
def TurnSession.grant (session : TurnSession) : Grant :=
  ⟨session.relayed, session.realm, session.nonce, session.key, session.username⟩

/-- The events of an allocation and of the echo check after it. -/
def sessionEvents (sock : UdpSocket) : List SocketEvent :=
  let ctx' := (TurnAllocateCheck.runOn alloc ctx server sock).1.1
  allocEvents alloc ctx server sock ++
    match ctx'.turnSession, (ctx'.scratch "srflx").bind SocketAddr.parse with
    | some session, some srflx =>
      echoEvents echo session.server session.grant srflx (sessionTimeout ctx')
        (max ctx'.echoCount 1) session.socket
    | _, _ => []

end

/-- The socket of a session when the echo check ends. -/
def TurnEchoCheck.socketAfter (env : TurnEchoEnv) (session : TurnSession) (srflx : SocketAddr)
    (recvTimeout : ℕ) (count : UInt32) : UdpSocket :=
  match createPermission env session srflx recvTimeout with
  | (.error _, sock) => sock
  | (.ok (), sock) =>
  match sendLoop session (List.finRange count.toNat) (Vector.replicate _ none) sock with
  | (.error _, sock) => sock
  | (.ok sendTimes, sock) =>
    let lastSend := (sendTimes.toList.filterMap fun t => t).max?.getD sock.now
    (receiveLoop session (lastSend + recvTimeout) sendTimes sock (EchoState.start count)).2

/-- The check reads the time it took off that socket. -/
theorem TurnEchoCheck.latencyMs_runSession (env : TurnEchoEnv) (session : TurnSession)
    (srflx : SocketAddr) (recvTimeout : ℕ) (count : UInt32) :
    (runSession env session srflx recvTimeout count).latencyMs = Duration.asMillis
      ((socketAfter env session srflx recvTimeout count).now - session.socket.now) := by
  unfold runSession socketAfter
  dsimp only
  rcases createPermission env session srflx recvTimeout with ⟨e | _, sock₁⟩
  · rfl
  dsimp only
  rcases sendLoop session (List.finRange count.toNat) (Vector.replicate _ none) sock₁
    with ⟨e | sendTimes, sock₂⟩
  · rfl
  unfold collect
  dsimp only
  rcases receiveLoop session _ sendTimes sock₂ (EchoState.start count) with ⟨e | st, sock₃⟩
  · rfl
  · exact latencyMs_report ..

/-- The socket of an allocation and of the echo check after it. -/
def sessionSocket (alloc : TurnAllocEnv) (echo : TurnEchoEnv) (ctx : ProbeContext)
    (server : SocketAddr) (sock : UdpSocket) : UdpSocket :=
  let ((ctx, _), sock) := TurnAllocateCheck.runOn alloc ctx server sock
  match ctx.turnSession, (ctx.scratch "srflx").bind SocketAddr.parse with
  | some session, some srflx =>
    TurnEchoCheck.socketAfter echo session srflx (sessionTimeout ctx) (max ctx.echoCount 1)
  | _, _ => sock

/-! ## The protocol -/

/-- Where a session is. -/
inductive Phase where
  | start
  | asked
  | challenged (realm : String) (nonce : List UInt8)
  | loggingIn (realm : String) (nonce : List UInt8) (user pass : String)
  | allocated (grant : Grant)
  | permitting (grant : Grant)
  /-- Permitted, with the first `k` packets sent. -/
  | sending (grant : Grant) (k : ℕ)
  | ended

section

variable (alloc : TurnAllocEnv) (echo : TurnEchoEnv) (ctx : ProbeContext) (server : SocketAddr)

namespace Phase

/-- What may be sent. -/
def expects : Phase → Option Sent
  | .start => some (sentUnauth alloc server)
  | .challenged realm nonce =>
    match ctx.turnUser, ctx.turnPass with
    | some user, some pass => some (sentAuthed alloc server realm nonce user pass)
    | _, _ => none
  | .allocated grant =>
    ((ctx.scratch "srflx").bind SocketAddr.parse).map (sentPermission echo server grant)
  | .sending grant k =>
    if h : k < (max ctx.echoCount 1).toNat then
      some (TurnEchoCheck.packet grant.relayed (⟨k, h⟩ : Fin (max ctx.echoCount 1).toNat))
    else none
  | .asked | .loggingIn .. | .permitting _ | .ended => none

/-- Where that leads. -/
def afterSend : Phase → Phase
  | .start => .asked
  | .challenged realm nonce =>
    match ctx.turnUser, ctx.turnPass with
    | some user, some pass => .loggingIn realm nonce user pass
    | _, _ => .ended
  | .allocated grant => .permitting grant
  | .sending grant k => .sending grant (k + 1)
  | .asked | .loggingIn .. | .permitting _ | .ended => .ended

/-- Where a read leads, in a phase that has one to do. Only the awaited answer leads on. -/
def afterRead (r : Recv Datagram) : Phase → Option Phase
  | .asked => some <|
    match r with
    | .received d =>
      match parseAllocateResponse d.bytes alloc.txid1 with
      | .ok (.unauthorized realm nonce) => .challenged realm nonce
      | _ => .ended
    | _ => .ended
  | .loggingIn realm nonce user pass => some <|
    match r with
    | .received d =>
      match parseAllocateResponse d.bytes alloc.txid2 with
      | .ok (.success relayed _) => .allocated (granted alloc realm nonce user pass relayed)
      | _ => .ended
    | _ => .ended
  | .permitting grant => some <|
    match r with
    | .received d =>
      match TurnEchoCheck.parseCreatePermissionResponse d.bytes echo.txid with
      | .ok .success => .sending grant 0
      | _ => .ended
    | _ => .ended
  | .start | .challenged .. | .allocated _ | .sending .. | .ended => none

/-- How much may still be sent. -/
def left : Phase → ℕ
  | .start => 3 + (max ctx.echoCount 1).toNat
  | .asked | .challenged .. => 2 + (max ctx.echoCount 1).toNat
  | .loggingIn .. | .allocated _ => 1 + (max ctx.echoCount 1).toNat
  | .permitting _ => (max ctx.echoCount 1).toNat
  | .sending _ k => (max ctx.echoCount 1).toNat - k
  | .ended => 0

end Phase

/-- The protocol, for a client with the login of `ctx`. -/
def protocol : Acceptor Phase SocketEvent where
  next phase
    | .sent d =>
      if phase.expects alloc echo ctx server = some d then some (phase.afterSend ctx) else none
    | .refused d => if phase.expects alloc echo ctx server = some d then some .ended else none
    | .read r => phase.afterRead alloc echo r

end

section

variable {alloc : TurnAllocEnv} {echo : TurnEchoEnv} {ctx : ProbeContext} {server : SocketAddr}

/-- A send uses up one of those left. -/
theorem Phase.left_afterSend {phase : Phase} {d : Sent}
    (h : phase.expects alloc echo ctx server = some d) :
    1 + (phase.afterSend ctx).left ctx ≤ phase.left ctx := by
  cases phase with
  | start =>
    simp only [afterSend, left]
    omega
  | challenged realm nonce =>
    simp only [expects] at h
    simp only [afterSend]
    split at h
    · simp only [left]
      omega
    · cases h
  | allocated grant =>
    simp only [afterSend, left]
    omega
  | sending grant k =>
    simp only [expects] at h
    split_ifs at h with hk
    simp only [afterSend, left]
    omega
  | asked | loggingIn | permitting | ended => cases h

theorem Phase.left_afterRead {phase phase' : Phase} {r : Recv Datagram}
    (h : phase.afterRead alloc echo r = some phase') : phase'.left ctx ≤ phase.left ctx := by
  cases phase with
  | asked =>
    obtain rfl := Option.some.inj h
    split
    · split
      · exact le_rfl
      · exact Nat.zero_le _
    · exact Nat.zero_le _
  | loggingIn realm nonce user pass =>
    obtain rfl := Option.some.inj h
    split
    · split
      · exact le_rfl
      · exact Nat.zero_le _
    · exact Nat.zero_le _
  | permitting grant =>
    obtain rfl := Option.some.inj h
    split
    · split
      · exact Nat.sub_le _ _
      · exact Nat.zero_le _
    · exact Nat.zero_le _
  | start | challenged | allocated | sending | ended => cases h

/-- A trace of the protocol has at most the three requests and the packets. -/
theorem length_sends_le {events : List SocketEvent} {phase : Phase}
    (h : (protocol alloc echo ctx server).run .start events = some phase) :
    (sends events).length ≤ 3 + (max ctx.echoCount 1).toNat := by
  have hstep : ∀ {s s' : Phase} {e : SocketEvent}, (protocol alloc echo ctx server).next s e =
      some s' → e.sent?.toList.length + s'.left ctx ≤ s.left ctx := by
    intro s s' e hnext
    cases e with
    | sent d =>
      dsimp only [protocol] at hnext
      split_ifs at hnext with hexpects
      rw [← Option.some.inj hnext]
      exact Phase.left_afterSend hexpects
    | refused d =>
      dsimp only [protocol] at hnext
      split_ifs at hnext
      rw [← Option.some.inj hnext]
      exact Nat.zero_le _
    | read r => exact (Nat.zero_add _).trans_le (Phase.left_afterRead hnext)
  have hle : (events.map fun e => e.sent?.toList.length).sum + phase.left ctx ≤
      Phase.start.left ctx := Acceptor.weight_add_left_le hstep h
  rw [length_sends]
  exact (Nat.le_add_right _ _).trans hle

/-! ## An exchange of the session -/

/-- In a phase that expects the request, an exchange leads where its read does. -/
theorem run_exchangeEvents {phase : Phase} {d : Sent}
    (h : phase.expects alloc echo ctx server = some d) (sock : UdpSocket) (timeout : ℕ) :
    (protocol alloc echo ctx server).run phase (sock.exchangeEvents d timeout) =
      match sock.sendTo d.bytes d.target with
      | .error _ => some .ended
      | .ok sent => (phase.afterSend ctx).afterRead alloc echo (sent.recvFrom timeout).1 := by
  unfold UdpSocket.exchangeEvents
  cases sock.sendTo d.bytes d.target with
  | error e => simp [protocol, h]
  | ok sent =>
    simp only [Acceptor.run_cons, Acceptor.run_nil, protocol, h, if_true, Option.bind_some,
      Option.bind_fun_some]

/-- What a round sends is what its exchange does. -/
theorem sent_udpRound (server : SocketAddr) (timeout : ℕ) (texts : RoundTexts) (sock : UdpSocket)
    (request : TxId × List UInt8) :
    (TurnAllocateCheck.udpRound server timeout texts sock request).2.sent =
      sock.sent ++ sends (sock.exchangeEvents ⟨server, request.2⟩ timeout) := by
  unfold TurnAllocateCheck.udpRound allocateRound
  dsimp only
  cases hsend : sock.sendTo request.2 server with
  | error e => simp [UdpSocket.exchangeEvents, hsend, sends, sent?]
  | ok sent =>
    have hsent := UdpSocket.sent_exchange (d := ⟨server, request.2⟩) hsend timeout
    unfold TurnAllocateCheck.recvAny
    dsimp only
    rcases hread : sent.recvFrom timeout with ⟨_ | e | d, s'⟩
    · rwa [hread] at hsent
    · rwa [hread] at hsent
    · rw [hread] at hsent
      dsimp only
      split <;> exact hsent

/-- What a round makes of its reply is what the protocol makes of the read. -/
theorem run_udpRound_ok {phase : Phase} {timeout : ℕ} {texts : RoundTexts} {sock sock' : UdpSocket}
    {request : TxId × List UInt8} {outcome : AllocateOutcome}
    (h : phase.expects alloc echo ctx server = some ⟨server, request.2⟩)
    (hround : TurnAllocateCheck.udpRound server timeout texts sock request = (.ok outcome, sock')) :
    ∃ d, parseAllocateResponse d.bytes request.1 = .ok outcome ∧
      (protocol alloc echo ctx server).run phase
          (sock.exchangeEvents ⟨server, request.2⟩ timeout) =
        (phase.afterSend ctx).afterRead alloc echo (.received d) := by
  obtain ⟨sent, buf, hsend, hrecv, hparse⟩ := TurnAllocateCheck.udpRound_eq_ok.1 hround
  have hexchange := run_exchangeEvents h sock timeout
  dsimp only at hexchange
  unfold TurnAllocateCheck.recvAny at hrecv
  rcases hread : sent.recvFrom timeout with ⟨_ | e | d, s'⟩ <;> rw [hread] at hrecv
  · cases hrecv
  · cases hrecv
  · cases hrecv
    rw [hsend] at hexchange
    dsimp only at hexchange
    rw [hread] at hexchange
    exact ⟨d, hparse, hexchange⟩

/-- An exchange that is due is accepted, however it ends. -/
theorem accepts_exchangeEvents {phase : Phase} {d : Sent}
    (h : phase.expects alloc echo ctx server = some d)
    (hread : ∀ r, ∃ phase', (phase.afterSend ctx).afterRead alloc echo r = some phase')
    (sock : UdpSocket) (timeout : ℕ) :
    (protocol alloc echo ctx server).Accepts phase (sock.exchangeEvents d timeout) := by
  unfold Acceptor.Accepts
  rw [run_exchangeEvents h]
  cases sock.sendTo d.bytes d.target with
  | error e => exact ⟨_, rfl⟩
  | ok sent => exact hread _

/-! ## The allocation -/

open TurnAllocateCheck

/-- The allocation follows the protocol, and a session it leaves is one that may ask for its
permission. -/
def Allocates (alloc : TurnAllocEnv) (echo : TurnEchoEnv) (ctx : ProbeContext)
    (server : SocketAddr) (sock : UdpSocket) (events : List SocketEvent)
    (out : (ProbeContext × CheckResult) × UdpSocket) : Prop :=
  ∃ phase, (protocol alloc echo ctx server).run .start events = some phase ∧
    out.2.sent = sock.sent ++ sends events ∧
    out.1.1.scratch "srflx" = ctx.scratch "srflx" ∧ out.1.1.echoCount = ctx.echoCount ∧
    (out.1.1.turnSession = ctx.turnSession ∨
      ∃ grant, phase = .allocated grant ∧ out.1.1.turnSession = some (grant.session server out.2))

/-- An allocation that leaves the context as it was need only follow the protocol. -/
theorem allocates_of_accepts {sock s : UdpSocket} {events : List SocketEvent} {result : CheckResult}
    (h : (protocol alloc echo ctx server).Accepts .start events)
    (hsent : s.sent = sock.sent ++ sends events) :
    Allocates alloc echo ctx server sock events ((ctx, result), s) := by
  obtain ⟨phase, hphase⟩ := h
  exact ⟨phase, hphase, hsent, rfl, rfl, .inl rfl⟩

theorem scratch_relayed (ctx : ProbeContext) (relayed : String) :
    (ctx.insertScratch "relayed" relayed).scratch "srflx" = ctx.scratch "srflx" :=
  ctx.insertScratch_scratch_of_ne relayed (by decide)

/-- Round 2, after the challenge. -/
theorem allocates_runAuthed {started : ℕ} {realm user pass : String} {nonce : List UInt8}
    {events : List SocketEvent} {sock s : UdpSocket} (huser : ctx.turnUser = some user)
    (hpass : ctx.turnPass = some pass)
    (hrun : (protocol alloc echo ctx server).run .start events = some (.challenged realm nonce))
    (hsent : s.sent = sock.sent ++ sends events) :
    Allocates alloc echo ctx server sock
      (events ++ s.exchangeEvents (sentAuthed alloc server realm nonce user pass)
        (sessionTimeout ctx))
      (runAuthed alloc ctx server started (sessionTimeout ctx) s realm nonce user pass) := by
  set request := buildAllocateAuthed alloc.crypto alloc.txid2 user realm nonce
    (longTermKey alloc.crypto user realm pass) with hrequest
  have hexpects : (Phase.challenged realm nonce).expects alloc echo ctx server =
      some ⟨server, request.2⟩ := by
    rw [Phase.expects, huser, hpass]
    rfl
  have hafter :
      (Phase.challenged realm nonce).afterSend ctx = .loggingIn realm nonce user pass := by
    rw [Phase.afterSend, huser, hpass]
  have hround := sent_udpRound server (sessionTimeout ctx)
    (authedTexts server (sessionTimeout ctx)) s request
  rw [hsent, List.append_assoc, ← sends_append] at hround
  have haccepts := Acceptor.accepts_append _ hrun (accepts_exchangeEvents hexpects
    (fun r => by rw [hafter]; exact ⟨_, rfl⟩) s (sessionTimeout ctx))
  unfold runAuthed
  dsimp only
  rw [← hrequest]
  rcases heq : udpRound server (sessionTimeout ctx) (authedTexts server (sessionTimeout ctx)) s
    request with ⟨e | outcome, s'⟩ <;> rw [heq] at hround
  · exact allocates_of_accepts haccepts hround
  obtain ⟨d, hparse, hphase⟩ := run_udpRound_ok hexpects heq
  rw [hafter, ← Acceptor.run_append_of_run _ hrun] at hphase
  cases outcome with
  | success relayed lifetime =>
    refine ⟨_, hphase.trans ?_, hround, scratch_relayed ctx (toString relayed), rfl,
      .inr ⟨granted alloc realm nonce user pass relayed, rfl, rfl⟩⟩
    have hreply : parseAllocateResponse d.bytes alloc.txid2 = .ok (.success relayed lifetime) :=
      hparse
    rw [Phase.afterRead, hreply]
  | unauthorized realm' nonce' => exact allocates_of_accepts haccepts hround
  | error code reason => exact allocates_of_accepts haccepts hround

theorem allocates_runOn (sock : UdpSocket) :
    Allocates alloc echo ctx server sock (allocEvents alloc ctx server sock)
      (runOn alloc ctx server sock) := by
  have hexpects : Phase.start.expects alloc echo ctx server =
      some ⟨server, (buildAllocateUnauth alloc.txid1).2⟩ := rfl
  have hround := sent_udpRound server (sessionTimeout ctx)
    (unauthTexts server (sessionTimeout ctx)) sock (buildAllocateUnauth alloc.txid1)
  have haccepts := accepts_exchangeEvents hexpects (fun r => ⟨_, rfl⟩) sock (sessionTimeout ctx)
  unfold allocEvents runOn
  dsimp only
  rw [show ctx.timeoutOr (Duration.fromSecs 5) = sessionTimeout ctx from rfl]
  rcases heq : udpRound server (sessionTimeout ctx) (unauthTexts server (sessionTimeout ctx)) sock
    (buildAllocateUnauth alloc.txid1) with ⟨e | outcome, s⟩ <;> rw [heq] at hround
  · rw [List.append_nil]
    exact allocates_of_accepts haccepts hround
  obtain ⟨d, hparse, hphase⟩ := run_udpRound_ok hexpects heq
  cases outcome with
  | success relayed lifetime =>
    rw [List.append_nil]
    obtain ⟨phase, haccepted⟩ := haccepts
    exact ⟨phase, haccepted, hround, scratch_relayed ctx (toString relayed), rfl, .inl rfl⟩
  | error code reason =>
    rw [List.append_nil]
    exact allocates_of_accepts haccepts hround
  | unauthorized realm nonce =>
    have hreply : parseAllocateResponse d.bytes alloc.txid1 = .ok (.unauthorized realm nonce) :=
      hparse
    have hchallenged := hphase
    rw [Phase.afterSend, Phase.afterRead, hreply] at hchallenged
    dsimp only
    rcases huser : ctx.turnUser with _ | user
    · rw [List.append_nil]
      exact allocates_of_accepts haccepts hround
    rcases hpass : ctx.turnPass with _ | pass
    · rw [List.append_nil]
      exact allocates_of_accepts haccepts hround
    · exact allocates_runAuthed huser hpass hchallenged hround

/-! ## The echo check -/

open TurnEchoCheck

/-- The packets go out in order, up to one that fails. -/
theorem run_packetEvents (grant : Grant) : ∀ (m k : ℕ), k + m = (max ctx.echoCount 1).toNat →
    ∀ sock : UdpSocket, (protocol alloc echo ctx server).Accepts (.sending grant k)
      (packetEvents grant.relayed ((List.finRange (max ctx.echoCount 1).toNat).drop k) sock)
  | 0, k, hk, sock => by
    rw [List.drop_eq_nil_of_le (by simp; omega)]
    exact ⟨_, rfl⟩
  | m + 1, k, hk, sock => by
    have hkn : k < (max ctx.echoCount 1).toNat := by omega
    have hexpects : (Phase.sending grant k).expects alloc echo ctx server =
        some (packet grant.relayed (⟨k, hkn⟩ : Fin (max ctx.echoCount 1).toNat)) := dif_pos hkn
    rw [List.drop_eq_getElem_cons (by simpa using hkn), List.getElem_finRange, packetEvents]
    split
    · refine ⟨.ended, ?_⟩
      simp only [Acceptor.run_cons, protocol, Fin.cast_mk, hexpects, if_true]
      rfl
    · obtain ⟨phase, hphase⟩ := run_packetEvents grant m (k + 1) (by omega) _
      refine ⟨phase, ?_⟩
      simp only [Acceptor.run_cons, protocol, Fin.cast_mk, hexpects, if_true, Option.bind_some]
      exact hphase

/-- The send loop sends what its events say. -/
theorem sent_sendLoop (session : TurnSession) {n : ℕ} : ∀ (seqs : List (Fin n))
    (times : Vector (Option ℕ) n) (sock : UdpSocket),
    (sendLoop session seqs times sock).2.sent =
      sock.sent ++ sends (packetEvents session.relayed seqs sock)
  | [], times, sock => (List.append_nil _).symm
  | seq :: seqs, times, sock => by
    rw [sendLoop, packetEvents]
    dsimp only [packet]
    rcases hsend : sock.sendTo (makePayload (UInt32.ofNat seq)) session.relayed with e | sent
    · exact (List.append_nil _).symm
    dsimp only
    have hcons : sends (SocketEvent.sent ⟨session.relayed, makePayload (UInt32.ofNat seq)⟩ ::
        packetEvents session.relayed seqs
          (if seq.val + 1 < n then sent.sleep echoInterval else sent)) =
        [⟨session.relayed, makePayload (UInt32.ofNat seq)⟩] ++ sends (packetEvents session.relayed
          seqs (if seq.val + 1 < n then sent.sleep echoInterval else sent)) := rfl
    have hsleep : (if seq.val + 1 < n then sent.sleep echoInterval else sent).sent =
        sock.sent ++ [⟨session.relayed, makePayload (UInt32.ofNat seq)⟩] := by
      rw [← UdpSocket.sent_of_sendTo hsend]
      split_ifs <;> rfl
    rw [sent_sendLoop session seqs, hsleep, hcons, List.append_assoc]

/-- The receive loop sends nothing. -/
theorem sent_receiveLoop {count : UInt32} (session : TurnSession) (recvDeadline : ℕ)
    (sendTimes : Vector (Option ℕ) count.toNat) (sock : UdpSocket) (st : EchoState count) :
    (receiveLoop session recvDeadline sendTimes sock st).2.sent = sock.sent := by
  induction hn : sock.queue.length using Nat.strongRecOn generalizing sock st with
  | _ n ih =>
    rw [receiveLoop]
    split
    swap
    · rfl
    split
    · rfl
    have hsent := sock.sent_recvFrom (recvDeadline - sock.now)
    split <;> rename_i hrecv <;> rw [hrecv] at hsent
    · exact hsent
    · exact hsent
    next d sock' =>
      refine (ih _ ?_ _ _ rfl).trans hsent
      rcases sock.length_queue_recvFrom (recvDeadline - sock.now) with ⟨helapsed, -⟩ | hlt
      · rw [hrecv] at helapsed
        cases helapsed
      · rw [hrecv] at hlt
        exact hn ▸ hlt

/-- A permission is what the protocol makes of the read. -/
theorem createPermission_events {grant : Grant} {srflx : SocketAddr}
    (hexpects : (Phase.allocated grant).expects alloc echo ctx server =
      some (sentPermission echo server grant srflx)) (recvTimeout : ℕ) (sock : UdpSocket) :
    (createPermission echo (grant.session server sock) srflx recvTimeout).2.sent = sock.sent ++
        sends (sock.exchangeEvents (sentPermission echo server grant srflx) recvTimeout) ∧
      ((createPermission echo (grant.session server sock) srflx recvTimeout).1 = .ok () →
        (protocol alloc echo ctx server).run (.allocated grant)
            (sock.exchangeEvents (sentPermission echo server grant srflx) recvTimeout) =
          some (.sending grant 0)) := by
  have hexchange := run_exchangeEvents hexpects sock recvTimeout
  unfold createPermission Grant.session
  dsimp only
  rcases hsend : sock.sendTo (sentPermission echo server grant srflx).bytes server with e | sent
  · rw [show (buildCreatePermission echo.crypto echo.txid grant.username grant.realm grant.nonce
      grant.key srflx).2 = (sentPermission echo server grant srflx).bytes from rfl, hsend]
    refine ⟨?_, fun h => nomatch h⟩
    simp [UdpSocket.exchangeEvents, show (sentPermission echo server grant srflx).target = server
      from rfl, hsend, sends, sent?]
  have hsent := UdpSocket.sent_exchange (d := sentPermission echo server grant srflx) hsend
    recvTimeout
  rw [show (sentPermission echo server grant srflx).target = server from rfl, hsend] at hexchange
  rw [show (buildCreatePermission echo.crypto echo.txid grant.username grant.realm grant.nonce
    grant.key srflx).2 = (sentPermission echo server grant srflx).bytes from rfl, hsend]
  dsimp only at hexchange ⊢
  rcases hread : sent.recvFrom recvTimeout with ⟨_ | e | d, s'⟩ <;> rw [hread] at hsent hexchange
  · exact ⟨hsent, fun h => nomatch h⟩
  · exact ⟨hsent, fun h => nomatch h⟩
  dsimp only
  split
  next hparse =>
    have hreply : parseCreatePermissionResponse d.bytes echo.txid = .ok .success :=
      Checked.result_eq_ok.1 hparse
    refine ⟨hsent, fun _ => ?_⟩
    rw [hexchange, Phase.afterSend, Phase.afterRead, hreply]
  · exact ⟨hsent, fun h => nomatch h⟩
  · exact ⟨hsent, fun h => nomatch h⟩

/-- The echo check over a granted session goes on with the protocol. -/
theorem echoes_socketAfter {grant : Grant} {srflx : SocketAddr}
    (hsrflx : (ctx.scratch "srflx").bind SocketAddr.parse = some srflx) (recvTimeout : ℕ)
    (sock : UdpSocket) :
    (protocol alloc echo ctx server).Accepts (.allocated grant)
        (echoEvents echo server grant srflx recvTimeout (max ctx.echoCount 1) sock) ∧
      (socketAfter echo (grant.session server sock) srflx recvTimeout (max ctx.echoCount 1)).sent =
        sock.sent ++
          sends (echoEvents echo server grant srflx recvTimeout (max ctx.echoCount 1) sock) := by
  have hexpects : (Phase.allocated grant).expects alloc echo ctx server =
      some (sentPermission echo server grant srflx) := by
    rw [Phase.expects, hsrflx]
    rfl
  have haccepts := accepts_exchangeEvents hexpects (fun r => ⟨_, rfl⟩) sock recvTimeout
  obtain ⟨hsent, hpermitted⟩ := createPermission_events hexpects recvTimeout sock
  unfold echoEvents socketAfter
  rcases hcreate : createPermission echo (grant.session server sock) srflx recvTimeout
    with ⟨e | _, s⟩ <;> rw [hcreate] at hsent hpermitted
  · rw [List.append_nil]
    exact ⟨haccepts, hsent⟩
  have hloop := sent_sendLoop (grant.session server sock)
    (List.finRange (max ctx.echoCount 1).toNat) (Vector.replicate _ none) s
  refine ⟨Acceptor.accepts_append _ (hpermitted rfl)
    (run_packetEvents grant _ 0 (Nat.zero_add _) s), ?_⟩
  · dsimp only
    rw [sends_append, ← List.append_assoc, ← hsent]
    rcases hsending : sendLoop (grant.session server sock)
      (List.finRange (max ctx.echoCount 1).toNat) (Vector.replicate _ none) s
      with ⟨e | sendTimes, s'⟩ <;> rw [hsending] at hloop
    · exact hloop
    · exact (sent_receiveLoop _ _ _ _ _).trans hloop

end

/-- Whatever the network does, what a session does with a socket is a trace of the protocol, and
what it sends are the sends of this trace. They are at most the three requests and the packets. -/
theorem session_lawful (alloc : TurnAllocEnv) (echo : TurnEchoEnv) (ctx : ProbeContext)
    (server : SocketAddr) (sock : UdpSocket) (hfresh : ctx.turnSession = none) :
    let events := sessionEvents alloc echo ctx server sock
    (protocol alloc echo ctx server).Accepts .start events ∧
      (sessionSocket alloc echo ctx server sock).sent = sock.sent ++ sends events ∧
      (sends events).length ≤ 3 + (max ctx.echoCount 1).toNat := by
  intro events
  suffices h : (protocol alloc echo ctx server).Accepts .start events ∧
      (sessionSocket alloc echo ctx server sock).sent = sock.sent ++ sends events by
    obtain ⟨⟨phase, hphase⟩, hsent⟩ := h
    exact ⟨⟨phase, hphase⟩, hsent, length_sends_le hphase⟩
  obtain ⟨phase, hphase, hsent, hsrflx, hcount, hsession⟩ :=
    @allocates_runOn alloc echo ctx server sock
  dsimp only [events]
  unfold sessionEvents sessionSocket
  dsimp only
  rcases hsession with hsession | ⟨grant, rfl, hsession⟩
  · rw [hsession, hfresh]
    dsimp only
    rw [List.append_nil]
    exact ⟨⟨phase, hphase⟩, hsent⟩
  rw [hsession, hsrflx, hcount]
  rcases hparse : (ctx.scratch "srflx").bind SocketAddr.parse with _ | srflx
  · dsimp only
    rw [List.append_nil]
    exact ⟨⟨_, hphase⟩, hsent⟩
  obtain ⟨haccepts, hechoed⟩ := @echoes_socketAfter alloc echo ctx server grant srflx
    hparse (sessionTimeout (TurnAllocateCheck.runOn alloc ctx server sock).1.1)
    (TurnAllocateCheck.runOn alloc ctx server sock).2
  refine ⟨Acceptor.accepts_append _ hphase haccepts, ?_⟩
  rw [sends_append, ← List.append_assoc, ← hsent]
  exact hechoed

open Sample in
theorem session_lawful_login :
    let replies := [challenge (txid 1), grant (txid 2)]
    let events := sessionEvents (allocEnv replies) echoEnv loginCtx server (socket replies)
    (protocol (allocEnv replies) echoEnv loginCtx server).Accepts .start events ∧
      (sessionSocket (allocEnv replies) echoEnv loginCtx server (socket replies)).sent =
        sends events ∧ (sends events).length ≤ 13 :=
  session_lawful _ _ _ _ _ rfl

end WebrtcDoctor
