import WebrtcDoctor.AllocateDance
import WebrtcDoctor.TurnEcho

/-!
# The exchanges of a session

`turn.alloc.udp` and the CreatePermission of `turn.echo.udp` are one dialogue with the server
over their shared socket (`sessionDance`). Where it carries the dialogue, the statuses of the
two checks are those the dialogue ends with, or follow from the packets that the echo check
sends next (`statuses_give`).

A socket carries the dialogue if each read of an exchange begins with the awaited answer
(`runOver_of_readsAnswers`). A read takes what comes first, whatever its source and its
transaction ID.
-/

open BigEndian NetAddr

namespace WebrtcDoctor

/-- The environment of the allocation check with every bind giving `sock`. -/
def TurnAllocEnv.withSocket (env : TurnAllocEnv) (sock : UdpSocket) : TurnAllocEnv :=
  { env with bind := fun _ => .ok sock }

/-- The status of the allocation check that ends with `out`, and of the echo check after it. -/
def statusesAfter (echo : TurnEchoEnv) (out : ProbeContext × CheckResult) :
    CheckStatus × CheckStatus :=
  (out.2.status, (TurnEchoCheck.run echo out.1).2.status)

/-- The statuses of the two checks over `sock`. -/
def statuses (alloc : TurnAllocEnv) (echo : TurnEchoEnv) (ctx : ProbeContext) (sock : UdpSocket) :
    CheckStatus × CheckStatus :=
  statusesAfter echo (TurnAllocateCheck.run (alloc.withSocket sock) ctx)

/-- `recv_timeout` of both checks. -/
def sessionTimeout (ctx : ProbeContext) : ℕ := ctx.timeoutOr (Duration.fromSecs 5)

/-- What an authenticated allocation grants. With a socket it is a session. -/
structure Grant where
  relayed : SocketAddr
  realm : String
  nonce : List UInt8
  key : Key
  username : String

/-- The session that a grant makes. -/
def Grant.session (grant : Grant) (server : SocketAddr) (sock : UdpSocket) : TurnSession :=
  ⟨sock, server, grant.relayed, grant.realm, grant.nonce, grant.key, grant.username⟩

/-- The exchanges end with the statuses of both checks, or with a permission. -/
inductive SessionEnd where
  | ended (alloc echo : CheckStatus)
  | permitted (grant : Grant)

/-- The CreatePermission of a session. -/
def permissionDance (echo : TurnEchoEnv) (grant : Grant) (srflx : SocketAddr) :
    Dialogue (List UInt8) (List UInt8) SessionEnd :=
  .ask (TurnEchoCheck.buildCreatePermission echo.crypto echo.txid grant.username grant.realm
      grant.nonce grant.key srflx).2 fun reply =>
    match (TurnEchoCheck.parseCreatePermissionResponse reply echo.txid).result
        (TurnEchoCheck.parseCreatePermissionResponse_safe _ _) with
    | .ok .success => .done (.permitted grant)
    | _ => .done (.ended .pass .fail)

/-- Round 2 and what follows it. -/
def authedSession (alloc : TurnAllocEnv) (echo : TurnEchoEnv) (ctx : ProbeContext)
    (realm : String) (nonce : List UInt8) (user pass : String) :
    Dialogue (List UInt8) (List UInt8) SessionEnd :=
  let key := longTermKey alloc.crypto user realm pass
  .ask (buildAllocateAuthed alloc.crypto alloc.txid2 user realm nonce key).2 fun reply =>
    match (parseAllocateResponse reply alloc.txid2).result (parseAllocateResponse_safe _ _) with
    | .ok (.success relayed _) =>
      match (ctx.scratch "srflx").bind SocketAddr.parse with
      | none => .done (.ended .pass .skip)
      | some srflx => permissionDance echo ⟨relayed, realm, nonce, key, user⟩ srflx
    | _ => .done (.ended .fail (TurnEchoCheck.run echo ctx).2.status)

/-- The exchanges of both checks. Without a session of its own the echo check finds the
context of the allocation check. -/
def sessionDance (alloc : TurnAllocEnv) (echo : TurnEchoEnv) (ctx : ProbeContext) :
    Dialogue (List UInt8) (List UInt8) SessionEnd :=
  .ask (buildAllocateUnauth alloc.txid1).2 fun reply =>
    match (parseAllocateResponse reply alloc.txid1).result (parseAllocateResponse_safe _ _) with
    | .error _ => .done (.ended .fail (TurnEchoCheck.run echo ctx).2.status)
    | .ok (.error _ _) => .done (.ended .fail (TurnEchoCheck.run echo ctx).2.status)
    | .ok (.success relayed _) => .done (.ended .pass
        (TurnEchoCheck.run echo (ctx.insertScratch "relayed" (toString relayed))).2.status)
    | .ok (.unauthorized realm nonce) =>
      match ctx.turnUser, ctx.turnPass with
      | some user, some pass => authedSession alloc echo ctx realm nonce user pass
      | _, _ => .done (.ended .warn (TurnEchoCheck.run echo ctx).2.status)

/-- The checks have the statuses `both` when their exchanges end with `e` and leave `sock`. -/
def SessionEnd.Gives (echo : TurnEchoEnv) (ctx : ProbeContext) (server : SocketAddr)
    (both : CheckStatus × CheckStatus) (sock : UdpSocket) : SessionEnd → Prop
  | .ended a e => both = (a, e)
  | .permitted grant => ∃ sock₀ srflx,
      TurnEchoCheck.createPermission echo (grant.session server sock₀) srflx (sessionTimeout ctx) =
        (.ok (), sock) ∧
      both = (.pass, (TurnEchoCheck.runSession echo (grant.session server sock₀) srflx
        (sessionTimeout ctx) (max ctx.echoCount 1)).status)

/-! ## The checks are the dialogue -/

open TurnAllocateCheck

section

variable {alloc : TurnAllocEnv} {echo : TurnEchoEnv} {ctx : ProbeContext} {server : SocketAddr}
  {timeout : ℕ} {sock sock' : UdpSocket} {buf : List UInt8}

theorem udpExchange_eq_ok {request : List UInt8} :
    udpExchange server timeout sock request = (.ok buf, sock') ↔
      ∃ sent source, sock.sendTo request server = .ok sent ∧
        sent.recvFrom timeout = (.received ⟨source, buf⟩, sock') := by
  unfold udpExchange exchange recvAny
  dsimp only
  constructor
  · intro h
    split at h
    · cases h
    next sent hsent =>
      rcases hrecv : sent.recvFrom timeout with ⟨_ | e | d, s⟩ <;> rw [hrecv] at h <;> cases h
      exact ⟨sent, d.source, hsent, hrecv⟩
  · rintro ⟨sent, source, hsent, hrecv⟩
    rw [hsent]
    dsimp only
    rw [hrecv]

/-- The CreatePermission is an exchange. -/
theorem createPermission_of_exchange {session : TurnSession} {srflx : SocketAddr}
    (h : udpExchange session.server timeout session.socket (TurnEchoCheck.buildCreatePermission
      echo.crypto echo.txid session.username session.realm session.nonce session.key srflx).2 =
        (.ok buf, sock)) :
    TurnEchoCheck.createPermission echo session srflx timeout =
      (match (TurnEchoCheck.parseCreatePermissionResponse buf echo.txid).result
          (TurnEchoCheck.parseCreatePermissionResponse_safe _ _) with
        | .ok .success => .ok ()
        | .ok (.error code reason) => .error s!"CreatePermission rejected: {code} {reason}"
        | .error e => .error s!"malformed CreatePermission resp: {e}", sock) := by
  obtain ⟨sent, source, hsend, hrecv⟩ := udpExchange_eq_ok.1 h
  unfold TurnEchoCheck.createPermission
  dsimp only
  rw [hsend]
  dsimp only
  rw [hrecv]
  dsimp only
  simp only [show (TurnEchoCheck.buildCreatePermission echo.crypto echo.txid session.username
    session.realm session.nonce session.key srflx).1 = echo.txid from rfl]
  rcases (TurnEchoCheck.parseCreatePermissionResponse buf echo.txid).result
    (TurnEchoCheck.parseCreatePermissionResponse_safe _ _) with e | _ | ⟨code, reason⟩ <;> rfl

theorem status_of_refused {session : TurnSession} {srflx : SocketAddr} {count : UInt32}
    {msg : String}
    (h : TurnEchoCheck.createPermission echo session srflx timeout = (.error msg, sock)) :
    (TurnEchoCheck.runSession echo session srflx timeout count).status = .fail := by
  unfold TurnEchoCheck.runSession
  rw [h]
  rfl

/-- The echo check with a session of its own is the permission, then the packets. -/
theorem permission_gives {grant : Grant} {srflx : SocketAddr} {e : SessionEnd}
    (h : (permissionDance echo grant srflx).runOver (udpExchange server (sessionTimeout ctx)) sock =
      (.ok e, sock')) :
    e.Gives echo ctx server (.pass, (TurnEchoCheck.runSession echo (grant.session server sock) srflx
      (sessionTimeout ctx) (max ctx.echoCount 1)).status) sock' := by
  unfold permissionDance at h
  rcases hreply : udpExchange server (sessionTimeout ctx) sock (TurnEchoCheck.buildCreatePermission
    echo.crypto echo.txid grant.username grant.realm grant.nonce grant.key srflx).2 with
    ⟨e | buf, sock₁⟩
  · rw [Dialogue.runOver_ask_of_error hreply] at h
    cases h
  rw [Dialogue.runOver_ask_of_ok hreply] at h
  have hcp := @createPermission_of_exchange echo (sessionTimeout ctx) sock₁ buf
    (grant.session server sock) srflx hreply
  rcases hparse : (TurnEchoCheck.parseCreatePermissionResponse buf echo.txid).result
    (TurnEchoCheck.parseCreatePermissionResponse_safe _ _) with e | _ | ⟨code, reason⟩ <;>
      rw [hparse] at h hcp <;> cases h
  · exact congrArg (Prod.mk _) (status_of_refused hcp)
  · exact ⟨sock, srflx, hcp, rfl⟩
  · exact congrArg (Prod.mk _) (status_of_refused hcp)

/-- The echo check over the session that the allocation check leaves. -/
theorem run_of_grant (grant : Grant) (relayed : String) :
    (TurnEchoCheck.run echo { ctx.insertScratch "relayed" relayed with
        turnSession := some (grant.session server sock) }).2.status =
      match (ctx.scratch "srflx").bind SocketAddr.parse with
      | none => .skip
      | some srflx => (TurnEchoCheck.runSession echo (grant.session server sock) srflx
          (sessionTimeout ctx) (max ctx.echoCount 1)).status := by
  unfold TurnEchoCheck.run
  dsimp only
  rw [ProbeContext.insertScratch_scratch_of_ne ctx relayed (by decide : "srflx" ≠ "relayed")]
  cases (ctx.scratch "srflx").bind SocketAddr.parse <;> rfl

/-- Round 2 and the echo check after it are the second part of the dialogue. -/
theorem authed_gives {started : ℕ} {realm user pass : String} {nonce : List UInt8} {e : SessionEnd}
    (h : (authedSession alloc echo ctx realm nonce user pass).runOver
      (udpExchange server (sessionTimeout ctx)) sock = (.ok e, sock')) :
    e.Gives echo ctx server (statusesAfter echo (runAuthed alloc ctx server started
      (sessionTimeout ctx) sock realm nonce user pass).1) sock' := by
  unfold authedSession at h
  unfold runAuthed udpRound
  dsimp only at h ⊢
  rcases hreply : udpExchange server (sessionTimeout ctx) sock (buildAllocateAuthed alloc.crypto
    alloc.txid2 user realm nonce (longTermKey alloc.crypto user realm pass)).2 with ⟨e | buf, sock₁⟩
  · rw [Dialogue.runOver_ask_of_error hreply] at h
    cases h
  rw [Dialogue.runOver_ask_of_ok hreply] at h
  rw [allocateRound_of_ok _ hreply]
  simp only [show (buildAllocateAuthed alloc.crypto alloc.txid2 user realm nonce
    (longTermKey alloc.crypto user realm pass)).1 = alloc.txid2 from rfl]
  rcases hparse : (parseAllocateResponse buf alloc.txid2).result (parseAllocateResponse_safe _ _)
    with e | ⟨relayed, lifetime⟩ | ⟨realm', nonce'⟩ | ⟨code, reason⟩ <;> rw [hparse] at h
  · cases h
    rfl
  · let grant : Grant :=
      ⟨relayed, realm, nonce, longTermKey alloc.crypto user realm pass, user⟩
    show e.Gives echo ctx server (.pass, (TurnEchoCheck.run echo
      { ctx.insertScratch "relayed" (toString relayed) with
        turnSession := some (grant.session server sock₁) }).2.status) sock'
    rw [run_of_grant]
    dsimp only at h
    rcases hsrflx : (ctx.scratch "srflx").bind SocketAddr.parse with _ | srflx <;>
      rw [hsrflx] at h
    · cases h
      rfl
    · exact permission_gives h
  · cases h
    rfl
  · cases h
    rfl

/-- The two checks are the dialogue. -/
theorem statuses_give {port : UInt16} {ip : IpAddr} {e : SessionEnd} (hport : ctx.port = some port)
    (hip : ctx.resolvedIps.head? = some ip)
    (h : (sessionDance alloc echo ctx).runOver (udpExchange ⟨ip, port⟩ (sessionTimeout ctx)) sock =
      (.ok e, sock')) :
    e.Gives echo ctx ⟨ip, port⟩ (statuses alloc echo ctx sock) sock' := by
  have hrun : TurnAllocateCheck.run (alloc.withSocket sock) ctx =
      (runOn (alloc.withSocket sock) ctx ⟨ip, port⟩ sock).1 := by
    unfold TurnAllocateCheck.run
    rw [hport, hip]
    rfl
  rw [statuses, hrun]
  unfold sessionDance at h
  unfold runOn udpRound
  dsimp only [TurnAllocEnv.withSocket]
  rw [show ctx.timeoutOr (Duration.fromSecs 5) = sessionTimeout ctx from rfl]
  rcases hreply : udpExchange ⟨ip, port⟩ (sessionTimeout ctx) sock
    (buildAllocateUnauth alloc.txid1).2 with ⟨e | buf, sock₁⟩
  · rw [Dialogue.runOver_ask_of_error hreply] at h
    cases h
  rw [Dialogue.runOver_ask_of_ok hreply] at h
  rw [allocateRound_of_ok _ hreply]
  simp only [show (buildAllocateUnauth alloc.txid1).1 = alloc.txid1 from rfl]
  rcases hparse : (parseAllocateResponse buf alloc.txid1).result (parseAllocateResponse_safe _ _)
    with e | ⟨relayed, lifetime⟩ | ⟨realm, nonce⟩ | ⟨code, reason⟩ <;> rw [hparse] at h
  · cases h
    rfl
  · cases h
    rfl
  · dsimp only [Except.mapError] at h ⊢
    rcases huser : ctx.turnUser with _ | user <;> rcases hpass : ctx.turnPass with _ | pass <;>
      rw [huser, hpass] at h
    · cases h
      rfl
    · cases h
      rfl
    · cases h
      rfl
    · have hauthed : (authedSession (alloc.withSocket sock) echo ctx realm nonce user pass).runOver
          (udpExchange ⟨ip, port⟩ (sessionTimeout ctx)) sock₁ = (.ok e, sock') := h
      exact authed_gives hauthed
  · cases h
    rfl

end

/-! ## Reads that begin with the answer -/

/-- The first datagram in the queue is `answer`, as a read cuts it, and in time. -/
def AnswerFirst (timeout : ℕ) (answer : List UInt8) (sock : UdpSocket) : Prop :=
  ∃ a ∈ sock.queue.head?, a.time ≤ sock.now + timeout ∧
    ∃ d ∈ a.event.toOption, d.bytes.take UdpSocket.bufLen = answer

instance (timeout : ℕ) (answer : List UInt8) (sock : UdpSocket) :
    Decidable (AnswerFirst timeout answer sock) :=
  inferInstanceAs (Decidable (∃ a ∈ sock.queue.head?, _))

/-- The socket after the exchanges of `requests`. -/
def exchanged (server : SocketAddr) (timeout : ℕ) (requests : List (List UInt8))
    (sock : UdpSocket) : UdpSocket :=
  requests.foldl (fun sock request => (udpExchange server timeout sock request).2) sock

/-- From `sock`, where `asked` were sent, each read in the exchanges of `requests` begins with
the server's answer to the last of the requests. -/
def ReadsAnswers (reply : List (List UInt8) → List UInt8) (server : SocketAddr) (timeout : ℕ) :
    List (List UInt8) → List (List UInt8) → UdpSocket → Prop
  | _, [], _ => True
  | asked, request :: requests, sock =>
    ∃ sent ∈ (sock.sendTo request server).toOption,
      AnswerFirst timeout (reply (asked ++ [request])) sent ∧
      ReadsAnswers reply server timeout (asked ++ [request]) requests (sent.recvFrom timeout).2

instance decidableReadsAnswers (reply : List (List UInt8) → List UInt8) (server : SocketAddr)
    (timeout : ℕ) : ∀ (asked requests : List (List UInt8)) (sock : UdpSocket),
      Decidable (ReadsAnswers reply server timeout asked requests sock)
  | _, [], _ => inferInstanceAs (Decidable True)
  | asked, request :: requests, sock =>
    have := decidableReadsAnswers reply server timeout (asked ++ [request]) requests
    inferInstanceAs (Decidable (∃ sent ∈ (sock.sendTo request server).toOption, _ ∧ _))

theorem mem_toOption {ε α : Type} {x : Except ε α} {a : α} : a ∈ x.toOption ↔ x = .ok a := by
  cases x <;> simp [Except.toOption]

section

variable {reply : List (List UInt8) → List UInt8} {server : SocketAddr} {timeout : ℕ}

theorem recvFrom_of_answerFirst {answer : List UInt8} {sock : UdpSocket}
    (h : AnswerFirst timeout answer sock) :
    ∃ source, (sock.recvFrom timeout).1 = .received ⟨source, answer⟩ := by
  obtain ⟨a, ha, htime, d, hd, rfl⟩ := h
  obtain ⟨queue, hqueue⟩ := List.head?_eq_some_iff.1 ha
  exact ⟨d.source, by rw [UdpSocket.recvFrom_cons_of_le hqueue (mem_toOption.1 hd) htime]⟩

/-- Such an exchange gives the answer. -/
theorem udpExchange_of_answerFirst {request answer : List UInt8} {sock sent : UdpSocket}
    (hsend : sock.sendTo request server = .ok sent) (h : AnswerFirst timeout answer sent) :
    udpExchange server timeout sock request = (.ok answer, (sent.recvFrom timeout).2) := by
  obtain ⟨source, hrecv⟩ := recvFrom_of_answerFirst h
  exact udpExchange_eq_ok.2 ⟨sent, source, hsend, Prod.ext hrecv rfl⟩

/-- A dialogue whose reads begin with the answers ends as it does with the server. -/
theorem runOver_of_readsAnswers {α : Type} (d : Dialogue (List UInt8) (List UInt8) α)
    {sock : UdpSocket} (h : ReadsAnswers reply server timeout [] (d.asked reply []) sock) :
    d.runOver (udpExchange server timeout) sock =
      (.ok (d.outcome reply []), exchanged server timeout (d.asked reply []) sock) := by
  let holds (asked : List (List UInt8)) (s : UdpSocket) : Prop :=
    ∃ requests, d.asked reply [] = asked ++ requests ∧
      ReadsAnswers reply server timeout asked requests s ∧
      exchanged server timeout requests s = exchanged server timeout (d.asked reply []) sock
  have hcarries : Dialogue.Carries reply (udpExchange server timeout) holds (d.asked reply []) := by
    rintro asked request s hprefix ⟨requests, hasked, hreads, hend⟩
    rw [hasked, List.prefix_append_right_inj] at hprefix
    obtain ⟨rest, rfl⟩ := hprefix
    obtain ⟨sent, hsend, hfirst, hrest⟩ := hreads
    have hexchange := udpExchange_of_answerFirst (mem_toOption.1 hsend) hfirst
    refine ⟨_, hexchange, rest, by rw [hasked, List.append_assoc], hrest, ?_⟩
    rw [← hend, List.singleton_append, exchanged, exchanged, List.foldl_cons, hexchange]
  obtain ⟨s, hover, requests, hasked, -, hend⟩ := Dialogue.runOver_of_carries d
    (⟨_, (List.nil_append _).symm, h, rfl⟩ : holds [] sock) hcarries
  obtain rfl : requests = [] := List.append_right_eq_self.1 hasked.symm
  rw [hover, ← hend]
  rfl

end

end WebrtcDoctor
