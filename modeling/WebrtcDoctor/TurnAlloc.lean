import WebrtcDoctor.Context
import WebrtcDoctor.NetAddrRoundTrip
import WebrtcDoctor.Pipeline

/-!
# The TURN allocation check over UDP

`checks/turn_alloc.rs` : an unauthenticated Allocate, and after a challenge an
authenticated one. A round of the dance, send, receive and parse, is `allocateRound`,
over any transport. The UDP socket's is `udpRound`.
-/

open NetAddr

namespace WebrtcDoctor

/-- The texts of one round's failures. -/
structure RoundTexts where
  sendFailed : String → String
  recvFailed : String → String
  noResponse : String
  malformed : AllocateError → String

/-- Send a request, receive one reply and parse it as the response to `txid`. -/
def allocateRound {σ : Type} (send : σ → List UInt8 → Except String σ)
    (recv : σ → Recv (List UInt8) × σ) (texts : RoundTexts) (s : σ)
    (request : TxId × List UInt8) : Except String AllocateOutcome × σ :=
  match send s request.2 with
  | .error e => (.error (texts.sendFailed e), s)
  | .ok s =>
    match recv s with
    | (.failed e, s) => (.error (texts.recvFailed e), s)
    | (.elapsed, s) => (.error texts.noResponse, s)
    | (.received buf, s) =>
      match (parseAllocateResponse buf request.1).result (parseAllocateResponse_safe _ _) with
      | .error e => (.error (texts.malformed e), s)
      | .ok outcome => (.ok outcome, s)

theorem allocateRound_eq_ok {σ : Type} {send : σ → List UInt8 → Except String σ}
    {recv : σ → Recv (List UInt8) × σ} {texts : RoundTexts} {s s' : σ}
    {request : TxId × List UInt8} {outcome : AllocateOutcome} :
    allocateRound send recv texts s request = (.ok outcome, s') ↔
      ∃ sent buf, send s request.2 = .ok sent ∧ recv sent = (.received buf, s') ∧
        parseAllocateResponse buf request.1 = .ok outcome := by
  unfold allocateRound
  constructor
  · intro h
    split at h
    · cases h
    next sent hsent =>
      split at h
      · cases h
      · cases h
      next buf s'' hrecv =>
        split at h
        · cases h
        next outcome' hparse =>
          cases h
          exact ⟨sent, buf, hsent, hrecv, Checked.result_eq_ok.1 hparse⟩
  · rintro ⟨sent, buf, hsent, hrecv, hparse⟩
    rw [hsent]
    dsimp only
    rw [hrecv]
    dsimp only
    rw [Checked.result_eq_ok.2 hparse]

/-- The digests, the transaction IDs of both requests, and what binding a socket gives. -/
structure TurnAllocEnv where
  crypto : Crypto
  txid1 : TxId
  txid2 : TxId
  bind : SocketAddr → Except String UdpSocket

namespace TurnAllocateCheck

/-- The id of the check. -/
def id : String := "turn.alloc.udp"

/-- Its name in a report. -/
def name : String := "TURN allocation (UDP)"

/-- One datagram received, whatever its source. -/
def recvAny (timeout : ℕ) (sock : UdpSocket) : Recv (List UInt8) × UdpSocket :=
  match sock.recvFrom timeout with
  | (.received d, sock) => (.received d.bytes, sock)
  | (.failed e, sock) => (.failed e, sock)
  | (.elapsed, sock) => (.elapsed, sock)

/-- A round over the socket. It reads the first datagram that comes. -/
def udpRound (server : SocketAddr) (timeout : ℕ) (texts : RoundTexts) (sock : UdpSocket)
    (request : TxId × List UInt8) : Except String AllocateOutcome × UdpSocket :=
  allocateRound (fun sock bytes => sock.sendTo bytes server) (recvAny timeout) texts sock request

/-- The texts of the first round. -/
def unauthTexts (server : SocketAddr) (recvTimeout : ℕ) : RoundTexts where
  sendFailed e := s!"send (unauth) to {server} failed: {e}"
  recvFailed e := s!"recv (unauth) failed: {e}"
  noResponse := s!"no Allocate response from {server} in {Duration.debug recvTimeout}"
  malformed e := s!"malformed Allocate response: {e}"

/-- The texts of the second round. -/
def authedTexts (server : SocketAddr) (recvTimeout : ℕ) : RoundTexts where
  sendFailed e := s!"send (authed) to {server} failed: {e}"
  recvFailed e := s!"recv (authed) failed: {e}"
  noResponse := s!"no authed Allocate response in {Duration.debug recvTimeout}"
  malformed e := s!"malformed authed Allocate response: {e}"

/-- A failure with the time since the start. -/
def failNow (started : ℕ) (sock : UdpSocket) (msg : String) : CheckResult :=
  .fail id name (Duration.asMillis (sock.now - started)) msg

/-- Round 2, after the challenge `realm`, `nonce` and with both credentials, and the socket as
it leaves it. -/
def runAuthed (env : TurnAllocEnv) (ctx : ProbeContext) (server : SocketAddr)
    (started recvTimeout : ℕ) (sock : UdpSocket) (realm : String) (nonce : List UInt8)
    (user pass : String) : (ProbeContext × CheckResult) × UdpSocket :=
  let key := longTermKey env.crypto user realm pass
  let request := buildAllocateAuthed env.crypto env.txid2 user realm nonce key
  match udpRound server recvTimeout (authedTexts server recvTimeout) sock request with
  | (.error msg, sock) => ((ctx, failNow started sock msg), sock)
  | (.ok outcome, sock) =>
    let ms := Duration.asMillis (sock.now - started)
    match outcome with
    | .success relayed lifetime =>
      (({ ctx.insertScratch "relayed" (toString relayed) with
          turnSession := some ⟨sock, server, relayed, realm, nonce, key, user⟩ },
        (CheckResult.pass id name ms s!"relay {relayed} (lifetime {lifetime}s, {ms} ms)").withDetail
          (.obj [("server", .str (toString server)), ("relayed", .str (toString relayed)),
            ("lifetime_s", .num lifetime.toNat), ("realm", .str realm),
            ("auth", .str "long-term")])), sock)
    | .unauthorized _ _ =>
      ((ctx, .fail id name ms "server rejected long-term credentials (401 after auth)"), sock)
    | .error code reason => ((ctx, .fail id name ms s!"allocate rejected: {code} {reason}"), sock)

/-- Both rounds on the bound socket, and the socket as they leave it. -/
def runOn (env : TurnAllocEnv) (ctx : ProbeContext) (server : SocketAddr) (sock : UdpSocket) :
    (ProbeContext × CheckResult) × UdpSocket :=
  let started := sock.now
  let recvTimeout := ctx.timeoutOr (Duration.fromSecs 5)
  match udpRound server recvTimeout (unauthTexts server recvTimeout) sock
      (buildAllocateUnauth env.txid1) with
  | (.error msg, sock) => ((ctx, failNow started sock msg), sock)
  | (.ok outcome, sock) =>
    let ms := Duration.asMillis (sock.now - started)
    match outcome with
    | .success relayed _ =>
      ((ctx.insertScratch "relayed" (toString relayed),
        (CheckResult.pass id name ms s!"relay {relayed} (anonymous alloc, {ms} ms)").withDetail
          (.obj [("server", .str (toString server)), ("relayed", .str (toString relayed)),
            ("auth", .str "none")])), sock)
    | .error code reason => ((ctx, .fail id name ms s!"server returned {code} {reason}"), sock)
    | .unauthorized realm nonce =>
      match ctx.turnUser, ctx.turnPass with
      | some user, some pass =>
        runAuthed env ctx server started recvTimeout sock realm nonce user pass
      | _, _ =>
        ((ctx, (CheckResult.warn id name ms
            s!"auth challenge from realm \"{realm}\" — no --user/--pass supplied").withDetail
          (.obj [("server", .str (toString server)), ("realm", .str realm),
            ("auth", .str "challenge-only")])), sock)

/-- Both rounds with the first address, over a new socket. -/
def run (env : TurnAllocEnv) (ctx : ProbeContext) : ProbeContext × CheckResult :=
  match ctx.port with
  | none => (ctx, .skip id name "no port supplied")
  | some port =>
  match ctx.resolvedIps.head? with
  | none => (ctx, .skip id name "no resolved IP")
  | some ip =>
  match env.bind (localBind ip) with
  | .error e => (ctx, .fail id name 0 s!"local UDP bind failed: {e}")
  | .ok sock => (runOn env ctx ⟨ip, port⟩ sock).1

/-- The check as the pipeline runs it. -/
def check (env : TurnAllocEnv) : Check ProbeContext := ⟨id, name, ["dns"], run env⟩

/-! ## What a run does -/

theorem udpRound_eq_ok {server : SocketAddr} {timeout : ℕ} {texts : RoundTexts}
    {sock sock' : UdpSocket} {request : TxId × List UInt8} {outcome : AllocateOutcome} :
    udpRound server timeout texts sock request = (.ok outcome, sock') ↔
      ∃ sent buf, sock.sendTo request.2 server = .ok sent ∧
        recvAny timeout sent = (.received buf, sock') ∧
        parseAllocateResponse buf request.1 = .ok outcome :=
  allocateRound_eq_ok

/-- The reply the run reads to its first request, if it gets that far. -/
def firstReply (env : TurnAllocEnv) (ctx : ProbeContext) : Option (List UInt8) :=
  match ctx.port, ctx.resolvedIps.head? with
  | some port, some ip =>
    match env.bind (localBind ip) with
    | .error _ => none
    | .ok sock =>
      match sock.sendTo (buildAllocateUnauth env.txid1).2 ⟨ip, port⟩ with
      | .error _ => none
      | .ok sock =>
        match recvAny (ctx.timeoutOr (Duration.fromSecs 5)) sock with
        | (.received buf, _) => some buf
        | _ => none
  | _, _ => none

/-- The first reply is a success : the relay allocates without credentials. -/
def GrantsAnonymous (env : TurnAllocEnv) (ctx : ProbeContext) : Prop :=
  ∃ buf ∈ firstReply env ctx, ∃ relayed lifetime,
    parseAllocateResponse buf env.txid1 = .ok (.success relayed lifetime)

instance (env : TurnAllocEnv) (ctx : ProbeContext) : Decidable (GrantsAnonymous env ctx) :=
  decidable_of_iff ((firstReply env ctx).any fun buf =>
      match parseAllocateResponse buf env.txid1 with
      | .ok (.success _ _) => true
      | _ => false) <| by
    simp only [GrantsAnonymous, Option.any_eq_true, Option.mem_def]
    refine exists_congr fun buf => and_congr_right fun _ => ⟨fun h => ?_, ?_⟩
    · split at h
      next relayed lifetime hparse => exact ⟨relayed, lifetime, hparse⟩
      · cases h
    · rintro ⟨relayed, lifetime, hparse⟩
      rw [hparse]

/-- The result reports the relay address `relayed`. -/
def Reports (r : CheckResult) (relayed : SocketAddr) : Prop :=
  r.detailStr? "relayed" = some (toString relayed)

theorem Reports.unique {r : CheckResult} {a b : SocketAddr} (ha : Reports r a)
    (hb : Reports r b) : a = b :=
  SocketAddr.toString_injective (Option.some.inj (ha.symm.trans hb))

/-- A run that reaches its first round is `runOn` the socket it bound. Any other run fails
or skips and leaves the context alone. -/
theorem run_cases (env : TurnAllocEnv) (ctx : ProbeContext) :
    ((run env ctx).2.status ≠ .pass ∧ (run env ctx).1 = ctx) ∨
      ∃ port ip sock, ctx.port = some port ∧ ctx.resolvedIps.head? = some ip ∧
        env.bind (localBind ip) = .ok sock ∧ run env ctx = (runOn env ctx ⟨ip, port⟩ sock).1 := by
  unfold run
  split
  · exact Or.inl ⟨by simp, rfl⟩
  next port hport =>
    split
    · exact Or.inl ⟨by simp, rfl⟩
    next ip hip =>
      split
      · exact Or.inl ⟨by simp, rfl⟩
      next sock hsock => exact Or.inr ⟨port, ip, sock, hport, hip, hsock, rfl⟩

/-- How a run on a socket passes. After an anonymous allocation it leaves no session, after
an authenticated one it leaves the session it reports. -/
theorem runOn_cases (env : TurnAllocEnv) (ctx : ProbeContext) (server : SocketAddr)
    (sock : UdpSocket) :
    ((runOn env ctx server sock).1.2.status ≠ .pass ∧ (runOn env ctx server sock).1.1 = ctx) ∨
      ∃ relayed outcome sock', (runOn env ctx server sock).1.2.status = .pass ∧
        Reports (runOn env ctx server sock).1.2 relayed ∧
        udpRound server (ctx.timeoutOr (Duration.fromSecs 5))
          (unauthTexts server (ctx.timeoutOr (Duration.fromSecs 5))) sock
          (buildAllocateUnauth env.txid1) = (.ok outcome, sock') ∧
        ((∃ lifetime, outcome = .success relayed lifetime ∧
            (runOn env ctx server sock).1.1 = ctx.insertScratch "relayed" (toString relayed)) ∨
          ∃ realm nonce session, outcome = .unauthorized realm nonce ∧
            session.server = server ∧ session.relayed = relayed ∧
            (runOn env ctx server sock).1.1 =
              { ctx.insertScratch "relayed" (toString relayed) with
                turnSession := some session }) := by
  unfold runOn
  dsimp only
  split
  · exact Or.inl ⟨by simp [failNow], rfl⟩
  next outcome sock' hround =>
    split
    next relayed lifetime =>
      exact Or.inr ⟨relayed, _, sock', by simp, rfl, hround, Or.inl ⟨lifetime, rfl, rfl⟩⟩
    · exact Or.inl ⟨by simp, rfl⟩
    next realm nonce =>
      split
      · unfold runAuthed
        dsimp only
        split
        · exact Or.inl ⟨by simp [failNow], rfl⟩
        · split
          · exact Or.inr ⟨_, _, sock', by simp, rfl, hround,
              Or.inr ⟨realm, nonce, _, rfl, rfl, rfl, rfl⟩⟩
          · exact Or.inl ⟨by simp, rfl⟩
          · exact Or.inl ⟨by simp, rfl⟩
      · exact Or.inl ⟨by simp, rfl⟩

theorem runOn_ne_skip (env : TurnAllocEnv) (ctx : ProbeContext) (server : SocketAddr)
    (sock : UdpSocket) : (runOn env ctx server sock).1.2.status ≠ .skip := by
  unfold runOn
  dsimp only
  split
  · simp [failNow]
  · split
    · simp
    · simp
    · split
      · unfold runAuthed
        dsimp only
        split
        · simp [failNow]
        · split <;> simp
      · simp

theorem run_ne_skip {env : TurnAllocEnv} {ctx : ProbeContext} {port : UInt16} {ip : IpAddr}
    {more : List IpAddr} (hport : ctx.port = some port) (hip : ctx.resolvedIps = ip :: more) :
    (run env ctx).2.status ≠ .skip := by
  unfold run
  rw [hport, hip]
  dsimp only [List.head?_cons]
  split
  · simp
  · exact runOn_ne_skip _ _ _ _

theorem sent_recvAny (sock : UdpSocket) (timeout : ℕ) :
    (recvAny timeout sock).2.sent = sock.sent := by
  have h := sock.sent_recvFrom timeout
  unfold recvAny
  split <;> rename_i heq <;> rwa [heq] at h

/-- Round 2, when it passes, has sent its request and leaves the session of the challenge. -/
theorem runAuthed_pass {env : TurnAllocEnv} {ctx : ProbeContext} {server : SocketAddr}
    {started recvTimeout : ℕ} {sock : UdpSocket} {realm user pass : String} {nonce : List UInt8}
    (h : (runAuthed env ctx server started recvTimeout sock realm nonce user pass).1.2.status =
      .pass) :
    ∃ sock' relayed,
      sock'.sent = sock.sent ++ [⟨server, (buildAllocateAuthed env.crypto env.txid2 user realm nonce
        (longTermKey env.crypto user realm pass)).2⟩] ∧
      (runAuthed env ctx server started recvTimeout sock realm nonce user pass).1.1.turnSession =
        some ⟨sock', server, relayed, realm, nonce, longTermKey env.crypto user realm pass,
          user⟩ := by
  unfold runAuthed at h ⊢
  dsimp only at h ⊢
  split at h
  · simp [failNow] at h
  next outcome sock' hround =>
    split at h
    next relayed lifetime =>
      obtain ⟨sent, buf, hsent, hrecv, -⟩ := udpRound_eq_ok.1 hround
      refine ⟨sock', relayed, ?_, rfl⟩
      rw [← UdpSocket.sent_of_sendTo hsent, ← sent_recvAny sent recvTimeout, hrecv]
    · simp at h
    · simp at h

/-- A run whose first reply is a challenge, with both credentials, goes on to round 2. -/
theorem run_of_challenge {env : TurnAllocEnv} {ctx : ProbeContext} {port : UInt16} {ip : IpAddr}
    {sock sent sock' : UdpSocket} {buf nonce : List UInt8} {realm user pass : String}
    (hport : ctx.port = some port) (hip : ctx.resolvedIps.head? = some ip)
    (hsock : env.bind (localBind ip) = .ok sock) (huser : ctx.turnUser = some user)
    (hpass : ctx.turnPass = some pass)
    (hsent : sock.sendTo (buildAllocateUnauth env.txid1).2 ⟨ip, port⟩ = .ok sent)
    (hrecv : recvAny (ctx.timeoutOr (Duration.fromSecs 5)) sent = (.received buf, sock'))
    (hparse : parseAllocateResponse buf env.txid1 = .ok (.unauthorized realm nonce)) :
    run env ctx = (runAuthed env ctx ⟨ip, port⟩ sock.now (ctx.timeoutOr (Duration.fromSecs 5)) sock'
      realm nonce user pass).1 := by
  have hround : ∀ texts, udpRound ⟨ip, port⟩ (ctx.timeoutOr (Duration.fromSecs 5)) texts sock
      (buildAllocateUnauth env.txid1) = (.ok (.unauthorized realm nonce), sock') :=
    fun texts => udpRound_eq_ok.2 ⟨sent, buf, hsent, hrecv, hparse⟩
  unfold run
  rw [hport, hip]
  dsimp only
  rw [hsock]
  dsimp only [runOn]
  rw [hround, huser, hpass]

/-- On a socket, the relay grants an anonymous allocation if round 1 ends in a success. -/
theorem grantsAnonymous_iff {env : TurnAllocEnv} {ctx : ProbeContext} {port : UInt16}
    {ip : IpAddr} {sock : UdpSocket} (texts : RoundTexts) (hport : ctx.port = some port)
    (hip : ctx.resolvedIps.head? = some ip) (hsock : env.bind (localBind ip) = .ok sock) :
    GrantsAnonymous env ctx ↔ ∃ relayed lifetime sock',
      udpRound ⟨ip, port⟩ (ctx.timeoutOr (Duration.fromSecs 5)) texts sock
        (buildAllocateUnauth env.txid1) = (.ok (.success relayed lifetime), sock') := by
  simp only [udpRound_eq_ok, GrantsAnonymous, firstReply, hport, hip, hsock]
  constructor
  · rintro ⟨buf, hbuf, relayed, lifetime, hparse⟩
    split at hbuf
    · cases hbuf
    next sent hsent =>
      split at hbuf
      next sock' hrecv =>
        cases hbuf
        exact ⟨relayed, lifetime, _, sent, buf, hsent, hrecv, hparse⟩
      · cases hbuf
  · rintro ⟨relayed, lifetime, sock', sent, buf, hsent, hrecv, hparse⟩
    refine ⟨buf, ?_, relayed, lifetime, hparse⟩
    rw [hsent]
    dsimp only
    rw [hrecv]
    rfl

/-- A run that passes reports the address it allocated. It leaves a session with that
address and the probed server unless the relay granted an anonymous allocation, and then
it leaves none. -/
theorem run_pass {env : TurnAllocEnv} {ctx : ProbeContext}
    (h : (run env ctx).2.status = .pass) :
    ∃ relayed port ip, ctx.port = some port ∧ ctx.resolvedIps.head? = some ip ∧
      Reports (run env ctx).2 relayed ∧
      (GrantsAnonymous env ctx ∧
          (run env ctx).1 = ctx.insertScratch "relayed" (toString relayed) ∨
        ¬GrantsAnonymous env ctx ∧ ∃ session, session.server = ⟨ip, port⟩ ∧
          session.relayed = relayed ∧
          (run env ctx).1 = { ctx.insertScratch "relayed" (toString relayed) with
            turnSession := some session }) := by
  rcases run_cases env ctx with ⟨hne, -⟩ | ⟨port, ip, sock, hport, hip, hsock, hrun⟩
  · exact absurd h hne
  rw [hrun] at h ⊢
  rcases runOn_cases env ctx ⟨ip, port⟩ sock with
    ⟨hne, -⟩ | ⟨relayed, outcome, sock', -, hrep, hround, hcase⟩
  · exact absurd h hne
  refine ⟨relayed, port, ip, hport, hip, hrep, ?_⟩
  rw [grantsAnonymous_iff _ hport hip hsock]
  rcases hcase with ⟨lifetime, rfl, hctx⟩ | ⟨realm, nonce, session, rfl, hserver, hrelayed, hctx⟩
  · exact Or.inl ⟨⟨relayed, lifetime, sock', hround⟩, hctx⟩
  · refine Or.inr ⟨?_, session, hserver, hrelayed, hctx⟩
    rintro ⟨relayed', lifetime', sock'', hround'⟩
    rw [hround] at hround'
    cases hround'

theorem run_leaves (env : TurnAllocEnv) (ctx : ProbeContext) : Leaves ctx
    (fun ctx' => ∃ relayed session, ctx' =
      { ctx.insertScratch "relayed" relayed with turnSession := session }) (run env ctx) := by
  rcases run_cases env ctx with ⟨hne, hctx⟩ | ⟨port, ip, sock, -, -, -, hrun⟩
  · exact Or.inr ⟨hne, hctx⟩
  rw [hrun]
  rcases runOn_cases env ctx ⟨ip, port⟩ sock with
    ⟨hne, hctx⟩ | ⟨relayed, -, -, hpass, -, -, ⟨-, -, hctx⟩ | ⟨-, -, session, -, -, -, hctx⟩⟩
  · exact Or.inr ⟨hne, hctx⟩
  · exact Or.inl ⟨hpass, _, ctx.turnSession, hctx⟩
  · exact Or.inl ⟨hpass, _, some session, hctx⟩

end TurnAllocateCheck

end WebrtcDoctor
