import WebrtcDoctor.EchoLoop
import WebrtcDoctor.FrameEffect
import WebrtcDoctor.TwoRuns
import WebrtcDoctor.Verdict

/-!
# What a report tells of the secrets

The login of a TURN server and the `Authorization` header go into messages and not into reports.
Two runs with different secrets send messages that differ only in what is made of the login
(`Login.Veils`). If the networks answer each of the two logins alike, the runs report the same, in
every result and every detail (`report_hides_secrets`). So a report tells of the secrets only what
the network's answers do : not the username, not the password, and of the header that there is one.
-/

open NetAddr

namespace WebrtcDoctor

/-- The TURN username and password. -/
@[ext] structure Login where
  user : Option String
  pass : Option String

namespace Login

variable (l l' : Login)

/-- The session authenticates with a login. -/
def Complete : Prop := l.user.isSome ∧ l.pass.isSome

variable {l}

theorem Complete.exists (h : l.Complete) : ∃ user pass, l = ⟨some user, some pass⟩ := by
  obtain ⟨user, huser⟩ := Option.isSome_iff_exists.1 h.1
  obtain ⟨pass, hpass⟩ := Option.isSome_iff_exists.1 h.2
  exact ⟨user, pass, Login.ext huser hpass⟩

theorem complete_of_eq {user pass : String} (huser : l.user = some user)
    (hpass : l.pass = some pass) : l.Complete :=
  ⟨by rw [huser]; rfl, by rw [hpass]; rfl⟩

variable (l)

/-- The same message without a login, or the same request with the one login and with the other. -/
inductive Veils (crypto : Crypto) : List UInt8 → List UInt8 → Prop
  | unauth (txid : TxId) :
      Veils crypto (buildAllocateUnauth txid).2 (buildAllocateUnauth txid).2
  | payload (seq : UInt32) :
      Veils crypto (TurnEchoCheck.makePayload seq) (TurnEchoCheck.makePayload seq)
  | allocate (txid : TxId) (realm : String) (nonce : List UInt8) {user pass user' pass' : String}
      (h : l = ⟨some user, some pass⟩) (h' : l' = ⟨some user', some pass'⟩) :
      Veils crypto
        (buildAllocateAuthed crypto txid user realm nonce (longTermKey crypto user realm pass)).2
        (buildAllocateAuthed crypto txid user' realm nonce (longTermKey crypto user' realm pass')).2
  | permission (txid : TxId) (realm : String) (nonce : List UInt8) (peer : SocketAddr)
      {user pass user' pass' : String} (h : l = ⟨some user, some pass⟩)
      (h' : l' = ⟨some user', some pass'⟩) :
      Veils crypto
        (TurnEchoCheck.buildCreatePermission crypto txid user realm nonce
          (longTermKey crypto user realm pass) peer).2
        (TurnEchoCheck.buildCreatePermission crypto txid user' realm nonce
          (longTermKey crypto user' realm pass') peer).2

end Login

variable {crypto : Crypto} {l l' : Login}

/-! ## Contexts -/

/-- Two sessions, each under one of the logins, over sockets that are alike. -/
structure TurnSession.Alike (crypto : Crypto) (l l' : Login) (s s' : TurnSession) : Prop where
  socket : s.socket.Alike (l.Veils l' crypto) s'.socket
  server : s'.server = s.server
  relayed : s'.relayed = s.relayed
  realm : s'.realm = s.realm
  nonce : s'.nonce = s.nonce
  login : ∃ pass pass', l = ⟨some s.username, some pass⟩ ∧
    l' = ⟨some s'.username, some pass'⟩ ∧ s.key = longTermKey crypto s.username s.realm pass ∧
    s'.key = longTermKey crypto s'.username s.realm pass'

/-- Two contexts that differ only in the login and in what the session makes of it. -/
structure ProbeContext.Alike (crypto : Crypto) (l l' : Login) (ctx ctx' : ProbeContext) : Prop where
  login : ctx.turnUser = l.user ∧ ctx.turnPass = l.pass
  login' : ctx'.turnUser = l'.user ∧ ctx'.turnPass = l'.pass
  defaultTimeout : ctx'.defaultTimeout = ctx.defaultTimeout
  host : ctx'.host = ctx.host
  port : ctx'.port = ctx.port
  resolvedIps : ctx'.resolvedIps = ctx.resolvedIps
  echoCount : ctx'.echoCount = ctx.echoCount
  scratch : ctx'.scratch = ctx.scratch
  session : Option.Rel (TurnSession.Alike crypto l l') ctx.turnSession ctx'.turnSession

namespace ProbeContext.Alike

variable {ctx ctx' : ProbeContext}

theorem timeoutOr (h : ctx.Alike crypto l l' ctx') (fallback : ℕ) :
    ctx'.timeoutOr fallback = ctx.timeoutOr fallback := by
  rw [ProbeContext.timeoutOr, h.defaultTimeout, ProbeContext.timeoutOr]

theorem insertScratch (h : ctx.Alike crypto l l' ctx') (key value : String) :
    (ctx.insertScratch key value).Alike crypto l l' (ctx'.insertScratch key value) :=
  ⟨h.login, h.login', h.defaultTimeout, h.host, h.port, h.resolvedIps, h.echoCount,
    by rw [ProbeContext.insertScratch, ProbeContext.insertScratch, h.scratch], h.session⟩

theorem withSession (h : ctx.Alike crypto l l' ctx') {s s' : TurnSession}
    (hs : s.Alike crypto l l' s') :
    ({ ctx with turnSession := some s } : ProbeContext).Alike crypto l l'
      { ctx' with turnSession := some s' } :=
  ⟨h.login, h.login', h.defaultTimeout, h.host, h.port, h.resolvedIps, h.echoCount, h.scratch,
    .some hs⟩

end ProbeContext.Alike

/-- A check that leaves alike contexts and reports the same. -/
def SameReport (crypto : Crypto) (l l' : Login) (x x' : ProbeContext × CheckResult) : Prop :=
  x.1.Alike crypto l l' x'.1 ∧ x'.2 = x.2

/-! ## Checks that know no secret -/

section

variable {ctx ctx' : ProbeContext}

theorem DnsCheck.run_alike (env : DnsEnv) (h : ctx.Alike crypto l l' ctx') :
    SameReport crypto l l' (run env ctx) (run env ctx') := by
  unfold run
  rw [h.host, h.port]
  split
  · exact ⟨h, rfl⟩
  dsimp only
  split
  · exact ⟨h, rfl⟩
  split
  · exact ⟨h, rfl⟩
  · exact ⟨⟨h.login, h.login', h.defaultTimeout, rfl, rfl, rfl, h.echoCount, h.scratch,
      h.session⟩, rfl⟩

theorem StunBindingCheck.run_alike (env : StunEnv) (h : ctx.Alike crypto l l' ctx') :
    SameReport crypto l l' (run env ctx) (run env ctx') := by
  unfold run
  rw [h.port, h.resolvedIps, h.timeoutOr]
  split
  · exact ⟨h, rfl⟩
  split
  · exact ⟨h, rfl⟩
  dsimp only
  split
  · exact ⟨h, rfl⟩
  split
  · exact ⟨h, rfl⟩
  split
  · exact ⟨h, rfl⟩
  · exact ⟨h, rfl⟩
  split
  · exact ⟨h.insertScratch _ _, rfl⟩
  · exact ⟨h, rfl⟩

theorem IceGatherCheck.run_alike (env : IceGatherEnv) (h : ctx.Alike crypto l l' ctx') :
    SameReport crypto l l' (run env ctx) (run env ctx') := by
  have hvia : ∀ scheme, viaUrl ctx' scheme = viaUrl ctx scheme := by
    intro scheme
    rw [viaUrl, h.host, h.port, viaUrl]
  have hsrflx : srflxCandidates ctx' = srflxCandidates ctx := by
    rw [srflxCandidates, h.scratch, hvia, srflxCandidates]
  have hrelay : relayCandidates ctx' = relayCandidates ctx := by
    have hsession := h.session
    unfold relayCandidates
    rw [hvia]
    generalize ctx.turnSession = x, ctx'.turnSession = x' at hsession
    cases hsession with
    | none => rfl
    | some hs =>
      dsimp only
      rw [hs.relayed]
  have hgather : ∀ ifs, gather ctx' ifs = gather ctx ifs := by
    intro ifs
    rw [gather, hsrflx, hrelay, gather]
  unfold run
  simp only [hgather]
  split
  · exact ⟨h, rfl⟩
  · exact ⟨h, rfl⟩

end

/-! ## The allocation checks -/

/-- Networks that answer the two logins alike. -/
structure TurnAllocEnv.Alike (crypto : Crypto) (l l' : Login) (env env' : TurnAllocEnv) : Prop where
  digests : env.crypto = crypto
  digests' : env'.crypto = crypto
  txid1 : env'.txid1 = env.txid1
  txid2 : env'.txid2 = env.txid2
  bind : ∀ addr, SameOutcome (UdpSocket.Alike (l.Veils l' crypto)) (env.bind addr) (env'.bind addr)

namespace TurnAllocateCheck

variable {env env' : TurnAllocEnv} {ctx ctx' : ProbeContext} {sock sock' : UdpSocket}

theorem udpRound_alike {V : List UInt8 → List UInt8 → Prop} (h : sock.Alike V sock')
    {bytes bytes' : List UInt8} (hbytes : V bytes bytes') (server : SocketAddr) (timeout : ℕ)
    (texts : RoundTexts) (txid : TxId) :
    SameResult (UdpSocket.Alike V) (udpRound server timeout texts sock (txid, bytes))
      (udpRound server timeout texts sock' (txid, bytes')) := by
  refine allocateRound_alike h (h.sendTo hbytes server) fun s s' hs => ?_
  obtain ⟨r, t, t', hr, hr', ht⟩ := (hs.recvFrom timeout).exists
  unfold recvAny
  rw [hr, hr']
  cases r <;> exact ⟨rfl, ht⟩

theorem runAuthed_alike (henv : env.Alike crypto l l' env') (hctx : ctx.Alike crypto l l' ctx')
    (h : sock.Alike (l.Veils l' crypto) sock') {user pass user' pass' : String}
    (hl : l = ⟨some user, some pass⟩) (hl' : l' = ⟨some user', some pass'⟩) (server : SocketAddr)
    (started recvTimeout : ℕ) (realm : String) (nonce : List UInt8) : SameReport crypto l l'
      (runAuthed env ctx server started recvTimeout sock realm nonce user pass).1
      (runAuthed env' ctx' server started recvTimeout sock' realm nonce user' pass').1 := by
  have hround := udpRound_alike h (.allocate env.txid2 realm nonce hl hl') server
    recvTimeout (authedTexts server recvTimeout) env.txid2
  obtain ⟨r, t, t', hr, hr', ht⟩ := hround.exists
  unfold runAuthed
  rw [henv.digests, henv.digests', henv.txid2]
  dsimp only
  rw [show udpRound server recvTimeout (authedTexts server recvTimeout) sock
    (buildAllocateAuthed crypto env.txid2 user realm nonce
      (longTermKey crypto user realm pass)) = (r, t) from hr,
    show udpRound server recvTimeout (authedTexts server recvTimeout) sock'
    (buildAllocateAuthed crypto env.txid2 user' realm nonce
      (longTermKey crypto user' realm pass')) = (r, t') from hr']
  rcases r with e | ⟨relayed, lifetime⟩ | ⟨realm', nonce'⟩ | ⟨code, reason⟩
  · exact ⟨hctx, by dsimp only [failNow]; rw [ht.now]⟩
  · refine ⟨(hctx.insertScratch _ _).withSession ⟨ht, rfl, rfl, rfl, rfl, ?_⟩, by
      dsimp only; rw [ht.now]⟩
    exact ⟨pass, pass', hl, hl', rfl, rfl⟩
  · exact ⟨hctx, by dsimp only; rw [ht.now]⟩
  · exact ⟨hctx, by dsimp only; rw [ht.now]⟩

theorem runOn_alike (henv : env.Alike crypto l l' env') (hctx : ctx.Alike crypto l l' ctx')
    (h : sock.Alike (l.Veils l' crypto) sock') (hcomplete : l'.Complete ↔ l.Complete)
    (server : SocketAddr) :
    SameReport crypto l l' (runOn env ctx server sock).1 (runOn env' ctx' server sock').1 := by
  have hround := udpRound_alike h (.unauth env.txid1) server
    (ctx.timeoutOr (Duration.fromSecs 5)) (unauthTexts server (ctx.timeoutOr (Duration.fromSecs 5)))
    env.txid1
  obtain ⟨r, t, t', hr, hr', ht⟩ := hround.exists
  unfold runOn
  rw [henv.txid1, hctx.timeoutOr]
  dsimp only
  rw [show udpRound server (ctx.timeoutOr (Duration.fromSecs 5))
    (unauthTexts server (ctx.timeoutOr (Duration.fromSecs 5))) sock
    (buildAllocateUnauth env.txid1) = (r, t) from hr,
    show udpRound server (ctx.timeoutOr (Duration.fromSecs 5))
    (unauthTexts server (ctx.timeoutOr (Duration.fromSecs 5))) sock'
    (buildAllocateUnauth env.txid1) = (r, t') from hr']
  rcases r with e | ⟨relayed, lifetime⟩ | ⟨realm, nonce⟩ | ⟨code, reason⟩
  · exact ⟨hctx, by dsimp only [failNow]; rw [ht.now, h.now]⟩
  · exact ⟨hctx.insertScratch _ _, by dsimp only; rw [ht.now, h.now]⟩
  · dsimp only
    rw [hctx.login.1, hctx.login.2, hctx.login'.1, hctx.login'.2, h.now]
    by_cases hl : l.Complete
    · obtain ⟨user, pass, hlogin⟩ := hl.exists
      obtain ⟨user', pass', hlogin'⟩ := (hcomplete.2 hl).exists
      have halike := runAuthed_alike henv hctx ht hlogin hlogin' server sock.now
        (ctx.timeoutOr (Duration.fromSecs 5)) realm nonce
      rw [hlogin, hlogin'] at halike ⊢
      exact halike
    have hl' : ¬l'.Complete := mt hcomplete.1 hl
    split
    · next user pass hu hp => exact absurd (Login.complete_of_eq hu hp) hl
    split
    · next user pass hu hp => exact absurd (Login.complete_of_eq hu hp) hl'
    · exact ⟨hctx, by dsimp only; rw [ht.now]⟩
  · exact ⟨hctx, by dsimp only; rw [ht.now, h.now]⟩

theorem run_alike (henv : env.Alike crypto l l' env') (hcomplete : l'.Complete ↔ l.Complete)
    (hctx : ctx.Alike crypto l l' ctx') : SameReport crypto l l' (run env ctx) (run env' ctx') := by
  unfold run
  rw [hctx.port, hctx.resolvedIps]
  split
  · exact ⟨hctx, rfl⟩
  split
  · exact ⟨hctx, rfl⟩
  next ip _ =>
  have hbind := henv.bind (localBind ip)
  generalize env.bind (localBind ip) = x, env'.bind (localBind ip) = x' at hbind
  cases hbind with
  | error e => exact ⟨hctx, rfl⟩
  | ok h => exact runOn_alike henv hctx h hcomplete _

end TurnAllocateCheck

/-- Networks that answer the two logins alike. -/
structure TurnsAllocEnv.Alike (crypto : Crypto) (l l' : Login) (env env' : TurnsAllocEnv) :
    Prop where
  digests : env.crypto = crypto
  digests' : env'.crypto = crypto
  txid1 : env'.txid1 = env.txid1
  txid2 : env'.txid2 = env.txid2
  serverName : env'.serverName = env.serverName
  connect : env'.connect = env.connect
  handshake : ∀ host server, (env'.handshake host server).2 = (env.handshake host server).2 ∧
    Recv.Alike (TlsStream.Alike (l.Veils l' crypto)) (env.handshake host server).1
      (env'.handshake host server).1

namespace TurnsAllocateCheck

variable {env env' : TurnsAllocEnv} {ctx ctx' : ProbeContext} {tls tls' : TlsStream}

theorem tlsRound_alike {V : List UInt8 → List UInt8 → Prop} (h : tls.Alike V tls')
    {bytes bytes' : List UInt8} (hbytes : V bytes bytes') (timeout : ℕ) (texts : RoundTexts)
    (txid : TxId) :
    SameResult (TlsStream.Alike V) (tlsRound timeout texts tls (txid, bytes))
      (tlsRound timeout texts tls' (txid, bytes')) :=
  allocateRound_alike (h.held hbytes) ((h.held hbytes).sendFramed hbytes) fun _ _ hs =>
    hs.recvFramed timeout

theorem runAuthed_alike (henv : env.Alike crypto l l' env') (hctx : ctx.Alike crypto l l' ctx')
    (h : tls.Alike (l.Veils l' crypto) tls') {user pass user' pass' : String}
    (hl : l = ⟨some user, some pass⟩) (hl' : l' = ⟨some user', some pass'⟩) (server : SocketAddr)
    (host : String) (tlsMs recvTimeout : ℕ) (realm : String) (nonce : List UInt8) :
    SameReport crypto l l'
      (runAuthed env ctx server host tlsMs recvTimeout tls realm nonce user pass).1
      (runAuthed env' ctx' server host tlsMs recvTimeout tls' realm nonce user' pass').1 := by
  have hround := tlsRound_alike h (.allocate env.txid2 realm nonce hl hl')
    recvTimeout (authedTexts recvTimeout) env.txid2
  obtain ⟨r, t, t', hr, hr', ht⟩ := hround.exists
  unfold runAuthed
  rw [henv.digests, henv.digests', henv.txid2]
  dsimp only
  rw [show tlsRound recvTimeout (authedTexts recvTimeout) tls
    (buildAllocateAuthed crypto env.txid2 user realm nonce
      (longTermKey crypto user realm pass)) = (r, t) from hr,
    show tlsRound recvTimeout (authedTexts recvTimeout) tls'
    (buildAllocateAuthed crypto env.txid2 user' realm nonce
      (longTermKey crypto user' realm pass')) = (r, t') from hr']
  rcases r with e | ⟨relayed, lifetime⟩ | ⟨realm', nonce'⟩ | ⟨code, reason⟩
  · exact ⟨hctx, by dsimp only; rw [ht.now]⟩
  · exact ⟨hctx.insertScratch _ _, by dsimp only; rw [ht.now]⟩
  · exact ⟨hctx, by dsimp only; rw [ht.now]⟩
  · exact ⟨hctx, by dsimp only; rw [ht.now]⟩

theorem runOn_alike (henv : env.Alike crypto l l' env') (hctx : ctx.Alike crypto l l' ctx')
    (h : tls.Alike (l.Veils l' crypto) tls') (hcomplete : l'.Complete ↔ l.Complete)
    (server : SocketAddr) (host : String) (tlsMs recvTimeout : ℕ) :
    SameReport crypto l l' (runOn env ctx server host tlsMs recvTimeout tls).1
      (runOn env' ctx' server host tlsMs recvTimeout tls').1 := by
  have hround := tlsRound_alike h (.unauth env.txid1) recvTimeout
    (unauthTexts recvTimeout) env.txid1
  obtain ⟨r, t, t', hr, hr', ht⟩ := hround.exists
  unfold runOn
  rw [henv.txid1]
  rw [show tlsRound recvTimeout (unauthTexts recvTimeout) tls
    (buildAllocateUnauth env.txid1) = (r, t) from hr,
    show tlsRound recvTimeout (unauthTexts recvTimeout) tls'
    (buildAllocateUnauth env.txid1) = (r, t') from hr']
  rcases r with e | ⟨relayed, lifetime⟩ | ⟨realm, nonce⟩ | ⟨code, reason⟩
  · exact ⟨hctx, by dsimp only; rw [ht.now]⟩
  · exact ⟨hctx.insertScratch _ _, by dsimp only; rw [ht.now]⟩
  · dsimp only
    rw [hctx.login.1, hctx.login.2, hctx.login'.1, hctx.login'.2]
    by_cases hl : l.Complete
    · obtain ⟨user, pass, hlogin⟩ := hl.exists
      obtain ⟨user', pass', hlogin'⟩ := (hcomplete.2 hl).exists
      have halike := runAuthed_alike henv hctx ht hlogin hlogin' server host tlsMs recvTimeout
        realm nonce
      rw [hlogin, hlogin'] at halike ⊢
      exact halike
    have hl' : ¬l'.Complete := mt hcomplete.1 hl
    split
    · next user pass hu hp => exact absurd (Login.complete_of_eq hu hp) hl
    split
    · next user pass hu hp => exact absurd (Login.complete_of_eq hu hp) hl'
    · exact ⟨hctx, by dsimp only; rw [ht.now]⟩
  · exact ⟨hctx, by dsimp only; rw [ht.now]⟩

theorem run_alike (henv : env.Alike crypto l l' env') (hcomplete : l'.Complete ↔ l.Complete)
    (hctx : ctx.Alike crypto l l' ctx') : SameReport crypto l l' (run env ctx) (run env' ctx') := by
  unfold run recvTimeout
  rw [hctx.port, hctx.resolvedIps, hctx.host, hctx.defaultTimeout, henv.serverName, henv.connect]
  split
  · exact ⟨hctx, rfl⟩
  next port _ =>
  split
  · exact ⟨hctx, rfl⟩
  next ip _ =>
  split
  · exact ⟨hctx, rfl⟩
  next host _ =>
  dsimp only
  split
  · exact ⟨hctx, rfl⟩
  split
  · exact ⟨hctx, rfl⟩
  · exact ⟨hctx, rfl⟩
  obtain ⟨htime, hend⟩ := henv.handshake host ⟨ip, port⟩
  generalize env.handshake host ⟨ip, port⟩ = x, env'.handshake host ⟨ip, port⟩ = x' at htime hend
  obtain ⟨x, t⟩ := x
  obtain ⟨x', t'⟩ := x'
  dsimp only at htime hend
  subst htime
  cases hend with
  | elapsed => exact ⟨hctx, rfl⟩
  | failed e => exact ⟨hctx, rfl⟩
  | received h => exact runOn_alike henv hctx (h.at_time _) hcomplete _ _ _ _

end TurnsAllocateCheck

/-! ## The echo check -/

namespace TurnEchoCheck

variable {session session' : TurnSession}

theorem createPermission_alike {env : TurnEchoEnv} (henv : env.crypto = crypto)
    (hs : session.Alike crypto l l' session')
    (srflx : SocketAddr) (recvTimeout : ℕ) : SameResult (UdpSocket.Alike (l.Veils l' crypto))
      (createPermission env session srflx recvTimeout)
      (createPermission env session' srflx recvTimeout) := by
  obtain ⟨pass, pass', hl, hl', hkey, hkey'⟩ := hs.login
  have hsend := hs.socket.sendTo
    (.permission env.txid session.realm session.nonce srflx hl hl') session.server
  unfold createPermission
  rw [hs.server, hs.realm, hs.nonce, hkey, hkey', henv]
  dsimp only
  generalize session.socket.sendTo _ _ = x, session'.socket.sendTo _ _ = x' at hsend
  cases hsend with
  | error e => exact ⟨rfl, hs.socket⟩
  | ok h =>
    obtain ⟨r, t, t', hr, hr', ht⟩ := (h.recvFrom recvTimeout).exists
    dsimp only
    rw [hr, hr']
    cases r with
    | failed e => exact ⟨rfl, ht⟩
    | elapsed => exact ⟨rfl, ht⟩
    | received d =>
      dsimp only [buildCreatePermission]
      rcases (parseCreatePermissionResponse d.bytes env.txid).result
        (parseCreatePermissionResponse_safe _ _) with e | _ | ⟨code, reason⟩ <;> exact ⟨rfl, ht⟩

variable {V : List UInt8 → List UInt8 → Prop}

theorem sendLoop_alike (hV : ∀ seq, V (makePayload seq) (makePayload seq))
    (hrelayed : session'.relayed = session.relayed) {n : ℕ} :
    ∀ (seqs : List (Fin n)) (sendTimes : Vector (Option ℕ) n) {sock sock' : UdpSocket},
      sock.Alike V sock' → SameResult (UdpSocket.Alike V) (sendLoop session seqs sendTimes sock)
        (sendLoop session' seqs sendTimes sock')
  | [], _, _, _, h => ⟨rfl, h⟩
  | seq :: seqs, sendTimes, sock, sock', h => by
    have hsend := h.sendTo (hV (UInt32.ofNat seq)) session.relayed
    unfold sendLoop
    rw [hrelayed, h.now]
    dsimp only
    generalize sock.sendTo _ _ = x, sock'.sendTo _ _ = x' at hsend
    cases hsend with
    | error e => exact ⟨rfl, h⟩
    | ok ht =>
      refine sendLoop_alike hV hrelayed seqs _ ?_
      split
      · exact ht.sleep _
      · exact ht

theorem absorb_congr {count : UInt32} (hserver : session'.server = session.server)
    (sendTimes : Vector (Option ℕ) count.toNat) (recvAt : ℕ) (st : EchoState count) (d : Datagram) :
    absorb session' sendTimes recvAt st d = absorb session sendTimes recvAt st d := by
  unfold absorb
  rw [hserver]

section

variable {count : UInt32} {recvDeadline : ℕ} {sendTimes : Vector (Option ℕ) count.toNat}
  {sock sock' : UdpSocket} {st : EchoState count} (hst : st.received < count)
  (hnow : ¬recvDeadline ≤ sock.now)

include hst hnow

theorem receiveLoop_of_timeout
    (hrecv : sock.recvFrom (recvDeadline - sock.now) = (.elapsed, sock')) :
    receiveLoop session recvDeadline sendTimes sock st = (.ok st, sock') := by
  rw [receiveLoop, if_pos hst, if_neg hnow]
  split <;> rename_i hrecv' <;> rw [hrecv] at hrecv' <;> cases hrecv'
  rfl

theorem receiveLoop_of_failed {e : String}
    (hrecv : sock.recvFrom (recvDeadline - sock.now) = (.failed e, sock')) :
    receiveLoop session recvDeadline sendTimes sock st =
      (.error s!"recv echo failed: {e}", sock') := by
  rw [receiveLoop, if_pos hst, if_neg hnow]
  split <;> rename_i hrecv' <;> rw [hrecv] at hrecv' <;> cases hrecv'
  rfl

end

/-- The receive loops of two alike sockets read the same echoes. -/
theorem receiveLoop_alike {count : UInt32} (hserver : session'.server = session.server)
    (recvDeadline : ℕ) (sendTimes : Vector (Option ℕ) count.toNat) {sock sock' : UdpSocket}
    (st : EchoState count) (h : sock.Alike V sock') :
    SameResult (UdpSocket.Alike V) (receiveLoop session recvDeadline sendTimes sock st)
      (receiveLoop session' recvDeadline sendTimes sock' st) := by
  induction hn : sock.queue.length using Nat.strongRecOn generalizing sock sock' st with
  | _ n ih =>
    by_cases hst : st.received < count
    swap
    · rw [receiveLoop_of_full hst, receiveLoop_of_full hst]
      exact ⟨rfl, h⟩
    by_cases hnow : recvDeadline ≤ sock.now
    · rw [receiveLoop_of_deadline hnow, receiveLoop_of_deadline (h.now.symm ▸ hnow)]
      exact ⟨rfl, h⟩
    have hnow' : ¬recvDeadline ≤ sock'.now := h.now.symm ▸ hnow
    obtain ⟨r, t, t', hr, hr', ht⟩ := (h.recvFrom (recvDeadline - sock.now)).exists
    have hlength := sock.length_queue_recvFrom (recvDeadline - sock.now)
    rw [hr] at hlength
    rw [← h.now] at hr'
    cases r with
    | received d =>
      rw [receiveLoop_of_received hst (Nat.lt_of_not_le hnow) hr,
        receiveLoop_of_received hst (Nat.lt_of_not_le hnow') hr', absorb_congr hserver, ht.now]
      refine ih _ ?_ _ ht rfl
      rcases hlength with ⟨helapsed, -⟩ | hlt
      · cases helapsed
      · exact hn ▸ hlt
    | elapsed =>
      rw [receiveLoop_of_timeout hst hnow hr, receiveLoop_of_timeout hst hnow' hr']
      exact ⟨rfl, ht⟩
    | failed e =>
      rw [receiveLoop_of_failed hst hnow hr, receiveLoop_of_failed hst hnow' hr']
      exact ⟨rfl, ht⟩

theorem collect_alike {count : UInt32} (hs : session.Alike crypto l l' session')
    (srflx : SocketAddr) (recvTimeout started : ℕ) (sendTimes : Vector (Option ℕ) count.toNat)
    {sock sock' : UdpSocket} (h : sock.Alike V sock') :
    collect session' srflx recvTimeout started sendTimes sock' =
      collect session srflx recvTimeout started sendTimes sock := by
  unfold collect
  rw [h.now]
  dsimp only
  obtain ⟨r, t, t', hr, hr', ht⟩ := (receiveLoop_alike hs.server
    ((sendTimes.toList.filterMap fun t => t).max?.getD sock.now + recvTimeout) sendTimes
    (EchoState.start count) h).exists
  rw [hr, hr']
  cases r with
  | error e =>
    dsimp only [failNow]
    rw [ht.now]
  | ok st =>
    dsimp only [report]
    rw [hs.server, hs.relayed, ht.now]

/-- The echo check of two alike sessions reports the same. -/
theorem runSession_alike {env : TurnEchoEnv} (henv : env.crypto = crypto)
    (hs : session.Alike crypto l l' session')
    (srflx : SocketAddr) (recvTimeout : ℕ) (count : UInt32) :
    runSession env session' srflx recvTimeout count =
      runSession env session srflx recvTimeout count := by
  unfold runSession
  rw [hs.socket.now]
  dsimp only
  obtain ⟨r, t, t', hr, hr', ht⟩ := (createPermission_alike henv hs srflx recvTimeout).exists
  rw [hr, hr']
  rcases r with e | _
  · dsimp only [failNow]
    rw [ht.now]
  obtain ⟨r, u, u', hr, hr', hu⟩ := (sendLoop_alike Login.Veils.payload hs.relayed
    (List.finRange count.toNat) (Vector.replicate _ none) ht).exists
  dsimp only
  rw [hr, hr']
  rcases r with e | sendTimes
  · dsimp only [failNow]
    rw [hu.now]
  · exact collect_alike hs srflx recvTimeout _ sendTimes hu

theorem run_alike {ctx ctx' : ProbeContext} {env : TurnEchoEnv} (henv : env.crypto = crypto)
    (h : ctx.Alike crypto l l' ctx') :
    SameReport crypto l l' (run env ctx) (run env ctx') := by
  have hsession := h.session
  unfold run
  rw [h.scratch, h.timeoutOr, h.echoCount]
  generalize hx : ctx.turnSession = x at hsession
  generalize hx' : ctx'.turnSession = x' at hsession
  cases hsession with
  | none => exact ⟨h, rfl⟩
  | some hs =>
    dsimp only
    split
    · exact ⟨h, rfl⟩
    · exact ⟨h, runSession_alike henv hs _ _ _⟩

end TurnEchoCheck

/-! ## The signaling check -/

/-- Endpoints that answer the two headers alike. -/
structure SignalingEnv.Alike (auth auth' : Option String) (env env' : SignalingEnv) : Prop where
  present : auth'.isSome = auth.isSome
  intoClientRequest : env'.intoClientRequest = env.intoClientRequest
  headerValue : auth'.bind env'.headerValue = auth.bind env.headerValue
  connect : ∀ url timeout, env'.connect url auth' timeout = env.connect url auth timeout

theorem SignalingCheck.run_alike {auth auth' : Option String} {env env' : SignalingEnv}
    (henv : env.Alike auth auth' env') (url : String) {ctx ctx' : ProbeContext}
    (h : ctx.Alike crypto l l' ctx') :
    SameReport crypto l l' (run env ⟨url, auth⟩ ctx) (run env' ⟨url, auth'⟩ ctx') := by
  obtain ⟨hpresent, hrequest, hheader, hconnect⟩ := henv
  obtain ⟨intoClientRequest, headerValue, connect⟩ := env
  obtain ⟨intoClientRequest', headerValue', connect'⟩ := env'
  dsimp only at hrequest hheader hconnect
  unfold run
  dsimp only
  rw [hrequest, hheader, hconnect, hpresent, h.defaultTimeout]
  split
  · exact ⟨h, rfl⟩
  split
  · exact ⟨h, rfl⟩
  split
  · exact ⟨h, rfl⟩
  · exact ⟨h, rfl⟩
  · exact ⟨h, rfl⟩

/-! ## Pipelines -/

/-- What the outside world gives two pipelines with different secrets. -/
structure PipelineEnv.Alike (crypto : Crypto) (l l' : Login) (auth auth' : Option String)
    (env env' : PipelineEnv) : Prop where
  dns : env'.dns = env.dns
  stun : env'.stun = env.stun
  turnAlloc : env.turnAlloc.Alike crypto l l' env'.turnAlloc
  turnEcho : env'.turnEcho = env.turnEcho
  echoCrypto : env.turnEcho.crypto = crypto
  turnsAlloc : env.turnsAlloc.Alike crypto l l' env'.turnsAlloc
  iceGather : env'.iceGather = env.iceGather
  signaling : env.signaling.Alike auth auth' env'.signaling

/-- The pipelines that one subcommand builds for two choices of the secrets. -/
inductive Job.OtherSecrets (l l' : Login) (auth auth' : Option String) (env env' : PipelineEnv) :
    Job → Job → Prop
  | turn (t : Target) (echoCount : UInt32) : OtherSecrets l l' auth auth' env env'
      (turnJob env t l.user l.pass echoCount) (turnJob env' t l'.user l'.pass echoCount)
  | turns (t : Target) : OtherSecrets l l' auth auth' env env'
      (turnsJob env t l.user l.pass) (turnsJob env' t l'.user l'.pass)
  | iceTurn (t : Target) : OtherSecrets l l' auth auth' env env'
      (iceTurnJob env t l.user l.pass) (iceTurnJob env' t l'.user l'.pass)
  | signaling (host url : String) : OtherSecrets l l' auth auth' env env'
      (signalingJob env host url auth) (signalingJob env' host url auth')

namespace Job

variable {auth auth' : Option String} {env env' : PipelineEnv} {job job' : Job}

theorem targetCtx_alike (crypto : Crypto) (l l' : Login) (t : Target) (echoCount : UInt32) :
    ProbeContext.Alike crypto l l'
      { targetCtx t with turnUser := l.user, turnPass := l.pass, echoCount := echoCount }
      { targetCtx t with turnUser := l'.user, turnPass := l'.pass, echoCount := echoCount } :=
  ⟨⟨rfl, rfl⟩, ⟨rfl, rfl⟩, rfl, rfl, rfl, rfl, rfl, rfl, .none⟩

theorem dnsCheck_alike (crypto : Crypto) (l l' : Login) (env : DnsEnv) :
    Pipeline.Alike (ProbeContext.Alike crypto l l') (DnsCheck.check env) (DnsCheck.check env) :=
  ⟨rfl, rfl, rfl, fun _ _ h => DnsCheck.run_alike env h⟩

theorem stunCheck_alike (crypto : Crypto) (l l' : Login) (env : StunEnv) :
    Pipeline.Alike (ProbeContext.Alike crypto l l') (StunBindingCheck.check env)
      (StunBindingCheck.check env) :=
  ⟨rfl, rfl, rfl, fun _ _ h => StunBindingCheck.run_alike env h⟩

theorem turnAllocCheck_alike {env env' : TurnAllocEnv} (henv : env.Alike crypto l l' env')
    (hcomplete : l'.Complete ↔ l.Complete) : Pipeline.Alike (ProbeContext.Alike crypto l l')
      (TurnAllocateCheck.check env) (TurnAllocateCheck.check env') :=
  ⟨rfl, rfl, rfl, fun _ _ h => TurnAllocateCheck.run_alike henv hcomplete h⟩

/-- Two jobs with other secrets consist of checks that are alike. -/
theorem OtherSecrets.checks_alike (henv : env.Alike crypto l l' auth auth' env')
    (hcomplete : l'.Complete ↔ l.Complete) (h : OtherSecrets l l' auth auth' env env' job job') :
    ∃ l l' : Login, job.ctx.Alike crypto l l' job'.ctx ∧
      List.Forall₂ (Pipeline.Alike (ProbeContext.Alike crypto l l')) job.checks job'.checks := by
  have hturn := turnAllocCheck_alike henv.turnAlloc hcomplete
  cases h with
  | turn t echoCount =>
    refine ⟨l, l', targetCtx_alike crypto l l' t echoCount, ?_⟩
    rw [turnJob, turnJob, henv.dns, henv.stun, henv.turnEcho]
    exact .cons (dnsCheck_alike crypto l l' _) (.cons (stunCheck_alike crypto l l' _) (.cons hturn
      (.cons ⟨rfl, rfl, rfl, fun _ _ h => TurnEchoCheck.run_alike henv.echoCrypto h⟩ .nil)))
  | turns t =>
    refine ⟨l, l', targetCtx_alike crypto l l' t _, ?_⟩
    rw [turnsJob, turnsJob, henv.dns]
    exact .cons (dnsCheck_alike crypto l l' _) (.cons ⟨rfl, rfl, rfl,
      fun _ _ h => TurnsAllocateCheck.run_alike henv.turnsAlloc hcomplete h⟩ .nil)
  | iceTurn t =>
    refine ⟨l, l', targetCtx_alike crypto l l' t _, ?_⟩
    rw [iceTurnJob, iceTurnJob, henv.dns, henv.stun, henv.iceGather]
    exact .cons (dnsCheck_alike crypto l l' _) (.cons (stunCheck_alike crypto l l' _) (.cons hturn
      (.cons ⟨rfl, rfl, rfl, fun _ _ h => IceGatherCheck.run_alike _ h⟩ .nil)))
  | signaling host url =>
    refine ⟨⟨none, none⟩, ⟨none, none⟩, ?_, ?_⟩
    · exact ⟨⟨rfl, rfl⟩, ⟨rfl, rfl⟩, rfl, rfl, rfl, rfl, rfl, rfl, .none⟩
    rw [signalingJob, signalingJob, henv.dns]
    exact .cons (dnsCheck_alike _ _ _ _) (.cons ⟨rfl, rfl, rfl,
      fun _ _ h => SignalingCheck.run_alike henv.signaling url h⟩ .nil)

end Job

/-- Take two choices of the secrets, with a login in both or in none of them, and networks that
answer the two alike. The two headers are both absent, or both accepted as header values, or both
refused with one error. Then the pipelines of a subcommand report the same results, down to every
latency, summary and detail, and the same verdict. The clock's total is left out. -/
theorem report_hides_secrets {auth auth' : Option String} {env env' : PipelineEnv}
    (henv : env.Alike crypto l l' auth auth' env') (hcomplete : l'.Complete ↔ l.Complete)
    {job job' : Job} (h : Job.OtherSecrets l l' auth auth' env env' job job') :
    job'.report.results = job.report.results ∧ job'.report.verdict = job.report.verdict := by
  obtain ⟨_, _, hctx, hchecks⟩ := h.checks_alike henv hcomplete
  have hresults : job'.report.results = job.report.results :=
    Pipeline.Alike.results_run hchecks hctx _ _
  exact ⟨hresults, by rw [Report.verdict, hresults, Report.verdict]⟩

namespace Sample

/-- A network that counts the messages and reads none of them answers two logins alike. -/
theorem socket_alike (V : List UInt8 → List UInt8 → Prop) (replies : List (List UInt8)) :
    (socket replies).Alike V (socket replies) :=
  ⟨rfl, rfl, .nil, fun _ _ h now => by
    dsimp only [socket, UdpSocket.answers]
    rw [h.length_eq]⟩

theorem env_alike (l l' : Login) (replies : List (List UInt8)) (elapsed : ℕ) :
    (env replies).Alike Sample.crypto l l' none none { env replies with elapsed := elapsed } where
  dns := rfl
  stun := rfl
  turnAlloc := ⟨rfl, rfl, rfl, rfl, fun _ => .ok (socket_alike _ replies)⟩
  turnEcho := rfl
  echoCrypto := rfl
  turnsAlloc := ⟨rfl, rfl, rfl, rfl, rfl, rfl, fun _ _ => ⟨rfl, .elapsed⟩⟩
  iceGather := rfl
  signaling := ⟨rfl, rfl, rfl, fun _ _ => rfl⟩

end Sample

open Sample

/-- An echo run with another username and another password, on a slower machine. -/
theorem report_hides_secrets_echo :
    let job := turnJob { env echoReplies with elapsed := 7000000 } ⟨"192.0.2.1", 3478⟩
      (some "admin") (some "secret") 2
    job.report.results = echoJob.report.results ∧ job.report.verdict = echoJob.report.verdict :=
  report_hides_secrets (env_alike ⟨some "user", some "pass"⟩ ⟨some "admin", some "secret"⟩ _ _)
    ⟨fun _ => ⟨rfl, rfl⟩, fun _ => ⟨rfl, rfl⟩⟩ (.turn ⟨"192.0.2.1", 3478⟩ 2)

end WebrtcDoctor
