import WebrtcDoctor.TurnAlloc

/-!
# The TURN allocation check over TLS

`checks/turns_alloc.rs` : the dance of the UDP check over a TLS stream, each message
after its length. What the TLS library and the system do before the first message is a
`TurnsAllocEnv` : whether the host is a server name, how the TCP connect and the handshake
end, and how long they take.
-/

open NetAddr

namespace WebrtcDoctor

/-- The digests, the transaction IDs of both requests, and the steps up to a TLS stream. -/
structure TurnsAllocEnv where
  crypto : Crypto
  txid1 : TxId
  txid2 : TxId
  /-- Whether `ServerName::try_from` accepts the host. -/
  serverName : String → Bool
  /-- How the TCP connect under its timeout ends, and when. -/
  connect : SocketAddr → Recv Unit × ℕ
  /-- How the handshake under its timeout ends, and when. A stream starts at that time. -/
  handshake : String → SocketAddr → Recv TlsStream × ℕ

namespace TurnsAllocateCheck

/-- The id of the check. -/
def id : String := "turn.alloc.tls"

/-- Its name in a report. -/
def name : String := "TURN allocation (TLS)"

/-- A round over the stream. Only its receive is under the timeout. -/
def tlsRound (timeout : ℕ) (texts : RoundTexts) (tls : TlsStream)
    (request : TxId × List UInt8) : Except String AllocateOutcome × TlsStream :=
  allocateRound TlsStream.sendFramed (fun tls => tls.recvFramed timeout) texts (tls.held request.2)
    request

/-- The texts of the first round. -/
def unauthTexts (recvTimeout : ℕ) : RoundTexts where
  sendFailed e := s!"send (unauth) failed: {e}"
  recvFailed e := s!"recv (unauth) failed: {e}"
  noResponse := s!"no Allocate response in {Duration.debug recvTimeout}"
  malformed e := s!"malformed Allocate response: {e}"

/-- The texts of the second round. -/
def authedTexts (recvTimeout : ℕ) : RoundTexts where
  sendFailed e := s!"send (authed) failed: {e}"
  recvFailed e := s!"recv (authed) failed: {e}"
  noResponse := s!"no authed Allocate response in {Duration.debug recvTimeout}"
  malformed e := s!"malformed authed Allocate response: {e}"

/-- A failure with the time since the start. -/
def failNow (elapsed : ℕ) (msg : String) : CheckResult :=
  .fail id name (Duration.asMillis elapsed) msg

/-- Round 2, after the challenge `realm`, `nonce` and with both credentials, and the stream as
it leaves it. The run started at time 0. -/
def runAuthed (env : TurnsAllocEnv) (ctx : ProbeContext) (server : SocketAddr) (host : String)
    (tlsMs recvTimeout : ℕ) (tls : TlsStream) (realm : String) (nonce : List UInt8)
    (user pass : String) : (ProbeContext × CheckResult) × TlsStream :=
  let key := longTermKey env.crypto user realm pass
  let request := buildAllocateAuthed env.crypto env.txid2 user realm nonce key
  match tlsRound recvTimeout (authedTexts recvTimeout) tls request with
  | (.error msg, tls) => ((ctx, failNow tls.now msg), tls)
  | (.ok outcome, tls) =>
    let ms := Duration.asMillis tls.now
    match outcome with
    | .success relayed lifetime =>
      ((ctx.insertScratch "relayed" (toString relayed),
        (CheckResult.pass id name ms
            s!"relay {relayed} (lifetime {lifetime}s, TLS {tlsMs} ms, total {ms} ms)").withDetail
          (.obj [("server", .str (toString server)), ("sni", .str host),
            ("relayed", .str (toString relayed)), ("lifetime_s", .num lifetime.toNat),
            ("realm", .str realm), ("tls_handshake_ms", .num tlsMs),
            ("auth", .str "long-term")])), tls)
    | .unauthorized _ _ =>
      ((ctx, .fail id name ms "server rejected long-term credentials (401 after auth)"), tls)
    | .error code reason => ((ctx, .fail id name ms s!"allocate rejected: {code} {reason}"), tls)

/-- Both rounds on the established stream, and the stream as they leave it. -/
def runOn (env : TurnsAllocEnv) (ctx : ProbeContext) (server : SocketAddr) (host : String)
    (tlsMs recvTimeout : ℕ) (tls : TlsStream) : (ProbeContext × CheckResult) × TlsStream :=
  match tlsRound recvTimeout (unauthTexts recvTimeout) tls (buildAllocateUnauth env.txid1) with
  | (.error msg, tls) => ((ctx, failNow tls.now msg), tls)
  | (.ok outcome, tls) =>
    let ms := Duration.asMillis tls.now
    match outcome with
    | .success relayed lifetime =>
      ((ctx.insertScratch "relayed" (toString relayed),
        (CheckResult.pass id name ms
            s!"relay {relayed} (anonymous alloc, TLS {tlsMs} ms, total {ms} ms)").withDetail
          (.obj [("server", .str (toString server)), ("sni", .str host),
            ("relayed", .str (toString relayed)), ("lifetime_s", .num lifetime.toNat),
            ("tls_handshake_ms", .num tlsMs), ("auth", .str "none")])), tls)
    | .error code reason => ((ctx, .fail id name ms s!"server returned {code} {reason}"), tls)
    | .unauthorized realm nonce =>
      match ctx.turnUser, ctx.turnPass with
      | some user, some pass =>
        runAuthed env ctx server host tlsMs recvTimeout tls realm nonce user pass
      | _, _ =>
        ((ctx, CheckResult.warn id name ms
            s!"auth challenge from realm \"{realm}\" — no --user/--pass supplied (TLS {tlsMs} ms)"
          |>.withDetail
          (.obj [("server", .str (toString server)), ("sni", .str host),
            ("realm", .str realm), ("tls_handshake_ms", .num tlsMs),
            ("auth", .str "challenge-only")])), tls)

/-- At least ten seconds. -/
def recvTimeout (ctx : ProbeContext) : ℕ :=
  if ctx.defaultTimeout = 0 then Duration.fromSecs 10
  else max ctx.defaultTimeout (Duration.fromSecs 10)

/-- Connect to the first address, make the handshake and run both rounds over the stream. -/
def run (env : TurnsAllocEnv) (ctx : ProbeContext) : ProbeContext × CheckResult :=
  match ctx.port with
  | none => (ctx, .skip id name "no port supplied")
  | some port =>
  match ctx.resolvedIps.head? with
  | none => (ctx, .skip id name "no resolved IP")
  | some ip =>
  match ctx.host with
  | none => (ctx, .skip id name "no hostname for SNI")
  | some host =>
  let server : SocketAddr := ⟨ip, port⟩
  let recvTimeout := recvTimeout ctx
  if !env.serverName host then
    (ctx, failNow 0 ("`" ++ host ++ "` is not a valid TLS server name"))
  else
  match env.connect server with
  | (.failed e, t) => (ctx, failNow t s!"TCP connect to {server} failed: {e}")
  | (.elapsed, t) => (ctx, failNow t s!"TCP connect to {server} timeout")
  | (.received _, _) =>
  match env.handshake host server with
  | (.failed e, t) => (ctx, failNow t s!"TLS handshake failed: {e}")
  | (.elapsed, t) => (ctx, failNow t "TLS handshake timeout")
  | (.received tls, t) =>
    (runOn env ctx server host (Duration.asMillis t) recvTimeout { tls with now := t }).1

/-- The check as the pipeline runs it. -/
def check (env : TurnsAllocEnv) : Check ProbeContext := ⟨id, name, ["dns"], run env⟩

/-! ## What a run does -/

theorem runOn_leaves (env : TurnsAllocEnv) (ctx : ProbeContext) (server : SocketAddr)
    (host : String) (tlsMs recvTimeout : ℕ) (tls : TlsStream) : Leaves ctx
    (fun ctx' => ∃ relayed : SocketAddr, ctx' = ctx.insertScratch "relayed" (toString relayed))
      (runOn env ctx server host tlsMs recvTimeout tls).1 ∧
    (runOn env ctx server host tlsMs recvTimeout tls).1.2.status ≠ .skip := by
  unfold runOn
  dsimp only
  split
  · exact ⟨.of_ne_pass (by simp [failNow]), by simp [failNow]⟩
  split
  · exact ⟨.of_pass (by simp) ⟨_, rfl⟩, by simp⟩
  · exact ⟨.of_ne_pass (by simp), by simp⟩
  split
  · unfold runAuthed
    dsimp only
    split
    · exact ⟨.of_ne_pass (by simp [failNow]), by simp [failNow]⟩
    split
    · exact ⟨.of_pass (by simp) ⟨_, rfl⟩, by simp⟩
    · exact ⟨.of_ne_pass (by simp), by simp⟩
    · exact ⟨.of_ne_pass (by simp), by simp⟩
  · exact ⟨.of_ne_pass (by simp), by simp⟩

theorem run_leaves (env : TurnsAllocEnv) (ctx : ProbeContext) : Leaves ctx
    (fun ctx' => ∃ relayed : SocketAddr, ctx' = ctx.insertScratch "relayed" (toString relayed))
    (run env ctx) := by
  unfold run
  split
  · exact .of_ne_pass (by simp)
  split
  · exact .of_ne_pass (by simp)
  split
  · exact .of_ne_pass (by simp)
  dsimp only
  split
  · exact .of_ne_pass (by simp [failNow])
  split
  · exact .of_ne_pass (by simp [failNow])
  · exact .of_ne_pass (by simp [failNow])
  split
  · exact .of_ne_pass (by simp [failNow])
  · exact .of_ne_pass (by simp [failNow])
  · exact (runOn_leaves _ _ _ _ _ _ _).1

theorem run_ne_skip {env : TurnsAllocEnv} {ctx : ProbeContext} {host : String} {port : UInt16}
    {ip : IpAddr} {more : List IpAddr} (hhost : ctx.host = some host)
    (hport : ctx.port = some port) (hip : ctx.resolvedIps = ip :: more) :
    (run env ctx).2.status ≠ .skip := by
  unfold run
  rw [hport, hip, hhost]
  dsimp only [List.head?_cons]
  split
  · simp [failNow]
  split
  · simp [failNow]
  · simp [failNow]
  split
  · simp [failNow]
  · simp [failNow]
  · exact (runOn_leaves _ _ _ _ _ _ _).2

end TurnsAllocateCheck

end WebrtcDoctor
