import WebrtcDoctor.Credential
import WebrtcDoctor.Dialogue
import WebrtcDoctor.Frames
import WebrtcDoctor.TurnsAlloc

/-!
# The dance of the allocation checks

The allocation checks over UDP and over TLS are one dialogue with the server
(`allocateDance`), each over its own transport, whether the transport fails or not
(`TurnAllocateCheck.runOn_dance`, `TurnsAllocateCheck.runOn_dance`). So over transports
that carry the requests to one server and its replies back, the two send the same messages
and end in the same way (`same_dance`).
-/

open BigEndian NetAddr

namespace WebrtcDoctor

/-- How a round ends without a reply. -/
inductive RoundError where
  | sendFailed (e : String)
  | recvFailed (e : String)
  | noResponse
deriving DecidableEq, Repr

/-- Send a request and receive one reply. -/
def exchange {σ : Type} (send : σ → List UInt8 → Except String σ)
    (recv : σ → Recv (List UInt8) × σ) (s : σ) (request : List UInt8) :
    Except RoundError (List UInt8) × σ :=
  match send s request with
  | .error e => (.error (.sendFailed e), s)
  | .ok s =>
    match recv s with
    | (.failed e, s) => (.error (.recvFailed e), s)
    | (.elapsed, s) => (.error .noResponse, s)
    | (.received buf, s) => (.ok buf, s)

/-- How the dance ends, if every round brings a reply. -/
inductive DanceEnd where
  | granted (relayed : SocketAddr)
  | challenged
  | failed (msg : String)
deriving DecidableEq, Repr

/-- The dance after the challenge `realm`, `nonce`, with both credentials. -/
def authedDance (crypto : Crypto) (txid2 : TxId) (realm : String) (nonce : List UInt8)
    (user pass : String) : Dialogue (List UInt8) (List UInt8) DanceEnd :=
  .ask (buildAllocateAuthed crypto txid2 user realm nonce (longTermKey crypto user realm pass)).2
    fun reply =>
    match (parseAllocateResponse reply txid2).result (parseAllocateResponse_safe _ _) with
    | .error e => .done (.failed s!"malformed authed Allocate response: {e}")
    | .ok (.success relayed _) => .done (.granted relayed)
    | .ok (.unauthorized _ _) =>
      .done (.failed "server rejected long-term credentials (401 after auth)")
    | .ok (.error code reason) => .done (.failed s!"allocate rejected: {code} {reason}")

/-- The dance of both checks : a request without credentials, and after a challenge one with
them, if both are there. -/
def allocateDance (crypto : Crypto) (txid1 txid2 : TxId) (turnUser turnPass : Option String) :
    Dialogue (List UInt8) (List UInt8) DanceEnd :=
  .ask (buildAllocateUnauth txid1).2 fun reply =>
    match (parseAllocateResponse reply txid1).result (parseAllocateResponse_safe _ _) with
    | .error e => .done (.failed s!"malformed Allocate response: {e}")
    | .ok (.success relayed _) => .done (.granted relayed)
    | .ok (.error code reason) => .done (.failed s!"server returned {code} {reason}")
    | .ok (.unauthorized realm nonce) =>
      match turnUser, turnPass with
      | some user, some pass => authedDance crypto txid2 realm nonce user pass
      | _, _ => .done .challenged

/-- A check that starts in `ctx` and leaves `out` reports the end `e` of its dance. -/
def Reported (ctx : ProbeContext) (out : ProbeContext × CheckResult) :
    Except RoundError DanceEnd → Prop
  | .ok (.granted relayed) => out.2.status = .pass ∧
      out.1.scratch = (ctx.insertScratch "relayed" (toString relayed)).scratch
  | .ok .challenged => out.2.status = .warn ∧ out.1.scratch = ctx.scratch
  | .ok (.failed msg) => out.2.status = .fail ∧ out.2.summary = msg ∧ out.1.scratch = ctx.scratch
  | .error _ => out.2.status = .fail ∧ out.1.scratch = ctx.scratch

/-! ## Both checks dance -/

section

variable {σ : Type} {send : σ → List UInt8 → Except String σ} {recv : σ → Recv (List UInt8) × σ}
  {s s' : σ} {request : TxId × List UInt8}

/-- A round fails where its exchange does. -/
theorem allocateRound_of_error {e : RoundError} (texts : RoundTexts)
    (h : exchange send recv s request.2 = (.error e, s')) :
    ∃ msg, allocateRound send recv texts s request = (.error msg, s') := by
  unfold exchange at h
  unfold allocateRound
  rcases hsend : send s request.2 with e | sent <;> rw [hsend] at h
  · cases h
    exact ⟨_, rfl⟩
  · dsimp only at h ⊢
    rcases hrecv : recv sent with ⟨_ | e | buf, s''⟩ <;> rw [hrecv] at h <;> cases h <;>
      exact ⟨_, rfl⟩

/-- A round parses the reply of its exchange. -/
theorem allocateRound_of_ok {buf : List UInt8} (texts : RoundTexts)
    (h : exchange send recv s request.2 = (.ok buf, s')) :
    allocateRound send recv texts s request =
      (((parseAllocateResponse buf request.1).result (parseAllocateResponse_safe _ _)).mapError
        texts.malformed, s') := by
  unfold exchange at h
  unfold allocateRound
  rcases hsend : send s request.2 with e | sent <;> rw [hsend] at h
  · cases h
  · dsimp only at h ⊢
    rcases hrecv : recv sent with ⟨_ | e | buf, s''⟩ <;> rw [hrecv] at h <;> cases h
    dsimp only
    cases (parseAllocateResponse buf request.1).result (parseAllocateResponse_safe _ _) <;> rfl

end

namespace TurnAllocateCheck

/-- One datagram to the server, and one back. -/
def udpExchange (server : SocketAddr) (timeout : ℕ) :
    UdpSocket → List UInt8 → Except RoundError (List UInt8) × UdpSocket :=
  exchange (fun sock bytes => sock.sendTo bytes server) (recvAny timeout)

/-- Round 2 over UDP reports the end of its dance. -/
theorem runAuthed_dance (env : TurnAllocEnv) (ctx : ProbeContext) (server : SocketAddr)
    (started recvTimeout : ℕ) (sock : UdpSocket) (realm : String) (nonce : List UInt8)
    (user pass : String) :
    let danced := (authedDance env.crypto env.txid2 realm nonce user pass).runOver
      (udpExchange server recvTimeout) sock
    let out := runAuthed env ctx server started recvTimeout sock realm nonce user pass
    out.2 = danced.2 ∧ Reported ctx out.1 danced.1 := by
  unfold runAuthed authedDance udpRound
  dsimp only
  set request := buildAllocateAuthed env.crypto env.txid2 user realm nonce
    (longTermKey env.crypto user realm pass)
  rcases hreply : udpExchange server recvTimeout sock request.2 with ⟨e | buf, sock'⟩
  · obtain ⟨msg, hround⟩ := allocateRound_of_error (authedTexts server recvTimeout) hreply
    rw [hround, Dialogue.runOver_ask_of_error hreply]
    exact ⟨rfl, by simp [failNow], rfl⟩
  rw [allocateRound_of_ok _ hreply, Dialogue.runOver_ask_of_ok hreply,
    show request.1 = env.txid2 from rfl]
  rcases (parseAllocateResponse buf env.txid2).result (parseAllocateResponse_safe _ _) with
    e | ⟨relayed, lifetime⟩ | ⟨realm', nonce'⟩ | ⟨code, reason⟩
  · exact ⟨rfl, rfl, rfl, rfl⟩
  · exact ⟨rfl, rfl, rfl⟩
  · exact ⟨rfl, rfl, rfl, rfl⟩
  · exact ⟨rfl, rfl, rfl, rfl⟩

/-- The check is the dance over UDP. -/
theorem runOn_dance (env : TurnAllocEnv) (ctx : ProbeContext) (server : SocketAddr)
    (sock : UdpSocket) :
    let danced := (allocateDance env.crypto env.txid1 env.txid2 ctx.turnUser ctx.turnPass).runOver
      (udpExchange server (ctx.timeoutOr (Duration.fromSecs 5))) sock
    let out := runOn env ctx server sock
    out.2 = danced.2 ∧ Reported ctx out.1 danced.1 := by
  unfold runOn allocateDance udpRound
  dsimp only
  rcases hreply : udpExchange server (ctx.timeoutOr (Duration.fromSecs 5)) sock
      (buildAllocateUnauth env.txid1).2 with ⟨e | buf, sock'⟩
  · obtain ⟨msg, hround⟩ := allocateRound_of_error (unauthTexts server _) hreply
    rw [hround, Dialogue.runOver_ask_of_error hreply]
    exact ⟨rfl, by simp [failNow], rfl⟩
  rw [allocateRound_of_ok _ hreply, Dialogue.runOver_ask_of_ok hreply,
    show (buildAllocateUnauth env.txid1).1 = env.txid1 from rfl]
  rcases (parseAllocateResponse buf env.txid1).result (parseAllocateResponse_safe _ _) with
    e | ⟨relayed, lifetime⟩ | ⟨realm, nonce⟩ | ⟨code, reason⟩
  · exact ⟨rfl, rfl, rfl, rfl⟩
  · exact ⟨rfl, rfl, rfl⟩
  · dsimp only [Except.mapError]
    rcases ctx.turnUser with _ | user <;> rcases ctx.turnPass with _ | pass
    · exact ⟨rfl, rfl, rfl⟩
    · exact ⟨rfl, rfl, rfl⟩
    · exact ⟨rfl, rfl, rfl⟩
    · exact runAuthed_dance env ctx server sock.now _ sock' realm nonce user pass
  · exact ⟨rfl, rfl, rfl, rfl⟩

end TurnAllocateCheck

namespace TurnsAllocateCheck

/-- One framed message, and one back. -/
def tlsExchange (timeout : ℕ) (tls : TlsStream) (msg : List UInt8) :
    Except RoundError (List UInt8) × TlsStream :=
  exchange TlsStream.sendFramed (fun tls => tls.recvFramed timeout) (tls.held msg) msg

/-- Round 2 over TLS reports the end of its dance. -/
theorem runAuthed_dance (env : TurnsAllocEnv) (ctx : ProbeContext) (server : SocketAddr)
    (host : String) (tlsMs recvTimeout : ℕ) (tls : TlsStream) (realm : String)
    (nonce : List UInt8) (user pass : String) :
    let danced := (authedDance env.crypto env.txid2 realm nonce user pass).runOver
      (tlsExchange recvTimeout) tls
    let out := runAuthed env ctx server host tlsMs recvTimeout tls realm nonce user pass
    out.2 = danced.2 ∧ Reported ctx out.1 danced.1 := by
  unfold runAuthed authedDance tlsRound
  dsimp only
  set request := buildAllocateAuthed env.crypto env.txid2 user realm nonce
    (longTermKey env.crypto user realm pass)
  rcases hreply : tlsExchange recvTimeout tls request.2 with ⟨e | buf, tls'⟩
  · obtain ⟨msg, hround⟩ := allocateRound_of_error (authedTexts recvTimeout) hreply
    rw [hround, Dialogue.runOver_ask_of_error hreply]
    exact ⟨rfl, by simp [failNow], rfl⟩
  rw [allocateRound_of_ok _ hreply, Dialogue.runOver_ask_of_ok hreply,
    show request.1 = env.txid2 from rfl]
  rcases (parseAllocateResponse buf env.txid2).result (parseAllocateResponse_safe _ _) with
    e | ⟨relayed, lifetime⟩ | ⟨realm', nonce'⟩ | ⟨code, reason⟩
  · exact ⟨rfl, rfl, rfl, rfl⟩
  · exact ⟨rfl, rfl, rfl⟩
  · exact ⟨rfl, rfl, rfl, rfl⟩
  · exact ⟨rfl, rfl, rfl, rfl⟩

/-- The check is the dance over TLS. -/
theorem runOn_dance (env : TurnsAllocEnv) (ctx : ProbeContext) (server : SocketAddr)
    (host : String) (tlsMs recvTimeout : ℕ) (tls : TlsStream) :
    let danced := (allocateDance env.crypto env.txid1 env.txid2 ctx.turnUser ctx.turnPass).runOver
      (tlsExchange recvTimeout) tls
    let out := runOn env ctx server host tlsMs recvTimeout tls
    out.2 = danced.2 ∧ Reported ctx out.1 danced.1 := by
  unfold runOn allocateDance tlsRound
  dsimp only
  rcases hreply : tlsExchange recvTimeout tls (buildAllocateUnauth env.txid1).2 with
    ⟨e | buf, tls'⟩
  · obtain ⟨msg, hround⟩ := allocateRound_of_error (unauthTexts recvTimeout) hreply
    rw [hround, Dialogue.runOver_ask_of_error hreply]
    exact ⟨rfl, by simp [failNow], rfl⟩
  rw [allocateRound_of_ok _ hreply, Dialogue.runOver_ask_of_ok hreply,
    show (buildAllocateUnauth env.txid1).1 = env.txid1 from rfl]
  rcases (parseAllocateResponse buf env.txid1).result (parseAllocateResponse_safe _ _) with
    e | ⟨relayed, lifetime⟩ | ⟨realm, nonce⟩ | ⟨code, reason⟩
  · exact ⟨rfl, rfl, rfl, rfl⟩
  · exact ⟨rfl, rfl, rfl⟩
  · dsimp only [Except.mapError]
    rcases ctx.turnUser with _ | user <;> rcases ctx.turnPass with _ | pass
    · exact ⟨rfl, rfl, rfl⟩
    · exact ⟨rfl, rfl, rfl⟩
    · exact ⟨rfl, rfl, rfl⟩
    · exact runAuthed_dance env ctx server host tlsMs recvTimeout tls' realm nonce user pass
  · exact ⟨rfl, rfl, rfl, rfl⟩

end TurnsAllocateCheck

/-! ## Transports that carry the dance -/

/-- The UDP socket carries `messages` to a server at `server` that answers with `reply`. Each
send succeeds, and the answer is one datagram that arrives before the timeout. -/
structure UdpCarries (reply : List (List UInt8) → List UInt8) (server : SocketAddr) (timeout : ℕ)
    (messages : List (List UInt8)) (sock : UdpSocket) : Prop where
  nothingSent : sock.sent = []
  nothingQueued : sock.queue = []
  answers : ∀ msgs msg now, msgs ++ [msg] <+: messages → ∃ time source, time ≤ now + timeout ∧
    sock.react ((msgs ++ [msg]).map (Sent.mk server)) now =
      .ok [⟨time, .ok ⟨source, reply (msgs ++ [msg])⟩⟩]

/-- The TLS stream carries `messages` to a server that answers with `reply`. Each write and
flush succeeds, and the bytes of the answer, after its length, arrive one after the other
before the timeout. -/
structure TlsCarries (reply : List (List UInt8) → List UInt8) (timeout : ℕ)
    (messages : List (List UInt8)) (tls : TlsStream) : Prop where
  nothingWritten : tls.written = []
  nothingIncoming : tls.incoming = []
  writes : ∀ bytes, tls.write bytes = none
  answers : ∀ msgs msg now, msgs ++ [msg] <+: messages → ∃ events,
    tls.flush ((msgs ++ [msg]).flatMap TlsStream.frame) now = .ok events ∧
      events.map Prod.snd = (TlsStream.frame (reply (msgs ++ [msg]))).map .byte ∧
      ∀ p ∈ events, p.1 ≤ now + timeout

/-- A network that carries the messages carries them for the exchanges of the UDP check. -/
theorem UdpCarries.carries {reply : List (List UInt8) → List UInt8} {server : SocketAddr}
    {timeout : ℕ} {messages : List (List UInt8)} {sock : UdpSocket}
    (h : UdpCarries reply server timeout messages sock)
    (hlen : ∀ msgs, (reply msgs).length ≤ UdpSocket.bufLen) :
    Dialogue.Carries reply (TurnAllocateCheck.udpExchange server timeout)
      (fun msgs s => s.sent = msgs.map (Sent.mk server) ∧ s.queue = [] ∧ s.react = sock.react)
      messages := by
  rintro msgs msg s hmsgs ⟨hsent, hqueue, hreact⟩
  obtain ⟨time, source, htime, hanswer⟩ := h.answers msgs msg s.now hmsgs
  have hsend : s.sendTo msg server = .ok { s with
      sent := (msgs ++ [msg]).map (Sent.mk server)
      queue := [⟨time, .ok ⟨source, reply (msgs ++ [msg])⟩⟩] } := by
    have hsent' : s.sent ++ [⟨server, msg⟩] = (msgs ++ [msg]).map (Sent.mk server) := by
      rw [hsent, List.map_append]
      rfl
    unfold UdpSocket.sendTo
    rw [hsent', hreact, hanswer, hqueue]
    rfl
  refine ⟨{ s with
      now := max s.now time
      sent := (msgs ++ [msg]).map (Sent.mk server)
      queue := [] }, ?_, rfl, rfl, hreact⟩
  rw [TurnAllocateCheck.udpExchange, exchange, hsend]
  dsimp only
  rw [TurnAllocateCheck.recvAny, UdpSocket.recvFrom_cons_of_le rfl rfl htime]
  dsimp only
  rw [List.take_of_length_le (hlen _)]

/-- A stream that carries the messages carries them for the exchanges of the TLS check. -/
theorem TlsCarries.carries {reply : List (List UInt8) → List UInt8} {timeout : ℕ}
    {messages : List (List UInt8)} {tls : TlsStream}
    (h : TlsCarries reply timeout messages tls)
    (hlen : ∀ msgs, (reply msgs).length ≤ UdpSocket.bufLen) :
    Dialogue.Carries reply (TurnsAllocateCheck.tlsExchange timeout)
      (fun msgs s => s.written = msgs.flatMap TlsStream.frame ∧ s.incoming = [] ∧
        s.write = tls.write ∧ s.flush = tls.flush) messages := by
  rintro msgs msg s hmsgs ⟨hwritten, hincoming, hwrite, hflush⟩
  rw [TurnsAllocateCheck.tlsExchange]
  obtain ⟨hwritten, hincoming, hwrite, hflush⟩ :
      (s.held msg).written = msgs.flatMap TlsStream.frame ∧ (s.held msg).incoming = [] ∧
        (s.held msg).write = tls.write ∧
        (s.held msg).flush = tls.flush := ⟨hwritten, hincoming, hwrite, hflush⟩
  generalize s.held msg = s at hwritten hincoming hwrite hflush
  obtain ⟨events, hanswer, hevents, htime⟩ := h.answers msgs msg s.now hmsgs
  have hsend : s.sendFramed msg = .ok { s with
      written := (msgs ++ [msg]).flatMap TlsStream.frame
      incoming := events } := by
    have hwritten' : s.written ++ ofU16 (UInt16.ofNat msg.length) ++ msg =
        (msgs ++ [msg]).flatMap TlsStream.frame := by
      rw [hwritten, List.flatMap_append, List.append_assoc]
      simp [TlsStream.frame]
    have hwrites : ∀ bytes, s.write bytes = none := fun bytes => hwrite ▸ h.writes bytes
    simp only [TlsStream.sendFramed, TlsStream.writeAll, TlsStream.flushAll, hwrites, bind,
      Except.bind, hwritten', hflush, hanswer, hincoming, List.nil_append]
  have hreply : (reply (msgs ++ [msg])).length < 2 ^ 16 := (hlen _).trans_lt (by decide)
  obtain ⟨now, -, hrecv⟩ := TlsStream.recvFramed_frame
    (s := { s with written := (msgs ++ [msg]).flatMap TlsStream.frame, incoming := events })
    ⟨events, (List.append_nil _).symm, hevents, htime⟩ hreply
  refine ⟨{ s with
      now := now
      written := (msgs ++ [msg]).flatMap TlsStream.frame
      incoming := [] }, ?_, rfl, rfl, hwrite, hflush⟩
  rw [exchange, hsend]
  dsimp only
  rw [hrecv]

/-! ## How the dance ends -/

section

variable (crypto : Crypto) (txid1 txid2 : TxId) (turnUser turnPass : Option String)
  (reply : List (List UInt8) → List UInt8)

/-- The first reply parses as `outcome`. -/
def FirstParses (outcome : AllocateOutcome) : Prop :=
  parseAllocateResponse (reply [(buildAllocateUnauth txid1).2]) txid1 = .ok outcome

/-- The reply to the second request, after the challenge `realm`, `nonce`, parses as
`outcome`. -/
def SecondParses (realm : String) (nonce : List UInt8) (user pass : String)
    (outcome : AllocateOutcome) : Prop :=
  parseAllocateResponse (reply [(buildAllocateUnauth txid1).2,
    (buildAllocateAuthed crypto txid2 user realm nonce (longTermKey crypto user realm pass)).2])
    txid2 = .ok outcome

/-- The second round ends with a grant exactly if the server's reply parses as one. -/
theorem authed_outcome_iff (qs : List (List UInt8)) (realm : String) (nonce : List UInt8)
    (user pass : String) :
    let reply₂ := reply (qs ++ [(buildAllocateAuthed crypto txid2 user realm nonce
      (longTermKey crypto user realm pass)).2])
    let ending := (authedDance crypto txid2 realm nonce user pass).outcome reply qs
    ((∃ relayed, ending = .granted relayed) ↔ ∃ relayed lifetime,
      parseAllocateResponse reply₂ txid2 = .ok (.success relayed lifetime)) ∧
      ending ≠ .challenged := by
  intro reply₂
  unfold authedDance
  rw [Dialogue.outcome]
  simp only [← Checked.result_eq_ok (h := parseAllocateResponse_safe reply₂ txid2)]
  rcases (parseAllocateResponse reply₂ txid2).result (parseAllocateResponse_safe _ _) with
    e | ⟨relayed, lifetime⟩ | ⟨realm', nonce'⟩ | ⟨code, reason⟩ <;> simp [Dialogue.outcome]

/-- The dance ends with an allocation if the first reply is a success, or a challenge that
is answered with both credentials and followed by one. It ends with a challenge if the first
reply is one and a credential is missing. -/
theorem outcome_iff :
    let ending := (allocateDance crypto txid1 txid2 turnUser turnPass).outcome reply []
    ((∃ relayed, ending = .granted relayed) ↔
      (∃ relayed lifetime, FirstParses txid1 reply (.success relayed lifetime)) ∨
        ∃ realm nonce user pass relayed lifetime,
          FirstParses txid1 reply (.unauthorized realm nonce) ∧ turnUser = some user ∧
          turnPass = some pass ∧ SecondParses crypto txid1 txid2 reply realm nonce user pass
            (.success relayed lifetime)) ∧
      (ending = .challenged ↔ ∃ realm nonce, FirstParses txid1 reply (.unauthorized realm nonce) ∧
        (turnUser = none ∨ turnPass = none)) := by
  have hfirst : ∀ outcome, FirstParses txid1 reply outcome ↔
      (parseAllocateResponse (reply [(buildAllocateUnauth txid1).2]) txid1).result
        (parseAllocateResponse_safe _ _) = .ok outcome := fun _ => Checked.result_eq_ok.symm
  unfold allocateDance
  rw [Dialogue.outcome, List.nil_append]
  simp only [hfirst]
  rcases (parseAllocateResponse (reply [(buildAllocateUnauth txid1).2]) txid1).result
    (parseAllocateResponse_safe _ _) with
    e | ⟨relayed, lifetime⟩ | ⟨realm, nonce⟩ | ⟨code, reason⟩
  · simp [Dialogue.outcome]
  · simp [Dialogue.outcome]
  · rcases turnUser with _ | user <;> rcases turnPass with _ | pass
    · simp [Dialogue.outcome]
    · simp [Dialogue.outcome]
    · simp [Dialogue.outcome]
    · obtain ⟨hgranted, hchallenged⟩ := authed_outcome_iff crypto txid2 reply
        [(buildAllocateUnauth txid1).2] realm nonce user pass
      simp only [hgranted, hchallenged]
      simp [SecondParses]
  · simp [Dialogue.outcome]

end

/-! ## The two checks -/

/-- The status tells how the dance ended. -/
theorem Reported.status_eq {ctx : ProbeContext} {out : ProbeContext × CheckResult} {e : DanceEnd}
    (h : Reported ctx out (.ok e)) : (out.2.status = .pass ↔ ∃ relayed, e = .granted relayed) ∧
      (out.2.status = .warn ↔ e = .challenged) := by
  rcases e with relayed | _ | msg
  · simp [h.1]
  · simp [h.1]
  · simp [h.1]

/-- Two checks that start in `ctx` and report the same end agree. -/
theorem Reported.agree {ctx : ProbeContext} {out out' : ProbeContext × CheckResult} {e : DanceEnd}
    (h : Reported ctx out (.ok e)) (h' : Reported ctx out' (.ok e)) :
    out.2.status = out'.2.status ∧ (out.2.status = .fail → out.2.summary = out'.2.summary) ∧
      out.1.scratch "relayed" = out'.1.scratch "relayed" := by
  rcases e with relayed | _ | msg
  · exact ⟨h.1.trans h'.1.symm, fun hf => absurd (h.1.symm.trans hf) (by decide),
      by rw [h.2, h'.2]⟩
  · exact ⟨h.1.trans h'.1.symm, fun hf => absurd (h.1.symm.trans hf) (by decide),
      by rw [h.2, h'.2]⟩
  · exact ⟨h.1.trans h'.1.symm, fun _ => h.2.1.trans h'.2.1.symm, by rw [h.2.2, h'.2.2]⟩

/-- Over transports that carry the requests to one server and its replies back, with the same
transaction IDs, the two checks send the same messages, end at the same step with the same
status, and leave the same under `relayed`. The status is Pass and Warn as the replies
say. -/
theorem same_dance {udp : TurnAllocEnv} {tls : TurnsAllocEnv} {ctx : ProbeContext} {host : String}
    {port : UInt16} {ip : IpAddr} {sock : UdpSocket} {stream : TlsStream} {t : ℕ}
    {reply : List (List UInt8) → List UInt8} (hhost : ctx.host = some host)
    (hport : ctx.port = some port) (hip : ctx.resolvedIps.head? = some ip)
    (hcrypto : tls.crypto = udp.crypto) (htxid1 : tls.txid1 = udp.txid1)
    (htxid2 : tls.txid2 = udp.txid2) (hlen : ∀ msgs, (reply msgs).length ≤ UdpSocket.bufLen)
    (hbind : udp.bind (localBind ip) = .ok sock) (hname : tls.serverName host = true)
    (hconnect : (tls.connect ⟨ip, port⟩).1 = .received ())
    (hhandshake : tls.handshake host ⟨ip, port⟩ = (.received stream, t))
    (hudp : UdpCarries reply ⟨ip, port⟩ (ctx.timeoutOr (Duration.fromSecs 5))
      ((allocateDance udp.crypto udp.txid1 udp.txid2 ctx.turnUser ctx.turnPass).asked reply [])
      sock)
    (htls : TlsCarries reply (TurnsAllocateCheck.recvTimeout ctx)
      ((allocateDance udp.crypto udp.txid1 udp.txid2 ctx.turnUser ctx.turnPass).asked reply [])
      stream) :
    let messages :=
      (allocateDance udp.crypto udp.txid1 udp.txid2 ctx.turnUser ctx.turnPass).asked reply []
    let udpOut := TurnAllocateCheck.runOn udp ctx ⟨ip, port⟩ sock
    let tlsOut := TurnsAllocateCheck.runOn tls ctx ⟨ip, port⟩ host (Duration.asMillis t)
      (TurnsAllocateCheck.recvTimeout ctx) { stream with now := t }
    TurnAllocateCheck.run udp ctx = udpOut.1 ∧ TurnsAllocateCheck.run tls ctx = tlsOut.1 ∧
      udpOut.2.sent = messages.map (Sent.mk ⟨ip, port⟩) ∧
      tlsOut.2.written = messages.flatMap TlsStream.frame ∧
      (udpOut.1.2.status = tlsOut.1.2.status ∧
        (udpOut.1.2.status = .fail → udpOut.1.2.summary = tlsOut.1.2.summary) ∧
        udpOut.1.1.scratch "relayed" = tlsOut.1.1.scratch "relayed") ∧
      (udpOut.1.2.status = .pass ↔
        (∃ relayed lifetime, FirstParses udp.txid1 reply (.success relayed lifetime)) ∨
          ∃ realm nonce user pass relayed lifetime,
            FirstParses udp.txid1 reply (.unauthorized realm nonce) ∧
            ctx.turnUser = some user ∧ ctx.turnPass = some pass ∧
            SecondParses udp.crypto udp.txid1 udp.txid2 reply realm nonce user pass
              (.success relayed lifetime)) ∧
      (udpOut.1.2.status = .warn ↔ ∃ realm nonce,
        FirstParses udp.txid1 reply (.unauthorized realm nonce) ∧
          (ctx.turnUser = none ∨ ctx.turnPass = none)) := by
  intro messages udpOut tlsOut
  obtain ⟨hudpSock, hudpReported⟩ := TurnAllocateCheck.runOn_dance udp ctx ⟨ip, port⟩ sock
  obtain ⟨htlsStream, htlsReported⟩ := TurnsAllocateCheck.runOn_dance tls ctx ⟨ip, port⟩ host
    (Duration.asMillis t) (TurnsAllocateCheck.recvTimeout ctx) { stream with now := t }
  obtain ⟨sock', hudpOver, hsent, -, -⟩ := Dialogue.runOver_of_carries _
    ⟨hudp.nothingSent, hudp.nothingQueued, rfl⟩ (hudp.carries hlen)
  rw [hcrypto, htxid1, htxid2] at htlsStream htlsReported
  obtain ⟨stream', htlsOver, hwritten, -, -, -⟩ := Dialogue.runOver_of_carries
    (s := { stream with now := t }) _
    ⟨htls.nothingWritten, htls.nothingIncoming, rfl, rfl⟩ (htls.carries hlen)
  rw [hudpOver] at hudpSock hudpReported
  rw [htlsOver] at htlsStream htlsReported
  obtain ⟨hpass, hwarn⟩ := hudpReported.status_eq
  obtain ⟨hgranted, hchallenged⟩ :=
    outcome_iff udp.crypto udp.txid1 udp.txid2 ctx.turnUser ctx.turnPass reply
  refine ⟨?_, ?_, ?_, ?_, hudpReported.agree htlsReported, hpass.trans hgranted,
    hwarn.trans hchallenged⟩
  · unfold TurnAllocateCheck.run
    rw [hport, hip]
    dsimp only
    rw [hbind]
  · unfold TurnsAllocateCheck.run
    rw [hport, hip, hhost]
    dsimp only
    rw [hname]
    rcases hconn : tls.connect ⟨ip, port⟩ with ⟨r, t'⟩
    rw [hconn] at hconnect
    rw [show r = .received () from hconnect, hhandshake]
    rfl
  · exact (congrArg UdpSocket.sent hudpSock).trans hsent
  · exact (congrArg TlsStream.written htlsStream).trans hwritten

/-! ## A login over both transports -/

namespace Sample

/-- A server that challenges the first request and grants the second. -/
def dancer : List (List UInt8) → List UInt8
  | [_] => challenge (txid 1)
  | _ => grant (txid 2)

/-- A stream to that server, which answers at once. The first request and its length are 30
bytes. -/
def dancerStream : TlsStream where
  now := 0
  incoming := []
  written := []
  write _ := none
  flush written now := .ok <| (TlsStream.frame <| if written.length = 30 then challenge (txid 1)
    else grant (txid 2)).map fun b => (now, .byte b)

/-- A TLS environment in which the handshake gives that stream. -/
def dancerEnv : TurnsAllocEnv where
  crypto := crypto
  txid1 := txid 1
  txid2 := txid 2
  serverName _ := true
  connect _ := (.received (), 0)
  handshake _ _ := (.received dancerStream, 0)

/-- The server of the samples is asked twice. -/
theorem asked_dancer : ∃ request,
    (allocateDance crypto (txid 1) (txid 2) (some "user") (some "pass")).asked dancer [] =
      [(buildAllocateUnauth (txid 1)).2, request] := by
  have hparse : parseAllocateResponse (challenge (txid 1)) (txid 1) =
      .ok (.unauthorized "example.org" (Utf8.asBytes "nonce")) := by decide +kernel
  unfold allocateDance authedDance
  rw [Dialogue.asked, show dancer _ = challenge (txid 1) from rfl, Checked.result_eq_ok.2 hparse]
  dsimp only
  rw [Dialogue.asked]
  split <;> exact ⟨_, rfl⟩

/-- The two requests, one after the other. -/
theorem prefix_asked_dancer {msgs : List (List UInt8)} {msg : List UInt8}
    (h : msgs ++ [msg] <+: (allocateDance crypto (txid 1) (txid 2) (some "user")
      (some "pass")).asked dancer []) :
    msgs = [] ∧ msg = (buildAllocateUnauth (txid 1)).2 ∨
      msgs = [(buildAllocateUnauth (txid 1)).2] := by
  obtain ⟨request, hasked⟩ := asked_dancer
  rw [hasked] at h
  rcases msgs with _ | ⟨m, _ | ⟨m', msgs⟩⟩
  · exact Or.inl ⟨rfl, (List.cons_prefix_cons.1 h).1⟩
  · exact Or.inr (by rw [(List.cons_prefix_cons.1 h).1])
  · have hlen := h.length_le
    simp at hlen

/-- The socket of the samples carries both requests. -/
theorem udpCarries_dancer : UdpCarries dancer server (Duration.fromSecs 5)
    ((allocateDance crypto (txid 1) (txid 2) (some "user") (some "pass")).asked dancer [])
    (socket [challenge (txid 1), grant (txid 2)]) where
  nothingSent := rfl
  nothingQueued := rfl
  answers msgs msg now h := by
    refine ⟨now + Duration.fromMillis 10, server, Nat.add_le_add_left (by decide) _, ?_⟩
    rcases prefix_asked_dancer h with ⟨rfl, rfl⟩ | rfl <;> rfl

/-- The stream of the samples carries both requests. -/
theorem tlsCarries_dancer : TlsCarries dancer (Duration.fromSecs 10)
    ((allocateDance crypto (txid 1) (txid 2) (some "user") (some "pass")).asked dancer [])
    dancerStream where
  nothingWritten := rfl
  nothingIncoming := rfl
  writes _ := rfl
  answers msgs msg now h := by
    refine ⟨(TlsStream.frame (dancer (msgs ++ [msg]))).map fun b => (now, .byte b), ?_,
      by rw [List.map_map]; rfl, fun p hp => ?_⟩
    · rcases prefix_asked_dancer h with ⟨rfl, rfl⟩ | rfl
      · rfl
      · have hfirst : (TlsStream.frame (buildAllocateUnauth (txid 1)).2).length = 30 := by decide
        have hlong : (([(buildAllocateUnauth (txid 1)).2] ++ [msg]).flatMap
            TlsStream.frame).length ≠ 30 := by
          rw [List.flatMap_append, List.length_append, List.flatMap_singleton,
            List.flatMap_singleton, hfirst, TlsStream.frame, List.length_append, length_ofU16]
          omega
        dsimp only [dancerStream]
        rw [if_neg hlong]
        rfl
    · obtain ⟨b, -, rfl⟩ := List.mem_map.1 hp
      exact Nat.le_add_right now _

end Sample

open Sample in
/-- A login that is challenged and granted on both transports. -/
theorem same_dance_login :
    let env := allocEnv [challenge (txid 1), grant (txid 2)]
    (TurnAllocateCheck.run env loginCtx).2.status = .pass ∧
      (TurnsAllocateCheck.run dancerEnv loginCtx).2.status = .pass := by
  intro env
  have hlen : ∀ msgs, (dancer msgs).length ≤ UdpSocket.bufLen := by
    intro msgs
    unfold dancer
    split <;> decide
  obtain ⟨hudp, htls, -, -, ⟨hstatus, -⟩, hpass, -⟩ := @same_dance env dancerEnv loginCtx
    "turn.example.org" server.port server.ip (socket [challenge (txid 1), grant (txid 2)])
    dancerStream 0 dancer rfl rfl rfl rfl rfl rfl hlen rfl rfl rfl rfl udpCarries_dancer
    tlsCarries_dancer
  have hpassed := hpass.2 (Or.inr ⟨"example.org", Utf8.asBytes "nonce", "user", "pass", relayed,
    600, (by decide +kernel : parseAllocateResponse (challenge (txid 1)) (txid 1) =
      .ok (.unauthorized "example.org" (Utf8.asBytes "nonce"))), rfl, rfl,
    (by decide +kernel : parseAllocateResponse (grant (txid 2)) (txid 2) =
      .ok (.success relayed 600))⟩)
  exact ⟨by rw [hudp]; exact hpassed, by rw [htls]; exact hstatus ▸ hpassed⟩

end WebrtcDoctor
