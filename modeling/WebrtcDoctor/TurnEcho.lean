import WebrtcDoctor.Context
import WebrtcDoctor.NetAddrRoundTrip
import WebrtcDoctor.Pipeline

/-!
# The TURN echo check

`checks/turn_echo.rs` : a CreatePermission for our own reflexive address over the session
of `turn.alloc.udp`, then `echo_count` numbered datagrams to the relay address, then the
Data Indications that bring them back.

`run` is the sequence of `createPermission`, `sendLoop`, `receiveLoop` and `report`.
A datagram read by the receive loop changes its state only through `absorb`. Counters are
32-bit and wrap.
-/

open BigEndian Checked NetAddr

namespace WebrtcDoctor

/-- The digests, and the transaction ID of the request. -/
structure TurnEchoEnv where
  crypto : Crypto
  /-- The transaction ID of the CreatePermission request. -/
  txid : TxId

namespace TurnEchoCheck

/-- The id of the check. -/
def id : String := "turn.echo.udp"

/-- Its name in a report. -/
def name : String := "TURN echo (UDP)"

/-- The message type of a Data Indication. -/
def dataIndication : UInt16 := 0x0017

/-- What every payload of ours begins with. -/
def echoPrefix : List UInt8 := Utf8.asBytes "webrtc-doctor-echo-probe"

/-- Gap between successive sends. -/
def echoInterval : ℕ := Duration.fromMillis 20

/-- The payload of packet `seq`. -/
def makePayload (seq : UInt32) : List UInt8 := echoPrefix ++ ofU32le seq

/-- The sequence number of a payload of ours. -/
def parseSeq (payload : List UInt8) : Option UInt32 :=
  if payload.length ≠ echoPrefix.length + 4 then none
  else if payload.take echoPrefix.length ≠ echoPrefix then none
  else
    match payload.drop echoPrefix.length with
    | [b₀, b₁, b₂, b₃] => some (toU32le b₀ b₁ b₂ b₃)
    | _ => none

/-! ## Messages -/

/-- A signed CreatePermission request for `peer`. -/
def buildCreatePermission (crypto : Crypto) (txid : TxId) (username realm : String)
    (nonce : List UInt8) (key : Key) (peer : SocketAddr) : TxId × List UInt8 :=
  let msg := stunHeader createPermissionRequest txid
  let msg := appendAttr msg attr.xorPeerAddress (buildXorAddress peer txid)
  let msg := appendAttr msg attr.username (Utf8.asBytes username)
  let msg := appendAttr msg attr.realm (Utf8.asBytes realm)
  let msg := appendAttr msg attr.nonce nonce
  (txid, attachMessageIntegrity crypto msg key)

/-- What a CreatePermission response says. -/
inductive CpOutcome where
  | success
  | error (code : UInt16) (reason : String)
deriving DecidableEq, Repr

/-- Why a CreatePermission response is rejected. -/
inductive CpError where
  | codec (e : CodecError)
  | wrongType (msgType : UInt16)
  | missingErrorCode
deriving DecidableEq, Repr

instance : ToString CpError where
  toString
    | .codec e => toString e
    | .wrongType msgType => "unexpected message type 0x" ++ hexPad 4 msgType.toNat
    | .missingErrorCode => "missing ERROR-CODE in error response"

/-- The loop of `parseCreatePermissionResponse`. -/
def firstErrorCode : List Attr → Checked CpError CpOutcome
  | [] => .err .missingErrorCode
  | a :: attrs =>
    if a.attrType = attr.errorCode then do
      let ec ← (parseErrorCode a.value).mapErr .codec
      return .error ec.code ec.reason
    else firstErrorCode attrs

/-- A CreatePermission response. The attributes of a success are not read. -/
def parseCreatePermissionResponse (buf : List UInt8) (txid : TxId) :
    Checked CpError CpOutcome := do
  let header ← (parseHeader buf txid).mapErr .codec
  if header.msgType = createPermissionSuccess then return .success
  else if header.msgType = createPermissionError then do
    let attrs ← (walkAttrs buf header.attrsLen).mapErr .codec
    firstErrorCode attrs
  else .err (.wrongType header.msgType)

/-- The loop of `parseDataIndication` at offset `i`. -/
def dataLoop (buf : List UInt8) (last i : ℕ) : Checked CodecError (Option (List UInt8)) :=
  if i + 4 ≤ last then do
    let attrType := toU16 (← get buf i) (← get buf (i + 1))
    let attrLen := (toU16 (← get buf (i + 2)) (← get buf (i + 3))).toNat
    let valStart := i + 4
    let valEnd := valStart + attrLen
    if valEnd > last then .err .truncatedAttr
    else if attrType = attr.data then return some (← slice buf valStart valEnd)
    else dataLoop buf last (valEnd + (4 - attrLen % 4) % 4)
  else return none
termination_by last - i

/-- The `DATA` attribute of a Data Indication, none in any other message. -/
def parseDataIndication (buf : List UInt8) : Checked CodecError (Option (List UInt8)) :=
  if buf.length < 20 then .err (.short buf.length)
  else do
    let msgType := toU16 (← get buf 0) (← get buf 1)
    if msgType ≠ dataIndication then return none
    else do
      let attrsLen := toU16 (← get buf 2) (← get buf 3)
      let cookie := toU32 (← get buf 4) (← get buf 5) (← get buf 6) (← get buf 7)
      if cookie ≠ magicCookie then .err (.badCookie cookie)
      else if buf.length < 20 + attrsLen.toNat then .err .truncatedAttr
      else dataLoop buf (20 + attrsLen.toNat) 20

theorem firstErrorCode_safe : ∀ attrs, (firstErrorCode attrs).Safe
  | [] => safe_err _
  | _ :: attrs =>
    safe_ite (fun _ => safe_bind (safe_mapErr (parseErrorCode_safe _)) fun _ _ => safe_ok _)
      fun _ => firstErrorCode_safe attrs

theorem parseCreatePermissionResponse_safe (buf : List UInt8) (txid : TxId) :
    (parseCreatePermissionResponse buf txid).Safe := by
  refine safe_bind (safe_mapErr (parseHeader_safe _ _)) fun h hh => ?_
  refine safe_ite (fun _ => safe_ok _) fun _ => safe_ite (fun _ => ?_) fun _ => safe_err _
  exact safe_bind (safe_mapErr (walkAttrs_safe (mapErr_eq_ok.1 hh))) fun attrs _ =>
    firstErrorCode_safe attrs

/-- Inside the declared section, which lies in the buffer, no read of the loop is out of
bounds. -/
theorem dataLoop_safe {buf : List UInt8} {last : ℕ} (hlast : last ≤ buf.length) (i : ℕ) :
    (dataLoop buf last i).Safe := by
  induction hn : last - i using Nat.strongRecOn generalizing i with
  | _ n ih =>
    rw [dataLoop]
    refine safe_ite (fun hi => ?_) fun _ => safe_ok _
    iterate 4 refine safe_bind (safe_get (by omega)) fun _ _ => ?_
    refine safe_ite (fun _ => safe_err _) fun hv => safe_ite (fun _ => ?_) fun _ => ?_
    · exact safe_bind (safe_slice (by omega) (by omega)) fun _ _ => safe_ok _
    · exact ih _ (by omega) _ rfl

theorem parseDataIndication_safe (buf : List UInt8) : (parseDataIndication buf).Safe := by
  refine safe_ite (fun _ => safe_err _) fun hlen => ?_
  iterate 2 refine safe_bind (safe_get (by omega)) fun _ _ => ?_
  refine safe_ite (fun _ => safe_ok _) fun _ => ?_
  iterate 6 refine safe_bind (safe_get (by omega)) fun _ _ => ?_
  refine safe_ite (fun _ => safe_err _) fun _ => safe_ite (fun _ => safe_err _) fun hl => ?_
  exact dataLoop_safe (by omega) 20

/-! ## The exchange -/

/-- Step 1 : the permission for our own reflexive address `srflx`. -/
def createPermission (env : TurnEchoEnv) (session : TurnSession) (srflx : SocketAddr)
    (recvTimeout : ℕ) : Except String Unit × UdpSocket :=
  let request := buildCreatePermission env.crypto env.txid session.username session.realm
    session.nonce session.key srflx
  match session.socket.sendTo request.2 session.server with
  | .error e => (.error s!"send CreatePermission failed: {e}", session.socket)
  | .ok sock =>
  match sock.recvFrom recvTimeout with
  | (.failed e, sock) => (.error s!"recv CreatePermission failed: {e}", sock)
  | (.elapsed, sock) =>
    (.error
      s!"no CreatePermission response in {Duration.debug recvTimeout} (server: {session.server})",
      sock)
  | (.received d, sock) =>
  match (parseCreatePermissionResponse d.bytes request.1).result
      (parseCreatePermissionResponse_safe _ _) with
  | .ok .success => (.ok (), sock)
  | .ok (.error code reason) => (.error s!"CreatePermission rejected: {code} {reason}", sock)
  | .error e => (.error s!"malformed CreatePermission resp: {e}", sock)

/-- Step 2 : send the packets `seqs` of a run of `n`, and note when each was sent. -/
def sendLoop (session : TurnSession) {n : ℕ} : List (Fin n) → Vector (Option ℕ) n → UdpSocket →
    Except String (Vector (Option ℕ) n) × UdpSocket
  | [], sendTimes, sock => (.ok sendTimes, sock)
  | seq :: seqs, sendTimes, sock =>
    let now := sock.now
    match sock.sendTo (makePayload (UInt32.ofNat seq)) session.relayed with
    | .error e => (.error s!"send packet {seq} to relay failed: {e}", sock)
    | .ok sock =>
      sendLoop session seqs (sendTimes.set seq (some now))
        (if seq.val + 1 < n then sock.sleep echoInterval else sock)

/-- What the receive loop has counted. -/
structure EchoState (count : UInt32) where
  rtts : Vector (Option ℕ) count.toNat
  received : UInt32
  duplicates : UInt32

/-- No packet is heard yet. -/
def EchoState.start (count : UInt32) : EchoState count := ⟨Vector.replicate _ none, 0, 0⟩

/-- The sequence number of an echo of ours in a datagram from the server. -/
def echoSeq (server : SocketAddr) (d : Datagram) : Option UInt32 :=
  if d.source ≠ server then none
  else
    match (parseDataIndication d.bytes).result (parseDataIndication_safe _) with
    | .ok (some data) => parseSeq data
    | _ => none

/-- One datagram read at `recvAt`. -/
def absorb {count : UInt32} (session : TurnSession) (sendTimes : Vector (Option ℕ) count.toNat)
    (recvAt : ℕ) (st : EchoState count) (d : Datagram) : EchoState count :=
  match echoSeq session.server d with
  | none => st
  | some seq =>
    if h : seq.toNat < count.toNat then
      match sendTimes[seq.toNat] with
      | none => st
      | some sendAt =>
        if st.rtts[seq.toNat].isSome then { st with duplicates := st.duplicates + 1 }
        else { st with
          rtts := st.rtts.set seq.toNat (some (recvAt - sendAt))
          received := st.received + 1 }
    else st

/-- Step 3 : read until every packet is accounted for or the deadline passes. -/
def receiveLoop {count : UInt32} (session : TurnSession) (recvDeadline : ℕ)
    (sendTimes : Vector (Option ℕ) count.toNat) (sock : UdpSocket) (st : EchoState count) :
    Except String (EchoState count) × UdpSocket :=
  if st.received < count then
    if recvDeadline ≤ sock.now then (.ok st, sock)
    else
      match _hrecv : sock.recvFrom (recvDeadline - sock.now) with
      | (.failed e, sock) => (.error s!"recv echo failed: {e}", sock)
      | (.elapsed, sock) => (.ok st, sock)
      | (.received d, sock') =>
        receiveLoop session recvDeadline sendTimes sock'
          (absorb session sendTimes sock'.now st d)
  else (.ok st, sock)
termination_by sock.queue.length
decreasing_by
  rcases sock.length_queue_recvFrom (recvDeadline - sock.now) with ⟨h, -⟩ | h
  · rw [_hrecv] at h
    cases h
  · rwa [_hrecv] at h

/-! ## The report -/

/-- Least, mean and greatest. -/
def stats (rttsMs : List ℕ) : ℕ × ℕ × ℕ :=
  (rttsMs.min?.getD 0, if rttsMs.isEmpty then 0 else rttsMs.sum / rttsMs.length,
    rttsMs.max?.getD 0)

/-- A number of at least zero to the nearest integer, ties to even, as `{:.0}` prints. -/
def roundHalfEven (q : ℚ) : ℕ :=
  let n := q.floor.toNat
  if q - n < 1 / 2 then n else if 1 / 2 < q - n then n + 1 else n + n % 2

/-- The round-trip times in milliseconds, none for a packet that is not heard. -/
def rttMsEach {count : UInt32} (st : EchoState count) : List (Option ℕ) :=
  st.rtts.toList.map fun d => d.map Duration.asMillis

/-- The result of the check : a pass if every packet is heard, a failure if none is. -/
def report {count : UInt32} (session : TurnSession) (srflx : SocketAddr) (recvTimeout totalMs : ℕ)
    (st : EchoState count) : CheckResult :=
  let received := st.received
  let lossPct : ℚ := ((count - received).toNat : ℚ) * 100 / count.toNat
  let detail : Json := .obj
    [("server", .str (toString session.server)), ("relayed", .str (toString session.relayed)),
      ("peer", .str (toString srflx)), ("sent", .num count.toNat),
      ("received", .num received.toNat), ("duplicates", .num st.duplicates.toNat),
      ("loss_pct", .num lossPct),
      ("rtt_ms", .arr ((rttMsEach st).map fun ms => ms.elim .null fun ms => .num ms)),
      ("path", .str "client→relay→data-indication")]
  if received = 0 then
    CheckResult.fail id name totalMs
      s!"0/{count} echoes received within {Duration.debug recvTimeout} (relay: {session.relayed})"
      |>.withDetail detail
  else
    let (minMs, avgMs, maxMs) := stats ((rttMsEach st).filterMap fun ms => ms)
    let summary :=
      s!"{received}/{count} echoes, loss {roundHalfEven lossPct}%, rtt min/avg/max = " ++
      s!"{minMs}/{avgMs}/{maxMs} ms via {session.relayed}"
    if received = count then (CheckResult.pass id name totalMs summary).withDetail detail
    else (CheckResult.warn id name totalMs summary).withDetail detail

/-- A failure with the time since the start. -/
def failNow (started : ℕ) (sock : UdpSocket) (msg : String) : CheckResult :=
  .fail id name (Duration.asMillis (sock.now - started)) msg

/-- Step 3 and the report, after the packets were sent at `sendTimes`. -/
def collect (session : TurnSession) (srflx : SocketAddr) (recvTimeout started : ℕ)
    {count : UInt32} (sendTimes : Vector (Option ℕ) count.toNat) (sock : UdpSocket) :
    CheckResult :=
  let lastSend := (sendTimes.toList.filterMap fun t => t).max?.getD sock.now
  match receiveLoop session (lastSend + recvTimeout) sendTimes sock (EchoState.start count) with
  | (.error msg, sock) => failNow started sock msg
  | (.ok st, sock) =>
    report session srflx recvTimeout (Duration.asMillis (sock.now - started)) st

/-- The three steps over `session`, with `count` packets. -/
def runSession (env : TurnEchoEnv) (session : TurnSession) (srflx : SocketAddr) (recvTimeout : ℕ)
    (count : UInt32) : CheckResult :=
  let started := session.socket.now
  match createPermission env session srflx recvTimeout with
  | (.error msg, sock) => failNow started sock msg
  | (.ok (), sock) =>
  match sendLoop session (List.finRange count.toNat) (Vector.replicate _ none) sock with
  | (.error msg, sock) => failNow started sock msg
  | (.ok sendTimes, sock) => collect session srflx recvTimeout started sendTimes sock

/-- The echo over the session of the allocation, with at least one packet. -/
def run (env : TurnEchoEnv) (ctx : ProbeContext) : ProbeContext × CheckResult :=
  match ctx.turnSession with
  | none => (ctx, .skip id name "no TURN session in context")
  | some session =>
  match (ctx.scratch "srflx").bind SocketAddr.parse with
  | none => (ctx, .skip id name "no srflx in context")
  | some srflx =>
    (ctx, runSession env session srflx (ctx.timeoutOr (Duration.fromSecs 5)) (max ctx.echoCount 1))

/-- The check as the pipeline runs it. -/
def check (env : TurnEchoEnv) : Check ProbeContext :=
  ⟨id, name, ["turn.alloc.udp", "stun.binding"], run env⟩

/-! ## What a run does -/

theorem status_report {count : UInt32} (session : TurnSession) (srflx : SocketAddr)
    (recvTimeout totalMs : ℕ) (st : EchoState count) :
    (report session srflx recvTimeout totalMs st).status =
      if st.received = 0 then .fail else if st.received = count then .pass else .warn := by
  unfold report
  dsimp only
  split
  · simp
  · split <;> simp

theorem runSession_ne_skip (env : TurnEchoEnv) (session : TurnSession) (srflx : SocketAddr)
    (recvTimeout : ℕ) (count : UInt32) :
    (runSession env session srflx recvTimeout count).status ≠ .skip := by
  unfold runSession collect
  dsimp only
  split
  · simp [failNow]
  split
  · simp [failNow]
  split
  · simp [failNow]
  · rw [status_report]
    split_ifs <;> simp

/-- The check leaves the context alone. -/
theorem run_leaves (env : TurnEchoEnv) (ctx : ProbeContext) :
    Leaves ctx (· = ctx) (run env ctx) := by
  have h : (run env ctx).1 = ctx := by
    unfold run
    split
    · rfl
    · split <;> rfl
  by_cases hpass : (run env ctx).2.status = .pass
  · exact Or.inl ⟨hpass, h⟩
  · exact Or.inr ⟨hpass, h⟩

theorem run_of_session {env : TurnEchoEnv} {ctx : ProbeContext} {session : TurnSession}
    {srflx : SocketAddr} (hsession : ctx.turnSession = some session)
    (hsrflx : ctx.scratch "srflx" = some (toString srflx)) :
    run env ctx = (ctx, runSession env session srflx (ctx.timeoutOr (Duration.fromSecs 5))
      (max ctx.echoCount 1)) := by
  unfold run
  rw [hsession, hsrflx]
  dsimp only [Option.bind_some]
  rw [SocketAddr.parse_display]

theorem run_of_no_session {env : TurnEchoEnv} {ctx : ProbeContext} (h : ctx.turnSession = none) :
    run env ctx = (ctx, .skip id name "no TURN session in context") := by
  unfold run
  rw [h]

/-- With a session and a reflexive address in the context the check does not skip. -/
theorem run_ne_skip {env : TurnEchoEnv} {ctx : ProbeContext} {session : TurnSession}
    {srflx : SocketAddr} (hsession : ctx.turnSession = some session)
    (hsrflx : ctx.scratch "srflx" = some (toString srflx)) :
    (run env ctx).2.status ≠ .skip := by
  rw [run_of_session hsession hsrflx]
  exact runSession_ne_skip _ _ _ _ _

/-- With a session in the context the check does not end for want of one. -/
theorem run_ne_no_session {env : TurnEchoEnv} {ctx : ProbeContext} {session : TurnSession}
    (hsession : ctx.turnSession = some session) :
    (run env ctx).2 ≠ .skip id name "no TURN session in context" := by
  intro h
  unfold run at h
  rw [hsession] at h
  dsimp only at h
  split at h
  · have hsummary : "no srflx in context" = "no TURN session in context" :=
      congrArg CheckResult.summary h
    exact absurd hsummary (by decide)
  · exact runSession_ne_skip _ _ _ _ _ (congrArg CheckResult.status h)

end TurnEchoCheck

end WebrtcDoctor
