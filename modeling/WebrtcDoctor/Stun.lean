import WebrtcDoctor.Context
import WebrtcDoctor.Pipeline

/-!
# The STUN binding check

`checks/stun.rs`. `parseBindingResponse` takes the first mapped-address attribute of
either form, and a pass leaves its text under `srflx` (`StunBindingCheck.run_leaves`).
-/

open BigEndian Checked NetAddr

namespace WebrtcDoctor

/-- The transaction ID of the request, and what binding a socket gives. -/
structure StunEnv where
  txid : TxId
  bind : SocketAddr → Except String UdpSocket

/-- Why a Binding response is rejected. -/
inductive BindingError where
  | codec (e : CodecError)
  | wrongType (msgType : UInt16)
  | noMappedAddress
deriving DecidableEq, Repr

instance : ToString BindingError where
  toString
    | .codec e => toString e
    | .wrongType msgType =>
      "message type 0x" ++ hexPad 4 msgType.toNat ++ " is not a binding success"
    | .noMappedAddress => "no mapped-address attribute in response"

namespace StunBindingCheck

/-- The id of the check. -/
def id : String := "stun.binding"

/-- Its name in a report. -/
def name : String := "STUN binding"

/-- The message type of a Binding request. -/
def bindingRequest : UInt16 := 0x0001

/-- The message type of a Binding success response. -/
def bindingSuccess : UInt16 := 0x0101

/-- A Binding request without attributes. -/
def buildBindingRequest (txid : TxId) : TxId × List UInt8 :=
  (txid, ofU16 bindingRequest ++ ofU16 0 ++ ofU32 magicCookie ++ txid.toList)

/-- The loop of `parseBindingResponse`. -/
def firstMappedAddress (txid : TxId) : List Attr → Checked BindingError SocketAddr
  | [] => .err .noMappedAddress
  | a :: attrs =>
    if a.attrType = attr.xorMappedAddress then (parseXorAddress a.value txid).mapErr .codec
    else if a.attrType = attr.mappedAddress then (parseMappedAddress a.value).mapErr .codec
    else firstMappedAddress txid attrs

/-- The mapped address of a Binding success response. -/
def parseBindingResponse (buf : List UInt8) (txid : TxId) : Checked BindingError SocketAddr := do
  let header ← (parseHeader buf txid).mapErr .codec
  if header.msgType ≠ bindingSuccess then .err (.wrongType header.msgType)
  else do
    let attrs ← (walkAttrs buf header.attrsLen).mapErr .codec
    firstMappedAddress txid attrs

theorem firstMappedAddress_safe (txid : TxId) : ∀ attrs, (firstMappedAddress txid attrs).Safe
  | [] => safe_err _
  | _ :: attrs =>
    safe_ite (fun _ => safe_mapErr (parseXorAddress_safe _ _)) fun _ =>
      safe_ite (fun _ => safe_mapErr (parseMappedAddress_safe _)) fun _ =>
        firstMappedAddress_safe txid attrs

theorem parseBindingResponse_safe (buf : List UInt8) (txid : TxId) :
    (parseBindingResponse buf txid).Safe := by
  refine safe_bind (safe_mapErr (parseHeader_safe _ _)) fun h hh => ?_
  refine safe_ite (fun _ => safe_err _) fun _ => ?_
  exact safe_bind (safe_mapErr (walkAttrs_safe (mapErr_eq_ok.1 hh))) fun attrs _ =>
    firstMappedAddress_safe txid attrs

/-- One request and one response. A pass leaves the mapped address for later checks. -/
def run (env : StunEnv) (ctx : ProbeContext) : ProbeContext × CheckResult :=
  match ctx.port with
  | none => (ctx, .skip id name "no port supplied")
  | some port =>
  match ctx.resolvedIps.head? with
  | none => (ctx, .skip id name "no resolved IP")
  | some ip =>
  let server : SocketAddr := ⟨ip, port⟩
  let (txid, request) := buildBindingRequest env.txid
  match env.bind (localBind ip) with
  | .error e => (ctx, .fail id name 0 s!"local UDP bind failed: {e}")
  | .ok sock =>
  let started := sock.now
  match sock.sendTo request server with
  | .error e => (ctx, .fail id name 0 s!"send to {server} failed: {e}")
  | .ok sock =>
  let recvTimeout := ctx.timeoutOr (Duration.fromSecs 5)
  match sock.recvFrom recvTimeout with
  | (.failed e, sock) =>
    (ctx, .fail id name (Duration.asMillis (sock.now - started)) s!"recv failed: {e}")
  | (.elapsed, sock) =>
    (ctx, .fail id name (Duration.asMillis (sock.now - started))
      s!"no response from {server} in {Duration.debug recvTimeout}")
  | (.received d, sock) =>
  let latencyMs := Duration.asMillis (sock.now - started)
  match (parseBindingResponse d.bytes txid).result (parseBindingResponse_safe _ _) with
  | .ok srflx =>
    (ctx.insertScratch "srflx" (toString srflx),
      (CheckResult.pass id name latencyMs s!"srflx {srflx} ({latencyMs} ms)").withDetail
        (.obj [("server", .str (toString server)), ("srflx", .str (toString srflx))]))
  | .error e => (ctx, .fail id name latencyMs s!"bad response: {e}")

/-- The check as the pipeline runs it. -/
def check (env : StunEnv) : Check ProbeContext := ⟨id, name, ["dns"], run env⟩

/-- The check sends its request and decodes `srflx` from the datagram it then receives. -/
def Decodes (env : StunEnv) (ctx : ProbeContext) (srflx : SocketAddr) : Prop :=
  ∃ port ip sock sent d sock', ctx.port = some port ∧ ctx.resolvedIps.head? = some ip ∧
    env.bind (localBind ip) = .ok sock ∧
    sock.sendTo (buildBindingRequest env.txid).2 ⟨ip, port⟩ = .ok sent ∧
    sent.recvFrom (ctx.timeoutOr (Duration.fromSecs 5)) = (.received d, sock') ∧
    parseBindingResponse d.bytes env.txid = .ok srflx

/-- A pass leaves the address it decoded under `srflx`. -/
theorem run_decodes (env : StunEnv) (ctx : ProbeContext) : Leaves ctx
    (fun ctx' => ∃ srflx, Decodes env ctx srflx ∧
      ctx' = ctx.insertScratch "srflx" (toString srflx)) (run env ctx) := by
  unfold run
  split
  · exact .of_ne_pass (by simp)
  rename_i port hport
  split
  · exact .of_ne_pass (by simp)
  rename_i ip hip
  dsimp only
  split
  · exact .of_ne_pass (by simp)
  rename_i sock hbind
  split
  · exact .of_ne_pass (by simp)
  rename_i sent hsend
  split
  · exact .of_ne_pass (by simp)
  · exact .of_ne_pass (by simp)
  rename_i d sock' hrecv
  split
  · rename_i srflx hparse
    exact .of_pass (by simp) ⟨srflx, ⟨port, ip, sock, sent, d, sock', hport, hip, hbind, hsend,
      hrecv, result_eq_ok.1 hparse⟩, rfl⟩
  · exact .of_ne_pass (by simp)

/-- A pass leaves an address under `srflx` and changes nothing else. -/
theorem run_leaves (env : StunEnv) (ctx : ProbeContext) : Leaves ctx
    (fun ctx' => ∃ srflx : SocketAddr, ctx' = ctx.insertScratch "srflx" (toString srflx))
    (run env ctx) :=
  (run_decodes env ctx).mono fun _ ⟨srflx, _, hctx⟩ => ⟨srflx, hctx⟩

theorem run_ne_skip {env : StunEnv} {ctx : ProbeContext} {port : UInt16} {ip : IpAddr}
    {more : List IpAddr} (hport : ctx.port = some port) (hip : ctx.resolvedIps = ip :: more) :
    (run env ctx).2.status ≠ .skip := by
  unfold run
  rw [hport, hip]
  dsimp only [List.head?_cons]
  split
  · simp
  split
  · simp
  split
  · simp
  · simp
  split <;> simp

end StunBindingCheck

end WebrtcDoctor
