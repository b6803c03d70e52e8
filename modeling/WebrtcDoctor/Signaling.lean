import WebrtcDoctor.Context
import WebrtcDoctor.Pipeline

/-!
# The signaling check

`checks/signaling.rs` : one WebSocket connect. The URL and header parsers and the connect
are the library's, so their outcomes come with the environment.
-/

namespace WebrtcDoctor

/-- The parsers of the library, and its connect. The library resolves the host of the URL and tries
its addresses itself, and `connect` is how all of that ends. -/
structure SignalingEnv where
  /-- The error, if any, of `into_client_request`. -/
  intoClientRequest : String → Option String
  /-- The error, if any, of `HeaderValue::from_str`. -/
  headerValue : String → Option String
  /-- How the connect under its timeout ends, with the HTTP status, and when. -/
  connect : String → Option String → ℕ → Recv UInt16 × ℕ

/-- What the check is given : the URL and the header. -/
structure SignalingCheck where
  url : String
  authHeader : Option String

namespace SignalingCheck

/-- The id of the check. -/
def id : String := "signaling"

/-- Its name in a report. -/
def name : String := "Signaling endpoint"

/-- One connect, with the header if there is one. A success reports the HTTP status. -/
def run (env : SignalingEnv) (self : SignalingCheck) (ctx : ProbeContext) :
    ProbeContext × CheckResult :=
  match env.intoClientRequest self.url with
  | some e => (ctx, .fail id name 0 s!"invalid signaling URL: {e}")
  | none =>
  match self.authHeader.bind env.headerValue with
  | some e => (ctx, .fail id name 0 s!"invalid Authorization header value: {e}")
  | none =>
  let connectTimeout :=
    if ctx.defaultTimeout = 0 then Duration.fromSecs 10
    else max ctx.defaultTimeout (Duration.fromSecs 10)
  let scheme := if "wss".toList.isPrefixOf self.url.toList then "wss" else "ws"
  let (outcome, elapsed) := env.connect self.url self.authHeader connectTimeout
  let latencyMs := Duration.asMillis elapsed
  match outcome with
  | .received status =>
    let authUsed := self.authHeader.isSome
    let authText := if authUsed then ", auth OK" else ""
    (ctx, (CheckResult.pass id name latencyMs
        s!"{scheme} connected, HTTP {status} ({latencyMs} ms{authText})").withDetail
      (.obj [("scheme", .str scheme), ("http_status", .num status.toNat),
        ("auth_header", .bool authUsed), ("url", .str self.url)]))
  | .failed e => (ctx, .fail id name latencyMs s!"WS handshake failed: {e}")
  | .elapsed =>
    (ctx, .fail id name latencyMs s!"connect timeout after {Duration.debug connectTimeout}")

/-- The check as the pipeline runs it. -/
def check (env : SignalingEnv) (self : SignalingCheck) : Check ProbeContext :=
  ⟨id, name, [], run env self⟩

/-- The check leaves the context alone, and does not skip. -/
theorem run_leaves (env : SignalingEnv) (self : SignalingCheck) (ctx : ProbeContext) :
    Leaves ctx (· = ctx) (run env self ctx) ∧ (run env self ctx).2.status ≠ .skip := by
  unfold run
  split
  · exact ⟨.of_ne_pass (by simp), by simp⟩
  split
  · exact ⟨.of_ne_pass (by simp), by simp⟩
  dsimp only
  split
  · exact ⟨.of_pass (by simp) rfl, by simp⟩
  · exact ⟨.of_ne_pass (by simp), by simp⟩
  · exact ⟨.of_ne_pass (by simp), by simp⟩

end SignalingCheck

end WebrtcDoctor
