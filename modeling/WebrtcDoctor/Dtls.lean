import WebrtcDoctor.Context
import WebrtcDoctor.Pipeline

/-!
# The DTLS checks

`checks/dtls.rs` : a handshake against ourselves and one against a remote peer. The
handshake is the library's. What it negotiates is a `Handshake`, and `outcome` is what the
checks make of it.
-/

open NetAddr

namespace WebrtcDoctor

/-- What the library reports of a finished handshake. -/
structure Handshake where
  handshakeMs : ℕ
  srtpProfile : String
  peerCertificates : List (List UInt8)

/-- The digest, and what the library makes of the two handshakes. -/
structure DtlsEnv where
  sha256 : List UInt8 → Vector UInt8 32
  /-- How the loopback handshake under its timeout ends, and when. -/
  loopback : ℕ → Recv Handshake × ℕ
  /-- How the handshake with a target under its timeout ends, and when. -/
  remote : SocketAddr → ℕ → Recv Handshake × ℕ

namespace DtlsCheck

/-- Two upper-case hexadecimal digits. -/
def hexUpper (b : UInt8) : String :=
  String.ofList [(Nat.digitChar (b.toNat / 16)).toUpper, (Nat.digitChar (b.toNat % 16)).toUpper]

/-- The SDP form of a certificate's digest, empty for no certificate. -/
def sha256Fingerprint (sha256 : List UInt8 → Vector UInt8 32) (certDer : List UInt8) : String :=
  if certDer.isEmpty then "" else ":".intercalate ((sha256 certDer).toList.map hexUpper)

/-- What a report tells of a handshake. -/
structure Outcome where
  handshakeMs : ℕ
  fingerprintSha256 : String
  srtpProfile : String
  peerCertLen : ℕ

/-- What `dial` makes of a handshake. -/
def outcome (sha256 : List UInt8 → Vector UInt8 32) (h : Handshake) : Outcome :=
  let peerCertDer := h.peerCertificates.headD []
  ⟨h.handshakeMs, sha256Fingerprint sha256 peerCertDer, h.srtpProfile, peerCertDer.length⟩

/-- The result of a handshake that was finished. -/
def finishPass (id name : String) (totalMs : ℕ) (outcome : Outcome) (transportLabel : String) :
    CheckResult :=
  let short := String.ofList (outcome.fingerprintSha256.toList.take 23)
  (CheckResult.pass id name totalMs
      (s!"handshake OK in {outcome.handshakeMs} ms ({transportLabel}); " ++
        s!"peer fp sha-256 {short}")).withDetail
    (.obj [("handshake_ms", .num outcome.handshakeMs),
      ("fingerprint_sha256", .str outcome.fingerprintSha256),
      ("srtp_profile", .str outcome.srtpProfile),
      ("peer_cert_der_bytes", .num outcome.peerCertLen), ("transport", .str transportLabel)])

end DtlsCheck

open DtlsCheck

namespace DtlsLoopbackCheck

/-- The id of the loopback check. -/
def id : String := "dtls.loopback"

/-- Its name in a report. -/
def name : String := "DTLS handshake (loopback)"

/-- One handshake with ourselves. -/
def run (env : DtlsEnv) (ctx : ProbeContext) : ProbeContext × CheckResult :=
  let budget := ctx.timeoutOr (Duration.fromSecs 5)
  let (result, elapsed) := env.loopback budget
  let totalMs := Duration.asMillis elapsed
  match result with
  | .received h => (ctx, finishPass id name totalMs (outcome env.sha256 h) "loopback")
  | .failed e => (ctx, .fail id name totalMs s!"DTLS handshake failed: {e}")
  | .elapsed =>
    (ctx, .fail id name totalMs s!"DTLS handshake timed out after {Duration.debug budget}")

/-- The check as the pipeline runs it. -/
def check (env : DtlsEnv) : Check ProbeContext := ⟨id, name, [], run env⟩

/-- The check leaves the context alone, and does not skip. -/
theorem run_leaves (env : DtlsEnv) (ctx : ProbeContext) :
    Leaves ctx (· = ctx) (run env ctx) ∧ (run env ctx).2.status ≠ .skip := by
  unfold run
  dsimp only
  split
  · exact ⟨.of_pass (by simp [finishPass]) rfl, by simp [finishPass]⟩
  · exact ⟨.of_ne_pass (by simp), by simp⟩
  · exact ⟨.of_ne_pass (by simp), by simp⟩

end DtlsLoopbackCheck

namespace DtlsRemoteCheck

/-- The id of the remote check. -/
def id : String := "dtls.remote"

/-- Its name in a report. -/
def name : String := "DTLS handshake (remote)"

/-- One handshake with the first address. -/
def run (env : DtlsEnv) (ctx : ProbeContext) : ProbeContext × CheckResult :=
  match ctx.port with
  | none => (ctx, .skip id name "no port supplied")
  | some port =>
  match ctx.resolvedIps.head? with
  | none => (ctx, .skip id name "no resolved IP")
  | some ip =>
  let target : SocketAddr := ⟨ip, port⟩
  let budget := ctx.timeoutOr (Duration.fromSecs 5)
  let (result, elapsed) := env.remote target budget
  let totalMs := Duration.asMillis elapsed
  match result with
  | .received h => (ctx, finishPass id name totalMs (outcome env.sha256 h) s!"via {target}")
  | .failed e => (ctx, .fail id name totalMs s!"DTLS handshake to {target} failed: {e}")
  | .elapsed =>
    (ctx, .fail id name totalMs
      s!"DTLS handshake to {target} timed out after {Duration.debug budget}")

/-- The check as the pipeline runs it. -/
def check (env : DtlsEnv) : Check ProbeContext := ⟨id, name, ["dns"], run env⟩

/-- The check leaves the context alone. -/
theorem run_leaves (env : DtlsEnv) (ctx : ProbeContext) :
    Leaves ctx (· = ctx) (run env ctx) := by
  unfold run
  split
  · exact .of_ne_pass (by simp)
  split
  · exact .of_ne_pass (by simp)
  dsimp only
  split
  · exact .of_pass (by simp [finishPass]) rfl
  · exact .of_ne_pass (by simp)
  · exact .of_ne_pass (by simp)

/-- With a port and an address the check does not skip. -/
theorem run_ne_skip {env : DtlsEnv} {ctx : ProbeContext} {port : UInt16} {ip : IpAddr}
    {more : List IpAddr} (hport : ctx.port = some port) (hip : ctx.resolvedIps = ip :: more) :
    (run env ctx).2.status ≠ .skip := by
  unfold run
  rw [hport, hip]
  dsimp only [List.head?_cons]
  split <;> simp [finishPass]

end DtlsRemoteCheck

end WebrtcDoctor
