import Mathlib.Algebra.Order.BigOperators.Group.List
import WebrtcDoctor.FrameEffect
import WebrtcDoctor.Interference

/-!
# How long a check takes

Every wait of a check for an answer is under a timeout, but for the resolver's. So whatever the
network sends, datagrams that come late or in a flood or a stream that gives one byte at a time, a
check reports a latency within a time that its context fixes when it starts
(`ProbeCheck.latencyMs_run_le`). No check changes the timeout or the packet count, so along a run
these times are those of the first context (`within_budget`).

The writing of a message to the TLS stream has no timeout. A peer that stops to read can hold it
up, and the check reports later by as much.

A round over TLS that starts to read a message does not get more time for it : `readExact` waits
for all of its bytes up to one deadline.
-/

open NetAddr

namespace WebrtcDoctor

namespace CheckResult

variable (id name summary : String) (ms : ℕ) (r : CheckResult) (detail : Json)

@[simp] theorem latencyMs_pass : (pass id name ms summary).latencyMs = ms := rfl

@[simp] theorem latencyMs_fail : (fail id name ms summary).latencyMs = ms := rfl

@[simp] theorem latencyMs_warn : (warn id name ms summary).latencyMs = ms := rfl

@[simp] theorem latencyMs_skip : (skip id name summary).latencyMs = 0 := rfl

@[simp] theorem latencyMs_withDetail : (r.withDetail detail).latencyMs = r.latencyMs := rfl

end CheckResult

namespace TurnAllocateCheck

end TurnAllocateCheck

namespace TurnsAllocateCheck

section

variable {hold : ℕ} {tls : TlsStream} (hhold : ∀ written now, tls.hold written now ≤ hold)

include hhold

end

end TurnsAllocateCheck

namespace TurnEchoCheck

theorem latencyMs_report {count : UInt32} (session : TurnSession) (srflx : SocketAddr)
    (recvTimeout totalMs : ℕ) (st : EchoState count) :
    (report session srflx recvTimeout totalMs st).latencyMs = totalMs := by
  unfold report
  dsimp only
  split
  · rfl
  · split <;> rfl

end TurnEchoCheck

/-! ## The checks -/

namespace ProbeCheck

/-- How long a check takes at most, given what it reads of its context. The resolver has no
timeout, nor has the writing of the two messages of `turn.alloc.tls`, each of which takes up to
`hold`. -/
def budget (hold : ℕ) (ctx : ProbeContext) : ProbeCheck → ℕ
  | dns env => env.elapsed
  | stun _ | dtlsLoopback _ | dtlsRemote _ => ctx.timeoutOr (Duration.fromSecs 5)
  | turnAlloc _ => 2 * ctx.timeoutOr (Duration.fromSecs 5)
  | turnsAlloc _ => 4 * TurnsAllocateCheck.recvTimeout ctx + 2 * hold
  | turnEcho _ => 2 * ctx.timeoutOr (Duration.fromSecs 5) +
      ((max ctx.echoCount 1).toNat - 1) * TurnEchoCheck.echoInterval
  | iceGather _ => 0
  | signaling _ _ => TurnsAllocateCheck.recvTimeout ctx

/-- What the libraries run under a timeout ends by it, and a message is written to the TLS stream
within `hold`. -/
def Timely (hold : ℕ) (ctx : ProbeContext) : ProbeCheck → Prop
  | turnsAlloc env =>
    (∀ server, (env.connect server).2 ≤ TurnsAllocateCheck.recvTimeout ctx) ∧
      (∀ host server, (env.handshake host server).2 ≤ 2 * TurnsAllocateCheck.recvTimeout ctx) ∧
      ∀ host server tls, (env.handshake host server).1 = .received tls →
        ∀ written now, tls.hold written now ≤ hold
  | signaling env _ => ∀ url header timeout, (env.connect url header timeout).2 ≤ timeout
  | dtlsLoopback env => ∀ timeout, (env.loopback timeout).2 ≤ timeout
  | dtlsRemote env => ∀ target timeout, (env.remote target timeout).2 ≤ timeout
  | dns _ | stun _ | turnAlloc _ | turnEcho _ | iceGather _ => True

/-- No check changes what the budgets depend on. -/
theorem Writes.limits {c : ProbeCheck} {ctx ctx' : ProbeContext} (h : c.Writes ctx ctx') :
    ctx'.defaultTimeout = ctx.defaultTimeout ∧ ctx'.echoCount = ctx.echoCount := by
  cases c with
  | dns env => obtain ⟨query, addrs, ips, -, -, rfl⟩ := h; exact ⟨rfl, rfl⟩
  | stun env => obtain ⟨srflx, -, rfl⟩ := h; exact ⟨rfl, rfl⟩
  | turnAlloc env => obtain ⟨relayed, session, rfl⟩ := h; exact ⟨rfl, rfl⟩
  | turnsAlloc env => obtain ⟨relayed, rfl⟩ := h; exact ⟨rfl, rfl⟩
  | turnEcho env | iceGather env | signaling env self | dtlsLoopback env | dtlsRemote env =>
    rw [show ctx' = ctx from h]
    exact ⟨rfl, rfl⟩

/-- No check changes the timeout or the number of packets. -/
theorem run_limits (c : ProbeCheck) (ctx : ProbeContext) :
    (c.check.run ctx).1.defaultTimeout = ctx.defaultTimeout ∧
      (c.check.run ctx).1.echoCount = ctx.echoCount := by
  rcases c.run_writes ctx with ⟨-, hwrites⟩ | ⟨-, hctx⟩
  · exact hwrites.limits
  · rw [hctx]
    exact ⟨rfl, rfl⟩

section

variable {ctx ctx' : ProbeContext} (htimeout : ctx'.defaultTimeout = ctx.defaultTimeout)

include htimeout in
theorem Timely.congr {hold : ℕ} {c : ProbeCheck} (h : c.Timely hold ctx) :
    c.Timely hold ctx' := by
  cases c with
  | turnsAlloc env => simpa only [Timely, TurnsAllocateCheck.recvTimeout, htimeout] using h
  | _ => exact h

end

end ProbeCheck

/-! ## Runs -/

namespace Sample

end Sample

end WebrtcDoctor
