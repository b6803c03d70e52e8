import WebrtcDoctor.CheckResult
import WebrtcDoctor.Sockets
import WebrtcDoctor.TurnCodec

/-!
# The context of a pipeline run

`ProbeContext` and `TurnSession` of `check.rs`, the state the checks of a run pass on, and
the text of a `Duration`. A `Duration` is a number of nanoseconds.
-/

open NetAddr

namespace WebrtcDoctor

/-! ## Durations -/

/-- A duration is a number of nanoseconds. -/
def Duration.fromSecs (n : ℕ) : ℕ := n * 1000000000

/-- `Duration::from_millis`. -/
def Duration.fromMillis (n : ℕ) : ℕ := n * 1000000

/-- `as_millis`. -/
def Duration.asMillis (d : ℕ) : ℕ := d / 1000000

/-- The digits of `frac` from the place of `divisor` down, without trailing zeros. -/
def Duration.fracDigits : ℕ → ℕ → ℕ → List Char
  | 0, _, _ => []
  | places + 1, frac, divisor =>
    if frac = 0 then []
    else Nat.digitChar (frac / divisor) :: fracDigits places (frac % divisor) (divisor / 10)

/-- A number with the decimals of `frac`, in units of `divisor` times ten. -/
def Duration.fmtDecimal (int frac divisor : ℕ) (suffix : String) : String :=
  match fracDigits 9 frac divisor with
  | [] => toString int ++ suffix
  | ds => toString int ++ "." ++ String.ofList ds ++ suffix

/-- The `Debug` text of a duration. -/
def Duration.debug (d : ℕ) : String :=
  let secs := d / 1000000000
  let nanos := d % 1000000000
  if 0 < secs then fmtDecimal secs nanos 100000000 "s"
  else if 1000000 ≤ nanos then fmtDecimal (nanos / 1000000) (nanos % 1000000) 100000 "ms"
  else if 1000 ≤ nanos then fmtDecimal (nanos / 1000) (nanos % 1000) 100 "µs"
  else fmtDecimal nanos 0 1 "ns"

example : Duration.debug (Duration.fromMillis 1500) = "1.5s" := by decide

/-! ## The context -/

/-- What a later check needs to use the allocation again. -/
structure TurnSession where
  socket : UdpSocket
  server : SocketAddr
  relayed : SocketAddr
  realm : String
  nonce : List UInt8
  key : Key
  username : String

/-- The state of a pipeline run. -/
structure ProbeContext where
  defaultTimeout : ℕ
  host : Option String
  port : Option UInt16
  resolvedIps : List IpAddr
  turnUser : Option String
  turnPass : Option String
  echoCount : UInt32
  turnSession : Option TurnSession
  scratch : String → Option String

namespace ProbeContext

/-- The context of a new run. -/
def new : ProbeContext where
  defaultTimeout := Duration.fromSecs 5
  host := none
  port := none
  resolvedIps := []
  turnUser := none
  turnPass := none
  echoCount := 10
  turnSession := none
  scratch := fun _ => none

/-- `scratch.insert`. -/
def insertScratch (ctx : ProbeContext) (key value : String) : ProbeContext :=
  { ctx with scratch := Function.update ctx.scratch key (some value) }

/-- `default_timeout`, or `fallback` where it is zero. -/
def timeoutOr (ctx : ProbeContext) (fallback : ℕ) : ℕ :=
  if ctx.defaultTimeout = 0 then fallback else ctx.defaultTimeout

@[simp] theorem insertScratch_scratch_self (ctx : ProbeContext) (key value : String) :
    (ctx.insertScratch key value).scratch key = some value := by
  simp [insertScratch]

/-- An entry under one key leaves the others. -/
theorem insertScratch_scratch_of_ne (ctx : ProbeContext) {key key' : String} (value : String)
    (h : key' ≠ key) : (ctx.insertScratch key value).scratch key' = ctx.scratch key' := by
  simp [insertScratch, h]

@[simp] theorem insertScratch_turnSession (ctx : ProbeContext) (key value : String) :
    (ctx.insertScratch key value).turnSession = ctx.turnSession := rfl

@[simp] theorem insertScratch_port (ctx : ProbeContext) (key value : String) :
    (ctx.insertScratch key value).port = ctx.port := rfl

@[simp] theorem insertScratch_resolvedIps (ctx : ProbeContext) (key value : String) :
    (ctx.insertScratch key value).resolvedIps = ctx.resolvedIps := rfl

@[simp] theorem insertScratch_host (ctx : ProbeContext) (key value : String) :
    (ctx.insertScratch key value).host = ctx.host := rfl

end ProbeContext

/-- What a check that was given `ctx` leaves : a context `onPass` allows if it passed, and
`ctx` itself if not. -/
def Leaves (ctx : ProbeContext) (onPass : ProbeContext → Prop) (p : ProbeContext × CheckResult) :
    Prop :=
  p.2.status = .pass ∧ onPass p.1 ∨ p.2.status ≠ .pass ∧ p.1 = ctx

namespace Leaves

variable {ctx ctx' : ProbeContext} {onPass : ProbeContext → Prop} {r : CheckResult}
  {p : ProbeContext × CheckResult}

theorem of_pass (hr : r.status = .pass) (h : onPass ctx') : Leaves ctx onPass (ctx', r) :=
  Or.inl ⟨hr, h⟩

theorem of_ne_pass (hr : r.status ≠ .pass) : Leaves ctx onPass (ctx, r) := Or.inr ⟨hr, rfl⟩

theorem mono {onPass' : ProbeContext → Prop} (h : Leaves ctx onPass p)
    (himp : ∀ ctx', onPass ctx' → onPass' ctx') : Leaves ctx onPass' p :=
  h.imp_left fun ⟨hp, hctx⟩ => ⟨hp, himp _ hctx⟩

/-- What a pass leaves. -/
theorem on_pass (h : Leaves ctx onPass p) (hp : p.2.status = .pass) : onPass p.1 := by
  rcases h with ⟨-, h⟩ | ⟨hne, -⟩
  · exact h
  · exact absurd hp hne

end Leaves

/-- The unspecified address of the family of `ip`, with port 0. -/
def localBind : IpAddr → SocketAddr
  | .v4 _ => ⟨.v4 0, 0⟩
  | .v6 _ => ⟨.v6 (Vector.replicate 16 0), 0⟩

end WebrtcDoctor
