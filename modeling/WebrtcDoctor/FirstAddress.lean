import WebrtcDoctor.Verdict

/-!
# The first address

A name may resolve to many addresses. The DNS check lists them, and the checks of a target take the
first : each gives the same on a context with the first address alone (`ProbeContext.firstOnly`). So
two resolvers that give the same first address give reports that agree in all but the first result,
and in the verdict (`first_address_decides`). No address after the first is ever probed. The
signaling check is another matter : its connect resolves the host of the URL by itself.
-/

open NetAddr

namespace WebrtcDoctor

namespace ProbeContext

/-- The context without the addresses after the first. -/
def firstOnly (ctx : ProbeContext) : ProbeContext :=
  { ctx with resolvedIps := ctx.resolvedIps.head?.toList }

variable (ctx : ProbeContext)

@[simp] theorem firstOnly_head? : ctx.firstOnly.resolvedIps.head? = ctx.resolvedIps.head? := by
  rw [firstOnly]
  cases ctx.resolvedIps <;> rfl

@[simp] theorem firstOnly_defaultTimeout :
    ctx.firstOnly.defaultTimeout = ctx.defaultTimeout := rfl

@[simp] theorem firstOnly_host : ctx.firstOnly.host = ctx.host := rfl

@[simp] theorem firstOnly_port : ctx.firstOnly.port = ctx.port := rfl

@[simp] theorem firstOnly_turnUser : ctx.firstOnly.turnUser = ctx.turnUser := rfl

@[simp] theorem firstOnly_turnPass : ctx.firstOnly.turnPass = ctx.turnPass := rfl

@[simp] theorem firstOnly_timeoutOr (fallback : ℕ) :
    ctx.firstOnly.timeoutOr fallback = ctx.timeoutOr fallback := rfl

end ProbeContext

/-! ## Checks that take the first address -/

/-- The run does not see the addresses after the first. -/
def TakesFirst (run : ProbeContext → ProbeContext × CheckResult) : Prop :=
  ∀ ctx, run ctx.firstOnly = ((run ctx).1.firstOnly, (run ctx).2)

/-- The binding check takes the first address. -/
theorem StunBindingCheck.takesFirst (env : StunEnv) : TakesFirst (run env) := by
  intro ctx
  unfold run
  rw [ctx.firstOnly_port, ctx.firstOnly_head?, ctx.firstOnly_timeoutOr]
  split
  · rfl
  split
  · rfl
  dsimp only
  split
  · rfl
  split
  · rfl
  split
  · rfl
  · rfl
  split
  · rfl
  · rfl

namespace TurnAllocateCheck

/-- Round 2 over UDP does not look at the addresses. -/
theorem runAuthed_firstOnly (env : TurnAllocEnv) (ctx : ProbeContext) (server : SocketAddr)
    (started recvTimeout : ℕ) (sock : UdpSocket) (realm : String) (nonce : List UInt8)
    (user pass : String) :
    (runAuthed env ctx.firstOnly server started recvTimeout sock realm nonce user pass).1 =
      ((runAuthed env ctx server started recvTimeout sock realm nonce user pass).1.1.firstOnly,
        (runAuthed env ctx server started recvTimeout sock realm nonce user pass).1.2) := by
  unfold runAuthed
  dsimp only
  split
  · rfl
  split <;> rfl

/-- Neither round over UDP looks at the addresses. -/
theorem runOn_firstOnly (env : TurnAllocEnv) (ctx : ProbeContext) (server : SocketAddr)
    (sock : UdpSocket) : (runOn env ctx.firstOnly server sock).1 =
      ((runOn env ctx server sock).1.1.firstOnly, (runOn env ctx server sock).1.2) := by
  unfold runOn
  rw [ctx.firstOnly_timeoutOr, ctx.firstOnly_turnUser, ctx.firstOnly_turnPass]
  dsimp only
  split
  · rfl
  split
  · rfl
  · rfl
  · split
    · exact runAuthed_firstOnly env ctx _ _ _ _ _ _ _ _
    · rfl

/-- The allocation over UDP takes the first address. -/
theorem takesFirst (env : TurnAllocEnv) : TakesFirst (run env) := by
  intro ctx
  unfold run
  rw [ctx.firstOnly_port, ctx.firstOnly_head?]
  split
  · rfl
  split
  · rfl
  split
  · rfl
  · exact runOn_firstOnly env ctx _ _

end TurnAllocateCheck

namespace TurnsAllocateCheck

/-- Round 2 over TLS does not look at the addresses. -/
theorem runAuthed_firstOnly (env : TurnsAllocEnv) (ctx : ProbeContext) (server : SocketAddr)
    (host : String) (tlsMs recvTimeout : ℕ) (tls : TlsStream) (realm : String)
    (nonce : List UInt8) (user pass : String) :
    (runAuthed env ctx.firstOnly server host tlsMs recvTimeout tls realm nonce user pass).1 =
      ((runAuthed env ctx server host tlsMs recvTimeout tls realm nonce user pass).1.1.firstOnly,
        (runAuthed env ctx server host tlsMs recvTimeout tls realm nonce user pass).1.2) := by
  unfold runAuthed
  dsimp only
  split
  · rfl
  split <;> rfl

/-- Neither round over TLS looks at the addresses. -/
theorem runOn_firstOnly (env : TurnsAllocEnv) (ctx : ProbeContext) (server : SocketAddr)
    (host : String) (tlsMs recvTimeout : ℕ) (tls : TlsStream) :
    (runOn env ctx.firstOnly server host tlsMs recvTimeout tls).1 =
      ((runOn env ctx server host tlsMs recvTimeout tls).1.1.firstOnly,
        (runOn env ctx server host tlsMs recvTimeout tls).1.2) := by
  unfold runOn
  rw [ctx.firstOnly_turnUser, ctx.firstOnly_turnPass]
  dsimp only
  split
  · rfl
  split
  · rfl
  · rfl
  · split
    · exact runAuthed_firstOnly env ctx _ _ _ _ _ _ _ _ _
    · rfl

/-- The allocation over TLS takes the first address. -/
theorem takesFirst (env : TurnsAllocEnv) : TakesFirst (run env) := by
  intro ctx
  have htimeout : recvTimeout ctx.firstOnly = recvTimeout ctx := rfl
  unfold run
  rw [ctx.firstOnly_port, ctx.firstOnly_head?, ctx.firstOnly_host, htimeout]
  split
  · rfl
  split
  · rfl
  split
  · rfl
  dsimp only
  split
  · rfl
  split
  · rfl
  · rfl
  split
  · rfl
  · rfl
  · exact runOn_firstOnly env ctx _ _ _ _ _

end TurnsAllocateCheck

/-- The echo check goes by the session alone. -/
theorem TurnEchoCheck.takesFirst (env : TurnEchoEnv) : TakesFirst (run env) := by
  intro ctx
  have hsession : ctx.firstOnly.turnSession = ctx.turnSession := rfl
  have hscratch : ctx.firstOnly.scratch = ctx.scratch := rfl
  unfold run
  rw [hsession, hscratch]
  split
  · rfl
  split
  · rfl
  · rfl

/-- The gathering goes by what the checks before it left. -/
theorem IceGatherCheck.takesFirst (env : IceGatherEnv) : TakesFirst (run env) := by
  intro ctx
  unfold run
  split
  · rfl
  · rfl

/-- The remote check takes the first address. -/
theorem DtlsRemoteCheck.takesFirst (env : DtlsEnv) : TakesFirst (run env) := by
  intro ctx
  unfold run
  rw [ctx.firstOnly_port, ctx.firstOnly_head?, ctx.firstOnly_timeoutOr]
  split
  · rfl
  split
  · rfl
  dsimp only
  split <;> rfl

/-! ## The resolver -/

/-- The first address a resolver gives, if it gives one. -/
def DnsEnv.first (env : DnsEnv) (query : String) : Option IpAddr :=
  match env.lookupHost query with
  | .error _ => none
  | .ok addrs => addrs.head?.map SocketAddr.ip

namespace DnsCheck

/-- The first address stays the first without the repetitions. -/
theorem head?_dedupIps (addrs : List SocketAddr) :
    (dedupIps addrs).head? = addrs.head?.map SocketAddr.ip := by
  induction addrs using List.reverseRecOn with
  | nil => rfl
  | append_singleton addrs sa ih =>
    rw [dedupIps_snoc]
    cases addrs with
    | nil => rfl
    | cons sb addrs =>
      obtain ⟨more, hmore⟩ := List.head?_eq_some_iff.1 ih
      split <;> rw [hmore] <;> rfl

/-- The first address for the host of a context. -/
def firstOf (env : DnsEnv) (ctx : ProbeContext) : Option IpAddr :=
  ctx.host.bind fun host => env.first s!"{host}:{ctx.port.getD 0}"

/-- How a run ends, and the address it leaves as the first, are those of `firstOf`. -/
theorem run_firstOf (env : DnsEnv) (ctx : ProbeContext) :
    ((run env ctx).2.status = match ctx.host, firstOf env ctx with
      | none, _ => .skip
      | some _, none => .fail
      | some _, some _ => .pass) ∧
    (run env ctx).1.firstOnly = match firstOf env ctx with
      | none => ctx.firstOnly
      | some ip => { ctx with resolvedIps := [ip] } := by
  unfold run firstOf
  split
  · next hhost =>
    rw [hhost]
    exact ⟨rfl, rfl⟩
  next host hhost =>
  rw [hhost]
  dsimp only [Option.bind_some, DnsEnv.first]
  generalize env.lookupHost s!"{host}:{ctx.port.getD 0}" = answer
  cases answer with
  | error e => exact ⟨rfl, rfl⟩
  | ok addrs =>
    dsimp only
    rw [← head?_dedupIps]
    cases dedupIps addrs with
    | nil => exact ⟨rfl, rfl⟩
    | cons ip more => exact ⟨rfl, rfl⟩

/-- Resolvers with the same first addresses. -/
theorem run_congr {env env' : DnsEnv} (h : ∀ query, env'.first query = env.first query)
    (ctx : ProbeContext) : (run env' ctx).2.status = (run env ctx).2.status ∧
      (run env' ctx).1.firstOnly = (run env ctx).1.firstOnly := by
  have hfirst : firstOf env' ctx = firstOf env ctx := by rw [firstOf, firstOf, funext h]
  obtain ⟨hstatus, hctx⟩ := run_firstOf env ctx
  obtain ⟨hstatus', hctx'⟩ := run_firstOf env' ctx
  rw [hstatus, hstatus', hctx, hctx', hfirst]
  exact ⟨rfl, rfl⟩

end DnsCheck

/-! ## Pipelines -/

/-- What a subcommand makes of its target, before the outside world. -/
inductive Job.Builder : (PipelineEnv → Job) → Prop
  | stun (t : Target) : Builder fun env => stunJob env t
  | turn (t : Target) (user pass : Option String) (echoCount : UInt32) :
      Builder fun env => turnJob env t user pass echoCount
  | turns (t : Target) (user pass : Option String) : Builder fun env => turnsJob env t user pass
  | dtlsRemote (t : Target) : Builder fun env => dtlsRemoteJob env t
  | iceStun (t : Target) : Builder fun env => iceStunJob env t
  | iceTurn (t : Target) (user pass : Option String) :
      Builder fun env => iceTurnJob env t user pass

/-- The relation of two contexts with the same first address. -/
def SameFirst (ctx ctx' : ProbeContext) : Prop := ctx'.firstOnly = ctx.firstOnly

/-- A pipeline is the DNS check and checks that take the first address. -/
theorem Job.Builder.checks {build : PipelineEnv → Job} (h : Builder build) (env : PipelineEnv)
    (dns : DnsEnv) : (build { env with dns := dns }).ctx = (build env).ctx ∧
      ∃ checks, (build env).checks = DnsCheck.check env.dns :: checks ∧
        (build { env with dns := dns }).checks = DnsCheck.check dns :: checks ∧
        List.Forall₂ (Pipeline.Alike SameFirst) checks checks := by
  have hstun : Pipeline.Alike SameFirst (StunBindingCheck.check env.stun)
      (StunBindingCheck.check env.stun) := .of_forget (StunBindingCheck.takesFirst env.stun)
  have hturn : Pipeline.Alike SameFirst (TurnAllocateCheck.check env.turnAlloc)
      (TurnAllocateCheck.check env.turnAlloc) :=
    .of_forget (TurnAllocateCheck.takesFirst env.turnAlloc)
  have hice : Pipeline.Alike SameFirst (IceGatherCheck.check env.iceGather)
      (IceGatherCheck.check env.iceGather) := .of_forget (IceGatherCheck.takesFirst env.iceGather)
  cases h with
  | stun t => exact ⟨rfl, _, rfl, rfl, .cons hstun .nil⟩
  | turn t user pass echoCount =>
    exact ⟨rfl, _, rfl, rfl, .cons hstun (.cons hturn
      (.cons (.of_forget (TurnEchoCheck.takesFirst env.turnEcho)) .nil))⟩
  | turns t user pass =>
    exact ⟨rfl, _, rfl, rfl,
      .cons (.of_forget (TurnsAllocateCheck.takesFirst env.turnsAlloc)) .nil⟩
  | dtlsRemote t =>
    exact ⟨rfl, _, rfl, rfl,
      .cons (.of_forget (DtlsRemoteCheck.takesFirst env.dtls)) .nil⟩
  | iceStun t => exact ⟨rfl, _, rfl, rfl, .cons hstun (.cons hice .nil)⟩
  | iceTurn t user pass =>
    exact ⟨rfl, _, rfl, rfl, .cons hstun (.cons hturn (.cons hice .nil))⟩

/-- The verdict goes by the statuses. -/
theorem verdictLoop_cons_congr {r r' : CheckResult} (h : r'.status = r.status)
    (rs : List CheckResult) (anyWarn : Bool) :
    verdictLoop (r' :: rs) anyWarn = verdictLoop (r :: rs) anyWarn := by
  rw [verdictLoop, verdictLoop, h]

/-- Two resolvers that give the same first address to every query, whatever addresses they give
after it and however long they take. A subcommand with a target reports the same with both, but for
the list in the first result and the clock's total. -/
theorem first_address_decides {build : PipelineEnv → Job} (hbuild : Job.Builder build)
    (env : PipelineEnv) {dns : DnsEnv} (hfirst : ∀ query, dns.first query = env.dns.first query) :
    let report := (build env).report
    let report' := (build { env with dns := dns }).report
    report'.results.tail = report.results.tail ∧
      report'.results.map CheckResult.status = report.results.map CheckResult.status ∧
      report'.verdict = report.verdict := by
  obtain ⟨hctx, checks, hchecks, hchecks', halike⟩ := hbuild.checks env dns
  obtain ⟨hstatus, hfirstOnly⟩ := DnsCheck.run_congr hfirst (build env).ctx
  intro report report'
  obtain ⟨rs, hrs, hrs'⟩ :
      ∃ rs, report.results = (DnsCheck.run env.dns (build env).ctx).2 :: rs ∧
        report'.results = (DnsCheck.run dns (build env).ctx).2 :: rs := by
    have hrun : SameFirst ((DnsCheck.check env.dns).run (build env).ctx).1
        ((DnsCheck.check dns).run (build env).ctx).1 := hfirstOnly
    have hends : ((DnsCheck.check dns).run (build env).ctx).2.status =
        ((DnsCheck.check env.dns).run (build env).ctx).2.status := hstatus
    dsimp only [report, report', Job.report]
    rw [hchecks, hchecks', hctx]
    refine Pipeline.Alike.run_cons halike ?_ ?_ ?_ hrun hends _ _ <;> rfl
  rw [Report.verdict, Report.verdict, hrs, hrs']
  refine ⟨rfl, ?_, ?_⟩
  · rw [List.map_cons, List.map_cons]
    exact congrArg (· :: rs.map CheckResult.status) hstatus
  · exact verdictLoop_cons_congr hstatus rs false

namespace Sample

/-- A resolver that gives an IPv6 address too. -/
def dualStack : DnsEnv := ⟨fun _ => .ok [server, ⟨.v6 (Vector.replicate 16 1), 3478⟩], 0⟩

end Sample

open Sample

/-- The echo run on a host with an IPv6 address too. -/
theorem first_address_decides_echo :
    (turnJob { env echoReplies with dns := dualStack } ⟨"192.0.2.1", 3478⟩ (some "user")
      (some "pass") 2).report.results.tail = echoJob.report.results.tail := by
  have hfirst : ∀ query, dualStack.first query = (env echoReplies).dns.first query := fun _ => rfl
  exact (first_address_decides (.turn ⟨"192.0.2.1", 3478⟩ (some "user") (some "pass") 2)
    (env echoReplies) hfirst).1

end WebrtcDoctor
