import WebrtcDoctor.Dns
import WebrtcDoctor.Dtls
import WebrtcDoctor.IceGather
import WebrtcDoctor.Signaling
import WebrtcDoctor.Stun
import WebrtcDoctor.Target
import WebrtcDoctor.TurnEcho
import WebrtcDoctor.TurnsAlloc

/-!
# The command line

`main.rs` : what each subcommand builds and runs. A subcommand is first turned into a
`Plan`, one pipeline with its context or, for `full`, one for each target. Secrets may be
read from standard input, a line each, in the order in which the source reads them.

A failing target of `full` ends it with that target's error. The pipelines before it have
run by then, and their results are dropped.
-/

open Checked NetAddr

namespace WebrtcDoctor

/-- What the outside world gives the checks of one pipeline. -/
structure PipelineEnv where
  dns : DnsEnv
  stun : StunEnv
  turnAlloc : TurnAllocEnv
  turnEcho : TurnEchoEnv
  turnsAlloc : TurnsAllocEnv
  iceGather : IceGatherEnv
  signaling : SignalingEnv
  dtls : DtlsEnv
  /-- What the clock reads at the end of the run, which includes the DNS lookup. -/
  elapsed : ℕ

/-- What the outside world gives the program. -/
structure CliEnv where
  /-- What each read of a line from standard input gives. After the last comes the end. -/
  stdin : List (Except String String)
  /-- `host_from_url`. -/
  hostFromUrl : String → Option String
  /-- For the pipeline of a single-target subcommand. -/
  single : PipelineEnv
  fullSignaling : PipelineEnv
  fullStun : PipelineEnv
  fullTurn : PipelineEnv
  fullTurns : PipelineEnv
  fullElapsed : ℕ

/-- A flag's value and whether its `-stdin` variant is set. -/
structure Secret where
  flag : Option String
  fromStdin : Bool

/-- The subcommands with their arguments. -/
inductive Command where
  | stun (url : String)
  | turn (url : String) (user pass : Secret) (echoCount : UInt32)
  | turns (url : String) (user pass : Secret)
  | signaling (url : String) (auth : Secret)
  | dtls (target : Option String) (serve : Bool) (bind : String)
  | ice (url : String) (user pass : Secret)
  | full (stun turn turns signaling : Option String) (user pass auth : Secret)
      (echoCount : UInt32)

/-- A pipeline to run over a fresh context. -/
structure Job where
  env : PipelineEnv
  ctx : ProbeContext
  checks : List (Check ProbeContext)

/-- What the pipeline reports. -/
def Job.report (job : Job) : Report := (Pipeline.run job.checks job.ctx job.env.elapsed).2

/-- What a subcommand runs. -/
inductive Plan where
  | single (header : String) (job : Job)
  | full (header : String) (jobs : List Job)
  /-- The DTLS server mode, which has no report. -/
  | serve (bind : SocketAddr)

/-- The pipelines of a plan. -/
def Plan.jobs : Plan → List Job
  | .single _ job => [job]
  | .full _ jobs => jobs
  | .serve _ => []

/-! ## Secrets -/

/-- A computation that reads lines and may fail. -/
abbrev Reader (α : Type) := StateT (List (Except String String)) (Except String) α

/-- One line without its line ending. -/
def readLineFromStdin (label : String) : Reader String := fun stdin =>
  match stdin with
  | .error e :: _ => .error e
  | lines =>
    let line := match lines with
      | .ok line :: _ => line.toList
      | _ => []
    let line := (line.reverse.dropWhile fun c => c = '\n' ∨ c = '\r').reverse
    if line = [] then .error s!"got empty input for {label} on stdin"
    else .ok (String.ofList line, lines.tail)

/-- A secret from its flag, or from standard input. -/
def resolveSecret (secret : Secret) (label : String) : Reader (Option String) :=
  if secret.fromStdin then do return some (← readLineFromStdin label) else return secret.flag

/-! ## Pipelines -/

/-- A fresh context for a host and a port. -/
def targetCtx (t : Target) : ProbeContext :=
  { ProbeContext.new with host := some t.host, port := some t.port }

/-- A fresh context for a host alone. -/
def hostCtx (host : String) : ProbeContext := { ProbeContext.new with host := some host }

/-- The pipeline of `stun`. -/
def stunJob (env : PipelineEnv) (t : Target) : Job where
  env := env
  ctx := targetCtx t
  checks := [DnsCheck.check env.dns, StunBindingCheck.check env.stun]

/-- The pipeline of `turn`. -/
def turnJob (env : PipelineEnv) (t : Target) (user pass : Option String) (echoCount : UInt32) :
    Job where
  env := env
  ctx := { targetCtx t with turnUser := user, turnPass := pass, echoCount := echoCount }
  checks := [DnsCheck.check env.dns, StunBindingCheck.check env.stun,
    TurnAllocateCheck.check env.turnAlloc, TurnEchoCheck.check env.turnEcho]

/-- The pipeline of `turns`. -/
def turnsJob (env : PipelineEnv) (t : Target) (user pass : Option String) : Job where
  env := env
  ctx := { targetCtx t with turnUser := user, turnPass := pass }
  checks := [DnsCheck.check env.dns, TurnsAllocateCheck.check env.turnsAlloc]

/-- The pipeline of `signaling`. -/
def signalingJob (env : PipelineEnv) (host url : String) (auth : Option String) : Job where
  env := env
  ctx := hostCtx host
  checks := [DnsCheck.check env.dns, SignalingCheck.check env.signaling ⟨url, auth⟩]

/-- The pipeline of `dtls` with a target. -/
def dtlsRemoteJob (env : PipelineEnv) (t : Target) : Job where
  env := env
  ctx := targetCtx t
  checks := [DnsCheck.check env.dns, DtlsRemoteCheck.check env.dtls]

/-- The pipeline of `dtls` without a target. -/
def dtlsLoopbackJob (env : PipelineEnv) : Job where
  env := env
  ctx := ProbeContext.new
  checks := [DtlsLoopbackCheck.check env.dtls]

/-- The pipeline of `ice` with a STUN server. -/
def iceStunJob (env : PipelineEnv) (t : Target) : Job where
  env := env
  ctx := targetCtx t
  checks := [DnsCheck.check env.dns, StunBindingCheck.check env.stun,
    IceGatherCheck.check env.iceGather]

/-- The pipeline of `ice` with a TURN server. -/
def iceTurnJob (env : PipelineEnv) (t : Target) (user pass : Option String) : Job where
  env := env
  ctx := { targetCtx t with turnUser := user, turnPass := pass }
  checks := [DnsCheck.check env.dns, StunBindingCheck.check env.stun,
    TurnAllocateCheck.check env.turnAlloc, IceGatherCheck.check env.iceGather]

/-! ## Subcommands -/

/-- `str::starts_with`. -/
def startsWith (s pre : String) : Bool := pre.toList.isPrefixOf s.toList

/-- A `ws://` or `wss://` URL. -/
def schemeOk (url : String) : Bool := startsWith url "ws://" || startsWith url "wss://"

/-- The host of a signaling URL, or an error text for a bad scheme or host. -/
def signalingHost (env : CliEnv) (url badScheme badHost : String) : Except String String :=
  if !schemeOk url then .error badScheme
  else
    match env.hostFromUrl url with
    | none => .error badHost
    | some host => .ok host

/-- One block of `full`, gated on its URL. It gives the target's part of the header and its
sub-pipeline. -/
def fullBlock (url : Option String) (build : String → Except String (String × Job)) :
    Except String (List (String × Job)) :=
  match url with
  | none => .ok []
  | some url => (build url).map fun part => [part]

/-- The sub-pipelines of `full`, in order. -/
def planFull (env : CliEnv) (stun turn turns signaling : Option String)
    (user pass auth : Option String) (echoCount : UInt32) :
    Except String (List (String × Job)) := do
  let signalingPart ← fullBlock signaling fun url => do
    let host ← signalingHost env url s!"--signaling expects a ws:// or wss:// URL, got `{url}`"
      s!"could not parse host from --signaling `{url}`"
    return (s!"signaling {host}", signalingJob env.fullSignaling host url auth)
  let stunPart ← fullBlock stun fun url => do
    let t ← parseStunLike url ["stun"] 3478
    return (s!"stun {t.host}", stunJob env.fullStun t)
  let turnPart ← fullBlock turn fun url => do
    let t ← parseStunLike url ["turn"] 3478
    return (s!"turn {t.host}", turnJob env.fullTurn t user pass echoCount)
  let turnsPart ← fullBlock turns fun url => do
    let t ← parseStunLike url ["turns"] 5349
    return (s!"turns {t.host}", turnsJob env.fullTurns t user pass)
  return signalingPart ++ stunPart ++ turnPart ++ turnsPart

/-- The plan of `dtls` : a server, the loopback, or a target. -/
def planDtls (env : CliEnv) (target : Option String) (serve : Bool) (bind : String) :
    Except String Plan :=
  if serve then
    match SocketAddr.parse bind with
    | none => .error s!"--bind expects an addr:port, got `{bind}` (invalid socket address syntax)"
    | some addr => .ok (.serve addr)
  else
    match target with
    | none => .ok (.single "dtls loopback (in-process)" (dtlsLoopbackJob env.single))
    | some t =>
      match parseHostPort t with
      | .error e => .error s!"dtls target must be `host:port`, got `{t}` ({e})"
      | .ok (host, port) =>
        .ok (.single s!"probing {host}:{port} (dtls)" (dtlsRemoteJob env.single ⟨host, port⟩))

/-- What a subcommand will run. -/
def plan (env : CliEnv) : Command → Reader Plan
  | .stun url => do
    let t ← parseStunLike url ["stun"] 3478
    return .single s!"probing {t.host} (stun)" (stunJob env.single t)
  | .turn url user pass echoCount => do
    let t ← parseStunLike url ["turn"] 3478
    let user ← resolveSecret user "TURN username"
    let pass ← resolveSecret pass "TURN password"
    return .single s!"probing {t.host} (turn)" (turnJob env.single t user pass echoCount)
  | .turns url user pass => do
    let t ← parseStunLike url ["turns"] 5349
    let user ← resolveSecret user "TURN username"
    let pass ← resolveSecret pass "TURN password"
    return .single s!"probing {t.host} (turns)" (turnsJob env.single t user pass)
  | .signaling url auth => do
    let host ← signalingHost env url
      (s!"signaling expects a ws:// or wss:// URL, got `{url}` " ++
        "(example: `wss://signal.example.com/`)")
      s!"could not parse host from `{url}`"
    let auth ← resolveSecret auth "Authorization header"
    return .single s!"probing {host} (signaling)" (signalingJob env.single host url auth)
  | .dtls target serve bind => planDtls env target serve bind
  | .ice url user pass => do
    let t ← parseStunLike url ["stun", "turn"] 3478
    if startsWith url "turn:" then do
      let user ← resolveSecret user "TURN username"
      let pass ← resolveSecret pass "TURN password"
      return .single s!"probing {t.host} (ice)" (iceTurnJob env.single t user pass)
    else if user.flag.isSome || pass.flag.isSome || user.fromStdin || pass.fromStdin then
      throw ("credentials supplied but URL scheme is `stun:`; use a `turn:` URL " ++
        "to collect a relay candidate")
    else return .single s!"probing {t.host} (ice)" (iceStunJob env.single t)
  | .full stun turn turns signaling user pass auth echoCount =>
    if stun.isNone && turn.isNone && turns.isNone && signaling.isNone then
      throw "`full` needs at least one of --stun / --turn / --turns / --signaling"
    else do
      let user ← resolveSecret user "TURN username"
      let pass ← resolveSecret pass "TURN password"
      let auth ← resolveSecret auth "Authorization header"
      let parts ← planFull env stun turn turns signaling user pass auth echoCount
      let header := " + ".intercalate (parts.map Prod.fst)
      return .full s!"probing {header} (full)" (parts.map Prod.snd)

/-- How the program ends : with a report and its exit code, or serving until killed. -/
inductive Outcome where
  | report (header : String) (report : Report)
  | serve (bind : SocketAddr)

/-- The results of a plan. `full` concatenates those of its sub-pipelines. -/
def Plan.outcome (env : CliEnv) : Plan → Outcome
  | .single header job => .report header job.report
  | .full header jobs =>
    .report header ⟨jobs.flatMap fun job => job.report.results, Duration.asMillis env.fullElapsed⟩
  | .serve bind => .serve bind

/-- What the program does with a subcommand. -/
def main (env : CliEnv) (command : Command) : Except String Outcome :=
  (plan env command env.stdin).map fun p => p.1.outcome env

/-- The results of a report are those of the plan's pipelines, in order. -/
theorem Plan.results_of_outcome {env : CliEnv} {p : Plan} {header : String} {report : Report}
    (h : p.outcome env = .report header report) :
    report.results = p.jobs.flatMap fun job => job.report.results := by
  cases p with
  | single header' job =>
    obtain ⟨-, rfl⟩ := Outcome.report.inj h
    simp [Plan.jobs]
  | full header' jobs =>
    obtain ⟨-, rfl⟩ := Outcome.report.inj h
    rfl
  | serve bind => cases h

/-! ## What is planned -/

/-- The pipelines the subcommands build. -/
inductive Job.Built : Job → Prop
  | stun (env : PipelineEnv) (t : Target) : Built (stunJob env t)
  | turn (env : PipelineEnv) (t : Target) (user pass : Option String) (echoCount : UInt32) :
      Built (turnJob env t user pass echoCount)
  | turns (env : PipelineEnv) (t : Target) (user pass : Option String) :
      Built (turnsJob env t user pass)
  | signaling (env : PipelineEnv) (host url : String) (auth : Option String) :
      Built (signalingJob env host url auth)
  | dtlsRemote (env : PipelineEnv) (t : Target) : Built (dtlsRemoteJob env t)
  | dtlsLoopback (env : PipelineEnv) : Built (dtlsLoopbackJob env)
  | iceStun (env : PipelineEnv) (t : Target) : Built (iceStunJob env t)
  | iceTurn (env : PipelineEnv) (t : Target) (user pass : Option String) :
      Built (iceTurnJob env t user pass)

/-- A sequence of readers gives a value exactly if both parts do, the second on the lines that are
left. -/
theorem reader_bind_eq_ok {α β : Type} {x : Reader α} {f : α → Reader β}
    {stdin : List (Except String String)} {r : β × List (Except String String)} :
    (x >>= f) stdin = .ok r ↔ ∃ a s, x stdin = .ok (a, s) ∧ f a s = .ok r := by
  show (x stdin >>= fun p => f p.1 p.2) = .ok r ↔ _
  rw [except_bind_eq_ok, Prod.exists]

/-- A computation that reads nothing leaves all lines. -/
theorem lift_eq_ok {α : Type} {x : Except String α} {stdin : List (Except String String)}
    {r : α × List (Except String String)} :
    (liftM x : Reader α) stdin = .ok r ↔ x = .ok r.1 ∧ r.2 = stdin := by
  obtain ⟨a, s⟩ := r
  show (x >>= fun a => pure (a, stdin)) = .ok (a, s) ↔ _
  rw [except_bind_eq_ok]
  constructor
  · rintro ⟨b, hb, hr⟩
    cases hr
    exact ⟨hb, rfl⟩
  · rintro ⟨ha, hs⟩
    exact ⟨a, ha, by rw [show s = stdin from hs]; rfl⟩

/-- A block of `full` builds what its target builds. -/
theorem built_of_mem_fullBlock {url : Option String} {build : String → Except String (String × Job)}
    {parts : List (String × Job)} (h : fullBlock url build = .ok parts)
    (hbuild : ∀ url part, build url = .ok part → part.2.Built) : ∀ part ∈ parts, part.2.Built := by
  intro part hpart
  cases url with
  | none =>
    cases h
    cases hpart
  | some url =>
    dsimp only [fullBlock] at h
    cases hb : build url with
    | error e =>
      rw [hb] at h
      cases h
    | ok part' =>
      rw [hb] at h
      cases h
      rw [List.mem_singleton.1 hpart]
      exact hbuild url part' hb

/-- Every pipeline of `full` is one of the subcommands' pipelines. -/
theorem built_of_mem_planFull {env : CliEnv}
    {stun turn turns signaling user pass auth : Option String} {echoCount : UInt32}
    {parts : List (String × Job)}
    (h : planFull env stun turn turns signaling user pass auth echoCount = .ok parts) :
    ∀ part ∈ parts, part.2.Built := by
  obtain ⟨as, ha, h⟩ := except_bind_eq_ok.1 h
  obtain ⟨bs, hb, h⟩ := except_bind_eq_ok.1 h
  obtain ⟨cs, hc, h⟩ := except_bind_eq_ok.1 h
  obtain ⟨ds, hd, h⟩ := except_bind_eq_ok.1 h
  cases h
  intro part hpart
  simp only [List.mem_append] at hpart
  rcases hpart with ((hpart | hpart) | hpart) | hpart
  · refine built_of_mem_fullBlock ha (fun url part h => ?_) part hpart
    obtain ⟨host, -, h⟩ := except_bind_eq_ok.1 h
    cases h
    exact .signaling _ _ _ _
  · refine built_of_mem_fullBlock hb (fun url part h => ?_) part hpart
    obtain ⟨t, -, h⟩ := except_bind_eq_ok.1 h
    cases h
    exact .stun _ _
  · refine built_of_mem_fullBlock hc (fun url part h => ?_) part hpart
    obtain ⟨t, -, h⟩ := except_bind_eq_ok.1 h
    cases h
    exact .turn _ _ _ _ _
  · refine built_of_mem_fullBlock hd (fun url part h => ?_) part hpart
    obtain ⟨t, -, h⟩ := except_bind_eq_ok.1 h
    cases h
    exact .turns _ _ _ _

/-- Every pipeline of `dtls` is one of the subcommands' pipelines. -/
theorem built_of_mem_planDtls {env : CliEnv} {target : Option String} {serve : Bool}
    {bind : String} {p : Plan} (h : planDtls env target serve bind = .ok p) :
    ∀ job ∈ p.jobs, job.Built := by
  intro job hjob
  unfold planDtls at h
  split at h
  · split at h
    · cases h
    · cases h
      cases hjob
  · split at h
    · cases h
      rw [List.mem_singleton.1 hjob]
      exact .dtlsLoopback _
    · split at h
      · cases h
      · cases h
        rw [List.mem_singleton.1 hjob]
        exact .dtlsRemote _ _

/-- Every pipeline of a plan is one the subcommands build. -/
theorem built_of_mem_jobs {env : CliEnv} {command : Command}
    {stdin rest : List (Except String String)} {p : Plan}
    (h : plan env command stdin = .ok (p, rest)) : ∀ job ∈ p.jobs, job.Built := by
  intro job hjob
  cases command with
  | stun url =>
    obtain ⟨t, s, -, h⟩ := reader_bind_eq_ok.1 h
    cases h
    rw [List.mem_singleton.1 hjob]
    exact .stun _ _
  | turn url user pass echoCount =>
    obtain ⟨t, s, -, h⟩ := reader_bind_eq_ok.1 h
    obtain ⟨user, s, -, h⟩ := reader_bind_eq_ok.1 h
    obtain ⟨pass, s, -, h⟩ := reader_bind_eq_ok.1 h
    cases h
    rw [List.mem_singleton.1 hjob]
    exact .turn _ _ _ _ _
  | turns url user pass =>
    obtain ⟨t, s, -, h⟩ := reader_bind_eq_ok.1 h
    obtain ⟨user, s, -, h⟩ := reader_bind_eq_ok.1 h
    obtain ⟨pass, s, -, h⟩ := reader_bind_eq_ok.1 h
    cases h
    rw [List.mem_singleton.1 hjob]
    exact .turns _ _ _ _
  | signaling url auth =>
    obtain ⟨host, s, -, h⟩ := reader_bind_eq_ok.1 h
    obtain ⟨auth, s, -, h⟩ := reader_bind_eq_ok.1 h
    cases h
    rw [List.mem_singleton.1 hjob]
    exact .signaling _ _ _ _
  | dtls target serve bind => exact built_of_mem_planDtls (lift_eq_ok.1 h).1 job hjob
  | ice url user pass =>
    obtain ⟨t, s, -, h⟩ := reader_bind_eq_ok.1 h
    by_cases hturn : startsWith url "turn:"
    · rw [if_pos hturn] at h
      obtain ⟨user, s, -, h⟩ := reader_bind_eq_ok.1 h
      obtain ⟨pass, s, -, h⟩ := reader_bind_eq_ok.1 h
      cases h
      rw [List.mem_singleton.1 hjob]
      exact .iceTurn _ _ _ _
    · rw [if_neg hturn] at h
      by_cases hcreds : user.flag.isSome || pass.flag.isSome || user.fromStdin || pass.fromStdin
      · rw [if_pos hcreds] at h
        cases h
      · rw [if_neg hcreds] at h
        cases h
        rw [List.mem_singleton.1 hjob]
        exact .iceStun _ _
  | full stun turn turns signaling user pass auth echoCount =>
    dsimp only [plan] at h
    by_cases hnone : stun.isNone && turn.isNone && turns.isNone && signaling.isNone
    · rw [if_pos hnone] at h
      cases h
    · rw [if_neg hnone] at h
      obtain ⟨user, s, -, h⟩ := reader_bind_eq_ok.1 h
      obtain ⟨pass, s, -, h⟩ := reader_bind_eq_ok.1 h
      obtain ⟨auth, s, -, h⟩ := reader_bind_eq_ok.1 h
      obtain ⟨parts, s, hparts, h⟩ := reader_bind_eq_ok.1 h
      cases h
      obtain ⟨part, hpart, rfl⟩ := List.mem_map.1 hjob
      exact built_of_mem_planFull (lift_eq_ok.1 hparts).1 part hpart

end WebrtcDoctor
