import WebrtcDoctor.Session

/-!
# Exit code 0

A report with exit code 0 holds no failure and no warning, but a check may have been
skipped. `Populated` is what the checks that passed have put into the context. It keeps
every check of the subcommands' pipelines from skipping itself, but for an echo check after
an anonymous allocation. So exit code 0 means that every check passed, unless a relay
granted the first, unauthenticated request before an echo check
(`exitCode_zero_all_pass_iff`). `exitCode_zero_anonymous` is a run in which it did.
-/

open NetAddr

namespace WebrtcDoctor

open Pipeline

/-! ## What passed checks leave in the context -/

/-- What the passes of the checks `passed` leave in a context that was `ctx₀` at the start.
A session is there only where an echo check needs it. -/
structure Populated (echoes : Prop) (ctx₀ : ProbeContext) (passed : List String)
    (ctx : ProbeContext) : Prop where
  host : ctx.host = ctx₀.host
  port : ctx.port = ctx₀.port
  ips : DnsCheck.id ∈ passed → ∃ ip more, ctx.resolvedIps = ip :: more
  srflx : StunBindingCheck.id ∈ passed →
    ∃ srflx : SocketAddr, ctx.scratch "srflx" = some (toString srflx)
  session : echoes → TurnAllocateCheck.id ∈ passed → ∃ session, ctx.turnSession = some session

/-- A check after the passes of `passed` does not skip itself, and its pass adds to them. -/
def Advances (echoes : Prop) (ctx₀ : ProbeContext) (passed : List String)
    (check : Check ProbeContext) (ctx : ProbeContext) : Prop :=
  (check.run ctx).2.status ≠ .skip ∧
    ((check.run ctx).2.status = .pass →
      Populated echoes ctx₀ (passed ++ [check.id]) (check.run ctx).1)

theorem mem_of_mem_concat {a b : String} {l : List String} (h : a ∈ l ++ [b]) (hne : a ≠ b) :
    a ∈ l :=
  (List.mem_append.1 h).resolve_right fun hb => hne (List.mem_singleton.1 hb)

namespace Populated

variable {echoes : Prop} {ctx₀ ctx : ProbeContext} {passed : List String}

/-- No check has passed yet, and nothing is asked of the context. -/
theorem start (ctx₀ : ProbeContext) : Populated echoes ctx₀ [] ctx₀ :=
  ⟨rfl, rfl, nofun, nofun, fun _ => nofun⟩

/-- A pass of DNS leaves the first address in the context. -/
theorem dns (h : Populated echoes ctx₀ passed ctx) (env : DnsEnv) {host : String}
    (hhost : ctx₀.host = some host) : Advances echoes ctx₀ passed (DnsCheck.check env) ctx := by
  refine ⟨DnsCheck.run_ne_skip (h.host.trans hhost), fun hpass => ?_⟩
  obtain ⟨ip, more, hctx⟩ := (DnsCheck.run_leaves env ctx).on_pass hpass
  rw [show ((DnsCheck.check env).run ctx).1 = _ from hctx]
  exact ⟨h.host, h.port, fun _ => ⟨ip, more, rfl⟩,
    fun hid => h.srflx (mem_of_mem_concat hid (by decide : StunBindingCheck.id ≠ DnsCheck.id)),
    fun he hid => h.session he
      (mem_of_mem_concat hid (by decide : TurnAllocateCheck.id ≠ DnsCheck.id))⟩

/-- A pass of STUN leaves the mapped address in the context. -/
theorem stun (h : Populated echoes ctx₀ passed ctx) (env : StunEnv) {port : UInt16}
    (hport : ctx₀.port = some port) (hdns : DnsCheck.id ∈ passed) :
    Advances echoes ctx₀ passed (StunBindingCheck.check env) ctx := by
  obtain ⟨ip, more, hips⟩ := h.ips hdns
  refine ⟨StunBindingCheck.run_ne_skip (h.port.trans hport) hips, fun hpass => ?_⟩
  obtain ⟨srflx, hctx⟩ := (StunBindingCheck.run_leaves env ctx).on_pass hpass
  rw [show ((StunBindingCheck.check env).run ctx).1 = _ from hctx]
  exact ⟨h.host, h.port, fun _ => ⟨ip, more, hips⟩,
    fun _ => ⟨srflx, ctx.insertScratch_scratch_self "srflx" _⟩,
    fun he hid => h.session he
      (mem_of_mem_concat hid (by decide : TurnAllocateCheck.id ≠ StunBindingCheck.id))⟩

/-- Where an echo check follows, the allocation must not be anonymous. -/
theorem turnAlloc (h : Populated echoes ctx₀ passed ctx) (env : TurnAllocEnv) {port : UInt16}
    (hport : ctx₀.port = some port) (hdns : DnsCheck.id ∈ passed)
    (hanon : echoes → ¬TurnAllocateCheck.GrantsAnonymous env ctx) :
    Advances echoes ctx₀ passed (TurnAllocateCheck.check env) ctx := by
  obtain ⟨ip, more, hips⟩ := h.ips hdns
  refine ⟨TurnAllocateCheck.run_ne_skip (h.port.trans hport) hips, fun hpass => ?_⟩
  have hsrflx : ∀ relayed : String, StunBindingCheck.id ∈ passed ++ [TurnAllocateCheck.id] →
      ∃ srflx : SocketAddr,
        (ctx.insertScratch "relayed" relayed).scratch "srflx" = some (toString srflx) := by
    intro relayed hid
    rw [ctx.insertScratch_scratch_of_ne relayed (by decide : "srflx" ≠ "relayed")]
    exact h.srflx
      (mem_of_mem_concat hid (by decide : StunBindingCheck.id ≠ TurnAllocateCheck.id))
  obtain ⟨relayed, -, -, -, -, -, ⟨hgrant, hctx⟩ | ⟨-, session, -, -, hctx⟩⟩ :=
    TurnAllocateCheck.run_pass hpass
  · rw [show ((TurnAllocateCheck.check env).run ctx).1 = _ from hctx]
    exact ⟨h.host, h.port, fun _ => ⟨ip, more, hips⟩, hsrflx (toString relayed),
      fun he _ => absurd hgrant (hanon he)⟩
  · rw [show ((TurnAllocateCheck.check env).run ctx).1 = _ from hctx]
    exact ⟨h.host, h.port, fun _ => ⟨ip, more, hips⟩, hsrflx (toString relayed),
      fun _ _ => ⟨session, rfl⟩⟩

/-- A pass of a check nothing is expected of, that leaves the context alone. -/
theorem alone (h : Populated echoes ctx₀ passed ctx) {check : Check ProbeContext}
    (hid : check.id ∉ [DnsCheck.id, StunBindingCheck.id, TurnAllocateCheck.id])
    (hleaves : Leaves ctx (· = ctx) (check.run ctx)) (hskip : (check.run ctx).2.status ≠ .skip) :
    Advances echoes ctx₀ passed check ctx := by
  simp only [List.mem_cons, List.not_mem_nil, or_false, not_or] at hid
  obtain ⟨hdns, hstun, halloc⟩ := hid
  refine ⟨hskip, fun hpass => ?_⟩
  rw [hleaves.on_pass hpass]
  exact ⟨h.host, h.port, fun hid => h.ips (mem_of_mem_concat hid (Ne.symm hdns)),
    fun hid => h.srflx (mem_of_mem_concat hid (Ne.symm hstun)),
    fun he hid => h.session he (mem_of_mem_concat hid (Ne.symm halloc))⟩

/-- The echo check runs after what it requires, and leaves the context as it was. -/
theorem turnEcho (h : Populated echoes ctx₀ passed ctx) (env : TurnEchoEnv) (he : echoes)
    (hstun : StunBindingCheck.id ∈ passed) (halloc : TurnAllocateCheck.id ∈ passed) :
    Advances echoes ctx₀ passed (TurnEchoCheck.check env) ctx := by
  obtain ⟨srflx, hsrflx⟩ := h.srflx hstun
  obtain ⟨session, hsession⟩ := h.session he halloc
  exact h.alone (by decide : TurnEchoCheck.id ∉ _) (TurnEchoCheck.run_leaves env ctx)
    (TurnEchoCheck.run_ne_skip hsession hsrflx)

theorem turnsAlloc (h : Populated echoes ctx₀ passed ctx) (env : TurnsAllocEnv) {host : String}
    {port : UInt16} (hhost : ctx₀.host = some host) (hport : ctx₀.port = some port)
    (hdns : DnsCheck.id ∈ passed) :
    Advances echoes ctx₀ passed (TurnsAllocateCheck.check env) ctx := by
  obtain ⟨ip, more, hips⟩ := h.ips hdns
  refine ⟨TurnsAllocateCheck.run_ne_skip (h.host.trans hhost) (h.port.trans hport) hips,
    fun hpass => ?_⟩
  obtain ⟨relayed, hctx⟩ := (TurnsAllocateCheck.run_leaves env ctx).on_pass hpass
  rw [show ((TurnsAllocateCheck.check env).run ctx).1 = _ from hctx]
  refine ⟨h.host, h.port, fun _ => ⟨ip, more, hips⟩, fun hid => ?_, fun he hid => h.session he
    (mem_of_mem_concat hid (by decide : TurnAllocateCheck.id ≠ TurnsAllocateCheck.id))⟩
  rw [ctx.insertScratch_scratch_of_ne _ (by decide : "srflx" ≠ "relayed")]
  exact h.srflx (mem_of_mem_concat hid (by decide : StunBindingCheck.id ≠ TurnsAllocateCheck.id))

theorem dtlsRemote (h : Populated echoes ctx₀ passed ctx) (env : DtlsEnv) {port : UInt16}
    (hport : ctx₀.port = some port) (hdns : DnsCheck.id ∈ passed) :
    Advances echoes ctx₀ passed (DtlsRemoteCheck.check env) ctx := by
  obtain ⟨ip, more, hips⟩ := h.ips hdns
  exact h.alone (by decide : DtlsRemoteCheck.id ∉ _) (DtlsRemoteCheck.run_leaves env ctx)
    (DtlsRemoteCheck.run_ne_skip (h.port.trans hport) hips)

end Populated

/-! ## The subcommands' pipelines -/

/-- A list of checks whose ids and requirements are `l`, in which every requirement is that
of an earlier check. -/
theorem requires_of_map {checks : List (Check ProbeContext)} {l : List (String × List String)}
    (hl : checks.map (fun c => (c.id, c.requires)) = l)
    (h : ∀ k (hk : k < l.length), ∀ id ∈ l[k].2, id ∈ (l.take k).map Prod.fst) :
    ∀ k (hk : k < checks.length), ∀ id ∈ checks[k].requires,
      id ∈ (checks.take k).map Check.id := by
  subst hl
  intro k hk id hid
  have hmem := h k (by simpa using hk) id (by simpa using hid)
  rw [← List.map_take, List.map_map] at hmem
  exact hmem

/-- The subcommands' pipelines list a check after those it requires. -/
theorem Job.Built.requires {job : Job} (h : job.Built) :
    ∀ k (hk : k < job.checks.length), ∀ id ∈ job.checks[k].requires,
      id ∈ (job.checks.take k).map Check.id := by
  cases h with
  | stun env t =>
    exact requires_of_map (l := [("dns", []), ("stun.binding", ["dns"])]) rfl (by decide)
  | turn env t user pass echoCount =>
    exact requires_of_map (l := [("dns", []), ("stun.binding", ["dns"]),
      ("turn.alloc.udp", ["dns"]), ("turn.echo.udp", ["turn.alloc.udp", "stun.binding"])]) rfl
      (by decide)
  | turns env t user pass =>
    exact requires_of_map (l := [("dns", []), ("turn.alloc.tls", ["dns"])]) rfl (by decide)
  | signaling env host url auth =>
    exact requires_of_map (l := [("dns", []), ("signaling", [])]) rfl (by decide)
  | dtlsRemote env t =>
    exact requires_of_map (l := [("dns", []), ("dtls.remote", ["dns"])]) rfl (by decide)
  | dtlsLoopback env => exact requires_of_map (l := [("dtls.loopback", [])]) rfl (by decide)
  | iceStun env t =>
    exact requires_of_map (l := [("dns", []), ("stun.binding", ["dns"]),
      ("ice.gather", ["stun.binding"])]) rfl (by decide)
  | iceTurn env t user pass =>
    exact requires_of_map (l := [("dns", []), ("stun.binding", ["dns"]),
      ("turn.alloc.udp", ["dns"]), ("ice.gather", ["stun.binding"])]) rfl (by decide)

/-- Some check of the job is an echo check. -/
def Job.Echoes (job : Job) : Prop := ∃ k, job.HasCheck k TurnEchoCheck.id

/-- No allocation before an echo check of the job is anonymous. -/
def Job.NoAnonymousEcho (job : Job) : Prop :=
  ∀ j k, job.HasCheck j TurnAllocateCheck.id → job.HasCheck k TurnEchoCheck.id →
    ¬TurnAllocateCheck.GrantsAnonymous job.env.turnAlloc (job.ctxAt j)

/-- Each check of a subcommand's pipeline advances what the ones before it left. -/
theorem Job.Built.advances {job : Job} (h : job.Built) (hanon : job.NoAnonymousEcho) (k : ℕ)
    (hk : k < job.checks.length)
    (hpop : Populated job.Echoes job.ctx ((job.checks.take k).map Check.id) (job.ctxAt k)) :
    Advances job.Echoes job.ctx ((job.checks.take k).map Check.id) job.checks[k]
      (job.ctxAt k) := by
  cases h with
  | stun env t =>
    rcases k with _ | _ | k
    · exact hpop.dns env.dns rfl
    · exact hpop.stun env.stun rfl (by decide : _ ∈ [DnsCheck.id])
    · exact absurd hk (Nat.not_lt.2 (Nat.le_add_left 2 k))
  | turn env t user pass echoCount =>
    have hecho : (turnJob env t user pass echoCount).HasCheck 3 TurnEchoCheck.id := rfl
    rcases k with _ | _ | _ | _ | k
    · exact hpop.dns env.dns rfl
    · exact hpop.stun env.stun rfl (by decide : _ ∈ [DnsCheck.id])
    · exact hpop.turnAlloc env.turnAlloc rfl (by decide : _ ∈ [DnsCheck.id, StunBindingCheck.id])
        fun _ => hanon 2 3 rfl hecho
    · exact hpop.turnEcho env.turnEcho ⟨3, hecho⟩
        (by decide : _ ∈ [DnsCheck.id, StunBindingCheck.id, TurnAllocateCheck.id])
        (by decide : _ ∈ [DnsCheck.id, StunBindingCheck.id, TurnAllocateCheck.id])
    · exact absurd hk (Nat.not_lt.2 (Nat.le_add_left 4 k))
  | turns env t user pass =>
    rcases k with _ | _ | k
    · exact hpop.dns env.dns rfl
    · exact hpop.turnsAlloc env.turnsAlloc rfl rfl (by decide : _ ∈ [DnsCheck.id])
    · exact absurd hk (Nat.not_lt.2 (Nat.le_add_left 2 k))
  | signaling env host url auth =>
    rcases k with _ | _ | k
    · exact hpop.dns env.dns rfl
    · obtain ⟨hleaves, hskip⟩ := SignalingCheck.run_leaves env.signaling ⟨url, auth⟩
        ((signalingJob env host url auth).ctxAt 1)
      exact hpop.alone (by decide : SignalingCheck.id ∉ _) hleaves hskip
    · exact absurd hk (Nat.not_lt.2 (Nat.le_add_left 2 k))
  | dtlsRemote env t =>
    rcases k with _ | _ | k
    · exact hpop.dns env.dns rfl
    · exact hpop.dtlsRemote env.dtls rfl (by decide : _ ∈ [DnsCheck.id])
    · exact absurd hk (Nat.not_lt.2 (Nat.le_add_left 2 k))
  | dtlsLoopback env =>
    rcases k with _ | k
    · obtain ⟨hleaves, hskip⟩ := DtlsLoopbackCheck.run_leaves env.dtls
        ((dtlsLoopbackJob env).ctxAt 0)
      exact hpop.alone (by decide : DtlsLoopbackCheck.id ∉ _) hleaves hskip
    · exact absurd hk (Nat.not_lt.2 (Nat.le_add_left 1 k))
  | iceStun env t =>
    rcases k with _ | _ | _ | k
    · exact hpop.dns env.dns rfl
    · exact hpop.stun env.stun rfl (by decide : _ ∈ [DnsCheck.id])
    · obtain ⟨hleaves, hskip⟩ := IceGatherCheck.run_leaves env.iceGather
        ((iceStunJob env t).ctxAt 2)
      exact hpop.alone (by decide : IceGatherCheck.id ∉ _) hleaves hskip
    · exact absurd hk (Nat.not_lt.2 (Nat.le_add_left 3 k))
  | iceTurn env t user pass =>
    rcases k with _ | _ | _ | _ | k
    · exact hpop.dns env.dns rfl
    · exact hpop.stun env.stun rfl (by decide : _ ∈ [DnsCheck.id])
    · refine hpop.turnAlloc env.turnAlloc rfl (by decide : _ ∈ [DnsCheck.id, StunBindingCheck.id])
        fun ⟨k, hk⟩ => absurd (List.mem_of_getElem? hk) (show _ ∉ [DnsCheck.id, StunBindingCheck.id,
          TurnAllocateCheck.id, IceGatherCheck.id] by decide)
    · obtain ⟨hleaves, hskip⟩ := IceGatherCheck.run_leaves env.iceGather
        ((iceTurnJob env t user pass).ctxAt 3)
      exact hpop.alone (by decide : IceGatherCheck.id ∉ _) hleaves hskip
    · exact absurd hk (Nat.not_lt.2 (Nat.le_add_left 4 k))

/-- Without an anonymous allocation before an echo check, a pipeline in which nothing fails
or warns passes every check. -/
theorem Job.Built.all_pass {job : Job} (h : job.Built) (hanon : job.NoAnonymousEcho)
    (hv : ∀ r ∈ job.report.results, r.status ≠ .fail ∧ r.status ≠ .warn) :
    ∀ r ∈ job.report.results, r.status = .pass := by
  rw [Job.report, results_run] at hv ⊢
  refine all_pass_of_inv job.checks job.ctx
    (fun k => Populated job.Echoes job.ctx ((job.checks.take k).map Check.id))
    (Populated.start job.ctx) h.requires (fun k hk hpop => ?_) hv
  obtain ⟨hskip, hpass⟩ := h.advances hanon k hk hpop
  refine ⟨hskip, fun hp => ?_⟩
  rw [List.take_succ_eq_append_getElem hk, List.map_append]
  exact hpass hp

/-- A pipeline that passes every check has no anonymous allocation before an echo check. -/
theorem Job.Built.noAnonymousEcho {job : Job} (h : job.Built)
    (hall : ∀ r ∈ job.report.results, r.status = .pass) : job.NoAnonymousEcho := by
  intro j k hj hk hgrant
  obtain ⟨rfl, last, hal⟩ := h.allocates hj
  obtain ⟨rfl, hid⟩ := hal.eq_three hk (by decide)
  have hlen := hal.length_checks
  have hpass : ∀ i < 4, ∃ r, job.result? i = some r ∧ r.status = .pass := by
    intro i hi
    have hi' : i < job.report.results.length := by
      rw [Job.report, length_results_run, hlen]
      exact hi
    exact ⟨_, List.getElem?_eq_getElem hi', hall _ (List.getElem_mem hi')⟩
  obtain ⟨r, hr, hrpass⟩ := hpass 2 (by omega)
  obtain ⟨r', hr', hrpass'⟩ := hpass 3 (by omega)
  have hrun := hal.alloc_run hr hrpass
  obtain ⟨relayed, -, -, -, -, -, ⟨-, hctx⟩ | ⟨hng, -⟩⟩ :=
    TurnAllocateCheck.run_pass (by rw [hrun]; exact hrpass)
  · have hnone : (job.ctxAt 3).turnSession = none := by
      rw [hrun] at hctx
      rw [show job.ctxAt 3 = _ from hctx]
      exact hal.keeps.1
    rcases hal.last_result hr' with heq | ⟨passed, heq⟩
    · rcases hal.last with rfl | rfl
      · rw [heq, show (TurnEchoCheck.check job.env.turnEcho).run (job.ctxAt 3) = _ from
          TurnEchoCheck.run_of_no_session hnone] at hrpass'
        cases hrpass'
      · exact absurd hid (by decide : IceGatherCheck.id ≠ TurnEchoCheck.id)
    · rw [heq] at hrpass'
      cases hrpass'
  · exact hng hgrant

/-! ## Exit code 0 -/

/-- A run of a subcommand with exit code 0 passed every check, exactly if in none of its
pipelines an anonymous allocation came before an echo check. -/
theorem exitCode_zero_all_pass_iff {env : CliEnv} {command : Command} {header : String}
    {report : Report} (hmain : main env command = .ok (.report header report))
    (hcode : report.verdict.exitCode = 0) :
    (∀ r ∈ report.results, r.status = .pass) ↔
      ∀ p rest, plan env command env.stdin = .ok (p, rest) →
        ∀ job ∈ p.jobs, job.NoAnonymousEcho := by
  have hv := report.verdict_eq_healthy_iff.1 ((Verdict.exitCode_eq_zero_iff _).1 hcode)
  unfold main at hmain
  cases hplan : plan env command env.stdin with
  | error e =>
    rw [hplan] at hmain
    cases hmain
  | ok planned =>
    obtain ⟨p, rest⟩ := planned
    rw [hplan] at hmain
    have hresults := Plan.results_of_outcome (Except.ok.inj hmain)
    have hbuilt := built_of_mem_jobs hplan
    rw [hresults] at hv ⊢
    simp only [List.mem_flatMap, forall_exists_index, and_imp] at hv ⊢
    constructor
    · rintro hall p' rest' hp job hjob
      cases hp
      exact (hbuilt job hjob).noAnonymousEcho fun r hr => hall r job hjob hr
    · intro hanon r job hjob hr
      exact (hbuilt job hjob).all_pass (hanon p rest rfl job hjob)
        (fun r hr => hv r job hjob hr) r hr

namespace Sample

/-- A relay that asks for the login, grants the permission and echoes two packets. -/
def echoReplies : List (List UInt8) :=
  [challenge (txid 1), grant (txid 2), message createPermissionSuccess (txid 3) [], echo 0, echo 1]

/-- `turn turn:192.0.2.1 --user user --pass pass --echo-count 2`. -/
def echoCommand : Command :=
  .turn "turn:192.0.2.1" ⟨some "user", false⟩ ⟨some "pass", false⟩ 2

/-- The pipeline of that command. -/
def echoJob : Job := turnJob (env echoReplies) ⟨"192.0.2.1", 3478⟩ (some "user") (some "pass") 2

theorem plan_echoCommand :
    plan (cliEnv echoReplies) echoCommand [] =
      .ok (.single "probing 192.0.2.1 (turn)" echoJob, []) := by
  have ht : parseStunLike "turn:192.0.2.1" ["turn"] 3478 = .ok ⟨"192.0.2.1", 3478⟩ := by decide
  simp only [plan, echoCommand, ht]
  rfl

end Sample

open Sample

/-- A login against a relay that echoes: exit code 0, every check passed. -/
theorem exitCode_zero_login :
    main (cliEnv echoReplies) echoCommand =
        .ok (.report "probing 192.0.2.1 (turn)" echoJob.report) ∧
      echoJob.report.verdict.exitCode = 0 ∧ ∀ r ∈ echoJob.report.results, r.status = .pass := by
  have hmain : main (cliEnv echoReplies) echoCommand =
      .ok (.report "probing 192.0.2.1 (turn)" echoJob.report) := by
    rw [main, show (cliEnv echoReplies).stdin = [] from rfl, plan_echoCommand]
    rfl
  have hcode : echoJob.report.verdict.exitCode = 0 := by decide +kernel
  refine ⟨hmain, hcode, (exitCode_zero_all_pass_iff hmain hcode).2 ?_⟩
  intro p rest hplan job hjob j k hj hk
  rw [show (cliEnv echoReplies).stdin = [] from rfl, plan_echoCommand] at hplan
  cases hplan
  obtain rfl := List.mem_singleton.1 hjob
  obtain rfl := eq_two_of_getElem? TurnEchoCheck.id (by decide) hj
  decide +kernel

/-- A server that grants the first request. The echo check skips itself, and the exit code
is 0. -/
theorem exitCode_zero_anonymous :
    main (cliEnv [grant (txid 1)]) anonymousCommand =
        .ok (.report "probing 192.0.2.1 (turn)" anonymousJob.report) ∧
      anonymousJob.report.verdict = .healthy ∧ anonymousJob.report.verdict.exitCode = 0 ∧
      anonymousJob.report.results.map CheckResult.status = [.pass, .pass, .pass, .skip] ∧
      ¬∀ r ∈ anonymousJob.report.results, r.status = .pass := by
  have hstatus : anonymousJob.report.results.map CheckResult.status =
      [.pass, .pass, .pass, .skip] := by decide +kernel
  refine ⟨?_, by decide +kernel, by decide +kernel, hstatus, fun hall => ?_⟩
  · rw [main, show (cliEnv [grant (txid 1)]).stdin = [] from rfl, plan_anonymousCommand]
    rfl
  · have hmem : CheckStatus.skip ∈ anonymousJob.report.results.map CheckResult.status := by
      rw [hstatus]
      decide
    obtain ⟨r, hr, hskip⟩ := List.mem_map.1 hmem
    rw [hall r hr] at hskip
    cases hskip

end WebrtcDoctor
