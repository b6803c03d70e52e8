import WebrtcDoctor.Cli
import WebrtcDoctor.Credential

/-!
# The session a passed allocation leaves

`turn.alloc.udp` hands its session to the checks after it through `turn_session`. The
authenticated path stores it, the path of an anonymous allocation does not. So after a
pass the session is usable exactly if the relay did not grant the first, unauthenticated
request (`usable_iff`). `usable_anonymous` is a run in which it did.
-/

open NetAddr

namespace WebrtcDoctor

open Pipeline

/-- Check `k` of the job has the id `id`. -/
def Job.HasCheck (job : Job) (k : ℕ) (id : String) : Prop :=
  (job.checks.map Check.id)[k]? = some id

/-- The context of check `k` of the job, when its turn comes. -/
def Job.ctxAt (job : Job) (k : ℕ) : ProbeContext := (stateAt job.checks job.ctx k).ctx

/-- The result of check `k` of the job. -/
def Job.result? (job : Job) (k : ℕ) : Option CheckResult := job.report.results[k]?

/-- After check `k` reported the relay address `relayed`, the context holds a session with
that address and the probed server. An echo check does not end for want of a session, and
an `ice.gather` that completes lists one relay candidate, that address. -/
structure Usable (job : Job) (k : ℕ) (relayed : SocketAddr) : Prop where
  session : ∃ session ip port, (job.ctxAt (k + 1)).turnSession = some session ∧
    session.relayed = relayed ∧ session.server = ⟨ip, port⟩ ∧
    (job.ctxAt (k + 1)).resolvedIps.head? = some ip ∧ job.ctx.port = some port
  echo : ∀ j, job.HasCheck j TurnEchoCheck.id →
    job.result? j ≠
      some (.skip TurnEchoCheck.id TurnEchoCheck.name "no TURN session in context")
  relay : ∀ j r, job.HasCheck j IceGatherCheck.id → job.result? j = some r →
    r.status ≠ .fail → r.status ≠ .skip → ∃ cands c, r.detail = some (IceGatherCheck.detail cands) ∧
      cands.filter (·.kind = .relay) = [c] ∧
      c.address = toString relayed.ip ∧ c.port = relayed.port

/-! ## The contexts of a run -/

theorem Job.result?_eq (job : Job) (k : ℕ) :
    job.result? k = (stateAt job.checks job.ctx job.checks.length).results[k]? := by
  rw [Job.result?, Job.report, results_run]

theorem DnsCheck.run_keeps (env : DnsEnv) (ctx : ProbeContext) :
    (DnsCheck.run env ctx).1.turnSession = ctx.turnSession ∧
      (DnsCheck.run env ctx).1.port = ctx.port := by
  rcases DnsCheck.run_leaves env ctx with ⟨-, ip, more, h⟩ | ⟨-, h⟩ <;> rw [h] <;> exact ⟨rfl, rfl⟩

theorem StunBindingCheck.run_keeps (env : StunEnv) (ctx : ProbeContext) :
    (StunBindingCheck.run env ctx).1.turnSession = ctx.turnSession ∧
      (StunBindingCheck.run env ctx).1.port = ctx.port := by
  rcases StunBindingCheck.run_leaves env ctx with ⟨-, srflx, h⟩ | ⟨-, h⟩ <;> rw [h] <;>
    exact ⟨rfl, rfl⟩

/-- A job with an allocation over UDP : it comes third, before one check that uses it. -/
structure Job.Allocates (job : Job) (last : Check ProbeContext) : Prop where
  checks : job.checks = [DnsCheck.check job.env.dns, StunBindingCheck.check job.env.stun,
    TurnAllocateCheck.check job.env.turnAlloc, last]
  last : last = TurnEchoCheck.check job.env.turnEcho ∨
    last = IceGatherCheck.check job.env.iceGather
  fresh : job.ctx.turnSession = none

theorem eq_two_of_getElem? (last : String) (hlast : last ≠ TurnAllocateCheck.id) {k : ℕ}
    (hk : [DnsCheck.id, StunBindingCheck.id, TurnAllocateCheck.id, last][k]? =
      some TurnAllocateCheck.id) : k = 2 := by
  rcases k with _ | _ | _ | _ | k
  · exact absurd (Option.some.inj hk) (by decide)
  · exact absurd (Option.some.inj hk) (by decide)
  · rfl
  · exact absurd (Option.some.inj hk) hlast
  · cases hk

/-- The jobs the subcommands build with an allocation over UDP. -/
theorem Job.Built.allocates {job : Job} (h : job.Built) {k : ℕ}
    (hk : job.HasCheck k TurnAllocateCheck.id) : k = 2 ∧ ∃ last, job.Allocates last := by
  have hmem : TurnAllocateCheck.id ∈ job.checks.map Check.id := List.mem_of_getElem? hk
  cases h with
  | turn env t user pass echoCount =>
    exact ⟨eq_two_of_getElem? TurnEchoCheck.id (by decide) hk, _, rfl, Or.inl rfl, rfl⟩
  | iceTurn env t user pass =>
    exact ⟨eq_two_of_getElem? IceGatherCheck.id (by decide) hk, _, rfl, Or.inr rfl, rfl⟩
  | stun env t => exact absurd hmem (show _ ∉ [DnsCheck.id, StunBindingCheck.id] by decide)
  | turns env t user pass =>
    exact absurd hmem (show _ ∉ [DnsCheck.id, TurnsAllocateCheck.id] by decide)
  | signaling env host url auth =>
    exact absurd hmem (show _ ∉ [DnsCheck.id, SignalingCheck.id] by decide)
  | dtlsRemote env t => exact absurd hmem (show _ ∉ [DnsCheck.id, DtlsRemoteCheck.id] by decide)
  | dtlsLoopback env => exact absurd hmem (show _ ∉ [DtlsLoopbackCheck.id] by decide)
  | iceStun env t =>
    exact absurd hmem (show _ ∉ [DnsCheck.id, StunBindingCheck.id, IceGatherCheck.id] by decide)

namespace Job.Allocates

variable {job : Job} {last : Check ProbeContext}

/-- The job of an allocation has four checks. -/
theorem length_checks (h : job.Allocates last) : job.checks.length = 4 := by
  rw [h.checks]
  rfl

/-- The checks before the allocation leave no session and keep the port. -/
theorem keeps (h : job.Allocates last) :
    (job.ctxAt 2).turnSession = none ∧ (job.ctxAt 2).port = job.ctx.port := by
  have hlen := h.length_checks
  have h₁ : (job.ctxAt 1).turnSession = none ∧ (job.ctxAt 1).port = job.ctx.port := by
    rcases ctx_stateAt_succ job.checks job.ctx (by omega : 0 < job.checks.length) with hc | hc
    · rw [Job.ctxAt, hc, List.getElem_of_eq h.checks]
      obtain ⟨hs, hp⟩ := DnsCheck.run_keeps job.env.dns job.ctx
      exact ⟨hs.trans h.fresh, hp⟩
    · rw [Job.ctxAt, hc]
      exact ⟨h.fresh, rfl⟩
  rcases ctx_stateAt_succ job.checks job.ctx (by omega : 1 < job.checks.length) with hc | hc
  · rw [Job.ctxAt, hc, List.getElem_of_eq h.checks]
    obtain ⟨hs, hp⟩ := StunBindingCheck.run_keeps job.env.stun (job.ctxAt 1)
    exact ⟨hs.trans h₁.1, hp.trans h₁.2⟩
  · rw [Job.ctxAt, hc]
    exact h₁

/-- A check after the allocation is the last one. -/
theorem eq_three (h : job.Allocates last) {j : ℕ} {id : String} (hj : job.HasCheck j id)
    (hid : id ∉ [DnsCheck.id, StunBindingCheck.id, TurnAllocateCheck.id]) :
    j = 3 ∧ last.id = id := by
  rw [Job.HasCheck, h.checks] at hj
  simp only [List.mem_cons, List.not_mem_nil, or_false, not_or] at hid
  obtain ⟨hdns, hstun, halloc⟩ := hid
  rcases j with _ | _ | _ | _ | j
  · exact absurd (Option.some.inj hj).symm hdns
  · exact absurd (Option.some.inj hj).symm hstun
  · exact absurd (Option.some.inj hj).symm halloc
  · exact ⟨rfl, Option.some.inj hj⟩
  · cases hj

/-- The last check runs on what the allocation left, or the runner skips it. -/
theorem last_result (h : job.Allocates last) {r : CheckResult} (hr : job.result? 3 = some r) :
    r = (last.run (job.ctxAt 3)).2 ∨ ∃ passed, r = skipped last passed := by
  have hlen := h.length_checks
  obtain ⟨r', hr', hrun, hskip⟩ :=
    stateAt_succ_cases job.checks job.ctx (by omega : 3 < job.checks.length)
  rw [Job.result?_eq, hr'] at hr
  cases hr
  rw [List.getElem_of_eq h.checks] at hrun hskip
  by_cases hgate : Gate job.checks job.ctx 3
  · exact Or.inl (congrArg Prod.snd (hrun hgate)).symm
  · exact Or.inr ⟨_, (hskip hgate).1⟩

/-- An allocation that passed ran, and the context after it is what its run left. -/
theorem alloc_run (h : job.Allocates last) {r : CheckResult} (hr : job.result? 2 = some r)
    (hpass : r.status = .pass) :
    TurnAllocateCheck.run job.env.turnAlloc (job.ctxAt 2) = (job.ctxAt 3, r) := by
  have hlen := h.length_checks
  have hrun := run_eq_of_pass job.checks job.ctx (by omega : 2 < job.checks.length)
    (by rw [← Job.result?_eq]; exact hr) hpass
  rw [List.getElem_of_eq h.checks] at hrun
  exact hrun

end Job.Allocates

/-- The runner's reason for a skip is not that of the echo check. -/
theorem skipped_ne (check : Check ProbeContext) (passed : Finset String) (id name : String) :
    skipped check passed ≠ .skip id name "no TURN session in context" := by
  intro h
  have hsummary := congrArg (fun r => r.summary.toList.head?) h
  simp [skipped, CheckResult.skip] at hsummary

/-- After `turn.alloc.udp` passed in a run of a subcommand, the session it reports is usable
exactly if the relay's first reply was not a success. -/
theorem usable_iff {env : CliEnv} {command : Command} {p : Plan}
    {rest : List (Except String String)} {job : Job} {k : ℕ} {r : CheckResult}
    {relayed : SocketAddr} (hplan : plan env command env.stdin = .ok (p, rest))
    (hjob : job ∈ p.jobs) (hk : job.HasCheck k TurnAllocateCheck.id)
    (hr : job.result? k = some r) (hpass : r.status = .pass)
    (hrep : TurnAllocateCheck.Reports r relayed) :
    Usable job k relayed ↔
      ¬TurnAllocateCheck.GrantsAnonymous job.env.turnAlloc (job.ctxAt k) := by
  obtain ⟨rfl, last, hal⟩ := (built_of_mem_jobs hplan job hjob).allocates hk
  have hrun := hal.alloc_run hr hpass
  obtain ⟨relayed', port, ip, hport, hip, hrep', hcase⟩ :=
    TurnAllocateCheck.run_pass (by rw [hrun]; exact hpass)
  rw [hrun] at hrep' hcase
  obtain rfl := hrep.unique hrep'
  obtain ⟨hnone, hportEq⟩ := hal.keeps
  constructor
  · rintro ⟨⟨session, -, -, hsome, -⟩, -, -⟩ hgrant
    rcases hcase with ⟨-, hctx⟩ | ⟨hng, -⟩
    · rw [show job.ctxAt (2 + 1) = _ from hctx, ProbeContext.insertScratch_turnSession, hnone]
        at hsome
      cases hsome
    · exact hng hgrant
  · intro hng
    rcases hcase with ⟨hgrant, -⟩ | ⟨-, session, hserver, hrelayed, hctx⟩
    · exact absurd hgrant hng
    replace hctx : job.ctxAt 3 = _ := hctx
    have hsome : (job.ctxAt 3).turnSession = some session := by rw [hctx]
    have hips : (job.ctxAt 3).resolvedIps.head? = some ip := by
      rw [hctx]
      exact hip
    refine ⟨⟨session, ip, port, hsome, hrelayed, hserver, hips, hportEq ▸ hport⟩, ?_, ?_⟩
    · intro j hj hskip
      obtain ⟨rfl, hid⟩ := hal.eq_three hj (by decide)
      rcases hal.last_result hskip with heq | ⟨passed, heq⟩
      · rcases hal.last with rfl | rfl
        · exact TurnEchoCheck.run_ne_no_session hsome heq.symm
        · exact absurd hid (by decide : IceGatherCheck.id ≠ TurnEchoCheck.id)
      · exact skipped_ne _ _ _ _ heq.symm
    · intro j r' hj hr' hfail hskip
      obtain ⟨rfl, hid⟩ := hal.eq_three hj (by decide)
      rcases hal.last_result hr' with heq | ⟨passed, rfl⟩
      · rcases hal.last with rfl | rfl
        · exact absurd hid (by decide : TurnEchoCheck.id ≠ IceGatherCheck.id)
        · rw [heq] at hfail ⊢
          exact IceGatherCheck.run_relay hsome hrelayed hfail
      · exact absurd rfl hskip

/-! ## Two relays -/

namespace Sample

/-- The answer to the Binding request of the samples. -/
def bindingReply : List UInt8 :=
  message StunBindingCheck.bindingSuccess (txid 0)
    [⟨attr.xorMappedAddress, buildXorAddress srflx (txid 0)⟩]

/-- A network on which only the TURN server at `server` answers. Over the socket of the
allocation it does so with `replies`. -/
def env (replies : List (List UInt8)) : PipelineEnv where
  dns := ⟨fun _ => .ok [server], 0⟩
  stun := ⟨txid 0, fun _ => .ok (socket [bindingReply])⟩
  turnAlloc := allocEnv replies
  turnEcho := ⟨crypto, txid 3⟩
  turnsAlloc := ⟨crypto, txid 1, txid 2, fun _ => false, fun _ => (.elapsed, 0),
    fun _ _ => (.elapsed, 0)⟩
  iceGather := ⟨.ok []⟩
  signaling := ⟨fun _ => none, fun _ => none, fun _ _ _ => (.elapsed, 0)⟩
  dtls := ⟨fun _ => Vector.replicate 32 0, fun _ => (.elapsed, 0), fun _ _ => (.elapsed, 0)⟩
  elapsed := 0

/-- All pipelines run on the network of `replies`. -/
def cliEnv (replies : List (List UInt8)) : CliEnv where
  stdin := []
  hostFromUrl _ := none
  single := env replies
  fullSignaling := env replies
  fullStun := env replies
  fullTurn := env replies
  fullTurns := env replies
  fullElapsed := 0

/-- `ice turn:192.0.2.1 --user user --pass pass`. -/
def loginCommand : Command := .ice "turn:192.0.2.1" ⟨some "user", false⟩ ⟨some "pass", false⟩

/-- The pipeline of that command, on a network where the login is granted. -/
def loginJob : Job :=
  iceTurnJob (env [challenge (txid 1), grant (txid 2)]) ⟨"192.0.2.1", 3478⟩ (some "user")
    (some "pass")

/-- `turn turn:192.0.2.1 --echo-count 2`. -/
def anonymousCommand : Command := .turn "turn:192.0.2.1" ⟨none, false⟩ ⟨none, false⟩ 2

/-- The pipeline of that command, on a network where the first request is granted. -/
def anonymousJob : Job := turnJob (env [grant (txid 1)]) ⟨"192.0.2.1", 3478⟩ none none 2

theorem plan_loginCommand :
    plan (cliEnv [challenge (txid 1), grant (txid 2)]) loginCommand [] =
      .ok (.single "probing 192.0.2.1 (ice)" loginJob, []) := by
  have ht : parseStunLike "turn:192.0.2.1" ["stun", "turn"] 3478 = .ok ⟨"192.0.2.1", 3478⟩ := by
    decide
  simp only [plan, loginCommand, ht]
  rfl

theorem plan_anonymousCommand :
    plan (cliEnv [grant (txid 1)]) anonymousCommand [] =
      .ok (.single "probing 192.0.2.1 (turn)" anonymousJob, []) := by
  have ht : parseStunLike "turn:192.0.2.1" ["turn"] 3478 = .ok ⟨"192.0.2.1", 3478⟩ := by decide
  simp only [plan, anonymousCommand, ht]
  rfl

end Sample

open Sample

/-- The allocation with a login is usable, as its first reply is a challenge. -/
theorem usable_login :
    ∃ r, loginJob.result? 2 = some r ∧ r.status = .pass ∧ (Usable loginJob 2 relayed ↔
      ¬TurnAllocateCheck.GrantsAnonymous loginJob.env.turnAlloc (loginJob.ctxAt 2)) := by
  obtain ⟨r, hr, hpass⟩ := Option.map_eq_some_iff.1
    (by decide +kernel : (loginJob.result? 2).map CheckResult.status = some .pass)
  refine ⟨r, hr, hpass, usable_iff plan_loginCommand (List.mem_singleton_self _)
    rfl hr hpass ?_⟩
  have hrep : (loginJob.result? 2).bind (·.detailStr? "relayed") = some (toString relayed) := by
    decide +kernel
  rwa [hr] at hrep

/-- A server that grants the first request. The allocation passes and reports its relay
address, there is no session, and the echo check ends for want of it. -/
theorem usable_anonymous :
    plan (cliEnv [grant (txid 1)]) anonymousCommand [] =
        .ok (.single "probing 192.0.2.1 (turn)" anonymousJob, []) ∧
      (∃ r, anonymousJob.result? 2 = some r ∧ r.status = .pass ∧
        TurnAllocateCheck.Reports r relayed) ∧
      (anonymousJob.ctxAt 3).turnSession.isNone ∧
      (anonymousJob.result? 3).map CheckResult.summary = some "no TURN session in context" ∧
      ¬Usable anonymousJob 2 relayed := by
  have hnone : (anonymousJob.ctxAt 3).turnSession.isNone := by decide +kernel
  refine ⟨plan_anonymousCommand, ?_, hnone, by decide +kernel, ?_⟩
  · obtain ⟨r, hr, hpass⟩ := Option.map_eq_some_iff.1
      (by decide +kernel : (anonymousJob.result? 2).map CheckResult.status = some .pass)
    have hrep : (anonymousJob.result? 2).bind (·.detailStr? "relayed") =
        some (toString relayed) := by decide +kernel
    rw [hr] at hrep
    exact ⟨r, hr, hpass, hrep⟩
  · rintro ⟨⟨session, -, -, hsome, -⟩, -, -⟩
    rw [hsome] at hnone
    cases hnone

end WebrtcDoctor
