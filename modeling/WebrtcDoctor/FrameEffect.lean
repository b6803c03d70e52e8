import WebrtcDoctor.NetAddrRoundTrip
import WebrtcDoctor.Session

/-!
# What the checks change

The nine checks share one context. A check that does not pass leaves it as it was, and one that
passes writes only its own fields (`ProbeCheck.run_writes`). Along a run the context changes only
where a check passes (`stateAt_succ_writes`), so what a run leaves under `srflx` and in the
resolved addresses says which checks passed (`frame_effect`).
-/

open NetAddr

namespace WebrtcDoctor

/-- One of the checks, with what the outside world gives it. -/
inductive ProbeCheck where
  | dns (env : DnsEnv)
  | stun (env : StunEnv)
  | turnAlloc (env : TurnAllocEnv)
  | turnsAlloc (env : TurnsAllocEnv)
  | turnEcho (env : TurnEchoEnv)
  | iceGather (env : IceGatherEnv)
  | signaling (env : SignalingEnv) (self : SignalingCheck)
  | dtlsLoopback (env : DtlsEnv)
  | dtlsRemote (env : DtlsEnv)

namespace ProbeCheck

/-- The check as the pipeline runs it. -/
def check : ProbeCheck → Check ProbeContext
  | dns env => DnsCheck.check env
  | stun env => StunBindingCheck.check env
  | turnAlloc env => TurnAllocateCheck.check env
  | turnsAlloc env => TurnsAllocateCheck.check env
  | turnEcho env => TurnEchoCheck.check env
  | iceGather env => IceGatherCheck.check env
  | signaling env self => SignalingCheck.check env self
  | dtlsLoopback env => DtlsLoopbackCheck.check env
  | dtlsRemote env => DtlsRemoteCheck.check env

/-- The addresses of `addrs`, each once, in the order in which they first come. -/
structure Resolved (addrs : List SocketAddr) (ips : List IpAddr) : Prop where
  ne_nil : ips ≠ []
  nodup : ips.Nodup
  mem_iff : ∀ ip, ip ∈ ips ↔ ip ∈ addrs.map SocketAddr.ip
  inOrder : ips.Pairwise fun a b =>
    (addrs.map SocketAddr.ip).idxOf a < (addrs.map SocketAddr.ip).idxOf b

/-- What a pass of the check makes of a context. -/
def Writes : ProbeCheck → ProbeContext → ProbeContext → Prop
  | dns env, ctx, ctx' => ∃ query addrs ips, env.lookupHost query = .ok addrs ∧
      Resolved addrs ips ∧ ctx' = { ctx with resolvedIps := ips }
  | stun env, ctx, ctx' => ∃ srflx, StunBindingCheck.Decodes env ctx srflx ∧
      ctx' = ctx.insertScratch "srflx" (toString srflx)
  | turnAlloc _, ctx, ctx' => ∃ relayed session,
      ctx' = { ctx.insertScratch "relayed" relayed with turnSession := session }
  | turnsAlloc _, ctx, ctx' => ∃ relayed : SocketAddr,
      ctx' = ctx.insertScratch "relayed" (toString relayed)
  | turnEcho _, ctx, ctx' | iceGather _, ctx, ctx' | signaling _ _, ctx, ctx'
  | dtlsLoopback _, ctx, ctx' | dtlsRemote _, ctx, ctx' => ctx' = ctx

/-- The addresses kept are those resolved, each once. -/
theorem resolved_dedupIps {addrs : List SocketAddr} (h : DnsCheck.dedupIps addrs ≠ []) :
    Resolved addrs (DnsCheck.dedupIps addrs) :=
  ⟨h, DnsCheck.nodup_dedupIps addrs, DnsCheck.mem_dedupIps addrs, DnsCheck.dedupIps_pairwise addrs⟩

/-- Each check leaves the context alone, or passes and writes its own fields. -/
theorem run_writes (c : ProbeCheck) (ctx : ProbeContext) :
    Leaves ctx (c.Writes ctx) (c.check.run ctx) := by
  cases c with
  | dns env =>
    refine (DnsCheck.run_resolves env ctx).mono ?_
    rintro _ ⟨query, addrs, hlookup, hne, rfl⟩
    exact ⟨query, addrs, _, hlookup, resolved_dedupIps hne, rfl⟩
  | stun env => exact StunBindingCheck.run_decodes env ctx
  | turnAlloc env => exact TurnAllocateCheck.run_leaves env ctx
  | turnsAlloc env => exact TurnsAllocateCheck.run_leaves env ctx
  | turnEcho env => exact TurnEchoCheck.run_leaves env ctx
  | iceGather env => exact (IceGatherCheck.run_leaves env ctx).1
  | signaling env self => exact (SignalingCheck.run_leaves env self ctx).1
  | dtlsLoopback env => exact (DtlsLoopbackCheck.run_leaves env ctx).1
  | dtlsRemote env => exact DtlsRemoteCheck.run_leaves env ctx

/-- Only a DNS check writes the resolved addresses. -/
theorem Writes.resolvedIps {c : ProbeCheck} {ctx ctx' : ProbeContext} (h : c.Writes ctx ctx')
    (hdns : ∀ env, c ≠ dns env) : ctx'.resolvedIps = ctx.resolvedIps := by
  cases c with
  | dns env => exact absurd rfl (hdns env)
  | stun env => obtain ⟨srflx, -, rfl⟩ := h; rfl
  | turnAlloc env => obtain ⟨relayed, session, rfl⟩ := h; rfl
  | turnsAlloc env => obtain ⟨relayed, rfl⟩ := h; rfl
  | turnEcho env => rw [show ctx' = ctx from h]
  | iceGather env => rw [show ctx' = ctx from h]
  | signaling env self => rw [show ctx' = ctx from h]
  | dtlsLoopback env => rw [show ctx' = ctx from h]
  | dtlsRemote env => rw [show ctx' = ctx from h]

/-- Only a STUN check writes under `srflx`. -/
theorem Writes.srflx {c : ProbeCheck} {ctx ctx' : ProbeContext} (h : c.Writes ctx ctx')
    (hstun : ∀ env, c ≠ stun env) : ctx'.scratch "srflx" = ctx.scratch "srflx" := by
  have hne : "srflx" ≠ "relayed" := by decide
  cases c with
  | dns env => obtain ⟨query, addrs, ips, -, -, rfl⟩ := h; rfl
  | stun env => exact absurd rfl (hstun env)
  | turnAlloc env =>
    obtain ⟨relayed, session, rfl⟩ := h
    exact ProbeContext.insertScratch_scratch_of_ne ctx relayed hne
  | turnsAlloc env =>
    obtain ⟨relayed, rfl⟩ := h
    exact ProbeContext.insertScratch_scratch_of_ne ctx _ hne
  | turnEcho env => rw [show ctx' = ctx from h]
  | iceGather env => rw [show ctx' = ctx from h]
  | signaling env self => rw [show ctx' = ctx from h]
  | dtlsLoopback env => rw [show ctx' = ctx from h]
  | dtlsRemote env => rw [show ctx' = ctx from h]

end ProbeCheck

/-! ## Runs -/

/-- Nothing has been found yet. -/
structure ProbeContext.Fresh (ctx : ProbeContext) : Prop where
  resolvedIps : ctx.resolvedIps = []
  turnSession : ctx.turnSession = none
  scratch : ∀ key, ctx.scratch key = none

section

variable (cs : List ProbeCheck) (ctx : ProbeContext)

/-- The checks as the pipeline runs them. -/
def checksOf : List (Check ProbeContext) := cs.map ProbeCheck.check

/-- The context before check `k`. -/
def ctxAt (k : ℕ) : ProbeContext := (Pipeline.stateAt (checksOf cs) ctx k).ctx

/-- Check `k` passed. -/
def PassedAt (k : ℕ) : Prop :=
  ((Pipeline.run (checksOf cs) ctx 0).2.results[k]?).map CheckResult.status = some .pass

/-- A check of the run passes and writes its own fields, or leaves the context alone. -/
theorem stateAt_succ_writes {k : ℕ} {c : ProbeCheck} (hk : cs[k]? = some c) :
    PassedAt cs ctx k ∧ c.Writes (ctxAt cs ctx k) (ctxAt cs ctx (k + 1)) ∨
      ¬PassedAt cs ctx k ∧ ctxAt cs ctx (k + 1) = ctxAt cs ctx k := by
  have hlt : k < (checksOf cs).length := by
    rw [checksOf, List.length_map]
    exact (List.getElem?_eq_some_iff.1 hk).1
  have hcheck : (checksOf cs)[k] = c.check := by
    obtain ⟨hk', rfl⟩ := List.getElem?_eq_some_iff.1 hk
    simp [checksOf]
  obtain ⟨r, hr, hrun, hskip⟩ := Pipeline.stateAt_succ_cases (checksOf cs) ctx hlt
  by_cases hgate : Pipeline.Gate (checksOf cs) ctx k
  · have hrun := hrun hgate
    rw [hcheck] at hrun
    have hleaves := c.run_writes (ctxAt cs ctx k)
    rw [ctxAt, hrun] at hleaves
    rw [PassedAt, Pipeline.results_run, hr]
    rcases hleaves with ⟨hpass, hwrites⟩ | ⟨hne, hctx⟩
    · exact Or.inl ⟨congrArg some hpass, hwrites⟩
    · exact Or.inr ⟨fun h => hne (Option.some.inj h), hctx⟩
  · obtain ⟨rfl, hctx⟩ := hskip hgate
    refine Or.inr ⟨?_, hctx⟩
    rw [PassedAt, Pipeline.results_run, hr]
    simp [Pipeline.skipped]

/-- What the passes of one kind of check bring about, and no other takes away or brings about,
holds at a point of a run exactly if one of that kind has passed. -/
theorem ctxAt_iff {ε : Type} {make : ε → ProbeCheck} {P : ProbeContext → Prop} (h₀ : ¬P ctx)
    (hkind : ∀ env ctx ctx', (make env).Writes ctx ctx' → P ctx')
    (hother : ∀ c ctx ctx', (∀ env, c ≠ make env) → c.Writes ctx ctx' → (P ctx' ↔ P ctx)) :
    ∀ k ≤ cs.length, P (ctxAt cs ctx k) ↔
      ∃ j < k, ∃ env, cs[j]? = some (make env) ∧ PassedAt cs ctx j
  | 0, _ => by simp [ctxAt, Pipeline.stateAt, h₀]
  | k + 1, hk => by
    rw [Nat.exists_lt_succ_right, ← ctxAt_iff h₀ hkind hother k (Nat.le_of_succ_le hk)]
    have hc := List.getElem?_eq_getElem hk
    rcases stateAt_succ_writes cs ctx hc with ⟨hpass, hwrites⟩ | ⟨hne, hctx⟩
    · by_cases hmake : ∃ env, cs[k] = make env
      · obtain ⟨env, henv⟩ := hmake
        rw [henv] at hc hwrites
        exact iff_of_true (hkind _ _ _ hwrites) (Or.inr ⟨env, hc, hpass⟩)
      · rw [hother _ _ _ (fun env henv => hmake ⟨env, henv⟩) hwrites]
        refine ⟨Or.inl, fun h => h.resolve_right ?_⟩
        rintro ⟨env, henv, -⟩
        exact hmake ⟨env, Option.some.inj (hc.symm.trans henv)⟩
    · rw [hctx]
      refine ⟨Or.inl, fun h => h.resolve_right ?_⟩
      rintro ⟨-, -, hpass⟩
      exact hne hpass

/-- At the end of a run. -/
theorem ctxAt_length_iff {ε : Type} (make : ε → ProbeCheck) (P : ProbeContext → Prop)
    (h₀ : ¬P ctx) (hkind : ∀ env ctx ctx', (make env).Writes ctx ctx' → P ctx')
    (hother : ∀ c ctx ctx', (∀ env, c ≠ make env) → c.Writes ctx ctx' → (P ctx' ↔ P ctx)) :
    P (ctxAt cs ctx cs.length) ↔ ∃ k env, cs[k]? = some (make env) ∧ PassedAt cs ctx k := by
  rw [ctxAt_iff cs ctx h₀ hkind hother cs.length le_rfl]
  constructor
  · rintro ⟨k, -, h⟩
    exact ⟨k, h⟩
  · rintro ⟨k, env, hk, hpass⟩
    exact ⟨k, (List.getElem?_eq_some_iff.1 hk).1, env, hk, hpass⟩

/-- Between two points of a run with no pass of a STUN check, `srflx` stays as it is. -/
theorem srflx_ctxAt {i : ℕ} : ∀ {k : ℕ}, i ≤ k → k ≤ cs.length →
    (∀ j, i ≤ j → j < k → ∀ env, cs[j]? = some (.stun env) → ¬PassedAt cs ctx j) →
    (ctxAt cs ctx k).scratch "srflx" = (ctxAt cs ctx i).scratch "srflx" := by
  intro k hik
  induction k, hik using Nat.le_induction with
  | base => exact fun _ _ => rfl
  | succ k hik ih =>
    intro hk hno
    rw [← ih (Nat.le_of_succ_le hk) fun j hij hjk => hno j hij (Nat.lt_succ_of_lt hjk)]
    have hc := List.getElem?_eq_getElem hk
    rcases stateAt_succ_writes cs ctx hc with ⟨hpass, hwrites⟩ | ⟨-, hctx⟩
    · exact hwrites.srflx fun env henv =>
        hno k hik (Nat.lt_succ_self k) env (hc.trans (congrArg some henv)) hpass
    · rw [hctx]

end

/-- A check that does not pass leaves the context as it was, and one that passes writes only its
own fields. So after a run from a fresh context, there is something under `srflx` exactly if a
STUN check passed, it reads back as the address that the last of them decoded, and there are
resolved addresses exactly if a DNS check passed. -/
theorem frame_effect :
    (∀ (c : ProbeCheck) (ctx : ProbeContext),
      ((c.check.run ctx).2.status ≠ .pass → (c.check.run ctx).1 = ctx) ∧
      ((c.check.run ctx).2.status = .pass → c.Writes ctx (c.check.run ctx).1)) ∧
    ∀ (cs : List ProbeCheck) (ctx : ProbeContext) (elapsed : ℕ), ctx.Fresh →
      let last := (Pipeline.run (checksOf cs) ctx elapsed).1
      ((last.scratch "srflx").isSome ↔
        ∃ k env, cs[k]? = some (.stun env) ∧ PassedAt cs ctx k) ∧
      (∀ k env, cs[k]? = some (.stun env) → PassedAt cs ctx k →
        (∀ j env', k < j → cs[j]? = some (.stun env') → ¬PassedAt cs ctx j) →
          ∃ srflx, StunBindingCheck.Decodes env (ctxAt cs ctx k) srflx ∧
            last.scratch "srflx" = some (toString srflx) ∧
            SocketAddr.parse (toString srflx) = some srflx) ∧
      (last.resolvedIps ≠ [] ↔ ∃ k env, cs[k]? = some (.dns env) ∧ PassedAt cs ctx k) := by
  refine ⟨fun c ctx => ⟨fun hne => ?_, fun hpass => (c.run_writes ctx).on_pass hpass⟩,
    fun cs ctx elapsed hfresh => ?_⟩
  · rcases c.run_writes ctx with ⟨hpass, -⟩ | ⟨-, hctx⟩
    · exact absurd hpass hne
    · exact hctx
  have hlast : (Pipeline.run (checksOf cs) ctx elapsed).1 = ctxAt cs ctx cs.length := by
    rw [ctxAt, Pipeline.run, ← Pipeline.stateAt_length, checksOf, List.length_map]
  intro last
  rw [show last = ctxAt cs ctx cs.length from hlast]
  refine ⟨?_, fun k env hk hpass hno => ?_, ?_⟩
  · refine ctxAt_length_iff cs ctx ProbeCheck.stun (fun ctx => (ctx.scratch "srflx").isSome)
      (by simp [hfresh.scratch]) ?_ ?_
    · rintro env ctx _ ⟨srflx, -, rfl⟩
      simp
    · intro c ctx ctx' hc hwrites
      rw [hwrites.srflx hc]
  · have hlt := (List.getElem?_eq_some_iff.1 hk).1
    rcases stateAt_succ_writes cs ctx hk with ⟨-, srflx, hdec, hctx⟩ | ⟨hne, -⟩
    · refine ⟨srflx, hdec, ?_, SocketAddr.parse_display srflx⟩
      rw [srflx_ctxAt cs ctx hlt le_rfl fun j hkj _ env' hj => hno j env' hkj hj, hctx,
        ProbeContext.insertScratch_scratch_self]
    · exact absurd hpass hne
  · refine ctxAt_length_iff cs ctx ProbeCheck.dns (fun ctx => ctx.resolvedIps ≠ [])
      (by simp [hfresh.resolvedIps]) ?_ ?_
    · rintro env ctx _ ⟨query, addrs, ips, -, hips, rfl⟩
      exact hips.ne_nil
    · intro c ctx ctx' hc hwrites
      rw [hwrites.resolvedIps hc]

namespace Sample

/-- DNS and STUN on the network of the login. -/
def bindingChecks : List ProbeCheck := [.dns (env []).dns, .stun (env []).stun]

/-- A fresh context for that server. -/
def bindingCtx : ProbeContext :=
  { ProbeContext.new with host := some "192.0.2.1", port := some 3478 }

end Sample

open Sample in
/-- A run of DNS and STUN leaves the mapped address and the addresses. -/
theorem frame_effect_binding :
    ((Pipeline.run (checksOf bindingChecks) bindingCtx 0).1.scratch "srflx").isSome ∧
      (Pipeline.run (checksOf bindingChecks) bindingCtx 0).1.resolvedIps ≠ [] ∧
      ∃ srflx, (Pipeline.run (checksOf bindingChecks) bindingCtx 0).1.scratch "srflx" =
        some (toString srflx) ∧ SocketAddr.parse (toString srflx) = some srflx := by
  obtain ⟨hsome, hlast, hips⟩ := frame_effect.2 bindingChecks bindingCtx 0 ⟨rfl, rfl, fun _ => rfl⟩
  have hdns : PassedAt bindingChecks bindingCtx 0 := by unfold PassedAt; decide +kernel
  have hstun : PassedAt bindingChecks bindingCtx 1 := by unfold PassedAt; decide +kernel
  refine ⟨hsome.2 ⟨1, _, rfl, hstun⟩, hips.2 ⟨0, _, rfl, hdns⟩, ?_⟩
  obtain ⟨srflx, -, h⟩ := hlast 1 _ rfl hstun fun j env' hj hget => by
    have := (List.getElem?_eq_some_iff.1 hget).1
    simp only [bindingChecks, List.length_cons, List.length_nil] at this
    omega
  exact ⟨srflx, h⟩

end WebrtcDoctor
