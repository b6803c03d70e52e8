import WebrtcDoctor.AddressBlock
import WebrtcDoctor.NetAddrRoundTrip
import WebrtcDoctor.Session

/-!
# What the ice subcommand lists

In its own terms : a local address can be a candidate unless it is in one of the blocks set aside
for this host, this link, multicast and broadcast (`Reserved`), and `expected` are the candidates of
a host that sees the reflexive address `srflx` and may hold a relayed one. The filter of the source
is `Reserved` (`isUsefulHostAddress_iff`), and once STUN has passed `ice.gather` lists `expected`,
or it failed to enumerate the interfaces (`ice_gathers`). The warning for no candidates is never
given.
-/

open AddressBlock NetAddr

namespace WebrtcDoctor

/-! ## Local addresses -/

/-- `0.0.0.0/32`, `127.0.0.0/8`, `169.254.0.0/16`, `224.0.0.0/4` and `255.255.255.255/32`. -/
def reservedV4 : List (Block 32) :=
  [{ bits := 0, len := 32 }, { bits := 127, len := 8 }, { bits := 43518, len := 16 },
    { bits := 14, len := 4 }, { bits := 0xFFFFFFFF, len := 32 }]

/-- `::/128`, `::1/128`, `ff00::/8` and `fe80::/10`. -/
def reservedV6 : List (Block 128) :=
  [{ bits := 0, len := 128 }, { bits := 1, len := 128 }, { bits := 0xFF, len := 8 },
    { bits := 0x3FA, len := 10 }]

/-- The address is in a block that is set aside. -/
def Reserved : IpAddr → Prop
  | .v4 bits => ∃ b ∈ reservedV4, b.Contains bits.toNat
  | .v6 octets => ∃ b ∈ reservedV6, b.Contains (ofGroups 16 (segments octets))

instance : DecidablePred Reserved
  | .v4 bits => inferInstanceAs (Decidable (∃ b ∈ reservedV4, b.Contains bits.toNat))
  | .v6 octets =>
    inferInstanceAs (Decidable (∃ b ∈ reservedV6, b.Contains (ofGroups 16 (segments octets))))

namespace IceGatherCheck

/-- An IPv4 address is useful exactly if it lies in none of the reserved blocks. -/
theorem isUsefulV4_iff (bits : UInt32) : isUsefulV4 bits = true ↔ ¬Reserved (.v4 bits) := by
  have hlt := bits.toNat_lt
  simp only [isUsefulV4, BigEndian.ofU32, Reserved, reservedV4, Block.Contains,
    ← UInt8.toNat_inj, ← UInt32.toNat_inj, UInt8.le_iff_toNat_le]
  simp
  omega

/-- The first 16 bits of an IPv6 address. -/
theorem ofGroups_segments_div (octets : Vector UInt8 16) :
    ofGroups 16 (segments octets) / 2 ^ 112 = (segments octets).headD 0 := by
  have hlen : (segments octets).length = 8 := by simp [segments]
  have hlt := segments_lt octets
  generalize segments octets = segs at hlen hlt
  obtain ⟨first, rest, rfl⟩ := List.exists_cons_of_length_eq_add_one hlen
  have hdiv : ofGroups 16 ([first] ++ rest) / 2 ^ (16 * rest.length) = ofGroups 16 [first] :=
    ofGroups_append_div hlt
  rw [show rest.length = 7 from Nat.succ.inj hlen] at hdiv
  rw [List.headD_cons, ← List.singleton_append, show 2 ^ 112 = 2 ^ (16 * 7) from rfl, hdiv,
    ofGroups, List.reverse_singleton, Nat.ofDigits_singleton]

/-- The mask of `fe80::/10` keeps the first ten bits. -/
theorem and_mask {n : ℕ} (hn : n < 2 ^ 16) : n &&& 0xFFC0 = n / 2 ^ 6 * 2 ^ 6 := by
  refine Nat.eq_of_testBit_eq fun i => ?_
  rw [show 0xFFC0 = (2 ^ 10 - 1) * 2 ^ 6 from rfl, Nat.testBit_and, Nat.testBit_mul_two_pow,
    Nat.testBit_mul_two_pow, Nat.testBit_two_pow_sub_one, Nat.testBit_div_two_pow]
  by_cases hi : 6 ≤ i
  · rw [Nat.sub_add_cancel hi, decide_eq_true hi, Bool.true_and, Bool.true_and]
    by_cases hlt : i - 6 < 10
    · rw [decide_eq_true hlt, Bool.and_true]
    · rw [Nat.testBit_lt_two_pow (hn.trans_le (Nat.pow_le_pow_right (by decide) (by omega))),
        Bool.false_and]
  · rw [decide_eq_false hi, Bool.false_and, Bool.false_and, Bool.and_false]

/-- An IPv6 address is useful exactly if it lies in none of the reserved blocks. -/
theorem isUsefulV6_iff (octets : Vector UInt8 16) :
    isUsefulV6 octets = true ↔ ¬Reserved (.v6 octets) := by
  have hlen : (segments octets).length = 8 := by simp [segments]
  have hexact : ∀ segs : List ℕ, segs.length = 8 → (∀ s ∈ segs, s < 2 ^ 16) →
      (segments octets = segs ↔ ofGroups 16 (segments octets) = ofGroups 16 segs) :=
    fun segs hsegs hlt =>
      (ofGroups_inj (by decide) (hlen.trans hsegs.symm) (segments_lt octets) hlt).symm
  have hone : segments octets = [0, 0, 0, 0, 0, 0, 0, 1] ↔ ofGroups 16 (segments octets) = 1 :=
    hexact _ rfl (by decide)
  have hzero : segments octets = [0, 0, 0, 0, 0, 0, 0, 0] ↔ ofGroups 16 (segments octets) = 0 :=
    hexact _ rfl (by decide)
  have hfirst : ofGroups 16 (segments octets) / 2 ^ 112 =
      octets[0].toNat * 256 + octets[1].toNat := by
    rw [ofGroups_segments_div]
    simp [segments]
  have h0 := octets[0].toNat_lt
  have h1 := octets[1].toNat_lt
  have hmulticast : octets[0] = 0xFF ↔ ofGroups 16 (segments octets) / 2 ^ 120 = 0xFF := by
    rw [← UInt8.toNat_inj, show 2 ^ 120 = 2 ^ 112 * 2 ^ 8 from rfl, ← Nat.div_div_eq_div_mul,
      hfirst, show (0xFF : UInt8).toNat = 255 from rfl]
    omega
  have hlink : BigEndian.toU16 octets[0] octets[1] &&& 0xFFC0 = 0xFE80 ↔
      ofGroups 16 (segments octets) / 2 ^ 118 = 0x3FA := by
    rw [← UInt16.toNat_inj, UInt16.toNat_and, BigEndian.toNat_toU16,
      show (0xFFC0 : UInt16).toNat = 0xFFC0 from rfl, and_mask (by omega),
      show 2 ^ 118 = 2 ^ 112 * 2 ^ 6 from rfl, ← Nat.div_div_eq_div_mul, hfirst,
      show (0xFE80 : UInt16).toNat = 0xFE80 from rfl]
    omega
  have hreserved : Reserved (.v6 octets) ↔ segments octets = [0, 0, 0, 0, 0, 0, 0, 0] ∨
      segments octets = [0, 0, 0, 0, 0, 0, 0, 1] ∨ octets[0] = 0xFF ∨
      BigEndian.toU16 octets[0] octets[1] &&& 0xFFC0 = 0xFE80 := by
    rw [hzero, hone, hmulticast, hlink]
    simp [Reserved, reservedV6, Block.Contains]
  rw [hreserved, isUsefulV6]
  grind

/-- An address is useful exactly if it lies in none of the reserved blocks. -/
theorem isUsefulHostAddress_iff (ip : IpAddr) :
    isUsefulHostAddress ip = true ↔ ¬Reserved ip := by
  cases ip with
  | v4 bits => exact isUsefulV4_iff bits
  | v6 octets => exact isUsefulV6_iff octets

end IceGatherCheck

/-! ## Candidates -/

/-- The URL under which a candidate was learnt. -/
def Target.via (t : Target) (scheme : String) : String := s!"{scheme}:{t.host}:{t.port}"

/-- The candidates of a host with the interfaces `ifs` that asked the server at `t`. -/
def expected (ifs : List Interface) (t : Target) (srflx : SocketAddr)
    (relayed : Option SocketAddr) : List Candidate :=
  ((ifs.filter fun i => ¬Reserved i.ip).map fun i =>
      ⟨.host, toString i.ip, 0, some i.name, none⟩) ++
    ⟨.srflx, toString srflx.ip, srflx.port, none, some (t.via "stun")⟩ ::
    (relayed.toList.map fun a =>
      ⟨.relay, toString a.ip, a.port, none, some (t.via "turn")⟩)

/-- What the checks before `ice.gather` leave in the context. -/
structure Prepared (t : Target) (srflx : SocketAddr) (relayed : Option SocketAddr)
    (ctx : ProbeContext) : Prop where
  host : ctx.host = some t.host
  port : ctx.port = some t.port
  srflx : ctx.scratch "srflx" = some (toString srflx)
  session : ctx.turnSession.map TurnSession.relayed = relayed

namespace IceGatherCheck

variable {t : Target} {srflx : SocketAddr} {relayed : Option SocketAddr} {ctx : ProbeContext}

/-- The candidates gathered are those expected. -/
theorem gather_of_prepared (h : Prepared t srflx relayed ctx) (ifs : List Interface) :
    gather ctx ifs = expected ifs t srflx relayed := by
  have hhosts : hostCandidates ifs = (ifs.filter fun i => ¬Reserved i.ip).map fun i =>
      ⟨.host, toString i.ip, 0, some i.name, none⟩ := by
    rw [hostCandidates]
    refine congrArg (List.map _) (List.filter_congr fun i _ => ?_)
    rw [Bool.eq_iff_iff, isUsefulHostAddress_iff, decide_eq_true_eq]
  have hvia : ∀ scheme, viaUrl ctx scheme = some (t.via scheme) := by
    intro scheme
    rw [viaUrl, h.host, h.port]
    rfl
  have hsrflx : srflxCandidates ctx =
      [⟨.srflx, toString srflx.ip, srflx.port, none, some (t.via "stun")⟩] := by
    rw [srflxCandidates, h.srflx, Option.bind_some, SocketAddr.parse_display, hvia]
  have hrelay : relayCandidates ctx = relayed.toList.map fun a =>
      ⟨.relay, toString a.ip, a.port, none, some (t.via "turn")⟩ := by
    rw [relayCandidates, ← h.session]
    cases ctx.turnSession with
    | none => rfl
    | some session =>
      dsimp only
      rw [hvia]
      rfl
  rw [gather, hhosts, hsrflx, hrelay, List.append_assoc, List.singleton_append, expected]

/-- In a prepared context a run passes and lists what is expected, if it can list the interfaces. -/
theorem run_of_prepared (h : Prepared t srflx relayed ctx) (env : IceGatherEnv) :
    match env.getIfAddrs with
    | .error _ => (run env ctx).2.status = .fail
    | .ok ifs => (run env ctx).2.status = .pass ∧
      (run env ctx).2.detail = some (detail (expected ifs t srflx relayed)) := by
  unfold run
  cases env.getIfAddrs with
  | error e => rfl
  | ok ifs =>
    have hne : (gather ctx ifs).isEmpty = false := by
      rw [gather_of_prepared h, expected]
      simp
    dsimp only
    rw [hne, gather_of_prepared h]
    exact ⟨rfl, rfl⟩

end IceGatherCheck

/-! ## Pipelines -/

/-- The pipelines of the ice subcommand for a target, with `ice.gather` as check `k`. -/
inductive Job.Gathers (t : Target) : ℕ → Job → Prop
  | stun (env : PipelineEnv) : Gathers t 2 (iceStunJob env t)
  | turn (env : PipelineEnv) (user pass : Option String) : Gathers t 3 (iceTurnJob env t user pass)

/-- The allocation passed with the relay address `relayed`, and not anonymously. -/
def Job.Relays (job : Job) (relayed : SocketAddr) : Prop :=
  job.HasCheck 2 TurnAllocateCheck.id ∧ ∃ r, job.result? 2 = some r ∧ r.status = .pass ∧
    TurnAllocateCheck.Reports r relayed ∧
    ¬TurnAllocateCheck.GrantsAnonymous job.env.turnAlloc (job.ctxAt 2)

/-- A pass of the binding check reports the address it leaves. -/
theorem StunBindingCheck.run_pass {env : StunEnv} {ctx : ProbeContext}
    (h : (run env ctx).2.status = .pass) : ∃ srflx : SocketAddr,
      (run env ctx).2.detailStr? "srflx" = some (toString srflx) ∧
      (run env ctx).1 = ctx.insertScratch "srflx" (toString srflx) := by
  unfold run at h ⊢
  split at h
  · cases h
  split at h
  · cases h
  dsimp only at h ⊢
  split at h
  · cases h
  split at h
  · cases h
  split at h
  · cases h
  · cases h
  split at h
  · exact ⟨_, rfl, rfl⟩
  · cases h

namespace Job.Gathers

variable {t : Target} {k : ℕ} {job : Job}

/-- A pipeline that gathers begins with DNS and STUN. -/
theorem checks (h : job.Gathers t k) : ∃ more, job.checks =
    DnsCheck.check job.env.dns :: StunBindingCheck.check job.env.stun :: more := by
  cases h <;> exact ⟨_, rfl⟩

/-- What the target and the allocation make of a context is there from the start. -/
theorem start (h : job.Gathers t k) : job.ctx.host = some t.host ∧ job.ctx.port = some t.port ∧
    job.ctx.turnSession = none := by
  cases h <;> exact ⟨rfl, rfl, rfl⟩

/-- A binding that passed prepares the context, and shows the address. -/
theorem prepared_two (h : job.Gathers t k) {r : CheckResult} (hr : job.result? 1 = some r)
    (hpass : r.status = .pass) : ∃ srflx : SocketAddr,
      r.detailStr? "srflx" = some (toString srflx) ∧ Prepared t srflx none (job.ctxAt 2) := by
  obtain ⟨more, hchecks⟩ := h.checks
  obtain ⟨hhost, hport, hsession⟩ := h.start
  have hlen : 1 < job.checks.length := by simp [hchecks]
  have hone : (job.ctxAt 1).host = some t.host ∧ (job.ctxAt 1).port = some t.port ∧
      (job.ctxAt 1).turnSession = none := by
    have hdns : (DnsCheck.run job.env.dns job.ctx).1.host = some t.host ∧
        (DnsCheck.run job.env.dns job.ctx).1.port = some t.port ∧
        (DnsCheck.run job.env.dns job.ctx).1.turnSession = none := by
      rcases DnsCheck.run_leaves job.env.dns job.ctx with ⟨-, ip, more, hctx⟩ | ⟨-, hctx⟩ <;>
        rw [hctx] <;> exact ⟨hhost, hport, hsession⟩
    rcases Pipeline.ctx_stateAt_succ job.checks job.ctx (by omega : 0 < job.checks.length) with
      hc | hc
    · rw [Job.ctxAt, hc, List.getElem_of_eq hchecks]
      exact hdns
    · rw [Job.ctxAt, hc]
      exact ⟨hhost, hport, hsession⟩
  have hrun := Pipeline.run_eq_of_pass job.checks job.ctx hlen
    (by rw [← Job.result?_eq]; exact hr) hpass
  rw [List.getElem_of_eq hchecks] at hrun
  replace hrun : StunBindingCheck.run job.env.stun (job.ctxAt 1) = (job.ctxAt 2, r) := hrun
  obtain ⟨srflx, hshows, hctx⟩ := StunBindingCheck.run_pass (by rw [hrun]; exact hpass)
  rw [hrun] at hshows hctx
  refine ⟨srflx, hshows, ?_⟩
  rw [show job.ctxAt 2 = _ from hctx]
  exact ⟨hone.1, hone.2.1, ProbeContext.insertScratch_scratch_self _ _ _,
    by rw [ProbeContext.insertScratch_turnSession, hone.2.2]; rfl⟩

/-- The checks in between keep the context prepared, with the address the allocation reports. -/
theorem prepared (h : job.Gathers t k) {srflx : SocketAddr}
    (h₂ : Prepared t srflx none (job.ctxAt 2)) : ∃ relayed : Option SocketAddr,
      (∀ a, relayed = some a ↔ job.Relays a) ∧ Prepared t srflx relayed (job.ctxAt k) := by
  cases h with
  | stun env =>
    refine ⟨none, fun a => ⟨nofun, fun ⟨hid, _⟩ => ?_⟩, h₂⟩
    exact absurd (Option.some.inj hid) (show IceGatherCheck.id ≠ TurnAllocateCheck.id by decide)
  | turn env user pass =>
    set job := iceTurnJob env t user pass
    have hal : job.Allocates (IceGatherCheck.check env.iceGather) := ⟨rfl, Or.inr rfl, rfl⟩
    obtain ⟨r, hr, hrun, hskip⟩ := Pipeline.stateAt_succ_cases job.checks job.ctx
      (show 2 < 4 by decide)
    rw [← Job.result?_eq] at hr
    by_cases hpass : r.status = .pass
    · have halloc := hal.alloc_run hr hpass
      obtain ⟨relayed, port, ip, -, -, hrep, hcase⟩ :=
        TurnAllocateCheck.run_pass (by rw [halloc]; exact hpass)
      rw [halloc] at hrep hcase
      dsimp only at hrep hcase
      rcases hcase with ⟨hgrants, hctx⟩ | ⟨hng, session, -, hrelayed, hctx⟩
      · refine ⟨none, fun a => ⟨nofun, fun ⟨_, _, _, _, _, hng⟩ => absurd hgrants hng⟩, ?_⟩
        rw [hctx]
        exact ⟨h₂.host, h₂.port, by
          rw [ProbeContext.insertScratch_scratch_of_ne _ _ (by decide)]; exact h₂.srflx, h₂.session⟩
      · refine ⟨some relayed, fun a => ⟨?_, fun ⟨_, r', hr', _, hrep', _⟩ => ?_⟩, ?_⟩
        · rintro ⟨rfl⟩
          exact ⟨rfl, r, hr, hpass, hrep, hng⟩
        · rw [hr] at hr'
          cases hr'
          rw [hrep.unique hrep']
        · rw [hctx]
          exact ⟨h₂.host, h₂.port, by
            dsimp only
            rw [ProbeContext.insertScratch_scratch_of_ne _ _ (by decide)]; exact h₂.srflx,
            congrArg some hrelayed⟩
    · refine ⟨none, fun a => ⟨nofun, fun ⟨_, r', hr', hpass', _⟩ => ?_⟩, ?_⟩
      · rw [hr] at hr'
        cases hr'
        exact absurd hpass' hpass
      have hsame : job.ctxAt 3 = job.ctxAt 2 := by
        by_cases hgate : Pipeline.Gate job.checks job.ctx 2
        · have halloc : TurnAllocateCheck.run env.turnAlloc (job.ctxAt 2) = (job.ctxAt 3, r) :=
            hrun hgate
          rcases TurnAllocateCheck.run_leaves env.turnAlloc (job.ctxAt 2) with
            ⟨hpass', -⟩ | ⟨-, hctx⟩
          · rw [halloc] at hpass'
            exact absurd hpass' hpass
          · rwa [halloc] at hctx
        · exact (hskip hgate).2
      rw [hsame]
      exact h₂

/-- The gathering is the check at its place. -/
theorem getElem?_checks (h : job.Gathers t k) :
    job.checks[k]? = some (IceGatherCheck.check job.env.iceGather) := by
  cases h <;> rfl

/-- Check `k` is gated by the binding alone. -/
theorem gate_iff (h : job.Gathers t k) : Pipeline.Gate job.checks job.ctx k ↔
    ∃ r, job.result? 1 = some r ∧ r.status = .pass := by
  obtain ⟨hk, hget⟩ := List.getElem?_eq_some_iff.1 h.getElem?_checks
  have hpassed : ∀ j, Pipeline.PassedAs job.checks
      (Pipeline.stateAt job.checks job.ctx job.checks.length).results j StunBindingCheck.id ↔
      job.HasCheck j StunBindingCheck.id ∧ ∃ r, job.result? j = some r ∧ r.status = .pass := by
    intro j
    rw [Pipeline.PassedAs, ← Job.result?_eq, Job.HasCheck, List.getElem?_map]
    exact and_congr_right fun _ => Option.map_eq_some_iff
  rw [Pipeline.gate_iff job.checks job.ctx hk, hget]
  show (∀ id ∈ [StunBindingCheck.id], _) ↔ _
  rw [List.forall_mem_singleton]
  simp only [hpassed]
  constructor
  · rintro ⟨j, hj, hid, hpass⟩
    have hdns : DnsCheck.id ≠ StunBindingCheck.id := by decide
    have halloc : TurnAllocateCheck.id ≠ StunBindingCheck.id := by decide
    cases h with
    | stun env =>
      interval_cases j
      · exact absurd (Option.some.inj hid) hdns
      · exact hpass
    | turn env user pass =>
      interval_cases j
      · exact absurd (Option.some.inj hid) hdns
      · exact hpass
      · exact absurd (Option.some.inj hid) halloc
  · intro hpass
    refine ⟨1, by cases h <;> decide, by cases h <;> rfl, hpass⟩

end Job.Gathers

/-- The ice subcommand, on any network. Unless STUN passed, `ice.gather` is skipped. Once STUN
passed, it fails if the interfaces cannot be listed. Otherwise it passes, and lists the addresses of
the interfaces that are not set aside, the address that STUN reports, and the relay address exactly
if the allocation reports one that it did not get anonymously. -/
theorem ice_gathers {t : Target} {k : ℕ} {job : Job} (h : job.Gathers t k) :
    ∃ r₁ r, job.result? 1 = some r₁ ∧ job.result? k = some r ∧ job.HasCheck k IceGatherCheck.id ∧
      (r₁.status ≠ .pass → r.status = .skip) ∧
      (r₁.status = .pass → match job.env.iceGather.getIfAddrs with
        | .error _ => r.status = .fail
        | .ok ifs => r.status = .pass ∧ ∃ (srflx : SocketAddr) (relayed : Option SocketAddr),
          r₁.detailStr? "srflx" = some (toString srflx) ∧
          (∀ a, relayed = some a ↔ job.Relays a) ∧
          r.detail = some (IceGatherCheck.detail (expected ifs t srflx relayed))) := by
  obtain ⟨hk, hget⟩ := List.getElem?_eq_some_iff.1 h.getElem?_checks
  obtain ⟨more, hchecks⟩ := h.checks
  obtain ⟨r₁, hr₁, -⟩ := Pipeline.stateAt_succ_cases job.checks job.ctx
    (by simp [hchecks] : 1 < job.checks.length)
  obtain ⟨r, hr, hrun, hskip⟩ := Pipeline.stateAt_succ_cases job.checks job.ctx hk
  rw [← Job.result?_eq] at hr₁ hr
  rw [hget] at hrun hskip
  have hgate : Pipeline.Gate job.checks job.ctx k ↔ r₁.status = .pass := by
    rw [h.gate_iff, hr₁]
    simp
  have hid : job.HasCheck k IceGatherCheck.id := by
    rw [Job.HasCheck, List.getElem?_map, h.getElem?_checks]
    rfl
  refine ⟨r₁, r, hr₁, hr, hid, fun hne => ?_, fun hpass => ?_⟩
  · rw [(hskip (mt hgate.1 hne)).1]
    rfl
  obtain ⟨srflx, hshows, h₂⟩ := h.prepared_two hr₁ hpass
  obtain ⟨relayed, hrelays, hprepared⟩ := h.prepared h₂
  have hgather := IceGatherCheck.run_of_prepared hprepared job.env.iceGather
  have hresult : (IceGatherCheck.run job.env.iceGather (job.ctxAt k)).2 = r :=
    congrArg Prod.snd (hrun (hgate.2 hpass))
  rw [hresult] at hgather
  split at hgather
  · exact hgather
  · exact ⟨hgather.1, srflx, relayed, hshows, hrelays, hgather.2⟩

namespace Sample

/-- Loopback, a private address, a link-local one of each family, and a global one. -/
def interfaces : List Interface :=
  [⟨"lo", .v4 0x7F000001⟩, ⟨"eth0", .v4 0xC0A80105⟩, ⟨"eth1", .v4 0xA9FE0001⟩,
    ⟨"eth0", .v6 #v[0xFE, 0x80, 0, 0, 0, 0, 0, 0, 0, 0, 0, 0, 0, 0, 0, 1]⟩,
    ⟨"eth0", .v6 #v[0x20, 1, 0xD, 0xB8, 0, 0, 0, 0, 0, 0, 0, 0, 0, 0, 0, 1]⟩]

/-- The network of the login, on a machine with these interfaces. -/
def gatherEnv : PipelineEnv :=
  { env [challenge (txid 1), grant (txid 2)] with iceGather := ⟨.ok interfaces⟩ }

/-- `ice` with the login on that machine. -/
def gatherJob : Job := iceTurnJob gatherEnv ⟨"192.0.2.1", 3478⟩ (some "user") (some "pass")

theorem gathers_gatherJob : gatherJob.Gathers ⟨"192.0.2.1", 3478⟩ 3 := .turn _ _ _

end Sample

open Sample

/-- Two of five interface addresses are listed, and the addresses of both servers' answers. -/
theorem ice_gathers_login :
    ∃ r, gatherJob.result? 3 = some r ∧ r.status = .pass ∧
      ∃ srflx relayed, r.detail = some (IceGatherCheck.detail
        (expected interfaces ⟨"192.0.2.1", 3478⟩ srflx relayed)) ∧
      (expected interfaces ⟨"192.0.2.1", 3478⟩ srflx relayed).take 2 =
        [⟨.host, "192.168.1.5", 0, some "eth0", none⟩,
          ⟨.host, "2001:db8::1", 0, some "eth0", none⟩] := by
  obtain ⟨r₁, r, hr₁, hr, -, -, hlists⟩ := ice_gathers gathers_gatherJob
  have hpass : (gatherJob.result? 1).map CheckResult.status = some .pass := by decide +kernel
  rw [hr₁] at hpass
  obtain ⟨hstatus, srflx, relayed, -, -, hdetail⟩ := hlists (Option.some.inj hpass)
  exact ⟨r, hr, hstatus, srflx, relayed, hdetail, rfl⟩

end WebrtcDoctor
