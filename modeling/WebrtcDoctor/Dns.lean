import WebrtcDoctor.Context
import WebrtcDoctor.Pipeline

/-!
# The DNS check

`checks/dns.rs`. A check takes what the outside world gives it as a record, here the
resolver's answer and the time it took.

A pass leaves at least one address in the context (`DnsCheck.run_leaves`), and the only skip
is for a missing host.
-/

open NetAddr

namespace WebrtcDoctor

/-- The resolver : its answer to a query, and how long it took. -/
structure DnsEnv where
  lookupHost : String → Except String (List SocketAddr)
  elapsed : ℕ

namespace DnsCheck

/-- The id of the check. -/
def id : String := "dns"

/-- Its name in a report. -/
def name : String := "DNS resolution"

/-- The addresses without their ports, each once, in order. -/
def dedupIps (addrs : List SocketAddr) : List IpAddr :=
  addrs.foldl (fun ips sa => if sa.ip ∈ ips then ips else ips ++ [sa.ip]) []

/-- Resolve the host and keep its addresses, each once. -/
def run (env : DnsEnv) (ctx : ProbeContext) : ProbeContext × CheckResult :=
  match ctx.host with
  | none => (ctx, .skip id name "no host supplied")
  | some host =>
    let port := ctx.port.getD 0
    let latencyMs := Duration.asMillis env.elapsed
    match env.lookupHost s!"{host}:{port}" with
    | .error e => (ctx, .fail id name latencyMs s!"{host} did not resolve: {e}")
    | .ok addrs =>
      match dedupIps addrs with
      | [] => (ctx, .fail id name latencyMs s!"{host} resolved to zero addresses")
      | ip :: more =>
        let summary :=
          if more.length = 0 then s!"{host} → {ip} ({latencyMs} ms)"
          else s!"{host} → {ip} (+{more.length} more, {latencyMs} ms)"
        ({ ctx with resolvedIps := ip :: more },
          (CheckResult.pass id name latencyMs summary).withDetail (.obj
            [("host", .str host),
              ("addresses", .arr ((ip :: more).map fun ip => .str (toString ip)))]))

/-- The check as the pipeline runs it. -/
def check (env : DnsEnv) : Check ProbeContext := ⟨id, name, [], run env⟩

/-! ## The addresses -/

/-- One more address is kept if it is new. -/
theorem dedupIps_snoc (addrs : List SocketAddr) (sa : SocketAddr) :
    dedupIps (addrs ++ [sa]) =
      if sa.ip ∈ dedupIps addrs then dedupIps addrs else dedupIps addrs ++ [sa.ip] := by
  rw [dedupIps, List.foldl_append]
  rfl

/-- The addresses kept are those resolved. -/
theorem mem_dedupIps (addrs : List SocketAddr) (ip : IpAddr) :
    ip ∈ dedupIps addrs ↔ ip ∈ addrs.map SocketAddr.ip := by
  induction addrs using List.reverseRecOn with
  | nil => simp [dedupIps]
  | append_singleton addrs sa ih =>
    rw [dedupIps_snoc, List.map_append, List.mem_append, ← ih, List.map_singleton,
      List.mem_singleton]
    split_ifs with hmem
    · constructor
      · exact Or.inl
      · rintro (h | rfl)
        · exact h
        · exact hmem
    · rw [List.mem_append, List.mem_singleton]

/-- The addresses come in the order in which the resolver first gave them. -/
theorem dedupIps_pairwise (addrs : List SocketAddr) : (dedupIps addrs).Pairwise fun a b =>
    (addrs.map SocketAddr.ip).idxOf a < (addrs.map SocketAddr.ip).idxOf b := by
  induction addrs using List.reverseRecOn with
  | nil => exact .nil
  | append_singleton addrs sa ih =>
    have hold : ∀ a ∈ dedupIps addrs, ((addrs ++ [sa]).map SocketAddr.ip).idxOf a =
        (addrs.map SocketAddr.ip).idxOf a := by
      intro a ha
      rw [List.map_append, List.idxOf_append_of_mem ((mem_dedupIps addrs a).1 ha)]
    have hpair : (dedupIps addrs).Pairwise fun a b =>
        ((addrs ++ [sa]).map SocketAddr.ip).idxOf a <
          ((addrs ++ [sa]).map SocketAddr.ip).idxOf b := by
      refine List.Pairwise.imp_of_mem (fun ha hb hlt => ?_) ih
      rw [hold _ ha, hold _ hb]
      exact hlt
    rw [dedupIps_snoc]
    split_ifs with hmem
    · exact hpair
    · refine List.pairwise_append.2 ⟨hpair, List.pairwise_singleton _ _, fun a ha b hb => ?_⟩
      obtain rfl := List.mem_singleton.1 hb
      rw [hold a ha, List.map_append,
        List.idxOf_append_of_notMem (mt (mem_dedupIps addrs sa.ip).2 hmem)]
      exact (List.idxOf_lt_length_of_mem ((mem_dedupIps addrs a).1 ha)).trans_le
        (Nat.le_add_right _ _)

/-- Each address is kept once. -/
theorem nodup_dedupIps (addrs : List SocketAddr) : (dedupIps addrs).Nodup :=
  (dedupIps_pairwise addrs).imp fun hlt heq => (heq ▸ hlt).false

/-! ## What a run does -/

/-- A pass leaves the addresses of the resolver in the context, at least one. -/
theorem run_resolves (env : DnsEnv) (ctx : ProbeContext) : Leaves ctx
    (fun ctx' => ∃ query addrs, env.lookupHost query = .ok addrs ∧ dedupIps addrs ≠ [] ∧
      ctx' = { ctx with resolvedIps := dedupIps addrs }) (run env ctx) := by
  unfold run
  split
  · exact .of_ne_pass (by simp)
  dsimp only
  split
  · exact .of_ne_pass (by simp)
  rename_i addrs hlookup
  split
  · exact .of_ne_pass (by simp)
  rename_i ip more hips
  refine .of_pass (by simp) ⟨_, addrs, hlookup, ?_, by rw [hips]⟩
  rw [hips]
  exact List.cons_ne_nil _ _

/-- A pass leaves an address in the context and nothing else changed. -/
theorem run_leaves (env : DnsEnv) (ctx : ProbeContext) : Leaves ctx
    (fun ctx' => ∃ ip more, ctx' = { ctx with resolvedIps := ip :: more }) (run env ctx) := by
  refine (run_resolves env ctx).mono ?_
  rintro _ ⟨-, addrs, -, hne, rfl⟩
  obtain ⟨ip, more, hips⟩ := List.exists_cons_of_ne_nil hne
  exact ⟨ip, more, by rw [hips]⟩

/-- With a host the check does not skip. -/
theorem run_ne_skip {env : DnsEnv} {ctx : ProbeContext} {host : String}
    (h : ctx.host = some host) : (run env ctx).2.status ≠ .skip := by
  unfold run
  rw [h]
  dsimp only
  split
  · simp
  · split <;> simp

end DnsCheck

end WebrtcDoctor
