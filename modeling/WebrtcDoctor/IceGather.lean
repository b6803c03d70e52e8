import WebrtcDoctor.Context
import WebrtcDoctor.Pipeline

/-!
# ICE candidate gathering

`checks/ice_gather.rs` : host candidates from the local interfaces, then the reflexive
address in `scratch`, then the relayed address of the session, if they are there.
-/

open NetAddr

namespace WebrtcDoctor

/-- A local interface with one of its addresses. -/
structure Interface where
  name : String
  ip : IpAddr

/-- The interfaces of the machine, or why they cannot be listed. -/
structure IceGatherEnv where
  getIfAddrs : Except String (List Interface)

/-- Where a candidate comes from : the machine, the STUN server or the TURN server. -/
inductive CandidateKind where
  | host
  | srflx
  | relay
deriving DecidableEq, Repr

/-- The kinds as the report names them. -/
def CandidateKind.text : CandidateKind → String
  | .host => "host"
  | .srflx => "srflx"
  | .relay => "relay"

/-- An address at which the machine may be reached. -/
structure Candidate where
  kind : CandidateKind
  address : String
  /-- `0` for host candidates. -/
  port : UInt16
  interface : Option String
  via : Option String
deriving DecidableEq, Repr

/-- A candidate in the detail. An interface or a server of none is left out. -/
def Candidate.toJson (c : Candidate) : Json :=
  .obj ([("kind", .str c.kind.text), ("address", .str c.address), ("port", .num c.port.toNat)] ++
    (c.interface.map fun i => ("interface", Json.str i)).toList ++
    (c.via.map fun v => ("via", Json.str v)).toList)

namespace IceGatherCheck

/-- The id of the check. -/
def id : String := "ice.gather"

/-- Its name in a report. -/
def name : String := "ICE candidate gathering"

/-! ## Which local addresses count -/

/-- Not loopback, link-local, unspecified, multicast or broadcast. -/
def isUsefulV4 (bits : UInt32) : Bool :=
  let octets := BigEndian.ofU32 bits
  if octets.getD 0 0 = 127 then false
  else if octets.getD 0 0 = 169 ∧ octets.getD 1 0 = 254 then false
  else if bits = 0 then false
  else if 224 ≤ octets.getD 0 0 ∧ octets.getD 0 0 ≤ 239 ∨ bits = 0xFFFFFFFF then false
  else true

/-- Not loopback, unspecified, multicast or link-local (`fe80::/10`). -/
def isUsefulV6 (octets : Vector UInt8 16) : Bool :=
  if segments octets = [0, 0, 0, 0, 0, 0, 0, 1] then false
  else if segments octets = [0, 0, 0, 0, 0, 0, 0, 0] then false
  else if octets[0] = 0xFF then false
  else if BigEndian.toU16 octets[0] octets[1] &&& 0xFFC0 = 0xFE80 then false
  else true

/-- A local address that is worth a candidate. -/
def isUsefulHostAddress : IpAddr → Bool
  | .v4 bits => isUsefulV4 bits
  | .v6 octets => isUsefulV6 octets

/-! ## Gathering -/

/-- A candidate for each useful local address. -/
def hostCandidates (ifs : List Interface) : List Candidate :=
  (ifs.filter fun i => isUsefulHostAddress i.ip).map fun i =>
    ⟨.host, toString i.ip, 0, some i.name, none⟩

/-- Where a candidate was learnt, `scheme:host:port`. -/
def viaUrl (ctx : ProbeContext) (scheme : String) : Option String :=
  ctx.host.bind fun host => ctx.port.map fun port => s!"{scheme}:{host}:{port}"

/-- A candidate for the address that the binding check left. -/
def srflxCandidates (ctx : ProbeContext) : List Candidate :=
  match (ctx.scratch "srflx").bind SocketAddr.parse with
  | some addr => [⟨.srflx, toString addr.ip, addr.port, none, viaUrl ctx "stun"⟩]
  | none => []

/-- A candidate for the relay address of the session. -/
def relayCandidates (ctx : ProbeContext) : List Candidate :=
  match ctx.turnSession with
  | some session =>
    [⟨.relay, toString session.relayed.ip, session.relayed.port, none, viaUrl ctx "turn"⟩]
  | none => []

/-- All candidates : local, reflexive, relayed. -/
def gather (ctx : ProbeContext) (ifs : List Interface) : List Candidate :=
  hostCandidates ifs ++ srflxCandidates ctx ++ relayCandidates ctx

/-- How many candidates there are of each kind. -/
structure KindCounts where
  host : ℕ
  srflx : ℕ
  relay : ℕ
deriving DecidableEq, Repr

/-- Count the candidates by kind. -/
def countKinds (cands : List Candidate) : KindCounts :=
  cands.foldl (fun k c =>
    match c.kind with
    | .host => { k with host := k.host + 1 }
    | .srflx => { k with srflx := k.srflx + 1 }
    | .relay => { k with relay := k.relay + 1 }) ⟨0, 0, 0⟩

/-- The candidates and their counts, for the detail of the result. -/
def detail (cands : List Candidate) : Json :=
  let counts := countKinds cands
  .obj [("candidates", .arr (cands.map Candidate.toJson)),
    ("counts", .obj [("host", .num counts.host), ("srflx", .num counts.srflx),
      ("relay", .num counts.relay)])]

/-- Gather the candidates. None is a warning. -/
def run (env : IceGatherEnv) (ctx : ProbeContext) : ProbeContext × CheckResult :=
  match env.getIfAddrs with
  | .error e => (ctx, .fail id name 0 s!"enumerate interfaces failed: {e}")
  | .ok ifs =>
    let candidates := gather ctx ifs
    let counts := countKinds candidates
    let summary := s!"{candidates.length} candidates ({counts.host} host, {counts.srflx} srflx, " ++
      s!"{counts.relay} relay)"
    let result :=
      if candidates.isEmpty then CheckResult.warn id name 0 "no candidates gathered"
      else CheckResult.pass id name 0 summary
    (ctx, result.withDetail (detail candidates))

/-- The check as the pipeline runs it. -/
def check (env : IceGatherEnv) : Check ProbeContext := ⟨id, name, ["stun.binding"], run env⟩

/-- The relay candidates gathered are the session's. -/
theorem gather_filter_relay (ctx : ProbeContext) (ifs : List Interface) :
    (gather ctx ifs).filter (·.kind = .relay) = relayCandidates ctx := by
  have hhost : (hostCandidates ifs).filter (·.kind = .relay) = [] := by
    simp only [hostCandidates, List.filter_eq_nil_iff, List.mem_map, decide_eq_true_eq]
    rintro _ ⟨i, -, rfl⟩
    simp
  have hsrflx : (srflxCandidates ctx).filter (·.kind = .relay) = [] := by
    unfold srflxCandidates
    split <;> simp
  have hrelay : (relayCandidates ctx).filter (·.kind = .relay) = relayCandidates ctx := by
    unfold relayCandidates
    split <;> simp
  rw [gather, List.filter_append, List.filter_append, hhost, hsrflx, hrelay, List.nil_append,
    List.nil_append]

/-- The check leaves the context alone, and does not skip. -/
theorem run_leaves (env : IceGatherEnv) (ctx : ProbeContext) :
    Leaves ctx (· = ctx) (run env ctx) ∧ (run env ctx).2.status ≠ .skip := by
  unfold run
  split
  · exact ⟨.of_ne_pass (by simp), by simp⟩
  · dsimp only
    split
    · exact ⟨.of_ne_pass (by simp), by simp⟩
    · exact ⟨.of_pass (by simp) rfl, by simp⟩

/-- With a session in the context a run that completes lists its address as the one relay
candidate. -/
theorem run_relay {env : IceGatherEnv} {ctx : ProbeContext} {session : TurnSession}
    {relayed : SocketAddr} (hsession : ctx.turnSession = some session)
    (hrelayed : session.relayed = relayed) (h : (run env ctx).2.status ≠ .fail) :
    ∃ cands c, (run env ctx).2.detail = some (detail cands) ∧
      cands.filter (·.kind = .relay) = [c] ∧
      c.address = toString relayed.ip ∧ c.port = relayed.port := by
  subst hrelayed
  unfold run at h ⊢
  split at h
  · exact absurd rfl h
  next ifs hifs =>
    refine ⟨gather ctx ifs, ⟨.relay, toString session.relayed.ip, session.relayed.port, none,
      viaUrl ctx "turn"⟩, rfl, ?_, rfl, rfl⟩
    rw [gather_filter_relay, relayCandidates, hsession]

end IceGatherCheck

end WebrtcDoctor
