import WebrtcDoctor.RelayVerdict

/-!
# The verdict on a relay over TLS

What the `turns` pipeline reports of a relay that does what one should, over a stream on which both
sides put the length of each message in front of it, as `send_framed` does, and which brings the
answers in time (`turns_verdict`). The prefix is the probe's own. A relay that takes the length of a
message from its header reads no request of the probe. The check opens no session, so a login that
the relay admits is all it tells.

The check is the dance of the UDP check (`TurnsAllocateCheck.runOn_dance`), and the relay ends the
dance as the login deserves (`Relay.outcome_declined`, `outcome_refused`, `outcome_admitted`).
-/

open Checked NetAddr

namespace WebrtcDoctor

namespace Relay

variable (r : Relay)

/-- What the relay answers to the last of the requests. -/
def replies : List (List UInt8) → List UInt8 := replyOf (r.answersOver fun _ => true) r.addr

theorem length_replies (requests : List (List UInt8)) :
    (r.replies requests).length ≤ UdpSocket.bufLen :=
  List.length_take_le _ _

/-! ## The dance with the relay -/

/-- The dance of a login. -/
def dance (env : TurnsAllocEnv) (user pass : Option String) :
    Dialogue (List UInt8) (List UInt8) DanceEnd :=
  allocateDance env.crypto env.txid1 env.txid2 user pass

theorem replies_unauth (txid : TxId) :
    r.replies [(buildAllocateUnauth txid).2] = r.unauthorized allocateError txid :=
  r.replyOf_unauth txid

theorem replies_authed (txid1 txid2 : TxId) (user pass : String) :
    r.replies ([(buildAllocateUnauth txid1).2] ++ [r.authedRequest txid2 user pass]) =
      if r.Admits txid2 user pass then r.grant txid2 else r.unauthorized allocateError txid2 := by
  rw [replies]
  by_cases h : r.Admits txid2 user pass
  · rw [if_pos h]
    exact r.replyOf_request (by rw [onRequest_authed, if_pos h]) (r.length_grant _)
  · rw [if_neg h]
    exact r.replyOf_request (by rw [onRequest_authed, if_neg h]) (r.length_unauthorized _ _)

section

variable {env : TurnsAllocEnv}

/-- Without both credentials the exchange ends with the challenge. -/
theorem outcome_declined {user pass : Option String} (h : user = none ∨ pass = none) :
    (dance env user pass).outcome r.replies [] = .challenged := by
  unfold dance allocateDance
  rw [Dialogue.outcome, List.nil_append, r.replies_unauth,
    result_eq_ok.2 (r.parse_unauthorized env.txid1)]
  rcases h with rfl | rfl
  · rfl
  · cases user <;> rfl

/-- After the challenge of the relay the dance asks with the login. -/
theorem outcome_authed (hcrypto : env.crypto = r.crypto) (user pass : String) :
    (dance env (some user) (some pass)).outcome r.replies [] =
      (authedDance r.crypto env.txid2 r.login.realm r.login.nonce user pass).outcome r.replies
        [(buildAllocateUnauth env.txid1).2] := by
  unfold dance allocateDance
  rw [Dialogue.outcome, List.nil_append, r.replies_unauth,
    result_eq_ok.2 (r.parse_unauthorized env.txid1), hcrypto]

theorem asked_authed (hcrypto : env.crypto = r.crypto) (user pass : String) :
    (dance env (some user) (some pass)).asked r.replies [] =
      [(buildAllocateUnauth env.txid1).2, r.authedRequest env.txid2 user pass] := by
  unfold dance allocateDance
  rw [Dialogue.asked, List.nil_append, r.replies_unauth,
    result_eq_ok.2 (r.parse_unauthorized env.txid1), hcrypto]
  dsimp only
  unfold authedDance
  rw [Dialogue.asked]
  split <;> rfl

/-- A login that the relay does not admit is refused. -/
theorem outcome_refused (hcrypto : env.crypto = r.crypto) {user pass : String}
    (h : ¬r.Admits env.txid2 user pass) :
    (dance env (some user) (some pass)).outcome r.replies [] =
      .failed "server rejected long-term credentials (401 after auth)" := by
  have hreply := r.replies_authed env.txid1 env.txid2 user pass
  rw [if_neg h] at hreply
  rw [r.outcome_authed hcrypto]
  unfold authedRequest at hreply
  unfold authedDance
  rw [Dialogue.outcome, hreply, result_eq_ok.2 (r.parse_unauthorized env.txid2)]
  rfl

/-- A login that the relay admits is granted the relayed address. -/
theorem outcome_admitted (hcrypto : env.crypto = r.crypto) {user pass : String}
    (h : r.Admits env.txid2 user pass) :
    (dance env (some user) (some pass)).outcome r.replies [] = .granted r.relayed := by
  have hreply := r.replies_authed env.txid1 env.txid2 user pass
  rw [if_pos h] at hreply
  rw [r.outcome_authed hcrypto]
  unfold authedRequest at hreply
  unfold authedDance
  rw [Dialogue.outcome, hreply, result_eq_ok.2 (r.parse_grant env.txid2)]
  rfl

end

end Relay

/-! ## The pipeline -/

/-- The outside world of a `turns` pipeline with a login is the relay, over a stream that carries
the dance of that login. The relay reads the frames of `send_framed`, a length before each message,
and frames its answers likewise. -/
structure Relay.ReachedTls (r : Relay) (env : PipelineEnv) (t : Target)
    (user pass : Option String) : Prop where
  port : t.port = r.addr.port
  resolves : ∃ port more, env.dns.lookupHost s!"{t.host}:{t.port}" = .ok (⟨r.addr.ip, port⟩ :: more)
  serverName : env.turnsAlloc.serverName t.host
  connects : (env.turnsAlloc.connect r.addr).1 = .received ()
  session : ∃ tls elapsed, env.turnsAlloc.handshake t.host r.addr = (.received tls, elapsed) ∧
    TlsCarries r.replies (Duration.fromSecs 10)
      ((Relay.dance env.turnsAlloc user pass).asked r.replies []) tls
  crypto : env.turnsAlloc.crypto = r.crypto

theorem TurnsAllocateCheck.run_of_handshake {env : TurnsAllocEnv} {ctx : ProbeContext}
    {port : UInt16} {ip : IpAddr} {host : String} {tls : TlsStream} {t : ℕ}
    (hport : ctx.port = some port) (hip : ctx.resolvedIps.head? = some ip)
    (hhost : ctx.host = some host) (hname : env.serverName host)
    (hconnect : (env.connect ⟨ip, port⟩).1 = .received ())
    (hhandshake : env.handshake host ⟨ip, port⟩ = (.received tls, t)) :
    run env ctx = (runOn env ctx ⟨ip, port⟩ host (Duration.asMillis t) (recvTimeout ctx)
      { tls with now := t }).1 := by
  unfold run
  rw [hport, hip, hhost]
  dsimp only
  rw [hname]
  rcases hconn : env.connect ⟨ip, port⟩ with ⟨result, t'⟩
  rw [hconn] at hconnect
  rw [show result = .received () from hconnect, hhandshake]
  rfl

section

open Pipeline

variable {r : Relay} {env : PipelineEnv} {t : Target} {user pass : Option String}

/-- The check reports the end of the dance. -/
theorem reported_turnsJob (h : r.ReachedTls env t user pass) :
    ∃ (ctx ctx' : ProbeContext) (result : CheckResult),
      Reported ctx (ctx', result)
        (.ok ((Relay.dance env.turnsAlloc user pass).outcome r.replies [])) ∧
      (turnsJob env t user pass).report.results.map CheckResult.status =
        [.pass, result.status] := by
  set ctx₀ := (turnsJob env t user pass).ctx with hctx₀
  obtain ⟨port, more, hlookup⟩ := h.resolves
  have hhost : ctx₀.host = some t.host := rfl
  obtain ⟨ips, hdns, hdnsPass⟩ := DnsCheck.run_of_lookup hhost rfl hlookup
  set ctx₁ := { ctx₀ with resolvedIps := r.addr.ip :: ips } with hctx₁
  obtain ⟨tls, elapsed, hhandshake, hcarries⟩ := h.session
  have hip : ctx₁.resolvedIps.head? = some r.addr.ip := rfl
  have hhost₁ : ctx₁.host = some t.host := rfl
  have hdefault : ctx₁.defaultTimeout = Duration.fromSecs 5 := rfl
  have htimeout : TurnsAllocateCheck.recvTimeout ctx₁ = Duration.fromSecs 10 := by
    rw [TurnsAllocateCheck.recvTimeout, hdefault]
    rfl
  have hrun := TurnsAllocateCheck.run_of_handshake (congrArg some h.port) hip hhost₁ h.serverName
    h.connects hhandshake
  rw [htimeout] at hrun
  obtain ⟨-, hreported⟩ := TurnsAllocateCheck.runOn_dance env.turnsAlloc ctx₁ r.addr t.host
    (Duration.asMillis elapsed) (Duration.fromSecs 10) { tls with now := elapsed }
  obtain ⟨tls', hover, -⟩ := Dialogue.runOver_of_carries (s := { tls with now := elapsed }) _
    ⟨hcarries.nothingWritten, hcarries.nothingIncoming, rfl, rfl⟩
    (hcarries.carries r.length_replies)
  rw [← hrun] at hreported
  have hdance : (allocateDance env.turnsAlloc.crypto env.turnsAlloc.txid1 env.turnsAlloc.txid2
      ctx₁.turnUser ctx₁.turnPass).runOver
        (TurnsAllocateCheck.tlsExchange (Duration.fromSecs 10)) { tls with now := elapsed } =
      (.ok ((Relay.dance env.turnsAlloc user pass).outcome r.replies []), tls') := hover
  rw [hdance] at hreported
  have hchecks : (turnsJob env t user pass).checks =
      [DnsCheck.check env.dns, TurnsAllocateCheck.check env.turnsAlloc] := rfl
  have hdnsStep : step ⟨ctx₀, ∅, []⟩ (DnsCheck.check env.dns) =
      ⟨ctx₁, {DnsCheck.id}, [(DnsCheck.run env.dns ctx₀).2]⟩ := by
    rw [step_of_pass (fun _ hid => absurd hid List.not_mem_nil) hdnsPass]
    exact congrArg (State.mk · _ _) hdns
  refine ⟨ctx₁, _, _, hreported, ?_⟩
  rw [Job.report, Pipeline.run, ← hctx₀, hchecks, List.foldl_cons, List.foldl_cons, hdnsStep,
    step_of_gate _ _ fun id hid => List.mem_singleton.1 hid ▸ Finset.mem_singleton_self _]
  simp only [List.foldl_nil, List.map_append, List.map_cons, List.map_nil, hdnsPass]
  rfl

end

/-! ## The verdict -/

/-- The `turns` pipeline against a relay that shares the framing of `send_framed`, in both
directions. Without credentials it warns, and with credentials it passes exactly if the relay admits
them, which it does those of its user, and none under another name. -/
theorem turns_verdict {r : Relay} {env : PipelineEnv} {t : Target} {user pass : Option String}
    (h : r.ReachedTls env t user pass) :
    let report := (turnsJob env t user pass).report
    let statuses := report.results.map CheckResult.status
    (user = none ∨ pass = none → statuses = [.pass, .warn] ∧ report.verdict.exitCode = 2) ∧
    (∀ u p, user = some u → pass = some p → ¬r.Admits env.turnsAlloc.txid2 u p →
      statuses = [.pass, .fail] ∧ report.verdict.exitCode = 1) ∧
    (∀ u p, user = some u → pass = some p → r.Admits env.turnsAlloc.txid2 u p →
      statuses = [.pass, .pass] ∧ report.verdict.exitCode = 0) ∧
    r.Admits env.turnsAlloc.txid2 r.login.username r.login.password ∧
    ∀ u p, r.Admits env.turnsAlloc.txid2 u p → u = r.login.username := by
  intro report statuses
  obtain ⟨ctx, ctx', result, hreported, hstatuses⟩ := reported_turnsJob h
  have hend : ∀ {status : CheckStatus}, result.status = status →
      statuses = [.pass, status] ∧ report.verdict.exitCode =
        (if .fail ∈ [CheckStatus.pass, status] then Verdict.failed
          else if .warn ∈ [CheckStatus.pass, status] then .warnings else .healthy).exitCode := by
    rintro _ rfl
    exact ⟨hstatuses, congrArg Verdict.exitCode (Report.verdict_of_statuses hstatuses)⟩
  refine ⟨fun hdeclined => ?_, fun u p huser hpass hrefused => ?_,
    fun u p huser hpass hadmits => ?_, r.admits_login _, fun u p => r.username_of_admits⟩
  · rw [r.outcome_declined hdeclined] at hreported
    exact hend hreported.1
  · subst huser hpass
    rw [r.outcome_refused h.crypto hrefused] at hreported
    exact hend hreported.1
  · subst huser hpass
    rw [r.outcome_admitted h.crypto hadmits] at hreported
    exact hend hreported.1

namespace Sample

/-- A stream to the relay, which answers at once. The first request and its length are 30 bytes. -/
def relayStream : TlsStream where
  now := 0
  incoming := []
  written := []
  write _ := none
  flush written now := .ok <| (TlsStream.frame <| if written.length = 30 then
    turnRelay.unauthorized allocateError (txid 1) else turnRelay.grant (txid 2)).map
      fun b => (now, .byte b)

/-- The network of a `turns` run with that relay. -/
def relayTlsEnv : PipelineEnv :=
  { env [] with
    turnsAlloc := ⟨crypto, txid 1, txid 2, fun _ => true, fun _ => (.received (), 0),
      fun _ _ => (.received relayStream, Duration.fromMillis 30)⟩ }

theorem replies_authed_turnRelay : turnRelay.replies ([(buildAllocateUnauth (txid 1)).2] ++
    [turnRelay.authedRequest (txid 2) "user" "pass"]) = turnRelay.grant (txid 2) :=
  (turnRelay.replies_authed (txid 1) (txid 2) "user" "pass").trans
    (if_pos (turnRelay.admits_login (txid 2)))

theorem flush_authed (now : ℕ) :
    relayStream.flush (([(buildAllocateUnauth (txid 1)).2] ++
        [turnRelay.authedRequest (txid 2) "user" "pass"]).flatMap TlsStream.frame) now =
      .ok ((TlsStream.frame (turnRelay.replies ([(buildAllocateUnauth (txid 1)).2] ++
        [turnRelay.authedRequest (txid 2) "user" "pass"]))).map fun b => (now, .byte b)) := by
  have hfirst : (TlsStream.frame (buildAllocateUnauth (txid 1)).2).length = 30 := by decide
  have hlong : (([(buildAllocateUnauth (txid 1)).2] ++
      [turnRelay.authedRequest (txid 2) "user" "pass"]).flatMap TlsStream.frame).length ≠ 30 := by
    rw [List.flatMap_append, List.length_append, List.flatMap_singleton, List.flatMap_singleton,
      hfirst, TlsStream.frame, List.length_append, BigEndian.length_ofU16]
    omega
  rw [replies_authed_turnRelay]
  dsimp only [relayStream]
  rw [if_neg hlong]

/-- The sample environment is one in which the relay is reached over TLS. -/
theorem reachedTls_relayTlsEnv : turnRelay.ReachedTls relayTlsEnv ⟨"192.0.2.1", 3478⟩ (some "user")
    (some "pass") where
  port := rfl
  resolves := ⟨_, _, rfl⟩
  serverName := rfl
  connects := rfl
  session := by
    refine ⟨relayStream, _, rfl, rfl, rfl, fun _ => rfl, fun msgs msg now h => ?_⟩
    rw [turnRelay.asked_authed rfl] at h
    refine ⟨(TlsStream.frame (turnRelay.replies (msgs ++ [msg]))).map fun b => (now, .byte b), ?_,
      by rw [List.map_map]; rfl, fun p hp => ?_⟩
    · rcases msgs with _ | ⟨m, _ | ⟨m', msgs⟩⟩
      · obtain rfl := (List.cons_prefix_cons.1 h).1
        rw [List.nil_append]
        exact congrArg (fun bytes => Except.ok ((TlsStream.frame bytes).map fun b => (now,
          StreamEvent.byte b))) (turnRelay.replies_unauth (txid 1)).symm
      · obtain ⟨rfl, hrest⟩ := List.cons_prefix_cons.1 h
        obtain rfl := (List.cons_prefix_cons.1 hrest).1
        exact flush_authed now
      · have hlen := h.length_le
        simp at hlen
    · obtain ⟨b, -, rfl⟩ := List.mem_map.1 hp
      exact Nat.le_add_right now _
  crypto := rfl

end Sample

open Sample in
/-- A login that the relay admits. -/
theorem turns_verdict_login :
    let report := (turnsJob relayTlsEnv ⟨"192.0.2.1", 3478⟩ (some "user") (some "pass")).report
    report.results.map CheckResult.status = [.pass, .pass] ∧ report.verdict.exitCode = 0 := by
  intro report
  obtain ⟨-, -, hadmitted, hlogin, -⟩ := turns_verdict reachedTls_relayTlsEnv
  exact hadmitted "user" "pass" rfl rfl hlogin

end WebrtcDoctor
