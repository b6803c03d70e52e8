import WebrtcDoctor.Budget

/-!
# Longer timeouts

A check that passes has read all its answers in time, so with more time it reads the same ones
and reports the same, to the millisecond (`ProbeCheck.run_withTimeout`). A run with a longer
timeout hence reports the same up to the first check that did not pass (`longer_timeout`) : a
timeout can make a check fail, and cannot make one pass.

The echo check sets its deadline from the last send, and a pass ends its loop with the last echo and
not at the deadline.
-/

open NetAddr

namespace WebrtcDoctor

namespace ProbeContext

/-- The context with another timeout. -/
def withTimeout (timeout : ℕ) (ctx : ProbeContext) : ProbeContext :=
  { ctx with defaultTimeout := timeout }

section

variable (timeout : ℕ) (ctx : ProbeContext)

@[simp] theorem withTimeout_host : (ctx.withTimeout timeout).host = ctx.host := rfl

@[simp] theorem withTimeout_port : (ctx.withTimeout timeout).port = ctx.port := rfl

@[simp] theorem withTimeout_resolvedIps :
    (ctx.withTimeout timeout).resolvedIps = ctx.resolvedIps := rfl

@[simp] theorem withTimeout_turnUser : (ctx.withTimeout timeout).turnUser = ctx.turnUser := rfl

@[simp] theorem withTimeout_turnPass : (ctx.withTimeout timeout).turnPass = ctx.turnPass := rfl

@[simp] theorem withTimeout_echoCount : (ctx.withTimeout timeout).echoCount = ctx.echoCount := rfl

@[simp] theorem withTimeout_turnSession :
    (ctx.withTimeout timeout).turnSession = ctx.turnSession := rfl

@[simp] theorem withTimeout_scratch : (ctx.withTimeout timeout).scratch = ctx.scratch := rfl

end

/-- The timeouts that a context with the timeout `T` and one with `T'` give a check. -/
theorem timeoutOr_withTimeout_le {ctx : ProbeContext} {timeout : ℕ} (h₀ : ctx.defaultTimeout ≠ 0)
    (h : ctx.defaultTimeout ≤ timeout) (fallback : ℕ) :
    ctx.timeoutOr fallback ≤ (ctx.withTimeout timeout).timeoutOr fallback := by
  rw [timeoutOr, timeoutOr, withTimeout, if_neg h₀, if_neg (by dsimp only; omega)]
  exact h

end ProbeContext

theorem TurnsAllocateCheck.recvTimeout_withTimeout_le {ctx : ProbeContext} {timeout : ℕ}
    (h₀ : ctx.defaultTimeout ≠ 0) (h : ctx.defaultTimeout ≤ timeout) :
    recvTimeout ctx ≤ recvTimeout (ctx.withTimeout timeout) := by
  rw [recvTimeout, recvTimeout, ProbeContext.withTimeout, if_neg h₀,
    if_neg (by dsimp only; omega)]
  exact max_le_max_right _ h

/-! ## The receives -/

/-- A datagram that a receive returned is returned by a longer one too. -/
theorem UdpSocket.recvFrom_of_le {s s' : UdpSocket} {timeout timeout' : ℕ} {d : Datagram}
    (h : s.recvFrom timeout = (.received d, s')) (hle : timeout ≤ timeout') :
    s.recvFrom timeout' = (.received d, s') := by
  unfold UdpSocket.recvFrom at h ⊢
  split at h
  · cases h
  next a queue heq =>
    split at h
    next htime =>
      rw [if_pos (htime.trans (Nat.add_le_add_left hle _))]
      exact h
    · cases h

/-- Bytes read before a deadline are read before any later one. -/
theorem TlsStream.readExact_of_le {deadline deadline' : ℕ} (hle : deadline ≤ deadline') :
    ∀ (n : ℕ) {s s' : TlsStream} {bytes : List UInt8},
      readExact deadline n s = (.received bytes, s') →
      readExact deadline' n s = (.received bytes, s')
  | 0, _, _, _, h => h
  | n + 1, s, s', bytes, h => by
    unfold TlsStream.readExact at h ⊢
    split at h
    · cases h
    next time event incoming heq =>
    split at h
    swap
    · cases h
    next htime =>
    rw [if_pos (htime.trans hle)]
    dsimp only at h ⊢
    cases event with
    | error e => cases h
    | eof => cases h
    | byte b =>
      dsimp only at h ⊢
      split at h
      next rest s'' hrest =>
        rw [readExact_of_le hle n hrest]
        exact h
      next r hr => exact absurd h (hr bytes s')

/-- A frame that a receive returned is returned by a longer one too. -/
theorem TlsStream.recvFramed_of_le {s s' : TlsStream} {timeout timeout' : ℕ} {bytes : List UInt8}
    (h : s.recvFramed timeout = (.received bytes, s')) (hle : timeout ≤ timeout') :
    s.recvFramed timeout' = (.received bytes, s') := by
  have hdeadline : s.now + timeout ≤ s.now + timeout' := Nat.add_le_add_left hle _
  unfold TlsStream.recvFramed at h ⊢
  dsimp only at h ⊢
  split at h
  next lenBuf s'' hlen =>
    rw [readExact_of_le hdeadline 2 hlen]
    exact readExact_of_le hdeadline _ h
  next r hr => exact absurd h (hr bytes s')

/-- A round that gets its answer gets it over any transport that receives at least as much,
whatever the texts of its failures. -/
theorem allocateRound_of_recv {σ : Type} {send : σ → List UInt8 → Except String σ}
    {recv recv' : σ → Recv (List UInt8) × σ} {texts texts' : RoundTexts} {s s' : σ}
    {request : TxId × List UInt8} {outcome : AllocateOutcome}
    (hrecv : ∀ s buf s', recv s = (.received buf, s') → recv' s = (.received buf, s'))
    (h : allocateRound send recv texts s request = (.ok outcome, s')) :
    allocateRound send recv' texts' s request = (.ok outcome, s') := by
  obtain ⟨sent, buf, hsend, hbuf, hparse⟩ := allocateRound_eq_ok.1 h
  exact allocateRound_eq_ok.2 ⟨sent, buf, hsend, hrecv _ _ _ hbuf, hparse⟩

/-! ## The checks -/

namespace TurnAllocateCheck

/-- A round that got its answer in time gets the same one in more time. -/
theorem udpRound_of_le {server : SocketAddr} {timeout timeout' : ℕ} {texts texts' : RoundTexts}
    {sock sock' : UdpSocket} {request : TxId × List UInt8} {outcome : AllocateOutcome}
    (hle : timeout ≤ timeout')
    (h : udpRound server timeout texts sock request = (.ok outcome, sock')) :
    udpRound server timeout' texts' sock request = (.ok outcome, sock') := by
  refine allocateRound_of_recv (fun sock buf sock' hrecv => ?_) h
  unfold recvAny at hrecv ⊢
  split at hrecv
  next d s hd =>
    rw [sock.recvFrom_of_le hd hle]
    exact hrecv
  · cases hrecv
  · cases hrecv

theorem runAuthed_withTimeout {env : TurnAllocEnv} {ctx : ProbeContext} {server : SocketAddr}
    {started recvTimeout recvTimeout' : ℕ} {sock : UdpSocket} {realm : String} {nonce : List UInt8}
    {user pass : String} (hle : recvTimeout ≤ recvTimeout') (timeout : ℕ)
    (hpass : (runAuthed env ctx server started recvTimeout sock realm nonce user
      pass).1.2.status = .pass) :
    (runAuthed env (ctx.withTimeout timeout) server started recvTimeout' sock realm nonce user
        pass).1 =
      ((runAuthed env ctx server started recvTimeout sock realm nonce user
          pass).1.1.withTimeout timeout,
        (runAuthed env ctx server started recvTimeout sock realm nonce user pass).1.2) := by
  unfold runAuthed at hpass ⊢
  dsimp only at hpass ⊢
  rcases hround : udpRound server recvTimeout (authedTexts server recvTimeout) sock
    (buildAllocateAuthed env.crypto env.txid2 user realm nonce
      (longTermKey env.crypto user realm pass)) with ⟨e | outcome, sock'⟩
  · rw [hround] at hpass
    cases hpass
  rw [hround] at hpass
  rw [udpRound_of_le hle hround]
  cases outcome with
  | success relayed lifetime => rfl
  | unauthorized realm nonce => cases hpass
  | error code reason => cases hpass

theorem runOn_withTimeout {env : TurnAllocEnv} {ctx : ProbeContext} {server : SocketAddr}
    {sock : UdpSocket} {timeout : ℕ} (h₀ : ctx.defaultTimeout ≠ 0)
    (hle : ctx.defaultTimeout ≤ timeout) (hpass : (runOn env ctx server sock).1.2.status = .pass) :
    (runOn env (ctx.withTimeout timeout) server sock).1 =
      ((runOn env ctx server sock).1.1.withTimeout timeout, (runOn env ctx server sock).1.2) := by
  have hlonger := ProbeContext.timeoutOr_withTimeout_le h₀ hle (Duration.fromSecs 5)
  unfold runOn at hpass ⊢
  dsimp only at hpass ⊢
  rcases hround : udpRound server (ctx.timeoutOr (Duration.fromSecs 5))
    (unauthTexts server (ctx.timeoutOr (Duration.fromSecs 5))) sock
    (buildAllocateUnauth env.txid1) with ⟨e | outcome, sock'⟩
  · rw [hround] at hpass
    cases hpass
  rw [hround] at hpass
  rw [udpRound_of_le hlonger hround]
  cases outcome with
  | success relayed lifetime => rfl
  | error code reason => cases hpass
  | unauthorized realm nonce =>
    dsimp only [ProbeContext.withTimeout_turnUser, ProbeContext.withTimeout_turnPass] at hpass ⊢
    split at hpass
    · exact runAuthed_withTimeout hlonger timeout hpass
    · cases hpass

/-- An allocation that passed is the same with more time. -/
theorem run_withTimeout {env : TurnAllocEnv} {ctx : ProbeContext} {timeout : ℕ}
    (h₀ : ctx.defaultTimeout ≠ 0) (hle : ctx.defaultTimeout ≤ timeout)
    (hpass : (run env ctx).2.status = .pass) :
    run env (ctx.withTimeout timeout) =
      ((run env ctx).1.withTimeout timeout, (run env ctx).2) := by
  unfold run at hpass ⊢
  rw [ProbeContext.withTimeout_port, ProbeContext.withTimeout_resolvedIps]
  split at hpass
  · cases hpass
  split at hpass
  · cases hpass
  split at hpass
  · cases hpass
  · exact runOn_withTimeout h₀ hle hpass

end TurnAllocateCheck

namespace TurnsAllocateCheck

theorem tlsRound_of_le {timeout timeout' : ℕ} {texts texts' : RoundTexts} {tls tls' : TlsStream}
    {request : TxId × List UInt8} {outcome : AllocateOutcome} (hle : timeout ≤ timeout')
    (h : tlsRound timeout texts tls request = (.ok outcome, tls')) :
    tlsRound timeout' texts' tls request = (.ok outcome, tls') :=
  allocateRound_of_recv (fun _ _ _ hrecv => TlsStream.recvFramed_of_le hrecv hle) h

theorem runAuthed_withTimeout {env : TurnsAllocEnv} {ctx : ProbeContext} {server : SocketAddr}
    {host : String} {tlsMs recvTimeout recvTimeout' : ℕ} {tls : TlsStream} {realm : String}
    {nonce : List UInt8} {user pass : String} (hle : recvTimeout ≤ recvTimeout') (timeout : ℕ)
    (hpass : (runAuthed env ctx server host tlsMs recvTimeout tls realm nonce user
      pass).1.2.status = .pass) :
    (runAuthed env (ctx.withTimeout timeout) server host tlsMs recvTimeout' tls realm nonce user
        pass).1 =
      ((runAuthed env ctx server host tlsMs recvTimeout tls realm nonce user
          pass).1.1.withTimeout timeout,
        (runAuthed env ctx server host tlsMs recvTimeout tls realm nonce user pass).1.2) := by
  unfold runAuthed at hpass ⊢
  dsimp only at hpass ⊢
  rcases hround : tlsRound recvTimeout (authedTexts recvTimeout) tls
    (buildAllocateAuthed env.crypto env.txid2 user realm nonce
      (longTermKey env.crypto user realm pass)) with ⟨e | outcome, tls'⟩
  · rw [hround] at hpass
    cases hpass
  rw [hround] at hpass
  rw [tlsRound_of_le hle hround]
  cases outcome with
  | success relayed lifetime => rfl
  | unauthorized realm nonce => cases hpass
  | error code reason => cases hpass

theorem runOn_withTimeout {env : TurnsAllocEnv} {ctx : ProbeContext} {server : SocketAddr}
    {host : String} {tlsMs recvTimeout recvTimeout' : ℕ} {tls : TlsStream}
    (hle : recvTimeout ≤ recvTimeout') (timeout : ℕ)
    (hpass : (runOn env ctx server host tlsMs recvTimeout tls).1.2.status = .pass) :
    (runOn env (ctx.withTimeout timeout) server host tlsMs recvTimeout' tls).1 =
      ((runOn env ctx server host tlsMs recvTimeout tls).1.1.withTimeout timeout,
        (runOn env ctx server host tlsMs recvTimeout tls).1.2) := by
  unfold runOn at hpass ⊢
  dsimp only at hpass ⊢
  rcases hround : tlsRound recvTimeout (unauthTexts recvTimeout) tls
    (buildAllocateUnauth env.txid1) with ⟨e | outcome, tls'⟩
  · rw [hround] at hpass
    cases hpass
  rw [hround] at hpass
  rw [tlsRound_of_le hle hround]
  cases outcome with
  | success relayed lifetime => rfl
  | error code reason => cases hpass
  | unauthorized realm nonce =>
    dsimp only [ProbeContext.withTimeout_turnUser, ProbeContext.withTimeout_turnPass] at hpass ⊢
    split at hpass
    · exact runAuthed_withTimeout hle timeout hpass
    · cases hpass

theorem run_withTimeout {env : TurnsAllocEnv} {ctx : ProbeContext} {timeout : ℕ}
    (h₀ : ctx.defaultTimeout ≠ 0) (hle : ctx.defaultTimeout ≤ timeout)
    (hpass : (run env ctx).2.status = .pass) :
    run env (ctx.withTimeout timeout) =
      ((run env ctx).1.withTimeout timeout, (run env ctx).2) := by
  unfold run at hpass ⊢
  rw [ProbeContext.withTimeout_port, ProbeContext.withTimeout_resolvedIps,
    ProbeContext.withTimeout_host]
  split at hpass
  · cases hpass
  split at hpass
  · cases hpass
  split at hpass
  · cases hpass
  dsimp only at hpass ⊢
  split at hpass
  · cases hpass
  next hname =>
  rw [if_neg hname, if_neg hname]
  split at hpass
  · cases hpass
  · cases hpass
  split at hpass
  · cases hpass
  · cases hpass
  · exact runOn_withTimeout (recvTimeout_withTimeout_le h₀ hle) timeout hpass

end TurnsAllocateCheck

theorem StunBindingCheck.run_withTimeout {env : StunEnv} {ctx : ProbeContext} {timeout : ℕ}
    (h₀ : ctx.defaultTimeout ≠ 0) (hle : ctx.defaultTimeout ≤ timeout)
    (hpass : (run env ctx).2.status = .pass) :
    run env (ctx.withTimeout timeout) =
      ((run env ctx).1.withTimeout timeout, (run env ctx).2) := by
  have hlonger := ProbeContext.timeoutOr_withTimeout_le h₀ hle (Duration.fromSecs 5)
  unfold run at hpass ⊢
  rw [ProbeContext.withTimeout_port, ProbeContext.withTimeout_resolvedIps]
  split at hpass
  · cases hpass
  split at hpass
  · cases hpass
  dsimp only at hpass ⊢
  split at hpass
  · cases hpass
  split at hpass
  · cases hpass
  next sent _ =>
  split at hpass
  · cases hpass
  · cases hpass
  next d sock' hrecv =>
  rw [sent.recvFrom_of_le hrecv hlonger]
  dsimp only at hpass ⊢
  split at hpass
  · rfl
  · cases hpass

namespace TurnEchoCheck

/-- A permission granted in time is granted in more time, and leaves the same socket. -/
theorem createPermission_of_le {env : TurnEchoEnv} {session : TurnSession} {srflx : SocketAddr}
    {recvTimeout recvTimeout' : ℕ} {sock : UdpSocket} (hle : recvTimeout ≤ recvTimeout')
    (h : createPermission env session srflx recvTimeout = (.ok (), sock)) :
    createPermission env session srflx recvTimeout' = (.ok (), sock) := by
  unfold createPermission at h ⊢
  dsimp only at h ⊢
  split at h
  · cases h
  next sent _ =>
  split at h
  · cases h
  · cases h
  next d sock' hrecv =>
  rw [sent.recvFrom_of_le hrecv hle]
  exact h

/-- A loop that hears every packet does not come to its deadline. -/
theorem receiveLoop_of_le {count : UInt32} {session : TurnSession} {recvDeadline recvDeadline' : ℕ}
    {sendTimes : Vector (Option ℕ) count.toNat} (hle : recvDeadline ≤ recvDeadline')
    {sock sock' : UdpSocket} {st st' : EchoState count} (hfull : ¬st'.received < count)
    (h : receiveLoop session recvDeadline sendTimes sock st = (.ok st', sock')) :
    receiveLoop session recvDeadline' sendTimes sock st = (.ok st', sock') := by
  induction hn : sock.queue.length using Nat.strongRecOn generalizing sock st with
  | _ n ih =>
    by_cases hst : st.received < count
    swap
    · rw [receiveLoop_of_full hst] at h ⊢
      exact h
    rw [receiveLoop, if_pos hst] at h
    split at h
    · cases h
      exact absurd hst hfull
    next hnow =>
    split at h <;> rename_i hrecv
    · cases h
    · cases h
      exact absurd hst hfull
    next d sock₁ =>
      have hnow' : sock.now < recvDeadline' := (Nat.lt_of_not_le hnow).trans_le hle
      rw [receiveLoop_of_received hst hnow'
        (sock.recvFrom_of_le hrecv (Nat.sub_le_sub_right hle _))]
      refine ih _ ?_ h rfl
      rcases sock.length_queue_recvFrom (recvDeadline - sock.now) with ⟨helapsed, -⟩ | hlt
      · rw [hrecv] at helapsed
        cases helapsed
      · rw [hrecv] at hlt
        exact hn ▸ hlt

/-- The session passes only with every echo heard, and then the deadline plays no part. -/
theorem runSession_of_le {env : TurnEchoEnv} {session : TurnSession} {srflx : SocketAddr}
    {recvTimeout recvTimeout' : ℕ} {count : UInt32} (hle : recvTimeout ≤ recvTimeout')
    (hpass : (runSession env session srflx recvTimeout count).status = .pass) :
    runSession env session srflx recvTimeout' count =
      runSession env session srflx recvTimeout count := by
  unfold runSession at hpass ⊢
  dsimp only at hpass ⊢
  rcases hperm : createPermission env session srflx recvTimeout with ⟨e | _, sock₁⟩
  · rw [hperm] at hpass
    cases hpass
  rw [hperm] at hpass
  rw [createPermission_of_le hle hperm]
  dsimp only at hpass ⊢
  rcases hsend : sendLoop session (List.finRange count.toNat) (Vector.replicate _ none) sock₁
    with ⟨e | sendTimes, sock₂⟩
  · rfl
  rw [hsend] at hpass
  dsimp only at hpass ⊢
  unfold collect at hpass ⊢
  dsimp only at hpass ⊢
  set lastSend := (sendTimes.toList.filterMap fun t => t).max?.getD sock₂.now
  rcases hloop : receiveLoop session (lastSend + recvTimeout) sendTimes sock₂
    (EchoState.start count) with ⟨e | st, sock₃⟩
  · rw [hloop] at hpass
    cases hpass
  rw [hloop] at hpass
  dsimp only at hpass ⊢
  rw [status_report] at hpass
  split_ifs at hpass with hnone hall
  have hfull : ¬st.received < count := by
    rw [hall]
    exact UInt32.lt_irrefl count
  rw [receiveLoop_of_le (Nat.add_le_add_left hle lastSend) hfull hloop]
  dsimp only
  unfold report
  dsimp only
  rw [if_neg hnone, if_neg hnone]

theorem run_withTimeout {env : TurnEchoEnv} {ctx : ProbeContext} {timeout : ℕ}
    (h₀ : ctx.defaultTimeout ≠ 0) (hle : ctx.defaultTimeout ≤ timeout)
    (hpass : (run env ctx).2.status = .pass) :
    run env (ctx.withTimeout timeout) =
      ((run env ctx).1.withTimeout timeout, (run env ctx).2) := by
  unfold run at hpass ⊢
  rw [ProbeContext.withTimeout_turnSession, ProbeContext.withTimeout_scratch]
  split at hpass
  · cases hpass
  split at hpass
  · cases hpass
  exact congrArg (Prod.mk _)
    (runSession_of_le (ProbeContext.timeoutOr_withTimeout_le h₀ hle _) hpass)

end TurnEchoCheck

theorem SignalingCheck.run_withTimeout {env : SignalingEnv} {self : SignalingCheck}
    {ctx : ProbeContext} {timeout : ℕ}
    (henv : ∀ url header {t t' : ℕ} {status : UInt16} {elapsed : ℕ}, t ≤ t' →
      env.connect url header t = (.received status, elapsed) →
      env.connect url header t' = (.received status, elapsed))
    (h₀ : ctx.defaultTimeout ≠ 0) (hle : ctx.defaultTimeout ≤ timeout)
    (hpass : (run env self ctx).2.status = .pass) :
    run env self (ctx.withTimeout timeout) =
      ((run env self ctx).1.withTimeout timeout, (run env self ctx).2) := by
  obtain ⟨intoClientRequest, headerValue, connect⟩ := env
  dsimp only at henv
  have hlonger : TurnsAllocateCheck.recvTimeout ctx ≤
      TurnsAllocateCheck.recvTimeout (ctx.withTimeout timeout) :=
    TurnsAllocateCheck.recvTimeout_withTimeout_le h₀ hle
  unfold run at hpass ⊢
  split at hpass
  · cases hpass
  split at hpass
  · cases hpass
  dsimp only at hpass ⊢
  split at hpass
  next status hconnect =>
    have hconnect' := henv self.url self.authHeader hlonger (Prod.ext hconnect rfl)
    unfold TurnsAllocateCheck.recvTimeout at hconnect'
    rw [hconnect']
  · cases hpass
  · cases hpass

theorem DtlsLoopbackCheck.run_withTimeout {env : DtlsEnv} {ctx : ProbeContext} {timeout : ℕ}
    (henv : ∀ {t t' : ℕ} {h : Handshake} {elapsed : ℕ}, t ≤ t' →
      env.loopback t = (.received h, elapsed) → env.loopback t' = (.received h, elapsed))
    (h₀ : ctx.defaultTimeout ≠ 0) (hle : ctx.defaultTimeout ≤ timeout)
    (hpass : (run env ctx).2.status = .pass) :
    run env (ctx.withTimeout timeout) =
      ((run env ctx).1.withTimeout timeout, (run env ctx).2) := by
  obtain ⟨sha256, loopback, remote⟩ := env
  dsimp only at henv
  have hlonger := ProbeContext.timeoutOr_withTimeout_le h₀ hle (Duration.fromSecs 5)
  unfold run at hpass ⊢
  dsimp only at hpass ⊢
  split at hpass
  next h hloopback =>
    rw [henv hlonger (Prod.ext hloopback rfl)]
  · cases hpass
  · cases hpass

theorem DtlsRemoteCheck.run_withTimeout {env : DtlsEnv} {ctx : ProbeContext} {timeout : ℕ}
    (henv : ∀ target {t t' : ℕ} {h : Handshake} {elapsed : ℕ}, t ≤ t' →
      env.remote target t = (.received h, elapsed) → env.remote target t' = (.received h, elapsed))
    (h₀ : ctx.defaultTimeout ≠ 0) (hle : ctx.defaultTimeout ≤ timeout)
    (hpass : (run env ctx).2.status = .pass) :
    run env (ctx.withTimeout timeout) =
      ((run env ctx).1.withTimeout timeout, (run env ctx).2) := by
  obtain ⟨sha256, loopback, remote⟩ := env
  dsimp only at henv
  have hlonger := ProbeContext.timeoutOr_withTimeout_le h₀ hle (Duration.fromSecs 5)
  unfold run at hpass ⊢
  rw [ProbeContext.withTimeout_port, ProbeContext.withTimeout_resolvedIps]
  split at hpass
  · cases hpass
  next port _ =>
  split at hpass
  · cases hpass
  next ip _ =>
  dsimp only at hpass ⊢
  split at hpass
  next h hremote =>
    rw [henv ⟨ip, port⟩ hlonger (Prod.ext hremote rfl)]
  · cases hpass
  · cases hpass

/-- The lookup has no timeout of its own. -/
theorem DnsCheck.run_withTimeout {env : DnsEnv} {ctx : ProbeContext} (timeout : ℕ) :
    run env (ctx.withTimeout timeout) =
      ((run env ctx).1.withTimeout timeout, (run env ctx).2) := by
  unfold run
  rw [ProbeContext.withTimeout_host, ProbeContext.withTimeout_port]
  split
  · rfl
  dsimp only
  split
  · rfl
  · split <;> rfl

theorem IceGatherCheck.run_withTimeout {env : IceGatherEnv} {ctx : ProbeContext} (timeout : ℕ) :
    run env (ctx.withTimeout timeout) =
      ((run env ctx).1.withTimeout timeout, (run env ctx).2) := by
  unfold run
  split <;> rfl

namespace ProbeCheck

/-- What a library finishes within a timeout, it finishes the same within a longer one. -/
def Patient : ProbeCheck → Prop
  | signaling env _ => ∀ url header {t t' : ℕ} {status : UInt16} {elapsed : ℕ}, t ≤ t' →
      env.connect url header t = (.received status, elapsed) →
      env.connect url header t' = (.received status, elapsed)
  | dtlsLoopback env => ∀ {t t' : ℕ} {h : Handshake} {elapsed : ℕ}, t ≤ t' →
      env.loopback t = (.received h, elapsed) → env.loopback t' = (.received h, elapsed)
  | dtlsRemote env => ∀ target {t t' : ℕ} {h : Handshake} {elapsed : ℕ}, t ≤ t' →
      env.remote target t = (.received h, elapsed) → env.remote target t' = (.received h, elapsed)
  | dns _ | stun _ | turnAlloc _ | turnsAlloc _ | turnEcho _ | iceGather _ => True

/-- A check that passes does the same under a longer timeout. -/
theorem run_withTimeout {ctx : ProbeContext} {timeout : ℕ} (h₀ : ctx.defaultTimeout ≠ 0)
    (hle : ctx.defaultTimeout ≤ timeout) : ∀ {c : ProbeCheck}, c.Patient →
    (c.check.run ctx).2.status = .pass → c.check.run (ctx.withTimeout timeout) =
      ((c.check.run ctx).1.withTimeout timeout, (c.check.run ctx).2)
  | dns _, _, _ => DnsCheck.run_withTimeout timeout
  | stun _, _, hpass => StunBindingCheck.run_withTimeout h₀ hle hpass
  | turnAlloc _, _, hpass => TurnAllocateCheck.run_withTimeout h₀ hle hpass
  | turnsAlloc _, _, hpass => TurnsAllocateCheck.run_withTimeout h₀ hle hpass
  | turnEcho _, _, hpass => TurnEchoCheck.run_withTimeout h₀ hle hpass
  | iceGather _, _, _ => IceGatherCheck.run_withTimeout timeout
  | signaling _ _, henv, hpass => SignalingCheck.run_withTimeout henv h₀ hle hpass
  | dtlsLoopback _, henv, hpass => DtlsLoopbackCheck.run_withTimeout henv h₀ hle hpass
  | dtlsRemote _, henv, hpass => DtlsRemoteCheck.run_withTimeout henv h₀ hle hpass

end ProbeCheck

/-! ## Runs -/

/-- With a longer timeout, a run over the same network reports the same up to the first check that
did not pass. So if every check passed, the longer timeout changes nothing. -/
theorem longer_timeout (cs : List ProbeCheck) (hpatient : ∀ c ∈ cs, c.Patient) (ctx : ProbeContext)
    (h₀ : ctx.defaultTimeout ≠ 0) {timeout : ℕ} (hle : ctx.defaultTimeout ≤ timeout)
    (elapsed elapsed' k : ℕ)
    (hpass : ∀ r ∈ (Pipeline.run (checksOf cs) ctx elapsed).2.results.take k, r.status = .pass) :
    (Pipeline.run (checksOf cs) (ctx.withTimeout timeout) elapsed').2.results.take k =
      (Pipeline.run (checksOf cs) ctx elapsed).2.results.take k := by
  refine Pipeline.lockstep (R := fun ctx₁ ctx₂ => ctx₁.defaultTimeout = ctx.defaultTimeout ∧
    ctx₂ = ctx₁.withTimeout timeout) (fun _ => rfl) (fun _ => rfl) ?_ ⟨rfl, rfl⟩ elapsed elapsed' k
    hpass
  rintro c hc ctx₁ _ ⟨htimeout, rfl⟩ hrun
  have hsame := ProbeCheck.run_withTimeout (htimeout ▸ h₀) (htimeout.trans_le hle) (hpatient c hc)
    hrun
  have hresult : (c.check.run (ctx₁.withTimeout timeout)).2 = (c.check.run ctx₁).2 := by rw [hsame]
  exact ⟨⟨(c.run_limits ctx₁).1.trans htimeout, congrArg Prod.fst hsame⟩, hresult⟩

open Sample in
/-- With a minute in place of five seconds, DNS and STUN report the same. -/
theorem longer_timeout_binding :
    (Pipeline.run (checksOf bindingChecks) (bindingCtx.withTimeout (Duration.fromSecs 60))
        0).2.results.take 2 =
      (Pipeline.run (checksOf bindingChecks) bindingCtx 0).2.results.take 2 := by
  have hle : bindingCtx.defaultTimeout ≤ Duration.fromSecs 60 := by decide
  have hpatient : ∀ c ∈ bindingChecks, c.Patient := by
    intro c hc
    simp only [bindingChecks, List.mem_cons, List.not_mem_nil, or_false] at hc
    rcases hc with rfl | rfl <;> trivial
  have hpass : ∀ r ∈ (Pipeline.run (checksOf bindingChecks) bindingCtx 0).2.results.take 2,
      r.status = .pass := by decide +kernel
  exact longer_timeout bindingChecks hpatient bindingCtx (by decide) hle 0 0 2 hpass

end WebrtcDoctor
