import WebrtcDoctor.EchoAccounting
import WebrtcDoctor.EchoTiming
import WebrtcDoctor.SessionDance

/-!
# A session under interference

A network may bring datagrams to the socket of a session that the server did not send in
answer : copies of its answers, answers that come late, datagrams of others. The receive loop
of the echo check passes over them. The reads of the three exchanges do not, they take what
comes first.

So the statuses of the two checks are those of a network that brings only the server's
answers as long as each of these reads begins with the awaited answer and no datagram passes
for an echo that the server did not send. Where a read begins with a datagram that is no
response to its request, a check fails (`statuses_eq`). A second copy of the challenge is
enough to fail the login (`challenge_twice`).
-/

open BigEndian Checked NetAddr

namespace WebrtcDoctor

namespace TurnEchoCheck

variable {count : UInt32}

/-! ## The receive loop up to its deadline -/

/-- The arrival is, as it is read, an echo of packet `seq`. -/
def Echoes {n : ℕ} (server : SocketAddr) (a : Arrival) (seq : Fin n) : Prop :=
  ∃ d, a.event = .ok d ∧ IsEcho server (asRead d) seq

section

variable {session : TurnSession} {recvDeadline : ℕ} {sendTimes : Vector (Option ℕ) count.toNat}
  {sendAt : ℕ → ℕ} {sock : UdpSocket} {st : EchoState count} {t : Tally (Fin count.toNat)}

/-- An echo of a packet that was heard counts only as a duplicate, other datagrams not at
all. -/
theorem received_absorb (hsent : ∀ i (hi : i < count.toNat), sendTimes[i] = some (sendAt i))
    (ht : Tallies st t) (recvAt : ℕ) {d : Datagram}
    (hd : ∀ seq, IsEcho session.server d seq → seq ∈ t.heard) :
    (absorb session sendTimes recvAt st d).received = st.received := by
  rw [absorb_eq session hsent]
  cases hecho : echoOf session.server count d with
  | none => rfl
  | some seq =>
    have hslot := (ht.slots seq).2 (hd seq ((echoOf_eq_some_iff _ _ _).1 hecho))
    dsimp only [EchoState.hear]
    rw [if_pos hslot]

/-- What arrives at the deadline or later changes nothing, if it echoes only packets that were
heard. At the deadline one datagram may be read. -/
theorem receiveLoop_late (hsent : ∀ i (hi : i < count.toNat), sendTimes[i] = some (sendAt i))
    (ht : Tallies st t) (hnow : sock.now < recvDeadline)
    (hlate : ∀ a ∈ sock.queue, recvDeadline ≤ a.time)
    (hevents : ∀ a ∈ sock.queue, ∃ d, a.event = .ok d)
    (hheard : ∀ a ∈ sock.queue, a.time ≤ recvDeadline →
      ∀ seq, Echoes session.server a seq → seq ∈ t.heard) :
    ∃ st', (receiveLoop session recvDeadline sendTimes sock st).1 = .ok st' ∧
      st'.received = st.received := by
  by_cases hst : st.received < count
  swap
  · exact ⟨st, by rw [receiveLoop_of_full hst], rfl⟩
  rcases hqueue : sock.queue with _ | ⟨a, queue⟩
  · exact ⟨st, receiveLoop_of_nil hqueue, rfl⟩
  have ha : a ∈ sock.queue := hqueue ▸ List.mem_cons_self
  obtain ⟨d, hd⟩ := hevents a ha
  have hge := hlate a ha
  by_cases hle : a.time ≤ recvDeadline
  · have hrecv := UdpSocket.recvFrom_cons_of_le hqueue hd
      (show a.time ≤ sock.now + (recvDeadline - sock.now) by omega)
    rw [receiveLoop_of_received hst hnow hrecv,
      receiveLoop_of_deadline (hge.trans (le_max_right _ _))]
    exact ⟨_, rfl, received_absorb hsent ht _ fun seq hseq => hheard a ha hle seq ⟨d, hd, hseq⟩⟩
  · refine ⟨st, receiveLoop_of_elapsed ?_, rfl⟩
    unfold UdpSocket.recvFrom
    rw [hqueue]
    dsimp only
    rw [if_neg (by omega)]

end

/-- A queue in order is what arrives before the deadline, then the rest. -/
theorem exists_early (recvDeadline : ℕ) : ∀ {queue : List Arrival},
    queue.Pairwise (fun a b => a.time ≤ b.time) → (∀ a ∈ queue, ∃ d, a.event = .ok d) →
      ∃ (early : List (ℕ × Datagram)) (late : List Arrival), queue = early.map arrival ++ late ∧
        (∀ p ∈ early, p.1 < recvDeadline) ∧ ∀ a ∈ late, recvDeadline ≤ a.time
  | [], _, _ => ⟨[], [], rfl, by simp, by simp⟩
  | a :: queue, hsorted, hevents => by
    obtain ⟨ha, hqueue⟩ := List.pairwise_cons.1 hsorted
    by_cases hlt : a.time < recvDeadline
    · obtain ⟨early, late, rfl, hearly, hlate⟩ :=
        exists_early recvDeadline hqueue fun b hb => hevents b (List.mem_cons_of_mem a hb)
      obtain ⟨d, hd⟩ := hevents a List.mem_cons_self
      refine ⟨(a.time, d) :: early, late, ?_, ?_, hlate⟩
      · rw [List.map_cons, List.cons_append, arrival, ← hd]
      · exact List.forall_mem_cons.2 ⟨hlt, hearly⟩
    · refine ⟨[], a :: queue, rfl, by simp, List.forall_mem_cons.2 ⟨Nat.le_of_not_lt hlt, ?_⟩⟩
      exact fun b hb => (Nat.le_of_not_lt hlt).trans (ha b hb)

/-- The reads of datagrams echo the packets that the datagrams do. -/
theorem mem_heardSeqs_reads (server : SocketAddr) (now : ℕ) (early : List (ℕ × Datagram))
    (seq : Fin count.toNat) : seq ∈ heardSeqs server count (reads now early) ↔
      ∃ p ∈ early, IsEcho server (asRead p.2) seq := by
  have hmap : (∃ d ∈ (reads now early).map Prod.snd, IsEcho server d seq) ↔
      ∃ d ∈ early.map fun p => asRead p.2, IsEcho server d seq := by
    rw [map_snd_reads]
  simp only [List.mem_map, exists_exists_and_eq_and] at hmap
  rw [heardSeqs, Finset.mem_filter, and_iff_right (Finset.mem_univ seq), hmap]

section

variable {session : TurnSession} {recvDeadline : ℕ} {sock : UdpSocket}
  {sendTimes : Vector (Option ℕ) count.toNat} {sendAt : ℕ → ℕ} {heard : Finset (Fin count.toNat)}

/-- The loop counts the packets `heard` : each is echoed before the deadline, and no other by
then. -/
theorem receiveLoop_heard (hsent : ∀ i (hi : i < count.toNat), sendTimes[i] = some (sendAt i))
    (hnow : sock.now < recvDeadline) (hsorted : sock.queue.Pairwise fun a b => a.time ≤ b.time)
    (hevents : ∀ a ∈ sock.queue, ∃ d, a.event = .ok d)
    (hin : ∀ seq ∈ heard, ∃ a ∈ sock.queue, a.time < recvDeadline ∧ Echoes session.server a seq)
    (hout : ∀ a ∈ sock.queue, a.time ≤ recvDeadline →
      ∀ seq, Echoes session.server a seq → seq ∈ heard) :
    ∃ st : EchoState count,
      (receiveLoop session recvDeadline sendTimes sock (.start count)).1 = .ok st ∧
      st.received.toNat = heard.card := by
  obtain ⟨early, late, hqueue, hearly, hlate⟩ := exists_early recvDeadline hsorted hevents
  have hheard : heardSeqs session.server count (reads sock.now early) = heard := by
    ext seq
    rw [mem_heardSeqs_reads]
    constructor
    · rintro ⟨p, hp, hecho⟩
      have hmem : arrival p ∈ sock.queue := by
        rw [hqueue]
        exact List.mem_append_left _ (List.mem_map_of_mem hp)
      exact hout _ hmem (hearly p hp).le seq ⟨p.2, rfl, hecho⟩
    · intro hseq
      obtain ⟨a, ha, htime, d, hd, hecho⟩ := hin seq hseq
      rw [hqueue] at ha
      rcases List.mem_append.1 ha with ha | ha
      · obtain ⟨p, hp, rfl⟩ := List.mem_map.1 ha
        cases hd
        exact ⟨p, hp, hecho⟩
      · exact absurd (hlate a ha) (Nat.not_le.2 htime)
  have htallies := tallies_start.absorbAll session hsent
    (consumed session.server count (reads sock.now early))
  have hall : (Tally.empty.hearAll (stream session.server count
      (consumed session.server count (reads sock.now early)))).heard = heard := by
    rw [heard_consumed, ← heardSeqs_eq, hheard]
  obtain ⟨sock', hnow', hqueue', hloop⟩ := receiveLoop_reads session hsent late early sock
    (EchoState.start count) Tally.empty tallies_start hqueue hearly hnow
  rw [hloop, ← consumed]
  rcases Tally.stopAt_cases count.toNat Tally.empty
    (stream session.server count (reads sock.now early)) with heq | hle
  · -- Everything before the deadline was read.
    rw [heq, stream, List.length_map, length_reads, List.drop_length, List.map_nil,
      List.nil_append] at hqueue'
    have hsub : ∀ a ∈ sock'.queue, a ∈ sock.queue := fun a ha => by
      rw [hqueue]
      exact List.mem_append_right _ (hqueue' ▸ ha)
    obtain ⟨st, hst, hreceived⟩ := receiveLoop_late hsent htallies hnow'
      (fun a ha => hlate a (hqueue' ▸ ha)) (fun a ha => hevents a (hsub a ha))
      fun a ha htime seq hecho => by
        rw [hall]
        exact hout a (hsub a ha) htime seq hecho
    exact ⟨st, hst, by rw [hreceived, htallies.received, hall]⟩
  · -- Every packet was heard.
    rw [← stream_consumed, ← htallies.received] at hle
    rw [receiveLoop_of_full fun hlt => Nat.not_lt.2 hle (UInt32.lt_iff_toNat_lt.1 hlt)]
    exact ⟨_, rfl, by rw [htallies.received, hall]⟩

/-- So the echo check ends with the verdict on them. -/
theorem status_runSession {env : TurnEchoEnv} {srflx : SocketAddr} {recvTimeout : ℕ}
    {sock₁ : UdpSocket} (hcount : 0 < count) (htimeout : 0 < recvTimeout)
    (hpermission : createPermission env session srflx recvTimeout = (.ok (), sock₁))
    (hsend : sendLoop session (List.finRange count.toNat) (Vector.replicate _ none) sock₁ =
      (.ok sendTimes, sock))
    (hsorted : sock.queue.Pairwise fun a b => a.time ≤ b.time)
    (hevents : ∀ a ∈ sock.queue, ∃ d, a.event = .ok d)
    (hin : ∀ seq ∈ heard, ∃ a ∈ sock.queue, a.time < sock.now + recvTimeout ∧
      Echoes session.server a seq)
    (hout : ∀ a ∈ sock.queue, a.time ≤ sock.now + recvTimeout →
      ∀ seq, Echoes session.server a seq → seq ∈ heard) :
    (runSession env session srflx recvTimeout count).status =
      if heard = ∅ then .fail else if heard = Finset.univ then .pass else .warn := by
  have hcount' : 0 < count.toNat := UInt32.lt_iff_toNat_lt.1 hcount
  obtain ⟨hsent, hnow⟩ := sendLoop_eq_ok hsend
  obtain ⟨st, hst, hreceived⟩ := receiveLoop_heard hsent (by omega) hsorted hevents hin hout
  rw [hnow] at hst
  obtain ⟨totalMs, hreport⟩ :=
    collect_of_receiveLoop srflx session.socket.now hcount' hsent hst
  rw [runSession_eq_collect hpermission hsend, hreport]
  exact status_report_of_card session hreceived srflx recvTimeout totalMs

end

/-! ## What the packets bring -/

/-- The send of packet `seq`. -/
def packet {n : ℕ} (relayed : SocketAddr) (seq : Fin n) : Sent :=
  ⟨relayed, makePayload (UInt32.ofNat seq)⟩

/-- What a send does to a socket : the network reacts, and its arrivals join the queue. -/
theorem sendTo_eq_ok {s s' : UdpSocket} {bytes : List UInt8} {target : SocketAddr}
    (h : s.sendTo bytes target = .ok s') : ∃ arrivals,
      s.react (s.sent ++ [⟨target, bytes⟩]) s.now = .ok arrivals ∧ s'.react = s.react ∧
      ∀ a, a ∈ s'.queue ↔ a ∈ s.queue ∨ a ∈ arrivals := by
  unfold UdpSocket.sendTo at h
  split at h
  · cases h
  next arrivals hreact =>
    cases h
    refine ⟨arrivals, hreact, rfl, fun a => ?_⟩
    rw [inOrder, (List.perm_insertionSort _ _).mem_iff, List.mem_append]

/-- What the sends of the packets `seqs` do : for each the network reacts to the packets up to
it, and the queue holds what was there and the reactions. -/
structure Brought {n : ℕ} (relayed : SocketAddr) (seqs : List (Fin n)) (sock sock' : UdpSocket) :
    Prop where
  now : sock.now ≤ sock'.now
  kept : ∀ a ∈ sock.queue, a ∈ sock'.queue
  joined : ∀ ps, ps ≠ [] → ps <+: seqs → ∃ now arrivals, now ≤ sock'.now ∧
    sock.react (sock.sent ++ ps.map (packet relayed)) now = .ok arrivals ∧
    ∀ a ∈ arrivals, a ∈ sock'.queue
  only : ∀ a ∈ sock'.queue, a ∈ sock.queue ∨ ∃ ps, ps ≠ [] ∧ ps <+: seqs ∧ ∃ now arrivals,
    sock.react (sock.sent ++ ps.map (packet relayed)) now = .ok arrivals ∧ a ∈ arrivals

/-- The packets bring what the server answers to each of them. -/
theorem brought_sendLoop (session : TurnSession) {n : ℕ} :
    ∀ {seqs : List (Fin n)} {times times' : Vector (Option ℕ) n} {sock sock' : UdpSocket},
      sendLoop session seqs times sock = (.ok times', sock') →
      Brought session.relayed seqs sock sock'
  | [], _, _, _, _, h => by
    rw [sendLoop] at h
    cases h
    exact ⟨le_rfl, fun _ ha => ha, fun ps hne hps => absurd (List.prefix_nil.1 hps) hne,
      fun _ ha => .inl ha⟩
  | seq :: seqs, times, times', sock, sock', h => by
    rw [sendLoop] at h
    split at h
    · cases h
    next sent hsent =>
      obtain ⟨arrivals, hreact, hsame, hqueue⟩ := sendTo_eq_ok hsent
      have ih := brought_sendLoop session h
      generalize hnext : (if seq.val + 1 < n then sent.sleep echoInterval else sent) = next at h ih
      have hfields : next.queue = sent.queue ∧ next.react = sock.react ∧
          next.sent = sock.sent ++ [packet session.relayed seq] ∧ sock.now ≤ next.now := by
        have hsents := UdpSocket.sent_of_sendTo hsent
        have hstart := (UdpSocket.now_of_sendTo hsent).ge
        rw [← hnext]
        split_ifs
        · exact ⟨rfl, hsame, hsents, hstart.trans (Nat.le_add_right _ _)⟩
        · exact ⟨rfl, hsame, hsents, hstart⟩
      obtain ⟨hq, hr, hs, hn⟩ := hfields
      obtain ⟨hnow, hkept, hjoined, honly⟩ := ih
      simp only [hr, hs, hq, hqueue, List.append_assoc, List.singleton_append]
        at hkept hjoined honly
      refine ⟨hn.trans hnow, fun a ha => hkept a (.inl ha), fun ps hne hps => ?_, fun a ha => ?_⟩
      · obtain ⟨p, ps, rfl⟩ := List.exists_cons_of_ne_nil hne
        obtain ⟨rfl, hps'⟩ := List.cons_prefix_cons.1 hps
        rcases ps with _ | ⟨p', ps⟩
        · exact ⟨sock.now, arrivals, hn.trans hnow, hreact, fun a ha => hkept a (.inr ha)⟩
        · exact hjoined (p' :: ps) (List.cons_ne_nil _ _) hps'
      · rcases honly a ha with (ha | ha) | ⟨ps, hne, hps, hcaused⟩
        · exact .inl ha
        · exact .inr ⟨[seq], List.cons_ne_nil _ _,
            List.cons_prefix_cons.2 ⟨rfl, List.nil_prefix⟩, sock.now, arrivals, hreact, ha⟩
        · exact .inr ⟨seq :: ps, List.cons_ne_nil _ _,
            List.cons_prefix_cons.2 ⟨rfl, hps⟩, hcaused⟩

/-- The send loop uses only the relay address of the session. -/
theorem sendLoop_congr {session session' : TurnSession} (h : session.relayed = session'.relayed)
    {n : ℕ} : ∀ (seqs : List (Fin n)) (times : Vector (Option ℕ) n) (sock : UdpSocket),
      sendLoop session seqs times sock = sendLoop session' seqs times sock
  | [], _, _ => rfl
  | seq :: seqs, times, sock => by
    rw [sendLoop, sendLoop, h]
    cases sock.sendTo (makePayload (UInt32.ofNat seq)) session'.relayed with
    | error e => rfl
    | ok sent => exact sendLoop_congr h seqs _ _

/-- The send loop gets through where every send does. -/
theorem sendLoop_of_react (session : TurnSession) {n : ℕ} :
    ∀ (seqs : List (Fin n)) (times : Vector (Option ℕ) n) {sock : UdpSocket},
      (∀ sent now, sent ≠ [] → ∃ arrivals, sock.react sent now = .ok arrivals) →
      ∃ times' sock', sendLoop session seqs times sock = (.ok times', sock')
  | [], times, sock, _ => ⟨times, sock, rfl⟩
  | seq :: seqs, times, sock, hreact => by
    obtain ⟨arrivals, harrivals⟩ := hreact (sock.sent ++ [packet session.relayed seq]) sock.now
      (List.append_ne_nil_of_right_ne_nil _ (List.cons_ne_nil _ _))
    rw [sendLoop, UdpSocket.sendTo]
    rw [packet] at harrivals
    rw [harrivals]
    dsimp only
    refine sendLoop_of_react session seqs _ fun sent now hne => ?_
    split_ifs <;> exact hreact sent now hne

end TurnEchoCheck

/-! ## Networks -/

/-- The network of `sock` brings the datagrams of a server at `server` before the timeout, and
others as it likes. `answers` are the datagrams the server sends because of the last of the
sends so far. -/
structure Brings (answers : List Sent → List (List UInt8)) (server : SocketAddr) (timeout : ℕ)
    (sock : UdpSocket) : Prop where
  nothingSent : sock.sent = []
  datagrams : ∀ a ∈ sock.queue, ∃ d, a.event = .ok d
  reacts : ∀ sent now, sent ≠ [] → ∃ arrivals, sock.react sent now = .ok arrivals ∧
    (∀ a ∈ arrivals, ∃ d, a.event = .ok d) ∧
    ∀ bytes ∈ answers sent, ∃ a ∈ arrivals, a.event = .ok ⟨server, bytes⟩ ∧ a.time < now + timeout

/-- The network of `sock` brings the datagrams of the server before the timeout, and no
others. -/
structure BringsOnly (answers : List Sent → List (List UInt8)) (server : SocketAddr) (timeout : ℕ)
    (sock : UdpSocket) : Prop where
  nothingSent : sock.sent = []
  nothingQueued : sock.queue = []
  reacts : ∀ sent now, sent ≠ [] → ∃ arrivals, sock.react sent now = .ok arrivals ∧
    arrivals.map Arrival.event = (answers sent).map (fun bytes => .ok ⟨server, bytes⟩) ∧
    ∀ a ∈ arrivals, a.time < now + timeout

/-- A network that brings nothing else brings the answers. -/
theorem BringsOnly.brings {answers : List Sent → List (List UInt8)} {server : SocketAddr}
    {timeout : ℕ} {sock : UdpSocket} (h : BringsOnly answers server timeout sock) :
    Brings answers server timeout sock where
  nothingSent := h.nothingSent
  datagrams := by simp [h.nothingQueued]
  reacts sent now hne := by
    obtain ⟨arrivals, hreact, hevents, htime⟩ := h.reacts sent now hne
    refine ⟨arrivals, hreact, fun a ha => ?_, fun bytes hbytes => ?_⟩
    · have hmem : a.event ∈ arrivals.map Arrival.event := List.mem_map_of_mem ha
      rw [hevents] at hmem
      obtain ⟨bytes, -, hevent⟩ := List.mem_map.1 hmem
      exact ⟨_, hevent.symm⟩
    · have hmem : Except.ok ⟨server, bytes⟩ ∈ arrivals.map Arrival.event := by
        rw [hevents]
        exact List.mem_map_of_mem hbytes
      obtain ⟨a, ha, hevent⟩ := List.mem_map.1 hmem
      exact ⟨a, ha, hevent, htime a ha⟩

/-- The answer to the last of the requests, as a read cuts it. -/
def replyOf (answers : List Sent → List (List UInt8)) (server : SocketAddr)
    (requests : List (List UInt8)) : List UInt8 :=
  ((answers (requests.map (Sent.mk server))).headD []).take UdpSocket.bufLen

section

variable (alloc : TurnAllocEnv) (echo : TurnEchoEnv) (ctx : ProbeContext) (server : SocketAddr)
  (answers : List Sent → List (List UInt8))

/-- The requests of a session with the server. -/
def sessionRequests : List (List UInt8) :=
  (sessionDance alloc echo ctx).asked (replyOf answers server) []

/-- How the exchanges of a session with the server end. -/
def sessionEnd : SessionEnd := (sessionDance alloc echo ctx).outcome (replyOf answers server) []

/-- The server answers every request of the session exactly once. -/
def AnswersOnce : Prop :=
  ∀ requests, requests ≠ [] → requests <+: sessionRequests alloc echo ctx server answers →
    (answers (requests.map (Sent.mk server))).length = 1

/-- The server echoes packet `seq` of the `n` packets that follow the requests. -/
def Echoed (grant : Grant) {n : ℕ} (seq : Fin n) : Prop :=
  ∃ ps, ps ≠ [] ∧ ps <+: List.finRange n ∧
    ∃ bytes ∈ answers ((sessionRequests alloc echo ctx server answers).map (Sent.mk server) ++
      ps.map (TurnEchoCheck.packet grant.relayed)),
    TurnEchoCheck.IsEcho server (TurnEchoCheck.asRead ⟨server, bytes⟩) seq

/-- Over `sock`, each read of an exchange begins with the awaited answer, and what passes for
an echo up to the deadline of the echo check is of a packet that the server echoes. -/
structure Unconfused (sock : UdpSocket) : Prop where
  reads : ReadsAnswers (replyOf answers server) server (sessionTimeout ctx) []
    (sessionRequests alloc echo ctx server answers) sock
  echoes : ∀ grant, sessionEnd alloc echo ctx server answers = .permitted grant →
    ∀ (sendTimes : Vector (Option ℕ) (max ctx.echoCount 1).toNat) sock',
      TurnEchoCheck.sendLoop (grant.session server sock) (List.finRange _) (Vector.replicate _ none)
        (exchanged server (sessionTimeout ctx) (sessionRequests alloc echo ctx server answers)
          sock) = (.ok sendTimes, sock') →
      ∀ a ∈ sock'.queue, a.time ≤ sock'.now + sessionTimeout ctx →
        ∀ seq : Fin (max ctx.echoCount 1).toNat, TurnEchoCheck.Echoes server a seq →
          Echoed alloc echo ctx server answers grant seq

end

/-! ## After the exchanges -/

/-- `sock'` is `sock` after some sends and reads, with nothing but datagrams in the queue. -/
structure Continues (sock : UdpSocket) (sent : List Sent) (sock' : UdpSocket) : Prop where
  sent : sock'.sent = sock.sent ++ sent
  react : sock'.react = sock.react
  datagrams : ∀ a ∈ sock'.queue, ∃ d, a.event = .ok d

section

variable {reply : List (List UInt8) → List UInt8} {server : SocketAddr} {timeout : ℕ}

/-- The exchanges leave the reaction of the network and the sends of the requests. -/
theorem continues_exchanged : ∀ (requests : List (List UInt8)) {asked : List (List UInt8)}
    {sock : UdpSocket}, ReadsAnswers reply server timeout asked requests sock →
    (∀ a ∈ sock.queue, ∃ d, a.event = .ok d) →
    (∀ sent now arrivals, sent ≠ [] → sock.react sent now = .ok arrivals →
      ∀ a ∈ arrivals, ∃ d, a.event = .ok d) →
    Continues sock (requests.map (Sent.mk server)) (exchanged server timeout requests sock)
  | [], _, sock, _, hqueue, _ => ⟨(List.append_nil _).symm, rfl, hqueue⟩
  | request :: requests, asked, sock, hreads, hqueue, hreact => by
    obtain ⟨sent, hmem, hfirst, hrest⟩ := hreads
    have hsend := mem_toOption.1 hmem
    obtain ⟨arrivals, harrivals, hsame, hjoined⟩ := TurnEchoCheck.sendTo_eq_ok hsend
    have hreact' : (sent.recvFrom timeout).2.react = sock.react :=
      (sent.react_recvFrom timeout).trans hsame
    obtain ⟨hsents, hreacts, hdatagrams⟩ := continues_exchanged requests hrest
      (fun a ha => by
        rcases (hjoined a).1 (sent.queue_recvFrom_subset timeout ha) with ha | ha
        · exact hqueue a ha
        · exact hreact _ _ _ (List.append_ne_nil_of_right_ne_nil _ (List.cons_ne_nil _ _))
            harrivals a ha)
      (by rwa [hreact'])
    rw [exchanged, List.foldl_cons, udpExchange_of_answerFirst hsend hfirst]
    refine ⟨?_, hreacts.trans hreact', hdatagrams⟩
    rw [sent.sent_recvFrom timeout, UdpSocket.sent_of_sendTo hsend, List.append_assoc] at hsents
    exact hsents

end

/-! ## The verdict -/

section

variable {alloc : TurnAllocEnv} {echo : TurnEchoEnv} {ctx : ProbeContext} {port : UInt16}
  {ip : IpAddr} {server : SocketAddr} {answers : List Sent → List (List UInt8)}
  {sock : UdpSocket}

theorem sessionTimeout_pos (ctx : ProbeContext) : 0 < sessionTimeout ctx := by
  unfold sessionTimeout ProbeContext.timeoutOr
  split_ifs with h
  · decide
  · exact Nat.pos_of_ne_zero h

theorem append_packets_ne_nil {n : ℕ} {relayed : SocketAddr} (sent : List Sent)
    {ps : List (Fin n)} (h : ps ≠ []) : sent ++ ps.map (TurnEchoCheck.packet relayed) ≠ [] :=
  List.append_ne_nil_of_right_ne_nil sent (mt List.map_eq_nil_iff.1 h)

theorem max_one_pos (n : UInt32) : 0 < max n 1 := by
  show 0 < if n ≤ 1 then 1 else n
  split_ifs with h
  · decide
  · rw [UInt32.le_iff_toNat_le, Nat.not_le] at h
    exact UInt32.lt_iff_toNat_lt.2 (Nat.zero_lt_of_lt h)

/-- After the exchanges the queue holds what the server answers to the rest. -/
theorem Brings.continues (h : Brings answers server (sessionTimeout ctx) sock)
    (hreads : ReadsAnswers (replyOf answers server) server (sessionTimeout ctx) []
      (sessionRequests alloc echo ctx server answers) sock) :
    Continues sock ((sessionRequests alloc echo ctx server answers).map (Sent.mk server))
      (exchanged server (sessionTimeout ctx) (sessionRequests alloc echo ctx server answers)
        sock) := by
  refine continues_exchanged _ hreads h.datagrams fun sent now arrivals hne hreact => ?_
  obtain ⟨arrivals', hreact', hdatagrams, -⟩ := h.reacts sent now hne
  rw [hreact] at hreact'
  cases hreact'
  exact hdatagrams

/-- The exchanges of a network that is not confused end as with the server. -/
theorem Unconfused.gives (h : Unconfused alloc echo ctx ⟨ip, port⟩ answers sock)
    (hport : ctx.port = some port) (hip : ctx.resolvedIps.head? = some ip) :
    (sessionEnd alloc echo ctx ⟨ip, port⟩ answers).Gives echo ctx ⟨ip, port⟩
      (statuses alloc echo ctx sock) (exchanged ⟨ip, port⟩ (sessionTimeout ctx)
        (sessionRequests alloc echo ctx ⟨ip, port⟩ answers) sock) :=
  statuses_give hport hip (runOver_of_readsAnswers _ h.reads)

/-- The echo check over a network that is not confused ends with the verdict on the packets
that the server echoes. -/
theorem Unconfused.status (h : Unconfused alloc echo ctx server answers sock)
    (hbrings : Brings answers server (sessionTimeout ctx) sock) {grant : Grant} {srflx : SocketAddr}
    {sock₀ : UdpSocket} {heard : Finset (Fin (max ctx.echoCount 1).toNat)}
    (hgrant : sessionEnd alloc echo ctx server answers = .permitted grant)
    (hheard : ∀ seq, seq ∈ heard ↔ Echoed alloc echo ctx server answers grant seq)
    (hpermission : TurnEchoCheck.createPermission echo (grant.session server sock₀) srflx
      (sessionTimeout ctx) = (.ok (), exchanged server (sessionTimeout ctx)
        (sessionRequests alloc echo ctx server answers) sock)) :
    (TurnEchoCheck.runSession echo (grant.session server sock₀) srflx (sessionTimeout ctx)
      (max ctx.echoCount 1)).status =
        if heard = ∅ then .fail else if heard = Finset.univ then .pass else .warn := by
  obtain ⟨hsent, hreact, hdatagrams⟩ := hbrings.continues h.reads
  rw [hbrings.nothingSent, List.nil_append] at hsent
  have hcount : 0 < max ctx.echoCount 1 := max_one_pos ctx.echoCount
  obtain ⟨sendTimes, sock₂, hsend⟩ := TurnEchoCheck.sendLoop_of_react (grant.session server sock₀)
    (List.finRange (max ctx.echoCount 1).toNat) (Vector.replicate _ none) fun sent now hne => by
      obtain ⟨arrivals, harrivals, -⟩ := hbrings.reacts sent now hne
      exact ⟨arrivals, by rw [hreact, harrivals]⟩
  obtain ⟨-, -, hjoined, honly⟩ := TurnEchoCheck.brought_sendLoop _ hsend
  rw [hsent, hreact] at hjoined honly
  refine TurnEchoCheck.status_runSession hcount (sessionTimeout_pos ctx) hpermission hsend
    (TurnEchoCheck.pairwise_of_packets (UInt32.lt_iff_toNat_lt.1 hcount) hsend) (fun a ha => ?_)
    (fun seq hseq => ?_) fun a ha htime seq hecho => ?_
  · rcases honly a ha with ha | ⟨ps, hps, -, now, arrivals, harrivals, ha⟩
    · exact hdatagrams a ha
    · obtain ⟨arrivals', harrivals', hevents, -⟩ :=
        hbrings.reacts _ now (append_packets_ne_nil _ hps)
      cases harrivals.symm.trans harrivals'
      exact hevents a ha
  · obtain ⟨ps, hps, hprefix, bytes, hbytes, hecho⟩ := (hheard seq).1 hseq
    obtain ⟨now, arrivals, hnow, harrivals, hqueue⟩ := hjoined ps hps hprefix
    obtain ⟨arrivals', harrivals', -, hanswers⟩ :=
      hbrings.reacts _ now (append_packets_ne_nil _ hps)
    cases harrivals.symm.trans harrivals'
    obtain ⟨a, ha, hevent, htime⟩ := hanswers bytes hbytes
    exact ⟨a, hqueue a ha, by omega, _, hevent, hecho⟩
  · refine (hheard seq).2 (h.echoes grant hgrant sendTimes sock₂ ?_ a ha htime seq hecho)
    rw [← hsend]
    have hrelayed : (grant.session server sock).relayed =
        (grant.session server sock₀).relayed := rfl
    exact TurnEchoCheck.sendLoop_congr hrelayed _ _ _

/-- Two networks that bring the datagrams of one server, and are not confused, give the same
statuses. -/
theorem statuses_eq_of_unconfused {sock' : UdpSocket} (hport : ctx.port = some port)
    (hip : ctx.resolvedIps.head? = some ip)
    (hbrings : Brings answers ⟨ip, port⟩ (sessionTimeout ctx) sock)
    (hbrings' : Brings answers ⟨ip, port⟩ (sessionTimeout ctx) sock')
    (h : Unconfused alloc echo ctx ⟨ip, port⟩ answers sock)
    (h' : Unconfused alloc echo ctx ⟨ip, port⟩ answers sock') :
    statuses alloc echo ctx sock = statuses alloc echo ctx sock' := by
  classical
  have hgives := h.gives hport hip
  have hgives' := h'.gives hport hip
  cases hend : sessionEnd alloc echo ctx ⟨ip, port⟩ answers with
  | ended a e =>
    rw [hend] at hgives hgives'
    exact Eq.trans hgives hgives'.symm
  | permitted grant =>
    rw [hend] at hgives hgives'
    obtain ⟨sock₀, srflx, hpermission, hstatuses⟩ := hgives
    obtain ⟨sock₀', srflx', hpermission', hstatuses'⟩ := hgives'
    have hheard : ∀ seq : Fin (max ctx.echoCount 1).toNat,
        seq ∈ Finset.univ.filter (Echoed alloc echo ctx ⟨ip, port⟩ answers grant) ↔
          Echoed alloc echo ctx ⟨ip, port⟩ answers grant seq := fun seq => by
      rw [Finset.mem_filter, and_iff_right (Finset.mem_univ seq)]
    rw [hstatuses, hstatuses', h.status hbrings hend hheard hpermission,
      h'.status hbrings' hend hheard hpermission']

/-! ## The network of the server alone -/

/-- Over a network that brings only the answers, each read of an exchange begins with the
awaited one. Nothing is left in the queue. -/
theorem BringsOnly.reads (h : BringsOnly answers server (sessionTimeout ctx) sock)
    (honce : AnswersOnce alloc echo ctx server answers) :
    ∀ (requests asked : List (List UInt8)) {sock' : UdpSocket},
      asked ++ requests <+: sessionRequests alloc echo ctx server answers →
      Continues sock (asked.map (Sent.mk server)) sock' → sock'.queue = [] →
      ReadsAnswers (replyOf answers server) server (sessionTimeout ctx) asked requests sock' ∧
        (exchanged server (sessionTimeout ctx) requests sock').queue = []
  | [], _, _, _, _, hqueue => ⟨trivial, hqueue⟩
  | request :: requests, asked, sock', hprefix, hcontinues, hqueue => by
    have hmap : (asked ++ [request]).map (Sent.mk server) = sock'.sent ++ [⟨server, request⟩] := by
      rw [hcontinues.sent, h.nothingSent, List.nil_append, List.map_append]
      rfl
    rw [List.append_cons] at hprefix
    obtain ⟨bytes, hbytes⟩ := List.length_eq_one_iff.1 (honce (asked ++ [request]) (by simp)
      ((List.prefix_append _ _).trans hprefix))
    obtain ⟨arrivals, hreact, hevents, htimes⟩ :=
      h.reacts (sock'.sent ++ [⟨server, request⟩]) sock'.now (by simp)
    rw [← hmap, hbytes, List.map_singleton] at hevents
    obtain ⟨a, rfl, hevent⟩ := List.map_eq_singleton_iff.1 hevents
    have htime := htimes a (List.mem_singleton_self a)
    let sent : UdpSocket :=
      { sock' with sent := sock'.sent ++ [⟨server, request⟩], queue := [a] }
    have hsend : sock'.sendTo request server = .ok sent := by
      rw [← hcontinues.react] at hreact
      rw [UdpSocket.sendTo, hreact, hqueue]
      rfl
    have hrecv := UdpSocket.recvFrom_cons_of_le (show sent.queue = a :: [] from rfl) hevent htime.le
    have hfirst : AnswerFirst (sessionTimeout ctx) (replyOf answers server (asked ++ [request]))
        sent := by
      refine ⟨a, rfl, htime.le, _, mem_toOption.2 hevent, ?_⟩
      rw [replyOf, hbytes]
      rfl
    have hcontinues' : Continues sock ((asked ++ [request]).map (Sent.mk server))
        (sent.recvFrom (sessionTimeout ctx)).2 := by
      rw [hrecv]
      exact ⟨by rw [h.nothingSent, hmap]; rfl, hcontinues.react, by simp⟩
    obtain ⟨hreads, hend⟩ := BringsOnly.reads h honce requests (asked ++ [request]) hprefix
      hcontinues' (by rw [hrecv])
    refine ⟨⟨sent, mem_toOption.2 hsend, hfirst, hreads⟩, ?_⟩
    rw [exchanged, List.foldl_cons, udpExchange_of_answerFirst hsend hfirst]
    exact hend

/-- The network of the server alone is not confused. -/
theorem BringsOnly.unconfused (h : BringsOnly answers server (sessionTimeout ctx) sock)
    (honce : AnswersOnce alloc echo ctx server answers) :
    Unconfused alloc echo ctx server answers sock := by
  obtain ⟨hreads, hend⟩ := h.reads honce (sessionRequests alloc echo ctx server answers) []
    (List.prefix_refl _) ⟨(List.append_nil _).symm, rfl, by simp [h.nothingQueued]⟩ h.nothingQueued
  refine ⟨hreads, fun grant _ sendTimes sock' hsend a ha _ seq hecho => ?_⟩
  obtain ⟨hsent, hreact, -⟩ := h.brings.continues hreads
  rw [h.nothingSent, List.nil_append] at hsent
  obtain ⟨-, -, -, honly⟩ := TurnEchoCheck.brought_sendLoop _ hsend
  rw [hsent, hreact, hend] at honly
  rcases honly a ha with hnil | ⟨ps, hps, hprefix, now, arrivals, harrivals, ha'⟩
  · cases hnil
  obtain ⟨arrivals', harrivals', hevents, -⟩ := h.reacts _ now (append_packets_ne_nil _ hps)
  cases harrivals.symm.trans harrivals'
  have hmem : a.event ∈ arrivals.map Arrival.event := List.mem_map_of_mem ha'
  rw [hevents] at hmem
  obtain ⟨bytes, hbytes, hevent⟩ := List.mem_map.1 hmem
  obtain ⟨d, hd, hecho⟩ := hecho
  rw [← hevent] at hd
  cases hd
  exact ⟨ps, hps, hprefix, bytes, hbytes, hecho⟩

end

/-! ## Confused reads -/

/-- The datagram is no response to the request with the transaction ID `id`. -/
def Foreign (id : TxId) (bytes : List UInt8) : Prop := ∀ header, parseHeader bytes id ≠ .ok header

/-- What answers another request does not parse as an Allocate response to this one. -/
theorem Foreign.allocate {id : TxId} {bytes : List UInt8} (h : Foreign id bytes) :
    ∃ e, (parseAllocateResponse bytes id).result (parseAllocateResponse_safe _ _) = .error e := by
  cases hparse : (parseAllocateResponse bytes id).result (parseAllocateResponse_safe _ _) with
  | error e => exact ⟨e, rfl⟩
  | ok outcome =>
    obtain ⟨header, hheader, -⟩ := bind_eq_ok.1 (result_eq_ok.1 hparse)
    exact absurd (mapErr_eq_ok.1 hheader) (h header)

/-- What answers another request does not parse as a CreatePermission response to this one. -/
theorem Foreign.permission {id : TxId} {bytes : List UInt8} (h : Foreign id bytes) :
    ∃ e, (TurnEchoCheck.parseCreatePermissionResponse bytes id).result
      (TurnEchoCheck.parseCreatePermissionResponse_safe _ _) = .error e := by
  cases hparse : (TurnEchoCheck.parseCreatePermissionResponse bytes id).result
      (TurnEchoCheck.parseCreatePermissionResponse_safe _ _) with
  | error e => exact ⟨e, rfl⟩
  | ok outcome =>
    obtain ⟨header, hheader, -⟩ := bind_eq_ok.1 (result_eq_ok.1 hparse)
    exact absurd (mapErr_eq_ok.1 hheader) (h header)

/-- Some exchange, of a request with the transaction ID of its turn in `ids`, reads a datagram
that is no response to it. Those before it read the awaited answers. -/
def Misreads (reply : List (List UInt8) → List UInt8) (server : SocketAddr) (timeout : ℕ) :
    List TxId → List (List UInt8) → List (List UInt8) → UdpSocket → Prop
  | id :: ids, asked, request :: requests, sock => ∃ sent ∈ (sock.sendTo request server).toOption,
      (∃ bytes, Foreign id bytes ∧ AnswerFirst timeout bytes sent) ∨
      AnswerFirst timeout (reply (asked ++ [request])) sent ∧
        Misreads reply server timeout ids (asked ++ [request]) requests (sent.recvFrom timeout).2
  | _, _, _, _ => False

/-- A check has failed. -/
def SessionEnd.Failed : SessionEnd → Prop
  | .ended a e => a = .fail ∨ e = .fail
  | .permitted _ => False

/-- The dialogue ends with a failure at a datagram that is no response to its request. -/
def FailsForeign (reply : List (List UInt8) → List UInt8) :
    List TxId → Dialogue (List UInt8) (List UInt8) SessionEnd → List (List UInt8) → Prop
  | _, .done _, _ => True
  | [], .ask _ _, _ => False
  | id :: ids, .ask request next, asked =>
    (∀ bytes, Foreign id bytes → ∃ e, next bytes = .done e ∧ e.Failed) ∧
      FailsForeign reply ids (next (reply (asked ++ [request]))) (asked ++ [request])

section

variable {alloc : TurnAllocEnv} {echo : TurnEchoEnv} {ctx : ProbeContext}
  (reply : List (List UInt8) → List UInt8) (asked : List (List UInt8))

/-- A foreign reply to the CreatePermission ends the session. -/
theorem failsForeign_permission (grant : Grant) (srflx : SocketAddr) :
    FailsForeign reply [echo.txid] (permissionDance echo grant srflx) asked := by
  refine ⟨fun bytes h => ?_, ?_⟩
  · obtain ⟨e, he⟩ := h.permission
    dsimp only
    rw [he]
    exact ⟨_, rfl, .inr rfl⟩
  · dsimp only
    split <;> trivial

/-- A foreign reply to the authenticated request, or later, ends the session. -/
theorem failsForeign_authed (realm : String) (nonce : List UInt8) (user pass : String) :
    FailsForeign reply [alloc.txid2, echo.txid]
      (authedSession alloc echo ctx realm nonce user pass) asked := by
  refine ⟨fun bytes h => ?_, ?_⟩
  · obtain ⟨e, he⟩ := h.allocate
    dsimp only
    rw [he]
    exact ⟨_, rfl, .inl rfl⟩
  · dsimp only
    split
    · split
      · trivial
      · exact failsForeign_permission reply _ _ _
    · trivial

/-- A foreign reply to any request ends the session. -/
theorem failsForeign_session : FailsForeign reply [alloc.txid1, alloc.txid2, echo.txid]
    (sessionDance alloc echo ctx) asked := by
  refine ⟨fun bytes h => ?_, ?_⟩
  · obtain ⟨e, he⟩ := h.allocate
    dsimp only
    rw [he]
    exact ⟨_, rfl, .inl rfl⟩
  · dsimp only
    split
    · trivial
    · trivial
    · trivial
    · split
      · exact failsForeign_authed reply _ _ _ _ _
      · trivial

end

/-- A misread ends the dialogue with a failure. -/
theorem runOver_of_misreads {reply : List (List UInt8) → List UInt8} {server : SocketAddr}
    {timeout : ℕ} : ∀ (ids : List TxId) (d : Dialogue (List UInt8) (List UInt8) SessionEnd)
      {asked requests : List (List UInt8)} {sock : UdpSocket}, FailsForeign reply ids d asked →
      d.asked reply asked = asked ++ requests →
      Misreads reply server timeout ids asked requests sock →
      ∃ e sock', d.runOver (TurnAllocateCheck.udpExchange server timeout) sock = (.ok e, sock') ∧
        e.Failed
  | [], _, _, _, _, _, _, h => h.elim
  | _ :: _, _, _, [], _, _, _, h => h.elim
  | id :: ids, .done e, asked, request :: requests, _, _, hasked, _ => by
    simp [Dialogue.asked] at hasked
  | id :: ids, .ask q next, asked, request :: requests, sock, hfails, hasked, h => by
    obtain ⟨hforeign, hnext⟩ := hfails
    obtain ⟨rest, hrest⟩ := Dialogue.prefix_asked reply
      (next (reply (asked ++ [q]))) (asked ++ [q])
    rw [Dialogue.asked, ← hrest, List.append_assoc, List.append_cancel_left_eq] at hasked
    obtain ⟨rfl, rfl⟩ := List.cons.inj hasked
    obtain ⟨sent, hmem, ⟨bytes, hbytes, hfirst⟩ | ⟨hfirst, hmisreads⟩⟩ := h
    · rw [Dialogue.runOver_ask_of_ok (udpExchange_of_answerFirst (mem_toOption.1 hmem) hfirst)]
      obtain ⟨e, hend, hfailed⟩ := hforeign bytes hbytes
      rw [hend]
      exact ⟨e, _, rfl, hfailed⟩
    · rw [Dialogue.runOver_ask_of_ok (udpExchange_of_answerFirst (mem_toOption.1 hmem) hfirst)]
      exact runOver_of_misreads ids _ hnext hrest.symm hmisreads

/-- In a session that reads, in place of an awaited answer, a datagram that is no response to
the request, a check fails. -/
theorem fail_of_misreads {alloc : TurnAllocEnv} {echo : TurnEchoEnv} {ctx : ProbeContext}
    {port : UInt16} {ip : IpAddr} {answers : List Sent → List (List UInt8)} {sock : UdpSocket}
    (hport : ctx.port = some port) (hip : ctx.resolvedIps.head? = some ip)
    (h : Misreads (replyOf answers ⟨ip, port⟩) ⟨ip, port⟩ (sessionTimeout ctx)
      [alloc.txid1, alloc.txid2, echo.txid] [] (sessionRequests alloc echo ctx ⟨ip, port⟩ answers)
      sock) :
    (statuses alloc echo ctx sock).1 = .fail ∨ (statuses alloc echo ctx sock).2 = .fail := by
  obtain ⟨e, sock', hover, hfailed⟩ := runOver_of_misreads _ _ (failsForeign_session _ []) rfl h
  have hgives := statuses_give hport hip hover
  cases e with
  | ended a e =>
    rw [show statuses alloc echo ctx sock = (a, e) from hgives]
    exact hfailed
  | permitted grant => exact hfailed.elim

/-- A network may bring datagrams that the server did not send in answer. As long as each read
of an exchange begins with the awaited answer and no packet is echoed that the server does not
echo, the statuses are those without such datagrams. A read that begins with a datagram that is
no response to the request changes the status of a check that does not fail anyway. -/
theorem statuses_eq {alloc : TurnAllocEnv} {echo : TurnEchoEnv} {ctx : ProbeContext}
    {port : UInt16} {ip : IpAddr} {answers : List Sent → List (List UInt8)}
    {sock sock' : UdpSocket} (hport : ctx.port = some port) (hip : ctx.resolvedIps.head? = some ip)
    (honce : AnswersOnce alloc echo ctx ⟨ip, port⟩ answers)
    (honly : BringsOnly answers ⟨ip, port⟩ (sessionTimeout ctx) sock)
    (hbrings : Brings answers ⟨ip, port⟩ (sessionTimeout ctx) sock') :
    (Unconfused alloc echo ctx ⟨ip, port⟩ answers sock' →
      statuses alloc echo ctx sock' = statuses alloc echo ctx sock) ∧
    (Misreads (replyOf answers ⟨ip, port⟩) ⟨ip, port⟩ (sessionTimeout ctx)
        [alloc.txid1, alloc.txid2, echo.txid] [] (sessionRequests alloc echo ctx ⟨ip, port⟩ answers)
        sock' →
      (statuses alloc echo ctx sock).1 ≠ .fail → (statuses alloc echo ctx sock).2 ≠ .fail →
        statuses alloc echo ctx sock' ≠ statuses alloc echo ctx sock) := by
  refine ⟨fun h => ?_, fun h halloc hecho heq => ?_⟩
  · exact statuses_eq_of_unconfused hport hip hbrings honly.brings h (honly.unconfused honce)
  · rcases fail_of_misreads hport hip h with hfail | hfail
    · exact halloc (heq ▸ hfail)
    · exact hecho (heq ▸ hfail)

/-! ## A relay and its echoes -/

namespace Sample

/-- The relay answers the three requests, and echoes the packets that follow. -/
def relayAt : ℕ → List (List UInt8)
  | 0 => []
  | 1 => [challenge (txid 1)]
  | 2 => [grant (txid 2)]
  | 3 => [message createPermissionSuccess (txid 3) []]
  | n + 4 => [echo (UInt32.ofNat n)]

/-- What the relay answers to the last of the sends. -/
def relay (sent : List Sent) : List (List UInt8) := relayAt sent.length

/-- What the relay answers arrives after ten milliseconds, and the datagrams `others` with
it. -/
def network (queue : List Arrival) (others : ℕ → ℕ → List Arrival) : UdpSocket where
  now := 0
  queue := queue
  sent := []
  react sent now := .ok ((relay sent).map (fun bytes =>
    ⟨now + Duration.fromMillis 10, .ok ⟨server, bytes⟩⟩) ++ others sent.length now)

/-- Nothing but the answers. -/
def quiet : UdpSocket := network [] fun _ _ => []

/-- The challenge arrives a second time, a millisecond after the first. -/
def challengedTwice : UdpSocket := network [] fun n now =>
  if n = 1 then [⟨now + Duration.fromMillis 11, .ok ⟨server, challenge (txid 1)⟩⟩] else []

/-- The challenge arrives again when the exchanges are over, the packet is echoed twice, and
another host sends a copy. -/
def noisy : UdpSocket := network
  [⟨Duration.fromMillis 31, .ok ⟨server, challenge (txid 1)⟩⟩,
    ⟨Duration.fromMillis 35, .ok ⟨srflx, echo 0⟩⟩] fun n now =>
  if n = 4 then [⟨now + Duration.fromMillis 12, .ok ⟨server, echo 0⟩⟩] else []

/-- One packet. -/
def sessionCtx : ProbeContext :=
  { loginCtx.insertScratch "srflx" (toString srflx) with echoCount := 1 }

/-- The echo check of the samples. -/
def echoEnv : TurnEchoEnv := ⟨crypto, txid 3⟩

theorem length_relay {sent : List Sent} (h : sent ≠ []) : (relay sent).length = 1 := by
  unfold relay
  rcases hn : sent.length with _ | _ | _ | _ | n
  · exact absurd (List.length_eq_zero_iff.1 hn) h
  · rfl
  · rfl
  · rfl
  · rfl

/-- The relay of the samples answers each request once. -/
theorem answersOnce_relay : AnswersOnce (allocEnv []) echoEnv sessionCtx server relay :=
  fun _ hne _ => length_relay (mt List.map_eq_nil_iff.1 hne)

theorem brings_network {queue : List Arrival} {others : ℕ → ℕ → List Arrival}
    (hqueue : ∀ a ∈ queue, ∃ d, a.event = .ok d)
    (hothers : ∀ n now, ∀ a ∈ others n now, ∃ d, a.event = .ok d) :
    Brings relay server (sessionTimeout sessionCtx) (network queue others) where
  nothingSent := rfl
  datagrams := hqueue
  reacts sent now _ := by
    refine ⟨_, rfl, fun a ha => ?_, fun bytes hbytes => ?_⟩
    · rcases List.mem_append.1 ha with ha | ha
      · obtain ⟨bytes, -, rfl⟩ := List.mem_map.1 ha
        exact ⟨_, rfl⟩
      · exact hothers _ _ a ha
    · refine ⟨_, List.mem_append_left _ (List.mem_map_of_mem hbytes), rfl, ?_⟩
      exact Nat.add_lt_add_left (by decide) now

/-- The quiet network brings the answers and nothing else. -/
theorem bringsOnly_quiet : BringsOnly relay server (sessionTimeout sessionCtx) quiet where
  nothingSent := rfl
  nothingQueued := rfl
  reacts sent now _ := by
    refine ⟨_, rfl, by simp [Function.comp_def], fun a ha => ?_⟩
    obtain ⟨bytes, -, rfl⟩ := List.mem_map.1 (List.append_nil _ ▸ ha)
    exact Nat.add_lt_add_left (by decide) now

/-- A session with that relay makes three requests. -/
theorem sessionRequests_relay : ∃ unauth authed permission,
    sessionRequests (allocEnv []) echoEnv sessionCtx server relay = [unauth, authed, permission] :=
  List.length_eq_three.1 (by decide +kernel)

/-- The relay echoes the one packet. -/
theorem echoed_relay (grant : Grant) {n : ℕ} (hn : n = 1) (seq : Fin n) :
    Echoed (allocEnv []) echoEnv sessionCtx server relay grant seq := by
  obtain ⟨unauth, authed, permission, hrequests⟩ := sessionRequests_relay
  subst hn
  obtain rfl : seq = 0 := Subsingleton.elim _ _
  refine ⟨[0], List.cons_ne_nil _ _, by decide, echo 0, ?_, by decide +kernel⟩
  rw [hrequests]
  exact List.mem_singleton_self _

/-- Nothing on the noisy network is taken for what it is not. -/
theorem unconfused_noisy : Unconfused (allocEnv []) echoEnv sessionCtx server relay noisy where
  reads := by decide +kernel
  echoes grant _ _ _ _ _ _ _ seq _ := echoed_relay grant (by decide) seq

end Sample

open Sample

/-- The noisy network gives the statuses of the quiet one. -/
theorem statuses_eq_noisy :
    statuses (allocEnv []) echoEnv sessionCtx noisy =
      statuses (allocEnv []) echoEnv sessionCtx quiet :=
  (statuses_eq rfl rfl answersOnce_relay bringsOnly_quiet
    (brings_network (by simp) fun n now a ha => by
      split_ifs at ha
      · exact ⟨_, by rw [List.mem_singleton.1 ha]⟩
      · cases ha)).1 unconfused_noisy

/-- The transaction IDs are distinct and the relay answers every request once, correctly and in
time. A second copy of the challenge fails the login : round 2 reads it. -/
theorem challenge_twice :
    [txid 1, txid 2, txid 3].Nodup ∧
      AnswersOnce (allocEnv []) echoEnv sessionCtx server relay ∧
      BringsOnly relay server (sessionTimeout sessionCtx) quiet ∧
      Brings relay server (sessionTimeout sessionCtx) challengedTwice ∧
      statuses (allocEnv []) echoEnv sessionCtx quiet = (.pass, .pass) ∧
      statuses (allocEnv []) echoEnv sessionCtx challengedTwice = (.fail, .skip) := by
  refine ⟨by decide, answersOnce_relay, bringsOnly_quiet, brings_network (by simp) ?_,
    by decide +kernel, by decide +kernel⟩
  intro n now a ha
  split_ifs at ha
  · exact ⟨_, by rw [List.mem_singleton.1 ha]⟩
  · cases ha

end WebrtcDoctor
