import WebrtcDoctor.Credential
import WebrtcDoctor.EchoLoop

/-!
# The round-trip times of the echo check

The echo check takes the time of an echo when it reads it, and it reads nothing before the
last packet is sent. So the round-trip time it notes for a packet runs to the arrival of the
first echo or to the last send, whichever is later (`rtts_runSession`), and the times are
those of the network exactly if no first echo arrives before the last send
(`trueTimes_iff`).
-/

open BigEndian Checked NetAddr

namespace WebrtcDoctor

namespace TurnEchoCheck

variable {count : UInt32}

/-- When the first echo of packet `seq` arrives. -/
def firstEcho (server : SocketAddr) (incoming : List (ℕ × Datagram)) (seq : Fin count.toNat) :
    Option ℕ :=
  ((incoming.filter fun p => IsEcho server (asRead p.2) seq).map Prod.fst).min?

/-- The round-trip time of packet `seq` in the network. -/
def networkRtt (server : SocketAddr) (incoming : List (ℕ × Datagram)) (sendAt : ℕ → ℕ)
    (seq : Fin count.toNat) : Option ℕ :=
  (firstEcho server incoming seq).map fun t => t - sendAt seq

/-- Least, mean and greatest of the reported times, in milliseconds. -/
def reportedStats (st : EchoState count) : ℕ × ℕ × ℕ :=
  stats ((rttMsEach st).filterMap fun ms => ms)

/-- The round-trip times in `st` are those of the network, when packet `i` is sent at
`sendAt i`. -/
structure TrueTimes (server : SocketAddr) (incoming : List (ℕ × Datagram)) (sendAt : ℕ → ℕ)
    (st : EchoState count) : Prop where
  each : ∀ seq : Fin count.toNat, st.rtts.get seq = networkRtt server incoming sendAt seq
  summary : reportedStats st = stats ((List.finRange count.toNat).filterMap fun seq =>
    (networkRtt server incoming sendAt seq).map Duration.asMillis)
  /-- A network with one round-trip time is reported with it, whatever the echo count. -/
  constant : ∀ rtt : ℕ, (∀ (seq : Fin count.toNat) (t : ℕ),
      firstEcho server incoming seq = some t → t = sendAt seq + rtt) →
    (∃ seq : Fin count.toNat, firstEcho server incoming seq ≠ none) →
    reportedStats st = (Duration.asMillis rtt, Duration.asMillis rtt, Duration.asMillis rtt)

/-! ## First echoes -/

/-- In order, the least is the first. -/
theorem min?_of_pairwise : ∀ {ts : List ℕ}, ts.Pairwise (· ≤ ·) → ts.min? = ts.head?
  | [], _ => rfl
  | t :: ts, h => by
    rw [List.head?_cons, List.min?_eq_some_iff]
    refine ⟨List.mem_cons_self .., fun t' ht' => ?_⟩
    rcases List.mem_cons.1 ht' with rfl | ht'
    · exact le_rfl
    · exact List.rel_of_pairwise_cons h ht'

/-- In a queue in order, the first echo is the one that is read first. -/
theorem firstEcho_of_pairwise (server : SocketAddr) {incoming : List (ℕ × Datagram)}
    (h : incoming.Pairwise fun p q => p.1 ≤ q.1) (seq : Fin count.toNat) :
    firstEcho server incoming seq =
      (incoming.find? fun p => IsEcho server (asRead p.2) seq).map Prod.fst := by
  rw [firstEcho, min?_of_pairwise (List.pairwise_map.2 (h.filter _)), List.head?_map,
    List.head?_filter]

/-- After a send, the queue is in the order of the times. -/
theorem pairwise_of_sendTo {s s' : UdpSocket} {bytes : List UInt8} {target : SocketAddr}
    (h : s.sendTo bytes target = .ok s') : s'.queue.Pairwise fun a b => a.time ≤ b.time := by
  unfold UdpSocket.sendTo at h
  split at h
  · cases h
  · cases h
    exact List.pairwise_insertionSort (fun a b : Arrival => a.time ≤ b.time) _

/-- The sends keep the queue in the order of its times. -/
theorem pairwise_of_sendLoop (session : TurnSession) {n : ℕ} :
    ∀ {seqs : List (Fin n)} {times times' : Vector (Option ℕ) n} {sock sock' : UdpSocket},
      sock.queue.Pairwise (fun a b => a.time ≤ b.time) →
      sendLoop session seqs times sock = (.ok times', sock') →
      sock'.queue.Pairwise fun a b => a.time ≤ b.time
  | [], _, _, _, _, hsock, h => by
    rw [sendLoop] at h
    cases h
    exact hsock
  | seq :: seqs, times, times', sock, sock', _, h => by
    rw [sendLoop] at h
    split at h
    · cases h
    next sent hsent =>
      have hsorted := pairwise_of_sendTo hsent
      refine pairwise_of_sendLoop session ?_ h
      split_ifs <;> exact hsorted

/-- When at least one packet was sent, the queue is in order. -/
theorem pairwise_of_packets {session : TurnSession} {n : ℕ} (hn : 0 < n)
    {times times' : Vector (Option ℕ) n} {sock sock' : UdpSocket}
    (h : sendLoop session (List.finRange n) times sock = (.ok times', sock')) :
    sock'.queue.Pairwise fun a b => a.time ≤ b.time := by
  obtain ⟨m, rfl⟩ : ∃ m, n = m + 1 := ⟨n - 1, by omega⟩
  rw [List.finRange_succ, sendLoop] at h
  split at h
  · cases h
  next sent hsent =>
    have hfirst := pairwise_of_sendTo hsent
    exact pairwise_of_sendLoop session (by split_ifs <;> exact hfirst) h

/-- What the loop reads is in the order of its times. -/
theorem pairwise_incoming {session : TurnSession} {n : ℕ} (hn : 0 < n)
    {times times' : Vector (Option ℕ) n} {sock sock' : UdpSocket} {incoming : List (ℕ × Datagram)}
    (h : sendLoop session (List.finRange n) times sock = (.ok times', sock'))
    (hqueue : sock'.queue = incoming.map arrival) :
    incoming.Pairwise fun p q => p.1 ≤ q.1 := by
  have hsorted := pairwise_of_packets hn h
  rw [hqueue, List.pairwise_map] at hsorted
  exact hsorted

/-! ## The times that are noted -/

section

variable (session : TurnSession) {sendTimes : Vector (Option ℕ) count.toNat} {sendAt : ℕ → ℕ}

/-- An echo fills the slot of its packet if it is empty, and no other. -/
theorem rtts_hear (st : EchoState count) (heard seq : Fin count.toNat) (rtt : ℕ) :
    (st.hear heard rtt).rtts.get seq =
      (st.rtts.get seq).or (if heard = seq then some rtt else none) := by
  show (st.hear heard rtt).rtts[seq.val] = st.rtts[seq.val].or _
  unfold EchoState.hear
  by_cases hseq : heard = seq
  · subst hseq
    rw [if_pos rfl]
    cases hslot : st.rtts[heard.val] with
    | none => simp
    | some t => simp [hslot]
  · have hval : heard.val ≠ seq.val := fun h => hseq (Fin.ext h)
    rw [if_neg hseq, Option.or_none]
    split_ifs
    · rfl
    · exact Vector.getElem_set_ne heard.isLt seq.isLt hval

/-- What a read does to the slot of a packet. -/
theorem rtts_absorb (hsent : ∀ i (hi : i < count.toNat), sendTimes[i] = some (sendAt i))
    (st : EchoState count) (r : ℕ × Datagram) (seq : Fin count.toNat) :
    (absorb session sendTimes r.1 st r.2).rtts.get seq = (st.rtts.get seq).or
      (if IsEcho session.server r.2 seq then some (r.1 - sendAt seq) else none) := by
  rw [absorb_eq session hsent]
  simp only [← echoOf_eq_some_iff]
  cases echoOf session.server count r.2 with
  | none => simp
  | some heard =>
    rw [rtts_hear]
    simp only [Option.some.injEq]
    split_ifs with h
    · rw [h]
    · rfl

/-- After the reads `rs`, the slot of a packet holds the time of its first echo among them. -/
theorem rtts_absorbAll (hsent : ∀ i (hi : i < count.toNat), sendTimes[i] = some (sendAt i))
    (seq : Fin count.toNat) : ∀ (rs : List (ℕ × Datagram)) (st : EchoState count),
      (absorbAll session sendTimes rs st).rtts.get seq = (st.rtts.get seq).or
        ((rs.find? fun r => IsEcho session.server r.2 seq).map fun r => r.1 - sendAt seq)
  | [], st => by simp [absorbAll]
  | r :: rs, st => by
    have ih := rtts_absorbAll hsent seq rs (absorb session sendTimes r.1 st r.2)
    rw [absorbAll] at ih ⊢
    rw [List.foldl_cons, ih, rtts_absorb session hsent, Option.or_assoc, List.find?_cons]
    by_cases h : IsEcho session.server r.2 seq <;> simp [h]

/-- The reads the loop takes have the first echoes of all reads. -/
theorem find?_consumed (server : SocketAddr) (rs : List (ℕ × Datagram)) (seq : Fin count.toNat) :
    (consumed server count rs).find? (fun r => IsEcho server r.2 seq) =
      rs.find? fun r => IsEcho server r.2 seq := by
  cases hfind : (consumed server count rs).find? fun r => IsEcho server r.2 seq with
  | some r => exact ((List.take_prefix _ rs).find?_eq_some hfind).symm
  | none =>
    refine (List.find?_eq_none.2 fun r hr hecho => ?_).symm
    have hheard : some seq ∈ stream server count rs :=
      List.mem_map.2 ⟨r, hr, (echoOf_eq_some_iff server r.2 seq).2 (of_decide_eq_true hecho)⟩
    rw [← Tally.mem_heard_hearAll_empty, ← heard_consumed, Tally.mem_heard_hearAll_empty] at hheard
    obtain ⟨r', hr', hecho'⟩ := List.mem_map.1 hheard
    exact List.find?_eq_none.1 hfind r' hr'
      (decide_eq_true ((echoOf_eq_some_iff server r'.2 seq).1 hecho'))

end

/-- The run notes for a packet the time from its send to the arrival of the first echo, or to
the last send where that is later. -/
theorem rtts_runSession {env : TurnEchoEnv} {session : TurnSession} {srflx : SocketAddr}
    {recvTimeout : ℕ} {sock₁ sock₂ : UdpSocket} {sendTimes : Vector (Option ℕ) count.toNat}
    {incoming : List (ℕ × Datagram)} (hcount : 0 < count) (htimeout : 0 < recvTimeout)
    (hpermission : createPermission env session srflx recvTimeout = (.ok (), sock₁))
    (hsend : sendLoop session (List.finRange count.toNat) (Vector.replicate _ none) sock₁ =
      (.ok sendTimes, sock₂))
    (hqueue : sock₂.queue = incoming.map arrival)
    (htime : ∀ p ∈ incoming, p.1 < sock₂.now + recvTimeout) :
    ∃ st : EchoState count,
      (receiveLoop session (sock₂.now + recvTimeout) sendTimes sock₂ (.start count)).1 = .ok st ∧
      (∃ totalMs, runSession env session srflx recvTimeout count =
        report session srflx recvTimeout totalMs st) ∧
      ∀ seq : Fin count.toNat, st.rtts.get seq = (firstEcho session.server incoming seq).map
        fun t => max (sock₁.now + (count.toNat - 1) * echoInterval) t -
          (sock₁.now + seq * echoInterval) := by
  have hcount' : 0 < count.toNat := UInt32.lt_iff_toNat_lt.1 hcount
  obtain ⟨hsent, hnow⟩ := sendLoop_eq_ok hsend
  have hsorted := pairwise_incoming hcount' hsend hqueue
  rw [runSession_eq_collect hpermission hsend]
  refine ⟨_, receiveLoop_eq_ok session hsent hqueue htime (by omega),
    collect_eq srflx session.socket.now hcount' hsent hqueue (fun p hp => hnow ▸ htime p hp)
      (by omega), fun seq => ?_⟩
  have hslot (st : EchoState count) : st.rtts.get seq = st.rtts[seq.val] := rfl
  rw [rtts_absorbAll session hsent, hslot, find?_consumed, reads_of_pairwise _ hsorted,
    List.find?_map, firstEcho_of_pairwise _ hsorted, ← hnow, Option.map_map, Option.map_map]
  simp [EchoState.start, Function.comp_def]

/-! ## The times reported -/

/-- Where all times are equal, so are the least, the mean and the greatest. -/
theorem stats_of_forall_eq {ms : ℕ} {rttsMs : List ℕ} (hne : rttsMs ≠ [])
    (h : ∀ m ∈ rttsMs, m = ms) : stats rttsMs = (ms, ms, ms) := by
  obtain ⟨n, hn, rfl⟩ : ∃ n, 0 < n ∧ rttsMs = List.replicate n ms :=
    ⟨rttsMs.length, List.length_pos_of_ne_nil hne, List.eq_replicate_of_mem h⟩
  have hempty : (List.replicate n ms).isEmpty = false := by simpa using hn.ne'
  rw [stats, hempty, List.sum_replicate_nat, List.length_replicate,
    List.min?_replicate_of_pos hn, List.max?_replicate_of_pos hn]
  simp [Nat.mul_div_cancel_left ms hn]

/-- The times reported are those of the slots. -/
theorem reportedStats_eq (st : EchoState count) : reportedStats st =
    stats ((List.finRange count.toNat).filterMap fun seq =>
      (st.rtts.get seq).map Duration.asMillis) := by
  have hlist : st.rtts.toList = (List.finRange count.toNat).map st.rtts.get :=
    List.ext_getElem (by simp) fun i hi₁ hi₂ => by
      rw [Vector.getElem_toList, List.getElem_map, List.getElem_finRange]
      rfl
  rw [reportedStats, rttMsEach, hlist, List.map_map, List.filterMap_map]
  rfl

/-- The summary follows from the times of the packets. -/
theorem trueTimes_of_each {server : SocketAddr} {incoming : List (ℕ × Datagram)}
    {sendAt : ℕ → ℕ} {st : EchoState count}
    (h : ∀ seq : Fin count.toNat, st.rtts.get seq = networkRtt server incoming sendAt seq) :
    TrueTimes server incoming sendAt st := by
  have hsummary : reportedStats st = stats ((List.finRange count.toNat).filterMap fun seq =>
      (networkRtt server incoming sendAt seq).map Duration.asMillis) := by
    simp only [reportedStats_eq, h]
  refine ⟨h, hsummary, fun rtt hrtt hsome => ?_⟩
  obtain ⟨seq, hseq⟩ := hsome
  obtain ⟨t, ht⟩ := Option.ne_none_iff_exists'.1 hseq
  have hms : ∀ m, m ∈ (List.finRange count.toNat).filterMap (fun seq =>
      (networkRtt server incoming sendAt seq).map Duration.asMillis) →
        m = Duration.asMillis rtt := by
    intro m hm
    obtain ⟨seq, -, hseq⟩ := List.mem_filterMap.1 hm
    simp only [networkRtt, Option.map_map, Option.map_eq_some_iff] at hseq
    obtain ⟨t, ht, rfl⟩ := hseq
    rw [hrtt seq t ht, Function.comp_apply, Nat.add_sub_cancel_left]
  have hmem : Duration.asMillis (t - sendAt seq) ∈ (List.finRange count.toNat).filterMap fun seq =>
      (networkRtt server incoming sendAt seq).map Duration.asMillis :=
    List.mem_filterMap.2 ⟨seq, List.mem_finRange _, by rw [networkRtt, ht]; rfl⟩
  rw [hsummary]
  exact stats_of_forall_eq (List.ne_nil_of_mem hmem) hms

/-- In a run that gets to its receive loop, with every datagram in time and no echo before
its packet, the times that are reported are those of the network exactly if no first echo
arrives before the last packet is sent. -/
theorem trueTimes_iff {env : TurnEchoEnv} {session : TurnSession} {srflx : SocketAddr}
    {recvTimeout : ℕ} {sock₁ sock₂ : UdpSocket} {sendTimes : Vector (Option ℕ) count.toNat}
    {incoming : List (ℕ × Datagram)} (hcount : 0 < count) (htimeout : 0 < recvTimeout)
    (hpermission : createPermission env session srflx recvTimeout = (.ok (), sock₁))
    (hsend : sendLoop session (List.finRange count.toNat) (Vector.replicate _ none) sock₁ =
      (.ok sendTimes, sock₂))
    (hqueue : sock₂.queue = incoming.map arrival)
    (htime : ∀ p ∈ incoming, p.1 < sock₂.now + recvTimeout)
    (hafter : ∀ (seq : Fin count.toNat) (t : ℕ),
      firstEcho session.server incoming seq = some t → sock₁.now + seq * echoInterval ≤ t) :
    ∃ st : EchoState count,
      (receiveLoop session (sock₂.now + recvTimeout) sendTimes sock₂ (.start count)).1 = .ok st ∧
      (∃ totalMs, runSession env session srflx recvTimeout count =
        report session srflx recvTimeout totalMs st) ∧
      (TrueTimes session.server incoming (fun i => sock₁.now + i * echoInterval) st ↔
        ∀ (seq : Fin count.toNat) (t : ℕ), firstEcho session.server incoming seq = some t →
          sock₁.now + (count.toNat - 1) * echoInterval ≤ t) := by
  obtain ⟨st, hloop, hreport, hrtts⟩ :=
    rtts_runSession hcount htimeout hpermission hsend hqueue htime
  refine ⟨st, hloop, hreport, fun h seq t ht => ?_, fun h => trueTimes_of_each fun seq => ?_⟩
  · have heach := h.each seq
    rw [hrtts seq, networkRtt, ht, Option.map_some, Option.map_some, Option.some.injEq] at heach
    have hle := hafter seq t ht
    generalize (count.toNat - 1) * echoInterval = window at heach ⊢
    generalize seq.val * echoInterval = offset at heach hle
    omega
  · rw [hrtts seq, networkRtt]
    refine Option.map_congr fun t ht => ?_
    rw [max_eq_right (h seq t ht)]

/-! ## A fast relay -/

open Sample

/-- A queue of datagrams is known by its times and its events. -/
theorem eq_map_arrival {as : List Arrival} {ps : List (ℕ × Datagram)}
    (htime : as.map Arrival.time = ps.map Prod.fst)
    (hevent : as.map Arrival.event = ps.map fun p => .ok p.2) : as = ps.map arrival := by
  induction as generalizing ps with
  | nil => rw [List.map_eq_nil_iff.1 htime.symm, List.map_nil]
  | cons a as ih =>
    obtain ⟨p, ps, rfl⟩ := List.exists_cons_of_length_pos (l := ps) (by
      rw [← List.length_map (f := Prod.fst), ← htime]
      exact Nat.succ_pos _)
    obtain ⟨ha, htime⟩ := List.cons.inj htime
    obtain ⟨he, hevent⟩ := List.cons.inj hevent
    rw [ih htime hevent, List.map_cons, arrival, ← ha, ← show a.event = .ok p.2 from he]

/-- A relay that grants the permission and brings the packets back, each after ten
milliseconds. -/
def fast : TurnSession where
  socket := socket [message createPermissionSuccess (txid 3) [], echo 0, echo 1]
  server := server
  relayed := relayed
  realm := login.realm
  nonce := login.nonce
  key := login.key crypto
  username := login.username

/-- What is in the queue of `fast` when `n` packets are sent, the first at ten milliseconds. -/
def fastIncoming (n : ℕ) : List (ℕ × Datagram) :=
  [(Duration.fromMillis 20, ⟨server, echo 0⟩), (Duration.fromMillis 40, ⟨server, echo 1⟩)].take n

/-- When the first echoes arrive on the fast network. -/
theorem firstEcho_fast :
    (∀ seq : Fin (1 : UInt32).toNat,
      firstEcho server (fastIncoming 1) seq = some (Duration.fromMillis 20)) ∧
    ∀ seq : Fin (2 : UInt32).toNat,
      firstEcho server (fastIncoming 2) seq = some (Duration.fromMillis (20 + 20 * seq)) := by
  decide +kernel

/-- One packet on the fast network. -/
theorem trueTimes_one : ∃ sock₁ sock₂, ∃ sendTimes : Vector (Option ℕ) (1 : UInt32).toNat,
    createPermission ⟨crypto, txid 3⟩ fast srflx (Duration.fromSecs 5) = (.ok (), sock₁) ∧
      sendLoop fast (List.finRange (1 : UInt32).toNat) (Vector.replicate _ none) sock₁ =
        (.ok sendTimes, sock₂) ∧
      sock₂.queue = (fastIncoming 1).map arrival ∧ ∃ st : EchoState 1,
      (receiveLoop fast (sock₂.now + Duration.fromSecs 5) sendTimes sock₂ (.start 1)).1 = .ok st ∧
      (∃ totalMs, runSession ⟨crypto, txid 3⟩ fast srflx (Duration.fromSecs 5) 1 =
        report fast srflx (Duration.fromSecs 5) totalMs st) ∧
      TrueTimes server (fastIncoming 1) (fun i => sock₁.now + i * echoInterval) st := by
  have hrun : ∃ sock₁ sock₂, ∃ sendTimes : Vector (Option ℕ) (1 : UInt32).toNat,
      createPermission ⟨crypto, txid 3⟩ fast srflx (Duration.fromSecs 5) = (.ok (), sock₁) ∧
        sendLoop fast (List.finRange (1 : UInt32).toNat) (Vector.replicate _ none) sock₁ =
          (.ok sendTimes, sock₂) ∧
        sock₁.now = Duration.fromMillis 10 ∧ sock₂.now = Duration.fromMillis 10 ∧
        sock₂.queue = (fastIncoming 1).map arrival :=
    ⟨_, _, _, rfl, rfl, rfl, rfl, rfl⟩
  obtain ⟨sock₁, sock₂, sendTimes, hpermission, hsend, hnow₁, hnow₂, hqueue⟩ := hrun
  obtain ⟨st, hloop, hreport, htrue⟩ := trueTimes_iff (by decide) (by decide) hpermission hsend
    hqueue (by rw [hnow₂]; decide) fun seq t ht => by
      rw [hnow₁, ← Option.some.inj ((firstEcho_fast.1 seq).symm.trans ht)]
      exact (by decide : ∀ seq : Fin (1 : UInt32).toNat, Duration.fromMillis 10 +
        seq * echoInterval ≤ Duration.fromMillis 20) seq
  refine ⟨sock₁, sock₂, sendTimes, hpermission, hsend, hqueue, st, hloop, hreport,
    htrue.2 fun seq t ht => ?_⟩
  rw [hnow₁, ← Option.some.inj ((firstEcho_fast.1 seq).symm.trans ht)]
  decide

/-- With two packets the first echo is back while the second is not sent. The times reported
are ten, fifteen and twenty milliseconds, in a network in which every packet takes ten. -/
theorem trueTimes_two : ∃ sock₁ sock₂, ∃ sendTimes : Vector (Option ℕ) (2 : UInt32).toNat,
    createPermission ⟨crypto, txid 3⟩ fast srflx (Duration.fromSecs 5) = (.ok (), sock₁) ∧
      sendLoop fast (List.finRange (2 : UInt32).toNat) (Vector.replicate _ none) sock₁ =
        (.ok sendTimes, sock₂) ∧
      sock₂.queue = (fastIncoming 2).map arrival ∧
      (∀ p ∈ fastIncoming 2, p.1 < sock₂.now + Duration.fromSecs 5) ∧
      (∀ seq : Fin (2 : UInt32).toNat, firstEcho server (fastIncoming 2) seq =
        some (sock₁.now + seq * echoInterval + Duration.fromMillis 10)) ∧
      ∃ st : EchoState 2,
      (receiveLoop fast (sock₂.now + Duration.fromSecs 5) sendTimes sock₂ (.start 2)).1 = .ok st ∧
      (∃ totalMs, runSession ⟨crypto, txid 3⟩ fast srflx (Duration.fromSecs 5) 2 =
        report fast srflx (Duration.fromSecs 5) totalMs st) ∧
      reportedStats st = (10, 15, 20) ∧
      ¬TrueTimes server (fastIncoming 2) (fun i => sock₁.now + i * echoInterval) st := by
  have hrun : ∃ sock₁ sock₂, ∃ sendTimes : Vector (Option ℕ) (2 : UInt32).toNat,
      createPermission ⟨crypto, txid 3⟩ fast srflx (Duration.fromSecs 5) = (.ok (), sock₁) ∧
        sendLoop fast (List.finRange (2 : UInt32).toNat) (Vector.replicate _ none) sock₁ =
          (.ok sendTimes, sock₂) ∧
        sock₁.now = Duration.fromMillis 10 ∧ sock₂.now = Duration.fromMillis 30 ∧
        sock₂.queue = (fastIncoming 2).map arrival :=
    ⟨_, _, _, rfl, rfl, rfl, rfl, eq_map_arrival rfl rfl⟩
  obtain ⟨sock₁, sock₂, sendTimes, hpermission, hsend, hnow₁, hnow₂, hqueue⟩ := hrun
  have htime : ∀ p ∈ fastIncoming 2, p.1 < sock₂.now + Duration.fromSecs 5 := by
    rw [hnow₂]
    decide
  have hfirst : ∀ seq : Fin (2 : UInt32).toNat, firstEcho server (fastIncoming 2) seq =
      some (sock₁.now + seq * echoInterval + Duration.fromMillis 10) := by
    intro seq
    rw [firstEcho_fast.2 seq, hnow₁]
    revert seq
    decide
  obtain ⟨st, hloop, hreport, hrtts⟩ :=
    rtts_runSession (by decide) (by decide) hpermission hsend hqueue htime
  simp only [show fast.server = server from rfl, firstEcho_fast.2, hnow₁, Option.map_some] at hrtts
  refine ⟨sock₁, sock₂, sendTimes, hpermission, hsend, hqueue, htime, hfirst, st, hloop, hreport,
    ?_, ?_⟩
  · rw [reportedStats_eq]
    simp only [hrtts]
    decide
  · intro h
    have heach := h.each ⟨0, by decide⟩
    rw [hrtts, networkRtt, hfirst, Option.map_some] at heach
    exact absurd (Option.some.inj heach) (by rw [hnow₁]; decide)

end TurnEchoCheck

end WebrtcDoctor
