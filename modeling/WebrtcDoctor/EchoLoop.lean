import Mathlib.Data.Vector.Basic
import WebrtcDoctor.Tally
import WebrtcDoctor.TurnEcho

/-!
# The loops of the echo check

What the send loop and the receive loop of `turn.echo.udp` do. The send loop notes the time
of each packet, `echoInterval` after the one before (`sendLoop_times`). A datagram counts in
the receive loop exactly if it is an echo of one of the packets (`echoOf_eq_some_iff`), and
what the loop counts is a tally of the echoes (`Tallies`). The loop reads a queue up to the
echo with which every packet is heard (`receiveLoop_reads`).
-/

open BigEndian Checked NetAddr

namespace WebrtcDoctor

namespace TurnEchoCheck

/-! ## Echoes -/

/-- A payload has a sequence number exactly if it is the payload of that packet. -/
theorem parseSeq_eq_some_iff (payload : List UInt8) (seq : UInt32) :
    parseSeq payload = some seq ↔ payload = makePayload seq := by
  unfold parseSeq makePayload
  constructor
  · intro h
    split_ifs at h with hlen htake
    rw [not_not] at hlen htake
    split at h
    next b₀ b₁ b₂ b₃ hdrop =>
      cases h
      rw [ofU32le_toU32le, ← hdrop]
      conv_lhs => rw [← List.take_append_drop echoPrefix.length payload, htake]
    · cases h
  · rintro rfl
    rw [if_neg (by simp), if_neg (by simp), List.drop_left]
    exact congrArg some (toU32_ofU32 seq)

/-- The datagram is an echo of packet `seq` : it comes from the server, and the data it
indicates is the payload of that packet. -/
def IsEcho {n : ℕ} (server : SocketAddr) (d : Datagram) (seq : Fin n) : Prop :=
  d.source = server ∧ parseDataIndication d.bytes = .ok (some (makePayload (UInt32.ofNat seq)))

instance {n : ℕ} (server : SocketAddr) (d : Datagram) (seq : Fin n) :
    Decidable (IsEcho server d seq) :=
  inferInstanceAs (Decidable (_ ∧ _))

/-- The packet of which a datagram is an echo. -/
def echoOf (server : SocketAddr) (count : UInt32) (d : Datagram) : Option (Fin count.toNat) :=
  (echoSeq server d).bind fun seq =>
    if h : seq.toNat < count.toNat then some ⟨seq.toNat, h⟩ else none

/-- A datagram has a sequence number exactly if the server brings the payload of that packet. -/
theorem echoSeq_eq_some_iff (server : SocketAddr) (d : Datagram) (seq : UInt32) :
    echoSeq server d = some seq ↔
      d.source = server ∧ parseDataIndication d.bytes = .ok (some (makePayload seq)) := by
  unfold echoSeq
  by_cases hsource : d.source = server
  · rw [if_neg (not_not.2 hsource)]
    simp only [hsource, true_and]
    split
    next data hdata =>
      rw [result_eq_ok] at hdata
      rw [hdata, parseSeq_eq_some_iff]
      simp
    next hnot =>
      simp only [reduceCtorEq, false_iff]
      exact fun h => hnot _ (result_eq_ok.2 h)
  · rw [if_pos hsource]
    simp [hsource]

/-- The filters of the receive loop let through the echoes. -/
theorem echoOf_eq_some_iff (server : SocketAddr) {count : UInt32} (d : Datagram)
    (seq : Fin count.toNat) : echoOf server count d = some seq ↔ IsEcho server d seq := by
  have hlt : seq.val < 2 ^ 32 := seq.isLt.trans count.toNat_lt
  have hseq : (UInt32.ofNat seq).toNat = seq := UInt32.toNat_ofNat_of_lt' hlt
  rw [IsEcho, ← echoSeq_eq_some_iff, echoOf, Option.bind_eq_some_iff]
  constructor
  · rintro ⟨a, ha, h⟩
    split_ifs at h with hlt'
    cases h
    rw [ha]
    simp
  · intro h
    exact ⟨_, h, by rw [dif_pos (by rw [hseq]; exact seq.isLt)]; simp [hseq]⟩

/-! ## The counters -/

variable {count : UInt32}

/-- Count an echo of packet `seq` with the round-trip time `rtt`. -/
def EchoState.hear (st : EchoState count) (seq : Fin count.toNat) (rtt : ℕ) : EchoState count :=
  if st.rtts[seq.val].isSome then { st with duplicates := st.duplicates + 1 }
  else { st with rtts := st.rtts.set seq (some rtt), received := st.received + 1 }

/-- When every packet was sent, a datagram is counted if it is an echo and ignored if not. -/
theorem absorb_eq (session : TurnSession) {sendTimes : Vector (Option ℕ) count.toNat}
    {sendAt : ℕ → ℕ} (hsent : ∀ i (hi : i < count.toNat), sendTimes[i] = some (sendAt i))
    (recvAt : ℕ) (st : EchoState count) (d : Datagram) :
    absorb session sendTimes recvAt st d =
      match echoOf session.server count d with
      | none => st
      | some seq => st.hear seq (recvAt - sendAt seq) := by
  unfold absorb echoOf
  cases echoSeq session.server d with
  | none => rfl
  | some seq =>
    dsimp only [Option.bind_some]
    by_cases h : seq.toNat < count.toNat
    · rw [dif_pos h, dif_pos h, hsent seq.toNat h]
      rfl
    · rw [dif_neg h, dif_neg h]

/-- The state counts what the tally does. -/
structure Tallies (st : EchoState count) (t : Tally (Fin count.toNat)) : Prop where
  slots : ∀ seq : Fin count.toNat, st.rtts[seq.val].isSome ↔ seq ∈ t.heard
  received : st.received.toNat = t.heard.card
  duplicates : st.duplicates = UInt32.ofNat t.repeats

/-- The loop starts with an empty tally. -/
theorem tallies_start : Tallies (EchoState.start count) Tally.empty where
  slots seq := by simp [EchoState.start, Tally.empty]
  received := by simp [EchoState.start, Tally.empty]
  duplicates := rfl

/-- No more packets are heard than were sent. -/
theorem Tallies.card_le {st : EchoState count} {t : Tally (Fin count.toNat)} (_ : Tallies st t) :
    t.heard.card ≤ count.toNat := by
  have h := Finset.card_le_univ t.heard
  rwa [Fintype.card_fin] at h

/-- Counting an echo is hearing its packet. -/
theorem Tallies.hear {st : EchoState count} {t : Tally (Fin count.toNat)} (h : Tallies st t)
    (seq : Fin count.toNat) (rtt : ℕ) : Tallies (st.hear seq rtt) (t.hear (some seq)) := by
  unfold EchoState.hear
  rw [Tally.hear_some]
  by_cases hseq : seq ∈ t.heard
  · rw [if_pos ((h.slots seq).2 hseq), if_pos hseq]
    refine ⟨h.slots, h.received, ?_⟩
    show st.duplicates + 1 = UInt32.ofNat (t.repeats + 1)
    rw [h.duplicates, UInt32.ofNat_add]
    rfl
  · rw [if_neg (mt (h.slots seq).1 hseq), if_neg hseq]
    have hcard : (insert seq t.heard).card = t.heard.card + 1 := Finset.card_insert_of_notMem hseq
    have hle := Finset.card_le_univ (insert seq t.heard)
    rw [hcard, Fintype.card_fin] at hle
    refine ⟨fun i => ?_, ?_, h.duplicates⟩
    · dsimp only
      rw [Vector.getElem_set, Finset.mem_insert]
      by_cases hi : seq.val = i.val
      · rw [if_pos hi]
        simp [Fin.ext hi]
      · rw [if_neg hi, h.slots i]
        have hne : i ≠ seq := fun heq => hi (congrArg Fin.val heq.symm)
        simp [hne]
    · dsimp only
      have hlt := count.toNat_lt
      rw [UInt32.toNat_add, h.received, hcard]
      show (t.heard.card + 1) % 2 ^ 32 = _
      omega

/-- One datagram is counted as its entry of the stream. -/
theorem Tallies.absorb (session : TurnSession) {sendTimes : Vector (Option ℕ) count.toNat}
    {sendAt : ℕ → ℕ} (hsent : ∀ i (hi : i < count.toNat), sendTimes[i] = some (sendAt i))
    {st : EchoState count} {t : Tally (Fin count.toNat)} (h : Tallies st t) (recvAt : ℕ)
    (d : Datagram) :
    Tallies (absorb session sendTimes recvAt st d) (t.hear (echoOf session.server count d)) := by
  rw [absorb_eq session hsent]
  cases echoOf session.server count d with
  | none => exact h
  | some seq => exact h.hear seq _

/-! ## The send loop -/

/-- From packet `k` on, the send loop notes the times of the packets, one interval apart, and
ends with the last. -/
theorem sendLoop_times (session : TurnSession) {n : ℕ} :
    ∀ (m k : ℕ), k + m = n → ∀ {times times' : Vector (Option ℕ) n} {sock sock' : UdpSocket},
      sendLoop session ((List.finRange n).drop k) times sock = (.ok times', sock') →
      (∀ i (hi : i < n), times'[i] =
        if k ≤ i then some (sock.now + (i - k) * echoInterval) else times[i]) ∧
      sock'.now = sock.now + (m - 1) * echoInterval
  | 0, k, hk, times, times', sock, sock', h => by
    rw [List.drop_eq_nil_of_le (by simp; omega), sendLoop] at h
    cases h
    refine ⟨fun i hi => by rw [if_neg (by omega)], by simp⟩
  | m + 1, k, hk, times, times', sock, sock', h => by
    have hkn : k < n := by omega
    rw [List.drop_eq_getElem_cons (by simpa using hkn), List.getElem_finRange, sendLoop] at h
    split at h
    · cases h
    next sent hsent =>
      obtain ⟨htimes, hnow⟩ := sendLoop_times session m (k + 1) (by omega) h
      have hstart : (if k + 1 < n then sent.sleep echoInterval else sent).now =
          if k + 1 < n then sock.now + echoInterval else sock.now := by
        split_ifs
        · exact congrArg (· + echoInterval) (UdpSocket.now_of_sendTo hsent)
        · exact UdpSocket.now_of_sendTo hsent
      simp only [Fin.val_cast] at hnow htimes
      rw [hstart] at hnow htimes
      generalize echoInterval = interval at hnow htimes ⊢
      refine ⟨fun i hi => ?_, ?_⟩
      · rw [htimes i hi, Vector.getElem_set]
        by_cases hik : i = k
        · rw [if_neg (by omega), if_pos hik.symm, if_pos hik.ge, hik, Nat.sub_self, Nat.zero_mul]
          rfl
        · by_cases hki : k ≤ i
          · obtain ⟨j, rfl⟩ : ∃ j, i = k + 1 + j := ⟨i - (k + 1), by omega⟩
            rw [if_pos (by omega), if_pos hki, if_pos (by omega),
              show k + 1 + j - (k + 1) = j by omega, show k + 1 + j - k = j + 1 by omega,
              Nat.succ_mul]
            congr 1
            omega
          · rw [if_neg (by omega), if_neg (by omega), if_neg hki]
      · rw [hnow]
        rcases m with _ | m
        · rw [if_neg (by omega)]
        · rw [if_pos (by omega), show m + 1 + 1 - 1 = m + 1 by omega, Nat.succ_mul,
            Nat.add_sub_cancel]
          omega

/-- What the send loop leaves : the time of every packet, and the clock at the last. -/
theorem sendLoop_eq_ok {session : TurnSession} {n : ℕ} {sock sock' : UdpSocket}
    {times times' : Vector (Option ℕ) n}
    (h : sendLoop session (List.finRange n) times sock = (.ok times', sock')) :
    (∀ i (hi : i < n), times'[i] = some (sock.now + i * echoInterval)) ∧
      sock'.now = sock.now + (n - 1) * echoInterval := by
  obtain ⟨htimes, hnow⟩ := sendLoop_times session n 0 (Nat.zero_add n) (by rwa [List.drop_zero])
  exact ⟨fun i hi => by rw [htimes i hi, if_pos (Nat.zero_le i), Nat.sub_zero], hnow⟩

/-- The deadline is set from the last send, which is where the clock stands. -/
theorem lastSend_eq {n : ℕ} (hn : 0 < n) {times : Vector (Option ℕ) n} {t₀ interval : ℕ}
    (default : ℕ) (h : ∀ i (hi : i < n), times[i] = some (t₀ + i * interval)) :
    (times.toList.filterMap fun t => t).max?.getD default = t₀ + (n - 1) * interval := by
  have hlist : times.toList.filterMap (fun t => t) =
      (List.range n).map fun i => t₀ + i * interval := by
    have hmap : times.toList = ((List.range n).map fun i => t₀ + i * interval).map some := by
      refine List.ext_getElem (by simp) fun i hi₁ hi₂ => ?_
      simp only [Vector.getElem_toList, List.getElem_map, List.getElem_range]
      exact h i (by simpa using hi₁)
    rw [hmap, List.filterMap_map]
    exact List.filterMap_some
  have hmax : (times.toList.filterMap fun t => t).max? = some (t₀ + (n - 1) * interval) := by
    rw [hlist, List.max?_eq_some_iff]
    refine ⟨List.mem_map.2 ⟨n - 1, List.mem_range.2 (by omega), rfl⟩, fun t ht => ?_⟩
    obtain ⟨i, hi, rfl⟩ := List.mem_map.1 ht
    have hle : i ≤ n - 1 := by have := List.mem_range.1 hi; omega
    exact Nat.add_le_add_left (Nat.mul_le_mul_right _ hle) _
  rw [hmax, Option.getD_some]

/-! ## The receive loop -/

/-- The arrival of a datagram at a time. -/
def arrival (p : ℕ × Datagram) : Arrival := ⟨p.1, .ok p.2⟩

/-- A datagram as a receive gives it. -/
def asRead (d : Datagram) : Datagram := ⟨d.source, d.bytes.take UdpSocket.bufLen⟩

/-- What successive reads give of datagrams in the queue, with the times of the reads, when
the clock stands at `now`. -/
def reads (now : ℕ) : List (ℕ × Datagram) → List (ℕ × Datagram)
  | [] => []
  | p :: ps => (max now p.1, asRead p.2) :: reads (max now p.1) ps

@[simp] theorem length_reads : ∀ (now : ℕ) (ps : List (ℕ × Datagram)),
    (reads now ps).length = ps.length
  | _, [] => rfl
  | now, p :: ps => congrArg (· + 1) (length_reads (max now p.1) ps)

/-- The datagrams that the reads give do not depend on the clock. -/
theorem map_snd_reads : ∀ (now : ℕ) (ps : List (ℕ × Datagram)),
    (reads now ps).map Prod.snd = ps.map fun p => asRead p.2
  | _, [] => rfl
  | now, p :: ps => congrArg (_ :: ·) (map_snd_reads (max now p.1) ps)

/-- Datagrams in the order of their times are read when they arrive, or now. -/
theorem reads_of_pairwise : ∀ (now : ℕ) {ps : List (ℕ × Datagram)},
    ps.Pairwise (fun p q => p.1 ≤ q.1) →
      reads now ps = ps.map fun p => (max now p.1, asRead p.2)
  | _, [], _ => rfl
  | now, p :: ps, h => by
    obtain ⟨hp, hps⟩ := List.pairwise_cons.1 h
    rw [reads, reads_of_pairwise (max now p.1) hps, List.map_cons]
    refine congrArg (_ :: ·) (List.map_congr_left fun q hq => ?_)
    rw [max_assoc, max_eq_right (hp q hq)]

/-- The state after the reads `rs`. -/
def absorbAll (session : TurnSession) (sendTimes : Vector (Option ℕ) count.toNat)
    (rs : List (ℕ × Datagram)) (st : EchoState count) : EchoState count :=
  rs.foldl (fun st r => absorb session sendTimes r.1 st r.2) st

/-- The reads as a stream of echoes and noise. -/
def stream (server : SocketAddr) (count : UInt32) (rs : List (ℕ × Datagram)) :
    List (Option (Fin count.toNat)) :=
  rs.map fun r => echoOf server count r.2

theorem stream_cons (server : SocketAddr) (r : ℕ × Datagram) (rs : List (ℕ × Datagram)) :
    stream server count (r :: rs) = echoOf server count r.2 :: stream server count rs := rfl

section

variable {session : TurnSession} {recvDeadline : ℕ} {sendTimes : Vector (Option ℕ) count.toNat}
  {sock sock' : UdpSocket} {st : EchoState count}

/-- The loop ends once every packet is heard. -/
theorem receiveLoop_of_full (h : ¬st.received < count) :
    receiveLoop session recvDeadline sendTimes sock st = (.ok st, sock) := by
  rw [receiveLoop, if_neg h]

/-- The loop ends with what it has if nothing comes in time. -/
theorem receiveLoop_of_elapsed (h : (sock.recvFrom (recvDeadline - sock.now)).1 = .elapsed) :
    (receiveLoop session recvDeadline sendTimes sock st).1 = .ok st := by
  rw [receiveLoop]
  split
  · split
    · rfl
    · split <;> rename_i hrecv <;> rw [hrecv] at h <;> cases h
  · rfl

theorem receiveLoop_of_nil (h : sock.queue = []) :
    (receiveLoop session recvDeadline sendTimes sock st).1 = .ok st :=
  receiveLoop_of_elapsed (congrArg Prod.fst (UdpSocket.recvFrom_nil h _))

/-- The loop ends with what it has at its deadline. -/
theorem receiveLoop_of_deadline (h : recvDeadline ≤ sock.now) :
    receiveLoop session recvDeadline sendTimes sock st = (.ok st, sock) := by
  rw [receiveLoop, if_pos h, ite_self]

/-- The loop takes in a datagram that comes in time and goes on. -/
theorem receiveLoop_of_received {d : Datagram} (hst : st.received < count)
    (hnow : sock.now < recvDeadline)
    (hrecv : sock.recvFrom (recvDeadline - sock.now) = (.received d, sock')) :
    receiveLoop session recvDeadline sendTimes sock st =
      receiveLoop session recvDeadline sendTimes sock'
        (absorb session sendTimes sock'.now st d) := by
  rw [receiveLoop, if_pos hst, if_neg (Nat.not_le.2 hnow)]
  split <;> rename_i hrecv' <;> rw [hrecv] at hrecv' <;> cases hrecv'
  rfl

end

/-- The loop over a queue of datagrams that arrive before the deadline reads them up to the
echo with which every packet is heard, and goes on with what is left. -/
theorem receiveLoop_reads (session : TurnSession) {recvDeadline : ℕ}
    {sendTimes : Vector (Option ℕ) count.toNat} {sendAt : ℕ → ℕ}
    (hsent : ∀ i (hi : i < count.toNat), sendTimes[i] = some (sendAt i)) (late : List Arrival) :
    ∀ (early : List (ℕ × Datagram)) (sock : UdpSocket) (st : EchoState count)
      (t : Tally (Fin count.toNat)), Tallies st t →
      sock.queue = early.map arrival ++ late → (∀ p ∈ early, p.1 < recvDeadline) →
      sock.now < recvDeadline →
      ∃ sock', sock'.now < recvDeadline ∧
        sock'.queue = (early.drop (Tally.stopAt count.toNat t
          (stream session.server count (reads sock.now early)))).map arrival ++ late ∧
        receiveLoop session recvDeadline sendTimes sock st =
          receiveLoop session recvDeadline sendTimes sock'
            (absorbAll session sendTimes ((reads sock.now early).take (Tally.stopAt count.toNat t
              (stream session.server count (reads sock.now early)))) st)
  | [], sock, st, t, _, hqueue, _, hnow => ⟨sock, hnow, hqueue, rfl⟩
  | p :: early, sock, st, t, ht, hqueue, hearly, hnow => by
    have hp := hearly p (List.mem_cons_self ..)
    have hlt : st.received < count ↔ t.heard.card < count.toNat := by
      rw [UInt32.lt_iff_toNat_lt, ht.received]
    rw [reads, stream, List.map_cons, Tally.stopAt]
    by_cases hcard : t.heard.card < count.toNat
    · rw [if_pos hcard]
      have hrecv := UdpSocket.recvFrom_cons_of_le hqueue rfl
        (show p.1 ≤ sock.now + (recvDeadline - sock.now) by omega)
      rw [receiveLoop_of_received (hlt.2 hcard) hnow hrecv]
      exact receiveLoop_reads session hsent late early
        { sock with now := max sock.now p.1, queue := early.map arrival ++ late } _ _
        (ht.absorb session hsent _ _) rfl (fun q hq => hearly q (List.mem_cons_of_mem _ hq))
        (max_lt hnow hp)
    · rw [if_neg hcard]
      exact ⟨sock, hnow, hqueue, rfl⟩

/-- Taking in some reads keeps the tally. -/
theorem Tallies.absorbAll (session : TurnSession) {sendTimes : Vector (Option ℕ) count.toNat}
    {sendAt : ℕ → ℕ} (hsent : ∀ i (hi : i < count.toNat), sendTimes[i] = some (sendAt i)) :
    ∀ (rs : List (ℕ × Datagram)) {st : EchoState count} {t : Tally (Fin count.toNat)},
      Tallies st t → Tallies (absorbAll session sendTimes rs st)
        (t.hearAll (stream session.server count rs))
  | [], _, _, h => h
  | r :: rs, _, _, h => Tallies.absorbAll session hsent rs (h.absorb session hsent r.1 r.2)

/-- The reads that the loop takes : up to the echo with which every packet is heard. -/
def consumed (server : SocketAddr) (count : UInt32) (rs : List (ℕ × Datagram)) :
    List (ℕ × Datagram) :=
  rs.take (Tally.stopAt count.toNat Tally.empty (stream server count rs))

/-- The reads consumed are those up to the one with which every packet is heard. -/
theorem stream_consumed (server : SocketAddr) (rs : List (ℕ × Datagram)) :
    stream server count (consumed server count rs) = (stream server count rs).take
      (Tally.stopAt count.toNat Tally.empty (stream server count rs)) := by
  rw [consumed, stream, List.map_take]
  rfl

/-- What the reads the loop takes tell it is what all of them would. -/
theorem heard_consumed (server : SocketAddr) (rs : List (ℕ × Datagram)) :
    (Tally.empty.hearAll (stream server count (consumed server count rs))).heard =
      (Tally.empty.hearAll (stream server count rs)).heard := by
  have h := Tally.heard_take_stopAt Tally.empty (stream server count rs)
  rw [Fintype.card_fin] at h
  rw [stream_consumed, h]

/-- The loop over a queue of datagrams that arrive before the deadline ends with what the
reads it takes leave. -/
theorem receiveLoop_eq_ok (session : TurnSession) {recvDeadline : ℕ}
    {sendTimes : Vector (Option ℕ) count.toNat} {sendAt : ℕ → ℕ} {sock : UdpSocket}
    {incoming : List (ℕ × Datagram)}
    (hsent : ∀ i (hi : i < count.toNat), sendTimes[i] = some (sendAt i))
    (hqueue : sock.queue = incoming.map arrival) (htime : ∀ p ∈ incoming, p.1 < recvDeadline)
    (hnow : sock.now < recvDeadline) :
    (receiveLoop session recvDeadline sendTimes sock (EchoState.start count)).1 =
      .ok (absorbAll session sendTimes (consumed session.server count (reads sock.now incoming))
        (EchoState.start count)) := by
  obtain ⟨sock', -, hqueue', hloop⟩ := receiveLoop_reads session hsent [] incoming sock
    (EchoState.start count) Tally.empty tallies_start (by rw [hqueue, List.append_nil]) htime hnow
  rw [hloop, ← consumed]
  rcases Tally.stopAt_cases count.toNat Tally.empty
    (stream session.server count (reads sock.now incoming)) with heq | hle
  · refine receiveLoop_of_nil ?_
    rw [hqueue', heq, List.append_nil, List.drop_eq_nil_of_le (by simp [stream])]
    rfl
  · have hst := tallies_start.absorbAll session hsent
      (consumed session.server count (reads sock.now incoming))
    rw [← stream_consumed] at hle
    rw [receiveLoop_of_full]
    rw [UInt32.lt_iff_toNat_lt, hst.received]
    exact Nat.not_lt.2 hle

/-- Step 3 reports what the loop ends with, up to the receive timeout after the last send. -/
theorem collect_of_receiveLoop {session : TurnSession} {sendTimes : Vector (Option ℕ) count.toNat}
    {t₀ recvTimeout : ℕ} {sock : UdpSocket} {st : EchoState count} (srflx : SocketAddr)
    (started : ℕ) (hcount : 0 < count.toNat)
    (hsent : ∀ i (hi : i < count.toNat), sendTimes[i] = some (t₀ + i * echoInterval))
    (h : (receiveLoop session (t₀ + (count.toNat - 1) * echoInterval + recvTimeout) sendTimes sock
      (EchoState.start count)).1 = .ok st) :
    ∃ totalMs, collect session srflx recvTimeout started sendTimes sock =
      report session srflx recvTimeout totalMs st := by
  unfold collect
  rw [lastSend_eq hcount sock.now hsent]
  dsimp only
  split <;> rename_i hend <;> rw [hend] at h <;> cases h
  exact ⟨_, rfl⟩

/-- Step 3 over such a queue reports that. -/
theorem collect_eq {session : TurnSession} {sendTimes : Vector (Option ℕ) count.toNat}
    {t₀ recvTimeout : ℕ} {sock : UdpSocket} {incoming : List (ℕ × Datagram)}
    (srflx : SocketAddr) (started : ℕ) (hcount : 0 < count.toNat)
    (hsent : ∀ i (hi : i < count.toNat), sendTimes[i] = some (t₀ + i * echoInterval))
    (hqueue : sock.queue = incoming.map arrival)
    (htime : ∀ p ∈ incoming, p.1 < t₀ + (count.toNat - 1) * echoInterval + recvTimeout)
    (hnow : sock.now < t₀ + (count.toNat - 1) * echoInterval + recvTimeout) :
    ∃ totalMs, collect session srflx recvTimeout started sendTimes sock =
      report session srflx recvTimeout totalMs
        (absorbAll session sendTimes (consumed session.server count (reads sock.now incoming))
          (EchoState.start count)) :=
  collect_of_receiveLoop srflx started hcount hsent
    (receiveLoop_eq_ok session hsent hqueue htime hnow)

/-- A run that gets to step 3 is step 3. -/
theorem runSession_eq_collect {env : TurnEchoEnv} {session : TurnSession} {srflx : SocketAddr}
    {recvTimeout : ℕ} {sock₁ sock₂ : UdpSocket} {sendTimes : Vector (Option ℕ) count.toNat}
    (hpermission : createPermission env session srflx recvTimeout = (.ok (), sock₁))
    (hsend : sendLoop session (List.finRange count.toNat) (Vector.replicate _ none) sock₁ =
      (.ok sendTimes, sock₂)) :
    runSession env session srflx recvTimeout count =
      collect session srflx recvTimeout session.socket.now sendTimes sock₂ := by
  unfold runSession
  rw [hpermission]
  dsimp only
  rw [hsend]

end TurnEchoCheck

end WebrtcDoctor
