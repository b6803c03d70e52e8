import WebrtcDoctor.Credential
import WebrtcDoctor.EchoLoop

/-!
# The accounts of the echo check

What the echo check counts of the datagrams that arrive before its deadline. `received` is
the number of packets of which an echo was read, whatever the order of the datagrams, their
repeats and other datagrams among them, and the status follows from it. `duplicates` is 32
bits wide. So `received` and `duplicates` add up to the echoes read exactly if fewer than
`2 ^ 32` of them repeat an earlier one (`accounted_iff`). `accounted_flood` is a run with
that many.
-/

open BigEndian Checked NetAddr

namespace WebrtcDoctor

namespace TurnEchoCheck

variable {count : UInt32}

/-- The packets that the reads echo. -/
def heardSeqs (server : SocketAddr) (count : UInt32) (rs : List (ℕ × Datagram)) :
    Finset (Fin count.toNat) :=
  Finset.univ.filter fun seq => ∃ r ∈ rs, IsEcho server r.2 seq

/-- How many of the reads are echoes. -/
def validEchoes (server : SocketAddr) (count : UInt32) (rs : List (ℕ × Datagram)) : ℕ :=
  rs.countP fun r => ∃ seq : Fin count.toNat, IsEcho server r.2 seq

/-- How many of the reads echo a packet that an earlier one has echoed. -/
def repeats (server : SocketAddr) (count : UInt32) (rs : List (ℕ × Datagram)) : ℕ :=
  validEchoes server count rs - (heardSeqs server count rs).card

/-- From `st` to `st'` an echo of packet `seq` is counted, as received if its slot was empty
and as a duplicate if not. -/
def Counts (st st' : EchoState count) (seq : Fin count.toNat) : Prop :=
  (∀ i : Fin count.toNat, i ≠ seq → st'.rtts.get i = st.rtts.get i) ∧
    (st.rtts.get seq = none ∧ (st'.rtts.get seq).isSome ∧ st'.received = st.received + 1 ∧
        st'.duplicates = st.duplicates ∨
      (st.rtts.get seq).isSome ∧ st'.rtts.get seq = st.rtts.get seq ∧
        st'.received = st.received ∧ st'.duplicates = st.duplicates + 1)

/-- Changes of a sequence of datagrams that leave the packets it echoes. -/
inductive Edit (server : SocketAddr) (count : UInt32) : List Datagram → List Datagram → Prop
  | permute {ds ds' : List Datagram} (h : ds.Perm ds') : Edit server count ds ds'
  | again {ds : List Datagram} {d : Datagram} {seq : Fin count.toNat} (hd : IsEcho server d seq)
      (h : ∃ d' ∈ ds, IsEcho server d' seq) : Edit server count ds (d :: ds)
  | noise {ds : List Datagram} {d : Datagram}
      (h : ∀ seq : Fin count.toNat, ¬IsEcho server d seq) : Edit server count ds (d :: ds)

/-- The state of the receive loop after the reads `rs`. -/
def stateAfter (session : TurnSession) (sendTimes : Vector (Option ℕ) count.toNat)
    (rs : List (ℕ × Datagram)) : EchoState count :=
  absorbAll session sendTimes rs (EchoState.start count)

/-- The accounts of a run that reports `result`, when the receive loop takes the reads `read`
of the reads `rs` there are before its deadline. -/
structure Accounted (session : TurnSession) (srflx : SocketAddr) (recvTimeout started : ℕ)
    (sendTimes : Vector (Option ℕ) count.toNat) (deadline : ℕ) (rs read : List (ℕ × Datagram))
    (result : CheckResult) : Prop where
  /-- The loop stops at the first read with which every packet is heard, or at the last. -/
  stops : read <+: rs ∧ (read = rs ∨ heardSeqs session.server count read = Finset.univ) ∧
    ∀ j < read.length, heardSeqs session.server count (read.take j) ≠ Finset.univ
  /-- It reports what it has counted by then. -/
  reports : ∃ totalMs, result =
    report session srflx recvTimeout totalMs (stateAfter session sendTimes read)
  /-- At every point `received` is the number of filled slots. -/
  slots : ∀ j, let st := stateAfter session sendTimes (read.take j);
    st.received.toNat =
        (Finset.univ.filter fun i : Fin count.toNat => (st.rtts.get i).isSome).card ∧
      st.received ≤ count
  /-- A read is counted if it is an echo, and ignored if not. -/
  counts : ∀ pre r post, read = pre ++ r :: post →
    (∀ seq, IsEcho session.server r.2 seq → Counts (stateAfter session sendTimes pre)
      (stateAfter session sendTimes (pre ++ [r])) seq) ∧
    ((∀ seq : Fin count.toNat, ¬IsEcho session.server r.2 seq) →
      stateAfter session sendTimes (pre ++ [r]) = stateAfter session sendTimes pre)
  /-- Each packet counts once in `received`. -/
  once : (stateAfter session sendTimes read).received.toNat =
    (heardSeqs session.server count read).card
  /-- Every echo read is counted. -/
  total : (stateAfter session sendTimes read).received.toNat +
    (stateAfter session sendTimes read).duplicates.toNat = validEchoes session.server count read
  pass : result.status = .pass ↔ ∀ seq, seq ∈ heardSeqs session.server count read
  warn : result.status = .warn ↔ (∃ seq, seq ∈ heardSeqs session.server count read) ∧
    ∃ seq, seq ∉ heardSeqs session.server count read
  fail : result.status = .fail ↔ ∀ seq, seq ∉ heardSeqs session.server count read
  /-- Sequences of datagrams with the same echoes have the same account. -/
  unchanged : ∀ (sock' : UdpSocket) (incoming' : List (ℕ × Datagram)),
    sock'.queue = incoming'.map arrival → (∀ p ∈ incoming', p.1 < deadline) →
    sock'.now < deadline →
    Relation.EqvGen (Edit session.server count) (rs.map Prod.snd)
      ((reads sock'.now incoming').map Prod.snd) →
    let result' := collect session srflx recvTimeout started sendTimes sock';
    result'.status = result.status ∧
      result'.detail.bind (·.get? "received") = result.detail.bind (·.get? "received") ∧
      result'.detail.bind (·.get? "loss_pct") = result.detail.bind (·.get? "loss_pct")

/-! ## The echoes of the reads -/

/-- The packets the reads echo are those a tally of them hears. -/
theorem heardSeqs_eq (server : SocketAddr) (rs : List (ℕ × Datagram)) :
    heardSeqs server count rs = (Tally.empty.hearAll (stream server count rs)).heard := by
  ext seq
  rw [Tally.mem_heard_hearAll_empty, heardSeqs, Finset.mem_filter, stream, List.mem_map]
  simp only [Finset.mem_univ, true_and]
  exact exists_congr fun r => and_congr_right fun _ => (echoOf_eq_some_iff server r.2 seq).symm

/-- Some packet is echoed exactly if the datagram is a key of the stream. -/
theorem exists_isEcho_iff (server : SocketAddr) (d : Datagram) :
    (∃ seq : Fin count.toNat, IsEcho server d seq) ↔ (echoOf server count d).isSome := by
  rw [Option.isSome_iff_exists]
  exact exists_congr fun seq => (echoOf_eq_some_iff server d seq).symm

/-- The valid echoes are the keys of the stream. -/
theorem validEchoes_eq (server : SocketAddr) : ∀ rs : List (ℕ × Datagram),
    validEchoes server count rs = (stream server count rs).reduceOption.length
  | [] => rfl
  | r :: rs => by
    have ih : rs.countP _ = _ := validEchoes_eq server rs
    rw [validEchoes, List.countP_cons, ih, stream_cons]
    cases h : echoOf server count r.2 with
    | none =>
      have hno : ¬∃ seq : Fin count.toNat, IsEcho server r.2 seq := by
        rw [exists_isEcho_iff, h]
        simp
      rw [List.reduceOption_cons_of_none, if_neg (by simpa using hno)]
      rfl
    | some seq =>
      have hyes : ∃ seq : Fin count.toNat, IsEcho server r.2 seq :=
        ⟨seq, (echoOf_eq_some_iff server r.2 seq).1 h⟩
      rw [List.reduceOption_cons_of_some, if_pos (by simpa using hyes)]
      rfl

/-- The repeats are those of the tally. -/
theorem repeats_eq (server : SocketAddr) (rs : List (ℕ × Datagram)) :
    repeats server count rs = (Tally.empty.hearAll (stream server count rs)).repeats := by
  have h := Tally.card_add_repeats Tally.empty (stream server count rs)
  rw [repeats, heardSeqs_eq, validEchoes_eq]
  simp only [Tally.empty, Finset.card_empty, Nat.zero_add] at h ⊢
  omega

/-- An edit leaves the packets that are echoed. -/
theorem Edit.same_echoes {server : SocketAddr} {ds ds' : List Datagram}
    (h : Edit server count ds ds') (seq : Fin count.toNat) :
    (∃ d ∈ ds, IsEcho server d seq) ↔ ∃ d ∈ ds', IsEcho server d seq := by
  cases h with
  | permute h => exact exists_congr fun d => and_congr_left fun _ => h.mem_iff
  | @again d seq' hd h =>
    obtain ⟨d', hd', hecho⟩ := h
    rw [List.exists_mem_cons_iff]
    refine (or_iff_right_of_imp fun hseq => ⟨d', hd', ?_⟩).symm
    have heq : seq = seq' := by
      have h₁ := (echoOf_eq_some_iff server d seq).2 hseq
      rw [(echoOf_eq_some_iff server d seq').2 hd] at h₁
      exact (Option.some.inj h₁).symm
    rwa [heq]
  | noise h =>
    rw [List.exists_mem_cons_iff]
    exact (or_iff_right (h seq)).symm

/-- Edits leave the packets that are heard. -/
theorem heardSeqs_eq_of_edits {server : SocketAddr} {rs rs' : List (ℕ × Datagram)}
    (h : Relation.EqvGen (Edit server count) (rs.map Prod.snd) (rs'.map Prod.snd)) :
    heardSeqs server count rs = heardSeqs server count rs' := by
  have hsame : ∀ {ds ds' : List Datagram}, Relation.EqvGen (Edit server count) ds ds' →
      ∀ seq : Fin count.toNat,
        (∃ d ∈ ds, IsEcho server d seq) ↔ ∃ d ∈ ds', IsEcho server d seq := by
    intro ds ds' h seq
    induction h with
    | rel _ _ hedit => exact hedit.same_echoes seq
    | refl _ => exact Iff.rfl
    | symm _ _ _ ih => exact ih.symm
    | trans _ _ _ _ _ ih₁ ih₂ => exact ih₁.trans ih₂
  rw [heardSeqs_eq, heardSeqs_eq]
  refine Tally.heard_hearAll_congr _ fun seq => ?_
  have hseq := hsame h seq
  simp only [List.mem_map, exists_exists_and_eq_and, ← echoOf_eq_some_iff] at hseq
  simp only [stream, List.mem_map, hseq]

/-! ## The counters -/

section

variable (session : TurnSession) {sendTimes : Vector (Option ℕ) count.toNat} {sendAt : ℕ → ℕ}

/-- The state after some reads tallies their stream. -/
theorem tallies_stateAfter (hsent : ∀ i (hi : i < count.toNat), sendTimes[i] = some (sendAt i))
    (rs : List (ℕ × Datagram)) : Tallies (stateAfter session sendTimes rs)
      (Tally.empty.hearAll (stream session.server count rs)) :=
  tallies_start.absorbAll session hsent rs

/-- The slots that are filled are the keys heard. -/
theorem Tallies.filled {st : EchoState count} {t : Tally (Fin count.toNat)} (h : Tallies st t) :
    (Finset.univ.filter fun i : Fin count.toNat => (st.rtts.get i).isSome) = t.heard := by
  ext seq
  rw [Finset.mem_filter]
  exact (and_iff_right (Finset.mem_univ seq)).trans (h.slots seq)

/-- Hearing a packet counts it, in its slot or as a duplicate. -/
theorem counts_hear (st : EchoState count) (seq : Fin count.toNat) (rtt : ℕ) :
    Counts st (st.hear seq rtt) seq := by
  unfold EchoState.hear
  by_cases hsome : st.rtts[seq.val].isSome
  · rw [if_pos hsome]
    exact ⟨fun _ _ => rfl, Or.inr ⟨hsome, rfl, rfl, rfl⟩⟩
  · rw [if_neg hsome]
    refine ⟨fun i hi => ?_, Or.inl ⟨Option.not_isSome_iff_eq_none.1 hsome, ?_, rfl, rfl⟩⟩
    · show (st.rtts.set seq (some rtt))[i.val] = st.rtts[i.val]
      rw [Vector.getElem_set, if_neg fun h => hi (Fin.ext h.symm)]
    · show (st.rtts.set seq (some rtt))[seq.val].isSome
      rw [Vector.getElem_set, if_pos rfl]
      rfl

/-- One more read is one more step of the loop. -/
theorem stateAfter_concat (pre : List (ℕ × Datagram)) (r : ℕ × Datagram) :
    stateAfter session sendTimes (pre ++ [r]) =
      absorb session sendTimes r.1 (stateAfter session sendTimes pre) r.2 := by
  rw [stateAfter, absorbAll, List.foldl_append]
  rfl

/-- One more read is counted if it is an echo, and ignored if not. -/
theorem counts_stateAfter (hsent : ∀ i (hi : i < count.toNat), sendTimes[i] = some (sendAt i))
    (pre : List (ℕ × Datagram)) (r : ℕ × Datagram) :
    (∀ seq, IsEcho session.server r.2 seq → Counts (stateAfter session sendTimes pre)
      (stateAfter session sendTimes (pre ++ [r])) seq) ∧
    ((∀ seq : Fin count.toNat, ¬IsEcho session.server r.2 seq) →
      stateAfter session sendTimes (pre ++ [r]) = stateAfter session sendTimes pre) := by
  rw [stateAfter_concat, absorb_eq session hsent]
  refine ⟨fun seq hseq => ?_, fun hno => ?_⟩
  · rw [(echoOf_eq_some_iff session.server r.2 seq).2 hseq]
    exact counts_hear _ seq _
  · have hnone : echoOf session.server count r.2 = none :=
      Option.eq_none_iff_forall_ne_some.2 fun seq h => hno seq ((echoOf_eq_some_iff _ _ seq).1 h)
    rw [hnone]

/-- `received` is the number of packets heard. -/
theorem received_stateAfter (hsent : ∀ i (hi : i < count.toNat), sendTimes[i] = some (sendAt i))
    (rs : List (ℕ × Datagram)) : (stateAfter session sendTimes rs).received.toNat =
      (heardSeqs session.server count rs).card := by
  rw [(tallies_stateAfter session hsent rs).received, heardSeqs_eq]

/-- `duplicates` is the number of repeats, in 32 bits. -/
theorem duplicates_stateAfter (hsent : ∀ i (hi : i < count.toNat), sendTimes[i] = some (sendAt i))
    (rs : List (ℕ × Datagram)) : (stateAfter session sendTimes rs).duplicates =
      UInt32.ofNat (repeats session.server count rs) := by
  rw [(tallies_stateAfter session hsent rs).duplicates, repeats_eq]

/-- The packets heard and the repeats make up the valid echoes. -/
theorem heardSeqs_add_repeats (server : SocketAddr) (rs : List (ℕ × Datagram)) :
    (heardSeqs server count rs).card + repeats server count rs = validEchoes server count rs := by
  have h := Tally.card_add_repeats Tally.empty (stream server count rs)
  rw [heardSeqs_eq, repeats_eq, validEchoes_eq, h]
  simp [Tally.empty]

/-- The counters add up to the echoes exactly if the repeats fit 32 bits. -/
theorem total_stateAfter_iff (hsent : ∀ i (hi : i < count.toNat), sendTimes[i] = some (sendAt i))
    (rs : List (ℕ × Datagram)) :
    (stateAfter session sendTimes rs).received.toNat +
        (stateAfter session sendTimes rs).duplicates.toNat = validEchoes session.server count rs ↔
      repeats session.server count rs < 2 ^ 32 := by
  have hsum : (heardSeqs session.server count rs).card + _ = _ :=
    heardSeqs_add_repeats session.server rs
  rw [received_stateAfter session hsent, duplicates_stateAfter session hsent, UInt32.toNat_ofNat']
  omega

/-! ## The verdict -/

/-- Every packet is heard exactly if as many are as were sent. -/
theorem heardSeqs_eq_univ_iff (server : SocketAddr) (rs : List (ℕ × Datagram)) :
    heardSeqs server count rs = Finset.univ ↔
      (heardSeqs server count rs).card = count.toNat := by
  rw [← Finset.card_eq_iff_eq_univ, Fintype.card_fin]

/-- The status of a report is read off the packets that were counted. -/
theorem status_report_of_card {st : EchoState count} {heard : Finset (Fin count.toNat)}
    (h : st.received.toNat = heard.card) (srflx : SocketAddr) (recvTimeout totalMs : ℕ) :
    (report session srflx recvTimeout totalMs st).status =
      if heard = ∅ then .fail else if heard = Finset.univ then .pass else .warn := by
  have hzero : st.received = 0 ↔ heard = ∅ := by
    rw [← UInt32.toNat_inj, h, ← Finset.card_eq_zero]
    rfl
  have hall : st.received = count ↔ heard = Finset.univ := by
    rw [← UInt32.toNat_inj, h, ← Finset.card_eq_iff_eq_univ, Fintype.card_fin]
  rw [status_report]
  simp only [hzero, hall]

/-- The status tells how many packets were heard. -/
theorem status_report_iff
    (hsent : ∀ i (hi : i < count.toNat), sendTimes[i] = some (sendAt i)) (srflx : SocketAddr)
    (recvTimeout totalMs : ℕ) (rs : List (ℕ × Datagram)) :
    (report session srflx recvTimeout totalMs (stateAfter session sendTimes rs)).status =
      if heardSeqs session.server count rs = ∅ then .fail
      else if heardSeqs session.server count rs = Finset.univ then .pass else .warn :=
  status_report_of_card session (received_stateAfter session hsent rs) srflx recvTimeout totalMs

end

/-- Where the loop stops. -/
theorem stops_consumed (server : SocketAddr) (rs : List (ℕ × Datagram)) :
    let read := consumed server count rs
    read <+: rs ∧ (read = rs ∨ heardSeqs server count read = Finset.univ) ∧
      ∀ j < read.length, heardSeqs server count (read.take j) ≠ Finset.univ := by
  intro read
  have hstream : stream server count read = _ := stream_consumed server rs
  refine ⟨List.take_prefix _ _, ?_, fun j hj hall => ?_⟩
  · rcases Tally.stopAt_cases count.toNat Tally.empty (stream server count rs) with heq | hle
    · left
      rw [show read = rs.take _ from rfl, heq, stream, List.length_map, List.take_length]
    · right
      rw [← hstream, ← heardSeqs_eq] at hle
      have hcard := Finset.card_le_univ (heardSeqs server count read)
      rw [Fintype.card_fin] at hcard
      exact (heardSeqs_eq_univ_iff server read).2 (Nat.le_antisymm hcard hle)
  · have hjlt : j < Tally.stopAt count.toNat Tally.empty (stream server count rs) := by
      rw [show read = rs.take _ from rfl, List.length_take] at hj
      omega
    have hlt := Tally.card_lt_of_lt_stopAt count.toNat Tally.empty (stream server count rs) hjlt
    have htake : read.take j = rs.take j := by
      rw [show read = rs.take _ from rfl, List.take_take, Nat.min_eq_left hjlt.le]
    rw [stream, ← List.map_take] at hlt
    rw [htake, heardSeqs_eq_univ_iff, heardSeqs_eq] at hall
    exact absurd hall hlt.ne

/-- The packets that the loop hears are those of all reads. -/
theorem heardSeqs_consumed (server : SocketAddr) (rs : List (ℕ × Datagram)) :
    heardSeqs server count (consumed server count rs) = heardSeqs server count rs := by
  rw [heardSeqs_eq, heardSeqs_eq, heard_consumed]

/-- Pass is every packet heard, Fail is none, Warn is the rest. -/
theorem verdict_iff {heard : Finset (Fin count.toNat)} {status : CheckStatus}
    (hcount : 0 < count.toNat)
    (h : status = if heard = ∅ then .fail else if heard = Finset.univ then .pass else .warn) :
    (status = .pass ↔ ∀ seq, seq ∈ heard) ∧
      (status = .warn ↔ (∃ seq, seq ∈ heard) ∧ ∃ seq, seq ∉ heard) ∧
      (status = .fail ↔ ∀ seq, seq ∉ heard) := by
  have hnone : (∀ seq, seq ∉ heard) ↔ heard = ∅ := Finset.eq_empty_iff_forall_notMem.symm
  have hall : (∀ seq, seq ∈ heard) ↔ heard = Finset.univ := Finset.eq_univ_iff_forall.symm
  rw [← not_forall_not, ← not_forall, hnone, hall, h]
  have hne : heard = ∅ → heard ≠ Finset.univ := by
    rintro rfl huniv
    exact absurd (huniv ▸ Finset.mem_univ (⟨0, hcount⟩ : Fin count.toNat)) (Finset.notMem_empty _)
  split_ifs with h₁ h₂
  · exact ⟨iff_of_false nofun (hne h₁), iff_of_false nofun fun h => h.1 h₁, iff_of_true rfl h₁⟩
  · exact ⟨iff_of_true rfl h₂, iff_of_false nofun fun h => h.2 h₂, iff_of_false nofun h₁⟩
  · exact ⟨iff_of_false nofun h₂, iff_of_true rfl ⟨h₁, h₂⟩, iff_of_false nofun h₁⟩

/-- What a report says of the packets received follows from their number. -/
theorem report_congr (session : TurnSession) (srflx : SocketAddr) (recvTimeout totalMs totalMs' : ℕ)
    {st st' : EchoState count} (h : st'.received = st.received) :
    let result := report session srflx recvTimeout totalMs st;
    let result' := report session srflx recvTimeout totalMs' st';
    result'.status = result.status ∧
      result'.detail.bind (·.get? "received") = result.detail.bind (·.get? "received") ∧
      result'.detail.bind (·.get? "loss_pct") = result.detail.bind (·.get? "loss_pct") := by
  have hdetail : ∀ (totalMs : ℕ) (st : EchoState count),
      (report session srflx recvTimeout totalMs st).detail.bind (·.get? "received") =
          some (.num st.received.toNat) ∧
        (report session srflx recvTimeout totalMs st).detail.bind (·.get? "loss_pct") =
          some (.num (((count - st.received).toNat : ℚ) * 100 / count.toNat)) := by
    intro totalMs st
    unfold report
    dsimp only
    split
    · exact ⟨rfl, rfl⟩
    · split <;> exact ⟨rfl, rfl⟩
  dsimp only
  refine ⟨by rw [status_report, status_report, h], ?_, ?_⟩
  · rw [(hdetail totalMs' st').1, (hdetail totalMs st).1, h]
  · rw [(hdetail totalMs' st').2, (hdetail totalMs st).2, h]

/-- In a run that gets to its receive loop, with every datagram in time, the accounts are as
they should be exactly if fewer than `2 ^ 32` of the echoes it reads repeat an earlier one. -/
theorem accounted_iff {env : TurnEchoEnv} {session : TurnSession} {srflx : SocketAddr}
    {recvTimeout : ℕ} {sock₁ sock₂ : UdpSocket} {sendTimes : Vector (Option ℕ) count.toNat}
    {incoming : List (ℕ × Datagram)} (hcount : 0 < count) (htimeout : 0 < recvTimeout)
    (hpermission : createPermission env session srflx recvTimeout = (.ok (), sock₁))
    (hsend : sendLoop session (List.finRange count.toNat) (Vector.replicate _ none) sock₁ =
      (.ok sendTimes, sock₂))
    (hqueue : sock₂.queue = incoming.map arrival)
    (htime : ∀ p ∈ incoming, p.1 < sock₂.now + recvTimeout) :
    let rs := reads sock₂.now incoming
    let read := consumed session.server count rs
    Accounted session srflx recvTimeout session.socket.now sendTimes (sock₂.now + recvTimeout) rs
        read (runSession env session srflx recvTimeout count) ↔
      repeats session.server count read < 2 ^ 32 := by
  intro rs read
  obtain ⟨hsent, hnow⟩ := sendLoop_eq_ok hsend
  have hcount' : 0 < count.toNat := UInt32.lt_iff_toNat_lt.1 hcount
  have hrun := runSession_eq_collect hpermission hsend
  rw [hnow] at htime
  obtain ⟨totalMs, hcollect⟩ := collect_eq srflx session.socket.now hcount' hsent
    hqueue htime (by omega)
  rw [← stateAfter] at hcollect
  constructor
  · exact fun h => (total_stateAfter_iff session hsent read).1 h.total
  intro hrepeats
  have hstatus := status_report_iff session hsent srflx recvTimeout totalMs read
  obtain ⟨hpass, hwarn, hfail⟩ := verdict_iff hcount' hstatus
  rw [hrun, hcollect]
  refine ⟨stops_consumed session.server rs, ⟨totalMs, rfl⟩, fun j => ?_, ?_,
    received_stateAfter session hsent read, (total_stateAfter_iff session hsent read).2 hrepeats,
    hpass, hwarn, hfail,
    ?_⟩
  · have htally := tallies_stateAfter session hsent (read.take j)
    refine ⟨by rw [htally.received, htally.filled], UInt32.le_iff_toNat_le.2 ?_⟩
    rw [htally.received]
    exact htally.card_le
  · rintro pre r post -
    exact counts_stateAfter session hsent pre r
  · intro sock' incoming' hqueue' htime' hnow' hedits
    obtain ⟨totalMs', hcollect'⟩ := collect_eq srflx session.socket.now hcount' hsent
      hqueue' (by rwa [hnow] at htime') (by rwa [hnow] at hnow')
    rw [← stateAfter] at hcollect'
    dsimp only
    rw [hcollect']
    refine report_congr session srflx recvTimeout totalMs totalMs' (UInt32.toNat_inj.1 ?_)
    rw [received_stateAfter session hsent, received_stateAfter session hsent, heardSeqs_consumed,
      heardSeqs_consumed, heardSeqs_eq_of_edits hedits]

/-! ## A flood -/

open Sample

/-- A relay that grants the permission, and that sends `n` echoes of packet 0 after the last
of two packets. -/
def flood (n : ℕ) : TurnSession where
  socket := ⟨0, [], [], fun sent now => .ok <| match sent.length with
    | 1 => [⟨now + 1, .ok ⟨server, message createPermissionSuccess (txid 3) []⟩⟩]
    | 3 => List.replicate n ⟨now + 1, .ok ⟨server, echo 0⟩⟩
    | _ => []⟩
  server := server
  relayed := relayed
  realm := login.realm
  nonce := login.nonce
  key := login.key crypto
  username := login.username

/-- The time of the last send. -/
def floodTime : ℕ := 1 + echoInterval

/-- The run on the flood reaches the receive loop with all datagrams in time. -/
theorem flood_reaches_loop (n : ℕ) : ∃ sock₁ sock₂,
    ∃ sendTimes : Vector (Option ℕ) (2 : UInt32).toNat,
    createPermission ⟨crypto, txid 3⟩ (flood n) srflx (Duration.fromSecs 5) = (.ok (), sock₁) ∧
      sendLoop (flood n) (List.finRange (2 : UInt32).toNat) (Vector.replicate _ none) sock₁ =
        (.ok sendTimes, sock₂) ∧
      sock₂.now = floodTime ∧
      sock₂.queue =
        (List.replicate n (floodTime + 1, (⟨server, echo 0⟩ : Datagram))).map arrival := by
  refine ⟨_, _, _, rfl, rfl, rfl, ?_⟩
  rw [List.map_replicate]
  exact List.Pairwise.insertionSort_eq (List.pairwise_replicate.2 (Or.inr le_rfl))

/-- The first of two packets. -/
def packetZero : Fin (2 : UInt32).toNat := ⟨0, by decide⟩

/-- Every datagram of the flood is an echo of packet 0, and of no other. -/
theorem isEcho_of_mem_flood {n now : ℕ} {r : ℕ × Datagram}
    (hr : r ∈ reads now (List.replicate n (floodTime + 1, (⟨server, echo 0⟩ : Datagram))))
    (seq : Fin (2 : UInt32).toNat) : IsEcho server r.2 seq ↔ seq = packetZero := by
  have hmem := List.mem_map_of_mem (f := Prod.snd) hr
  rw [map_snd_reads, List.map_replicate] at hmem
  have hecho : echoOf server 2 (asRead ⟨server, echo 0⟩) = some packetZero := by
    decide +kernel
  rw [List.eq_of_mem_replicate hmem, ← echoOf_eq_some_iff, hecho, Option.some.injEq, eq_comm]

/-- The loop reads the whole flood, and all but one of its datagrams are repeats. -/
theorem repeats_flood {n : ℕ} (hn : 0 < n) (now : ℕ) :
    repeats server 2 (consumed server 2
      (reads now (List.replicate n (floodTime + 1, (⟨server, echo 0⟩ : Datagram))))) = n - 1 := by
  set rs := reads now (List.replicate n (floodTime + 1, (⟨server, echo 0⟩ : Datagram))) with hrs
  have hlen : rs.length = n := by rw [hrs, length_reads, List.length_replicate]
  obtain ⟨r, hr⟩ := List.exists_mem_of_length_pos (hlen.symm ▸ hn)
  have hheard : heardSeqs server 2 rs = {packetZero} := by
    ext seq
    rw [heardSeqs, Finset.mem_filter, Finset.mem_singleton]
    constructor
    · rintro ⟨-, r', hr', hecho⟩
      exact (isEcho_of_mem_flood hr' seq).1 hecho
    · rintro rfl
      exact ⟨Finset.mem_univ _, r, hr, (isEcho_of_mem_flood hr packetZero).2 rfl⟩
  have hread : consumed server 2 rs = rs := by
    refine (stops_consumed server rs).2.1.resolve_right fun hall => ?_
    rw [heardSeqs_consumed, hheard] at hall
    exact absurd hall (by decide)
  have hvalid : validEchoes server 2 rs = n := by
    rw [validEchoes, ← hlen, List.countP_eq_length]
    exact fun r' hr' => decide_eq_true ⟨packetZero, (isEcho_of_mem_flood hr' packetZero).2 rfl⟩
  rw [hread, repeats, hheard, hvalid]
  rfl

theorem mem_flood_time {n : ℕ} {p : ℕ × Datagram}
    (hp : p ∈ List.replicate n (floodTime + 1, (⟨server, echo 0⟩ : Datagram))) :
    p.1 < floodTime + Duration.fromSecs 5 := by
  rw [List.eq_of_mem_replicate hp]
  exact Nat.add_lt_add_left (by decide) _

/-- Two repeats of one echo. -/
theorem accounted_repeats : ∃ sock₁ sock₂, ∃ sendTimes : Vector (Option ℕ) (2 : UInt32).toNat,
    let rs := reads sock₂.now (List.replicate 3 (floodTime + 1, (⟨server, echo 0⟩ : Datagram)))
    sendLoop (flood 3) (List.finRange (2 : UInt32).toNat) (Vector.replicate _ none) sock₁ =
        (.ok sendTimes, sock₂) ∧
      Accounted (flood 3) srflx (Duration.fromSecs 5) 0 sendTimes
        (sock₂.now + Duration.fromSecs 5) rs (consumed server 2 rs)
        (runSession ⟨crypto, txid 3⟩ (flood 3) srflx (Duration.fromSecs 5) 2) := by
  obtain ⟨sock₁, sock₂, sendTimes, hpermission, hsend, hnow, hqueue⟩ := flood_reaches_loop 3
  refine ⟨sock₁, sock₂, sendTimes, hsend, ?_⟩
  refine (accounted_iff (by decide) (by decide) hpermission hsend hqueue
    fun p hp => hnow ▸ mem_flood_time hp).2 ?_
  rw [show (flood 3).server = server from rfl, repeats_flood (by decide)]
  decide

/-- A flood of `2 ^ 32 + 1` echoes of packet 0. The loop reads them all, and the counters do
not add up to their number. -/
theorem accounted_flood : ∃ sock₁ sock₂, ∃ sendTimes : Vector (Option ℕ) (2 : UInt32).toNat,
    let incoming := List.replicate (2 ^ 32 + 1) (floodTime + 1, (⟨server, echo 0⟩ : Datagram))
    let rs := reads sock₂.now incoming
    createPermission ⟨crypto, txid 3⟩ (flood (2 ^ 32 + 1)) srflx (Duration.fromSecs 5) =
        (.ok (), sock₁) ∧
      sendLoop (flood (2 ^ 32 + 1)) (List.finRange (2 : UInt32).toNat) (Vector.replicate _ none)
        sock₁ = (.ok sendTimes, sock₂) ∧
      sock₂.queue = incoming.map arrival ∧ (∀ p ∈ incoming, p.1 < sock₂.now + Duration.fromSecs 5) ∧
      ¬Accounted (flood (2 ^ 32 + 1)) srflx (Duration.fromSecs 5) 0 sendTimes
        (sock₂.now + Duration.fromSecs 5) rs (consumed server 2 rs)
        (runSession ⟨crypto, txid 3⟩ (flood (2 ^ 32 + 1)) srflx (Duration.fromSecs 5) 2) := by
  obtain ⟨sock₁, sock₂, sendTimes, hpermission, hsend, hnow, hqueue⟩ :=
    flood_reaches_loop (2 ^ 32 + 1)
  refine ⟨sock₁, sock₂, sendTimes, hpermission, hsend, hqueue,
    fun p hp => hnow ▸ mem_flood_time hp, fun h => ?_⟩
  have hlt := (total_stateAfter_iff _ (sendLoop_eq_ok hsend).1 _).1 h.total
  rw [show (flood (2 ^ 32 + 1)).server = server from rfl, repeats_flood (Nat.succ_pos _)] at hlt
  exact absurd hlt (by decide)

end TurnEchoCheck

end WebrtcDoctor
