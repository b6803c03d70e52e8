import WebrtcDoctor.DataIndication
import WebrtcDoctor.Stun

/-!
# The declared length

A message declares its length, and all four parsers of responses keep to it : of a buffer that holds
less than the message they read nothing, and what comes after the message they ignore
(`parsers_read_declared`). So a response that a receive buffer cuts short is rejected and not read
in part, also by the parser of CreatePermission responses, which looks at no attribute of a
success.
-/

open BigEndian Checked

namespace WebrtcDoctor

/-- The length of the message that a buffer says it holds. -/
def messageLen (buf : List UInt8) : ℕ := 20 + (toU16 (buf.getD 2 0) (buf.getD 3 0)).toNat

/-- The parser `p` gives none of the `answers` for a part of a message, and the same with anything
after a whole one. -/
structure ReadsDeclared {ε α : Type} (p : List UInt8 → Checked ε α) (answers : α → Prop) :
    Prop where
  part : ∀ buf n, n < messageLen buf → ∀ a, answers a → p (buf.take n) ≠ .ok a
  whole : ∀ buf rest, messageLen buf ≤ buf.length → p (buf ++ rest) = p buf

section

variable {buf rest : List UInt8} {txid : TxId}

/-- The declared length is in the first twenty bytes. -/
theorem messageLen_take {n : ℕ} (h : 20 ≤ n) : messageLen (buf.take n) = messageLen buf := by
  simp only [messageLen, List.getD_eq_getElem?_getD, List.getElem?_take,
    if_pos (show 2 < n by omega), if_pos (show 3 < n by omega)]

/-- A whole message has a header. -/
theorem twenty_le_of_messageLen_le (h : messageLen buf ≤ buf.length) : 20 ≤ buf.length :=
  (Nat.le_add_right _ _).trans h

/-! ## The header -/

/-- The header of a buffer that is accepted declares the length. -/
theorem messageLen_of_parseHeader {header : Header} (h : parseHeader buf txid = .ok header) :
    messageLen buf = 20 + header.attrsLen.toNat ∧ messageLen buf ≤ buf.length := by
  obtain ⟨-, hbytes, hlen⟩ := parseHeader_eq_ok.1 h
  have hget : ∀ i < 20, buf.getD i 0 = header.bytes.getD i 0 := by
    intro i hi
    rw [← hbytes, List.getD_eq_getElem?_getD, List.getD_eq_getElem?_getD, List.getElem?_take,
      if_pos hi]
  have hdeclared : messageLen buf = 20 + header.attrsLen.toNat := by
    rw [messageLen, hget 2 (by omega), hget 3 (by omega)]
    exact congrArg (fun n : UInt16 => 20 + n.toNat) (toU16_ofU16 header.attrsLen)
  exact ⟨hdeclared, hdeclared ▸ hlen⟩

/-- The header of a part of a message is not accepted. -/
theorem messageLen_le_of_parseHeader_take {n : ℕ} {header : Header}
    (h : parseHeader (buf.take n) txid = .ok header) : messageLen buf ≤ n := by
  obtain ⟨-, hle⟩ := messageLen_of_parseHeader h
  have h20 := twenty_le_of_messageLen_le hle
  rw [List.length_take] at h20 hle
  rw [messageLen_take (by omega)] at hle
  exact hle.trans (min_le_left _ _)

theorem getD_append {i : ℕ} (h : i < buf.length) : (buf ++ rest).getD i 0 = buf.getD i 0 := by
  rw [List.getD_eq_getElem?_getD, List.getElem?_append_left h, List.getD_eq_getElem?_getD]

/-- What follows does not change a slice within the buffer. -/
theorem slice_append {i j : ℕ} (hij : i ≤ j) (hj : j ≤ buf.length) :
    (slice (buf ++ rest) i j : Checked CodecError (List UInt8)) = slice buf i j := by
  rw [slice_of_le hij (by rw [List.length_append]; omega), slice_of_le hij hj,
    List.drop_append_of_le_length (by omega),
    List.take_append_of_le_length (by rw [List.length_drop]; omega)]

/-- What follows a whole message does not change its header. -/
theorem parseHeader_append (h : messageLen buf ≤ buf.length) :
    parseHeader (buf ++ rest) txid = parseHeader buf txid := by
  have h20 := twenty_le_of_messageLen_le h
  have hlen : 20 + (toU16 (buf.getD 2 0) (buf.getD 3 0)).toNat ≤ buf.length := h
  have hlen' : 20 + (toU16 (buf.getD 2 0) (buf.getD 3 0)).toNat ≤ (buf ++ rest).length := by
    rw [List.length_append]
    exact hlen.trans (Nat.le_add_right _ _)
  have hget : ∀ i < 20, (Checked.get (buf ++ rest) i : Checked CodecError UInt8) =
      Checked.get buf i := by
    intro i hi
    rw [Checked.get, Checked.get, List.getElem?_append_left (by omega)]
  unfold parseHeader
  rw [if_neg (by rw [List.length_append]; omega), if_neg (by omega), slice_append (by omega) h20]
  simp (disch := omega) only [hget, TurnEchoCheck.get_eq_getD, ok_bind]
  simp only [if_neg (Nat.not_lt.2 hlen), if_neg (Nat.not_lt.2 hlen')]

/-! ## The attributes -/

/-- What follows the section does not change the attributes. -/
theorem walkAttrs_append {attrsLen : UInt16} (h : 20 + attrsLen.toNat ≤ buf.length) :
    walkAttrs (buf ++ rest) attrsLen = walkAttrs buf attrsLen := by
  rw [walkAttrs_eq_decode_drop h, walkAttrs_eq_decode_drop (by rw [List.length_append]; omega),
    List.take_append_of_le_length h]

/-- What follows the section does not change the data. -/
theorem dataLoop_append {last i : ℕ} (h : last ≤ buf.length) :
    TurnEchoCheck.dataLoop (buf ++ rest) last i = TurnEchoCheck.dataLoop buf last i := by
  rw [TurnEchoCheck.dataLoop_eq h, TurnEchoCheck.dataLoop_eq (by rw [List.length_append]; omega),
    List.take_append_of_le_length h]

end

/-! ## The parsers -/

/-- A parser that starts with the header and then reads within the length keeps to it. -/
theorem readsDeclared_of_header {ε α : Type} {txid : TxId} {p : List UInt8 → Checked ε α}
    {onHeader : CodecError → ε} {next : List UInt8 → Header → Checked ε α}
    (hp : ∀ buf, p buf = (parseHeader buf txid).mapErr onHeader >>= next buf)
    (hnext : ∀ buf rest header, 20 + header.attrsLen.toNat ≤ buf.length →
      next (buf ++ rest) header = next buf header) : ReadsDeclared p fun _ => True where
  part buf n hn a _ hok := by
    rw [hp, bind_eq_ok] at hok
    obtain ⟨header, hheader, -⟩ := hok
    exact absurd (messageLen_le_of_parseHeader_take (mapErr_eq_ok.1 hheader)) (Nat.not_le.2 hn)
  whole buf rest hle := by
    rw [hp, hp, parseHeader_append hle]
    cases hheader : parseHeader buf txid with
    | ok header =>
      obtain ⟨hdeclared, -⟩ := messageLen_of_parseHeader hheader
      exact hnext buf rest header (hdeclared ▸ hle)
    | err e => rfl
    | panic => rfl

/-- The binding parser keeps to the declared length. -/
theorem StunBindingCheck.parseBindingResponse_readsDeclared (txid : TxId) :
    ReadsDeclared (parseBindingResponse · txid) fun _ => True := by
  refine readsDeclared_of_header (fun buf => rfl) fun buf rest header h => ?_
  rw [walkAttrs_append h]

/-- The Allocate parser keeps to the declared length. -/
theorem parseAllocateResponse_readsDeclared (txid : TxId) :
    ReadsDeclared (parseAllocateResponse · txid) fun _ => True := by
  refine readsDeclared_of_header (fun buf => rfl) fun buf rest header h => ?_
  rw [walkAttrs_append h]

namespace TurnEchoCheck

/-- The CreatePermission parser keeps to the declared length. -/
theorem parseCreatePermissionResponse_readsDeclared (txid : TxId) :
    ReadsDeclared (parseCreatePermissionResponse · txid) fun _ => True := by
  refine readsDeclared_of_header (fun buf => rfl) fun buf rest header h => ?_
  rw [walkAttrs_append h]

/-- The parser of Data Indications makes the checks of the header itself, and only after that of the
message type. -/
theorem parseDataIndication_readsDeclared :
    ReadsDeclared parseDataIndication fun data => data.isSome where
  part buf n hn data hdata hok := by
    have h20 : 20 ≤ (buf.take n).length := by
      by_contra hlt
      rw [parseDataIndication, if_pos (Nat.not_le.1 hlt)] at hok
      cases hok
    have ht : messageType (buf.take n) = dataIndication := by
      by_contra hne
      rw [parseDataIndication_of_ne h20 hne] at hok
      cases hok
      cases hdata
    rw [parseDataIndication_of_type h20 ht, bind_eq_ok] at hok
    obtain ⟨header, hheader, -⟩ := hok
    exact absurd (messageLen_le_of_parseHeader_take hheader) (Nat.not_le.2 hn)
  whole buf rest hle := by
    have h20 := twenty_le_of_messageLen_le hle
    have h20' : 20 ≤ (buf ++ rest).length := by rw [List.length_append]; omega
    have htype : messageType (buf ++ rest) = messageType buf := by
      rw [messageType, getD_append (by omega), getD_append (by omega), messageType]
    have htxid : ownTxid (buf ++ rest) = ownTxid buf :=
      congrArg Vector.ofFn (funext fun i => getD_append (by omega))
    by_cases ht : messageType buf = dataIndication
    · rw [parseDataIndication_of_type h20 ht, parseDataIndication_of_type h20' (htype.trans ht),
        htxid, parseHeader_append hle]
      cases hheader : parseHeader buf (ownTxid buf) with
      | ok header =>
        obtain ⟨hdeclared, -⟩ := messageLen_of_parseHeader hheader
        exact dataLoop_append (hdeclared ▸ hle)
      | err e => rfl
      | panic => rfl
    · rw [parseDataIndication_of_ne h20 ht, parseDataIndication_of_ne h20' (by rwa [htype])]

end TurnEchoCheck

/-- All four parsers keep to the length that the message declares. -/
theorem parsers_read_declared (txid : TxId) :
    ReadsDeclared (StunBindingCheck.parseBindingResponse · txid) (fun _ => True) ∧
      ReadsDeclared (parseAllocateResponse · txid) (fun _ => True) ∧
      ReadsDeclared (TurnEchoCheck.parseCreatePermissionResponse · txid) (fun _ => True) ∧
      ReadsDeclared TurnEchoCheck.parseDataIndication (fun data => data.isSome) :=
  ⟨StunBindingCheck.parseBindingResponse_readsDeclared txid,
    parseAllocateResponse_readsDeclared txid,
    TurnEchoCheck.parseCreatePermissionResponse_readsDeclared txid,
    TurnEchoCheck.parseDataIndication_readsDeclared⟩

end WebrtcDoctor
