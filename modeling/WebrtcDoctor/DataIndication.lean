import WebrtcDoctor.HostileInput

/-!
# The Data Indication parser and the shared codec

`parseDataIndication` has a copy of the header checks and of the attribute walk. It agrees with
`parseHeader` under the message's own transaction ID, and its loop is the walk, stopped at the
first DATA attribute (`dataLoop_eq`). So it returns the first DATA attribute of those that
`walkAttrs` reads, or where the walk fails, of those before the attribute it fails at
(`parseDataIndication_agrees`).
-/

open BigEndian Checked

namespace WebrtcDoctor

namespace TurnEchoCheck

/-- The type of a message. -/
def messageType (buf : List UInt8) : UInt16 := toU16 (buf.getD 0 0) (buf.getD 1 0)

/-- The transaction ID that a message carries. -/
def ownTxid (buf : List UInt8) : TxId := Vector.ofFn fun i => buf.getD (8 + i) 0

/-- The first DATA attribute. -/
def firstData (attrs : List Attr) : Option Attr := attrs.find? fun a => a.attrType = attr.data

/-! ## The loop -/

/-- The loop from offset `i` looks for a DATA attribute among what can be read of the rest of
the section. -/
theorem dataLoop_eq {buf : List UInt8} {last : ℕ} (hlast : last ≤ buf.length) (i : ℕ) :
    dataLoop buf last i =
      match firstData (attrFormat.readable ((buf.take last).drop i)) with
      | some a => .ok (some a.value)
      | none =>
        match attrFormat.decode ((buf.take last).drop i) with
        | none => .err .truncatedAttr
        | some _ => .ok none := by
  induction hn : last - i using Nat.strongRecOn generalizing i with
  | _ n ih =>
    have hlen : (buf.take last).length = last := by simp [hlast]
    have hF : attrFormat.headLen = 4 := rfl
    rw [dataLoop, Tlv.Format.decode_drop, Tlv.Format.readable_drop, hlen, hF]
    by_cases hi : i + 4 ≤ last
    · rw [if_pos hi, if_pos hi, if_pos hi, lenAt_take hlast hi,
        get_of_lt (by omega : i < buf.length), get_of_lt (by omega : i + 1 < buf.length),
        get_of_lt (by omega : i + 2 < buf.length), get_of_lt (by omega : i + 3 < buf.length)]
      simp only [ok_bind]
      set attrLen := (toU16 buf[i + 2] buf[i + 3]).toNat with hattrLen
      by_cases hv : i + 4 + attrLen ≤ last
      · have hpad : attrFormat.pad attrLen = (4 - attrLen % 4) % 4 := rfl
        rw [if_neg (by omega), if_pos hv, if_pos hv, hpad, read_take hlast hi, take_drop_take hv,
          slice_of_le (by omega) (by omega), ih _ (by omega) _ rfl, Nat.add_sub_cancel_left]
        by_cases hdata : toU16 buf[i] buf[i + 1] = attr.data
        · rw [if_pos hdata, firstData, List.find?_cons_of_pos (by simpa using hdata)]
          rfl
        · rw [if_neg hdata, firstData, firstData, List.find?_cons_of_neg (by simpa using hdata)]
          cases attrFormat.decode
            ((buf.take last).drop (i + 4 + attrLen + (4 - attrLen % 4) % 4)) <;> rfl
      · rw [if_pos (by omega), if_neg hv, if_neg hv]
        rfl
    · rw [if_neg hi, if_neg hi, if_neg hi]
      rfl

/-! ## The header -/

/-- The transaction ID read from a message is its own. -/
theorem toVector_ownTxid {buf : List UInt8} (h : 20 ≤ buf.length) :
    (toVector 12 ((buf.drop 8).take 12) : Checked CodecError TxId) = .ok (ownTxid buf) := by
  rw [toVector_of_length (by rw [List.length_take, List.length_drop]; omega)]
  refine congrArg Checked.ok (Vector.ext fun i hi => ?_)
  have hbuf : 8 + i < buf.length := by omega
  simp only [ownTxid, Vector.getElem_ofFn, List.getD_eq_getElem _ _ hbuf, Vector.getElem_mk,
    List.getElem_toArray, List.getElem_take, List.getElem_drop]

theorem get_eq_getD {buf : List UInt8} {i : ℕ} (h : i < buf.length) :
    (Checked.get buf i : Checked CodecError UInt8) = .ok (buf.getD i 0) := by
  rw [get_of_lt h, List.getD_eq_getElem _ _ h]

/-- The checks of the header under the message's own transaction ID. -/
theorem parseHeader_ownTxid {buf : List UInt8} {attrsLen : UInt16} {cookie : UInt32}
    (h : 20 ≤ buf.length) (hlen : toU16 (buf.getD 2 0) (buf.getD 3 0) = attrsLen)
    (hcookie : toU32 (buf.getD 4 0) (buf.getD 5 0) (buf.getD 6 0) (buf.getD 7 0) = cookie) :
    parseHeader buf (ownTxid buf) =
      if cookie ≠ magicCookie then .err (.badCookie cookie)
      else if buf.length < 20 + attrsLen.toNat then .err .truncatedAttr
      else .ok ⟨messageType buf, attrsLen, ownTxid buf⟩ := by
  rw [parseHeader, if_neg (by omega)]
  iterate 8 rw [get_eq_getD (by omega), ok_bind]
  rw [slice_of_le (by omega) h, ok_bind, toVector_ownTxid h, ok_bind, if_neg (not_not.2 rfl),
    hlen, hcookie]
  rfl

/-- A Data Indication is checked like a response with its own transaction ID. -/
theorem parseDataIndication_of_type {buf : List UInt8} (h : 20 ≤ buf.length)
    (ht : messageType buf = dataIndication) :
    parseDataIndication buf =
      parseHeader buf (ownTxid buf) >>= fun h => dataLoop buf (20 + h.attrsLen.toNat) 20 := by
  rw [parseDataIndication, if_neg (by omega)]
  iterate 2 rw [get_eq_getD (by omega), ok_bind]
  rw [show toU16 (buf.getD 0 0) (buf.getD 1 0) = dataIndication from ht]
  simp only [ne_eq, not_true_eq_false, if_false]
  iterate 6 rw [get_eq_getD (by omega), ok_bind]
  generalize hattrs : toU16 (buf.getD 2 0) (buf.getD 3 0) = attrsLen
  generalize hcookie : toU32 (buf.getD 4 0) (buf.getD 5 0) (buf.getD 6 0) (buf.getD 7 0) = cookie
  rw [parseHeader_ownTxid h hattrs hcookie]
  by_cases hc : cookie = magicCookie
  · rw [if_neg (not_not.2 hc), if_neg (not_not.2 hc)]
    by_cases hl : buf.length < 20 + attrsLen.toNat
    · rw [if_pos hl, if_pos hl, err_bind]
    · rw [if_neg hl, if_neg hl, ok_bind]
  · rw [if_pos hc, if_pos hc, err_bind]

/-- A message of another type has no data. -/
theorem parseDataIndication_of_ne {buf : List UInt8} (h : 20 ≤ buf.length)
    (ht : messageType buf ≠ dataIndication) : parseDataIndication buf = .ok none := by
  rw [parseDataIndication, if_neg (by omega)]
  iterate 2 rw [get_eq_getD (by omega), ok_bind]
  exact if_pos ht

/-! ## Agreement -/

section

variable {buf : List UInt8} {h : Header} (hh : parseHeader buf (ownTxid buf) = .ok h)
  (ht : messageType buf = dataIndication)

include hh ht

/-- A Data Indication with a sound header is read by the loop. -/
theorem parseDataIndication_eq_dataLoop :
    parseDataIndication buf = dataLoop buf (20 + h.attrsLen.toNat) 20 := by
  have hlen : 20 ≤ buf.length := Nat.le_of_add_right_le (parseHeader_eq_ok.1 hh).2.2
  rw [parseDataIndication_of_type hlen ht, hh, ok_bind]

/-- Where the walk reads the section, the result is its first DATA attribute. -/
theorem parseDataIndication_of_walk {attrs : List Attr}
    (hw : walkAttrs buf h.attrsLen = .ok attrs) :
    parseDataIndication buf = .ok ((firstData attrs).map Attr.value) := by
  have hlast := (parseHeader_eq_ok.1 hh).2.2
  rw [walkAttrs_eq_decode_drop hlast] at hw
  cases hdec : attrFormat.decode ((buf.take (20 + h.attrsLen.toNat)).drop 20) with
  | none => rw [hdec] at hw; cases hw
  | some as =>
    rw [hdec] at hw
    obtain rfl := Checked.ok.inj hw
    rw [parseDataIndication_eq_dataLoop hh ht, dataLoop_eq hlast, hdec,
      attrFormat.readable_of_decode hdec]
    cases firstData as <;> rfl

/-- Where the walk fails at the attribute at offset `o`, the result is the first DATA attribute
of those that precede it. -/
theorem parseDataIndication_of_overrun {o : ℕ} (ho : Reached buf (20 + h.attrsLen.toNat) o)
    (hle : o + 4 ≤ 20 + h.attrsLen.toNat)
    (hlt : 20 + h.attrsLen.toNat < o + 4 + declaredLen buf o) :
    ∃ attrs, walkAttrs buf (UInt16.ofNat (o - 20)) = .ok attrs ∧
      parseDataIndication buf = match firstData attrs with
        | some a => .ok (some a.value)
        | none => .err .truncatedAttr := by
  have hlast := (parseHeader_eq_ok.1 hh).2.2
  have hattrs := h.attrsLen.toNat_lt
  have hr := (reached_iff hlast o).1 ho
  have h20 := attrFormat.le_of_next hr
  have hlen : (buf.take (20 + h.attrsLen.toNat)).length = 20 + h.attrsLen.toNat := by
    rw [List.length_take, Nat.min_eq_left hlast]
  have hcut : 20 + (UInt16.ofNat (o - 20)).toNat = o := by
    rw [toNat_cast_of_lt (by omega)]
    omega
  have hlenAt := lenAt_eq_declaredLen hlast hle
  have hdec := attrFormat.decode_take_of_overruns hr (by rw [hlen]; exact hle)
    (by rw [hlen, hlenAt]; exact hlt)
  have hnone := (attrFormat.decode_drop_eq_none_iff _ 20).2
    ((overruns_iff hlast).1 ⟨o, ho, hle, hlt⟩)
  refine ⟨attrFormat.readable ((buf.take (20 + h.attrsLen.toNat)).drop 20), ?_, ?_⟩
  · rw [List.take_take, Nat.min_eq_left (by omega)] at hdec
    rw [walkAttrs_eq_decode_drop (by omega), hcut, hdec]
  · rw [parseDataIndication_eq_dataLoop hh ht, dataLoop_eq hlast, hnone]

end

/-- On any bytes, the Data Indication parser agrees with the shared codec under the message's
own transaction ID. -/
theorem parseDataIndication_agrees (buf : List UInt8) :
    (buf.length < 20 → parseDataIndication buf = .err (.short buf.length)) ∧
    (20 ≤ buf.length → messageType buf ≠ dataIndication → parseDataIndication buf = .ok none) ∧
    (messageType buf = dataIndication →
      (∀ e, parseHeader buf (ownTxid buf) = .err e → parseDataIndication buf = .err e) ∧
      ∀ h, parseHeader buf (ownTxid buf) = .ok h →
        (∀ attrs, walkAttrs buf h.attrsLen = .ok attrs →
          parseDataIndication buf = .ok ((firstData attrs).map Attr.value)) ∧
        (∀ e, walkAttrs buf h.attrsLen = .err e →
          ∃ o, Reached buf (20 + h.attrsLen.toNat) o ∧ o + 4 ≤ 20 + h.attrsLen.toNat ∧
            20 + h.attrsLen.toNat < o + 4 + declaredLen buf o ∧
            ∃ attrs, walkAttrs buf (UInt16.ofNat (o - 20)) = .ok attrs ∧
              parseDataIndication buf = match firstData attrs with
                | some a => .ok (some a.value)
                | none => .err .truncatedAttr)) := by
  refine ⟨fun hshort => if_pos hshort, parseDataIndication_of_ne, fun ht => ⟨fun e he => ?_,
    fun h hh => ⟨fun attrs hw => parseDataIndication_of_walk hh ht hw, fun e he => ?_⟩⟩⟩
  · by_cases hlen : buf.length < 20
    · rw [parseHeader, if_pos hlen] at he
      rw [parseDataIndication, if_pos hlen, Checked.err.inj he]
    · rw [parseDataIndication_of_type (Nat.not_lt.1 hlen) ht, he]
      rfl
  · have hlast := (parseHeader_eq_ok.1 hh).2.2
    rcases walkAttrs_cases hlast with hfail | ⟨attrs, hok⟩
    · obtain ⟨o, ho, hle, hlt⟩ := (walkAttrs_eq_err_iff hlast).1 hfail
      exact ⟨o, ho, hle, hlt, parseDataIndication_of_overrun hh ht ho hle hlt⟩
    · rw [hok] at he
      cases he

/-- The attributes of an indication with two DATA attributes. -/
def twoData : List Attr :=
  [⟨attr.xorPeerAddress, [0, 1]⟩, ⟨attr.data, [104, 105]⟩, ⟨attr.data, [0]⟩]

/-- The first of them is returned. -/
theorem parseDataIndication_agrees_twoData :
    parseDataIndication (message dataIndication (Vector.replicate 12 7) twoData) =
      .ok (some [104, 105]) :=
  (((parseDataIndication_agrees (message dataIndication (Vector.replicate 12 7) twoData)).2.2
    (by decide)).2 ⟨dataIndication, 24, Vector.replicate 12 7⟩ (by decide +kernel)).1 twoData
    (by decide +kernel)

end TurnEchoCheck

end WebrtcDoctor
