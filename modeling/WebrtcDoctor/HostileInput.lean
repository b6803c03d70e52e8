import WebrtcDoctor.MessageRoundTrip
import WebrtcDoctor.Stun
import WebrtcDoctor.TurnEcho

/-!
# Hostile input

The parsers on arbitrary bytes. None of them reads outside its buffer, and where the header
is accepted the attribute walk is faithful to the bytes : it stops with an error exactly at
a header it reaches that declares more than the section holds (`Overruns`), and otherwise
its values lie in the section one after the other (`Laid`). A section of whole words is
written back by the builders as it was, except for its padding. `parsers_faithful` is all
of this.

The walk of a section that ends at `last` is `decode` of `buf.take last` at offset 20, so
the offsets of `Tlv` are offsets in the buffer.
-/

open BigEndian Checked

namespace WebrtcDoctor

/-- The length that the attribute header at offset `o` declares. -/
def declaredLen (buf : List UInt8) (o : ℕ) : ℕ :=
  (toU16 (buf.getD (o + 2) 0) (buf.getD (o + 3) 0)).toNat

/-- The walk of a section that ends at `last` reaches offset `o`. -/
inductive Reached (buf : List UInt8) (last : ℕ) : ℕ → Prop
  | start : Reached buf last 20
  | next {o : ℕ} (ho : Reached buf last o) (hle : o + 4 + declaredLen buf o ≤ last) :
      Reached buf last (o + 4 + declaredLen buf o + (4 - declaredLen buf o % 4) % 4)

/-- The walk reaches a header that declares more than the section holds. -/
def Overruns (buf : List UInt8) (last : ℕ) : Prop :=
  ∃ o, Reached buf last o ∧ o + 4 ≤ last ∧ last < o + 4 + declaredLen buf o

/-- The values of `attrs` are slices of the section that ends at `last`, at the aligned
offsets `offs`, and each ends before the next begins. -/
structure Laid (buf : List UInt8) (last : ℕ) (attrs : List Attr) (offs : List ℕ) : Prop where
  length_offs : offs.length = attrs.length
  inOrder : (attrs.zip offs).Pairwise fun p q => p.2 + p.1.value.length ≤ q.2
  slice : ∀ p ∈ attrs.zip offs, 20 ≤ p.2 ∧ 4 ∣ p.2 ∧ p.2 + p.1.value.length ≤ last ∧
    p.1.value = (buf.drop p.2).take p.1.value.length

/-- Offset `i` is in the padding after a value of `attrs` at its offset in `offs`. -/
def InPadding (attrs : List Attr) (offs : List ℕ) (i : ℕ) : Prop :=
  ∃ p ∈ attrs.zip offs, p.2 + p.1.value.length ≤ i ∧
    i < p.2 + p.1.value.length + (4 - p.1.value.length % 4) % 4

/-! ## The walk -/

/-- The length of the attribute at an offset is the one declared there. -/
theorem lenAt_eq_declaredLen {buf : List UInt8} {last o : ℕ} (hlast : last ≤ buf.length)
    (ho : o + 4 ≤ last) : attrFormat.lenAt (buf.take last) o = declaredLen buf o := by
  rw [lenAt_take hlast ho, declaredLen,
    List.getD_eq_getElem _ _ (by omega : o + 2 < buf.length),
    List.getD_eq_getElem _ _ (by omega : o + 3 < buf.length)]

/-- The offsets reached are those of the walk. -/
theorem reached_iff {buf : List UInt8} {last : ℕ} (hlast : last ≤ buf.length) (o : ℕ) :
    Reached buf last o ↔ Relation.ReflTransGen (attrFormat.Next (buf.take last)) 20 o := by
  have hlen : (buf.take last).length = last := by rw [List.length_take, Nat.min_eq_left hlast]
  have hF : attrFormat.headLen = 4 := rfl
  constructor
  · intro h
    induction h with
    | start => exact .refl
    | @next o ho hle ih =>
      have hl := lenAt_eq_declaredLen hlast (by omega : o + 4 ≤ last)
      refine ih.tail ⟨by rw [hl, hF, hlen]; exact hle, ?_⟩
      rw [hl]
      rfl
  · intro h
    induction h with
    | refl => exact .start
    | @tail o o' _ hnext ih =>
      obtain ⟨hle, rfl⟩ := hnext
      rw [hlen, hF] at hle
      have hl := lenAt_eq_declaredLen hlast (by omega : o + 4 ≤ last)
      rw [hl] at hle ⊢
      exact ih.next hle

/-- An attribute overruns the section exactly if the walk meets it. -/
theorem overruns_iff {buf : List UInt8} {last : ℕ} (hlast : last ≤ buf.length) :
    Overruns buf last ↔ attrFormat.OverrunsFrom (buf.take last) 20 := by
  have hlen : (buf.take last).length = last := by rw [List.length_take, Nat.min_eq_left hlast]
  refine exists_congr fun o => ?_
  rw [reached_iff hlast, hlen, show attrFormat.headLen = 4 from rfl]
  refine and_congr_right fun _ => and_congr_right fun ho => ?_
  rw [lenAt_eq_declaredLen hlast ho]

/-- `walkAttrs` decodes what is left of the buffer up to the end of the section. -/
theorem walkAttrs_eq_decode_drop {buf : List UInt8} {n : UInt16}
    (h : 20 + n.toNat ≤ buf.length) : walkAttrs buf n =
      match attrFormat.decode ((buf.take (20 + n.toNat)).drop 20) with
      | none => .err .truncatedAttr
      | some as => .ok as := by
  rw [walkAttrs, walkAttrsLoop_eq_decode h]
  rfl

/-- The walk fails exactly if it reaches a header that overruns the section. -/
theorem walkAttrs_eq_err_iff {buf : List UInt8} {n : UInt16} (h : 20 + n.toNat ≤ buf.length) :
    walkAttrs buf n = .err .truncatedAttr ↔ Overruns buf (20 + n.toNat) := by
  rw [overruns_iff h, ← attrFormat.decode_drop_eq_none_iff, walkAttrs_eq_decode_drop h]
  cases attrFormat.decode ((buf.take (20 + n.toNat)).drop 20) <;> simp

/-- The walk ends with that error or with attributes. -/
theorem walkAttrs_cases {buf : List UInt8} {n : UInt16} (h : 20 + n.toNat ≤ buf.length) :
    walkAttrs buf n = .err .truncatedAttr ∨ ∃ attrs, walkAttrs buf n = .ok attrs := by
  rw [walkAttrs_eq_decode_drop h]
  cases attrFormat.decode ((buf.take (20 + n.toNat)).drop 20) with
  | none => exact Or.inl rfl
  | some as => exact Or.inr ⟨as, rfl⟩

/-- Where the values of a walk lie. -/
theorem laid_of_walk {buf : List UInt8} {n : UInt16} {attrs : List Attr}
    (h : 20 + n.toNat ≤ buf.length)
    (hdec : attrFormat.decode ((buf.take (20 + n.toNat)).drop 20) = some attrs) :
    Laid buf (20 + n.toNat) attrs (attrFormat.starts 20 attrs) where
  length_offs := attrFormat.length_starts 20 attrs
  inOrder := (attrFormat.starts_pairwise 20 attrs).imp fun hpq => (Nat.le_add_right _ _).trans hpq
  slice p hp := by
    obtain ⟨hle, hval⟩ := attrFormat.values_of_decode hdec p hp
    have hstart := (List.of_mem_zip hp).2
    rw [List.length_take, Nat.min_eq_left h] at hle
    refine ⟨Nat.le_of_add_right_le (attrFormat.le_of_mem_starts hstart),
      attrFormat.align_dvd_of_mem_starts (Nat.dvd_refl 4) (by decide : 4 ∣ 20) hstart, hle, ?_⟩
    rw [List.drop_take, List.take_take, Nat.min_eq_left (Nat.le_sub_of_add_le' hle)] at hval
    exact hval

/-- The header and the attributes of a section of whole words, written again, are the
section, except in its padding. -/
theorem message_of_walk {buf : List UInt8} {txid : TxId} {h : Header} {attrs : List Attr}
    (hh : parseHeader buf txid = .ok h) (hdvd : 4 ∣ h.attrsLen.toNat)
    (hdec : attrFormat.decode ((buf.take (20 + h.attrsLen.toNat)).drop 20) = some attrs) :
    sectionLen attrs = h.attrsLen.toNat ∧ ∀ i < 20 + h.attrsLen.toNat,
      InPadding attrs (attrFormat.starts 20 attrs) i ∨
        (message h.msgType txid attrs)[i]? = buf[i]? := by
  obtain ⟨rfl, htake, hle⟩ := parseHeader_eq_ok.1 hh
  have hlen : (buf.take (20 + h.attrsLen.toNat)).length = 20 + h.attrsLen.toNat := by
    rw [List.length_take, Nat.min_eq_left hle]
  obtain ⟨hsize, hget⟩ := attrFormat.encode_of_decode 0 (Nat.dvd_refl 4)
    (by rw [hlen]; exact (Nat.dvd_add_right (by decide : 4 ∣ 20)).2 hdvd) (by decide : 4 ∣ 20)
    (by omega) (Nat.le_refl 4) hdec
  have hsize' : attrFormat.size attrs = h.attrsLen.toNat := by omega
  refine ⟨hsize', fun i hi => ?_⟩
  have hmsg : message h.msgType h.txid attrs = h.bytes ++ attrFormat.encode 0 attrs := by
    rw [message_eq, hsize', UInt16.ofNat_toNat]
  by_cases hi20 : i < 20
  · right
    rw [hmsg, List.getElem?_append_left (by rw [Header.length_bytes]; exact hi20), ← htake,
      List.getElem?_take_of_lt hi20]
  · obtain ⟨j, rfl⟩ : ∃ j, i = 20 + j := ⟨i - 20, by omega⟩
    rcases hget j with hpad | heq
    · exact Or.inl hpad
    · right
      rw [hmsg, List.getElem?_append_right (by rw [Header.length_bytes]; omega),
        Header.length_bytes, Nat.add_sub_cancel_left, heq, List.getElem?_drop,
        List.getElem?_take_of_lt hi]

/-! ## Any bytes -/

/-- On any bytes and for any transaction ID no parser panics. Where the header is accepted
the walk fails exactly if it reaches an attribute that overruns the section. Otherwise its
values are aligned slices of the section, in order and disjoint, and a section of whole
words is all used and is what the builders write again, except for its padding. -/
theorem parsers_faithful (buf : List UInt8) (txid : TxId) :
    (StunBindingCheck.parseBindingResponse buf txid).Safe ∧
      (parseAllocateResponse buf txid).Safe ∧
      (TurnEchoCheck.parseCreatePermissionResponse buf txid).Safe ∧
      (TurnEchoCheck.parseDataIndication buf).Safe ∧
      ∀ h, parseHeader buf txid = .ok h →
        20 + h.attrsLen.toNat ≤ buf.length ∧
        (walkAttrs buf h.attrsLen = .err .truncatedAttr ↔
          Overruns buf (20 + h.attrsLen.toNat)) ∧
        (walkAttrs buf h.attrsLen = .err .truncatedAttr ∨
          ∃ attrs offs, walkAttrs buf h.attrsLen = .ok attrs ∧
            Laid buf (20 + h.attrsLen.toNat) attrs offs ∧
            (4 ∣ h.attrsLen.toNat →
              (message h.msgType txid attrs).length = 20 + h.attrsLen.toNat ∧
              ∀ i < 20 + h.attrsLen.toNat,
                InPadding attrs offs i ∨ (message h.msgType txid attrs)[i]? = buf[i]?)) := by
  refine ⟨StunBindingCheck.parseBindingResponse_safe buf txid, parseAllocateResponse_safe buf txid,
    TurnEchoCheck.parseCreatePermissionResponse_safe buf txid,
    TurnEchoCheck.parseDataIndication_safe buf, fun h hh => ?_⟩
  obtain ⟨-, -, hle⟩ := parseHeader_eq_ok.1 hh
  refine ⟨hle, walkAttrs_eq_err_iff hle, (walkAttrs_cases hle).imp_right ?_⟩
  rintro ⟨attrs, hwalk⟩
  have hdec : attrFormat.decode ((buf.take (20 + h.attrsLen.toNat)).drop 20) = some attrs := by
    rw [walkAttrs_eq_decode_drop hle] at hwalk
    split at hwalk
    · cases hwalk
    next as hdec =>
      rw [hdec, Checked.ok.inj hwalk]
  refine ⟨attrs, attrFormat.starts 20 attrs, hwalk, laid_of_walk hle hdec, fun hdvd => ?_⟩
  obtain ⟨hsize, hget⟩ := message_of_walk hh hdvd hdec
  exact ⟨by rw [length_message, hsize], hget⟩

end WebrtcDoctor
