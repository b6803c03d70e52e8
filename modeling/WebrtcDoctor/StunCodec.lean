import Mathlib.Data.List.GetD
import WebrtcDoctor.BigEndian
import WebrtcDoctor.Checked
import WebrtcDoctor.NetAddr
import WebrtcDoctor.Tlv
import WebrtcDoctor.Utf8

/-!
# The STUN/TURN wire format

The header, the attribute walk and the address and error attributes of
`stun_codec.rs`. A message is a 20-byte header and a section of attributes, each a
16-bit type, a 16-bit length, a value and padding to four bytes. `attrFormat` is that
layout as a `Tlv.Format`.

`parseHeader` accepts a buffer exactly if it opens with the header it returns and holds
the section the header declares (`parseHeader_eq_ok`). On such a buffer `walkAttrs` is
`decode` of the section (`walkAttrs_eq_decode`), so what is known of sections is known
of the walker.
-/

open BigEndian Checked NetAddr

namespace WebrtcDoctor

/-- Transaction IDs, `[u8; 12]`. -/
abbrev TxId := Vector UInt8 12

/-- RFC 5389 §6 : every STUN message starts with this 32-bit constant. -/
def magicCookie : UInt32 := 0x2112A442

/-! ## Attribute types -/

namespace attr

/-- MAPPED-ADDRESS. -/
def mappedAddress : UInt16 := 0x0001

/-- USERNAME. -/
def username : UInt16 := 0x0006

/-- MESSAGE-INTEGRITY. -/
def messageIntegrity : UInt16 := 0x0008

/-- ERROR-CODE. -/
def errorCode : UInt16 := 0x0009

/-- REALM. -/
def realm : UInt16 := 0x0014

/-- NONCE. -/
def nonce : UInt16 := 0x0015

/-- XOR-PEER-ADDRESS. -/
def xorPeerAddress : UInt16 := 0x0012

/-- DATA. -/
def data : UInt16 := 0x0013

/-- XOR-MAPPED-ADDRESS. -/
def xorMappedAddress : UInt16 := 0x0020

/-- XOR-RELAYED-ADDRESS. -/
def xorRelayedAddress : UInt16 := 0x0016

/-- REQUESTED-TRANSPORT. -/
def requestedTransport : UInt16 := 0x0019

/-- LIFETIME. -/
def lifetime : UInt16 := 0x000D

end attr

/-- Why a message or an attribute cannot be read. -/
inductive CodecError where
  | short (len : ℕ)
  | badCookie (cookie : UInt32)
  | txIdMismatch
  | truncatedAttr
  | badFamily (family : UInt8)
deriving DecidableEq, Repr

/-- A number in hexadecimal, padded with zeros to `width`. -/
def hexPad (width n : ℕ) : String :=
  let ds := Nat.toDigits 16 n
  String.ofList (List.replicate (width - ds.length) '0' ++ ds)

instance : ToString CodecError where
  toString
    | .short len => s!"message shorter than 20-byte header ({len} bytes)"
    | .badCookie cookie => "magic cookie mismatch: 0x" ++ hexPad 8 cookie.toNat
    | .txIdMismatch => "transaction id mismatch"
    | .truncatedAttr => "attribute body shorter than declared length"
    | .badFamily family => "unknown address family 0x" ++ hexPad 2 family.toNat

/-- Parsed view of a STUN message header. -/
structure Header where
  msgType : UInt16
  attrsLen : UInt16
  txid : TxId
deriving DecidableEq, Repr

/-- Parse and validate the 20-byte header, checking cookie and transaction ID. -/
def parseHeader (buf : List UInt8) (expectedTxid : TxId) : Checked CodecError Header :=
  if buf.length < 20 then .err (.short buf.length)
  else do
    let msgType := toU16 (← get buf 0) (← get buf 1)
    let attrsLen := toU16 (← get buf 2) (← get buf 3)
    let cookie := toU32 (← get buf 4) (← get buf 5) (← get buf 6) (← get buf 7)
    if cookie ≠ magicCookie then .err (.badCookie cookie)
    else do
      let txid ← toVector 12 (← slice buf 8 20)
      if txid ≠ expectedTxid then .err .txIdMismatch
      else if buf.length < 20 + attrsLen.toNat then .err .truncatedAttr
      else return ⟨msgType, attrsLen, txid⟩

/-- A single TLV attribute as it appears on the wire. -/
structure Attr where
  attrType : UInt16
  value : List UInt8
deriving DecidableEq, Repr

/-- The loop of `walkAttrs` at offset `i`, with the attributes pushed so far. -/
def walkAttrsLoop (buf : List UInt8) (last i : ℕ) (out : List Attr) :
    Checked CodecError (List Attr) :=
  if i + 4 ≤ last then do
    let attrType := toU16 (← get buf i) (← get buf (i + 1))
    let attrLen := (toU16 (← get buf (i + 2)) (← get buf (i + 3))).toNat
    let valStart := i + 4
    let valEnd := valStart + attrLen
    if valEnd > last then .err .truncatedAttr
    else do
      let value ← slice buf valStart valEnd
      walkAttrsLoop buf last (valEnd + (4 - attrLen % 4) % 4) (out ++ [⟨attrType, value⟩])
  else return out
termination_by last - i

/-- The attributes of the section after the header. -/
def walkAttrs (buf : List UInt8) (attrsLen : UInt16) : Checked CodecError (List Attr) :=
  walkAttrsLoop buf (20 + attrsLen.toNat) 20 []

/-- The cookie followed by the transaction ID, the XOR mask of an IPv6 address. -/
def xorMask (txid : TxId) : List UInt8 := ofU32 magicCookie ++ txid.toList

/-- Decode an `XOR-MAPPED-ADDRESS`-style attribute. -/
def parseXorAddress (value : List UInt8) (txid : TxId) : Checked CodecError SocketAddr :=
  if value.length < 4 then .err .truncatedAttr
  else do
    let family ← get value 1
    let xport := toU16 (← get value 2) (← get value 3)
    let port := xport ^^^ (magicCookie >>> 16).toUInt16
    if family = 0x01 then
      if value.length < 8 then .err .truncatedAttr
      else do
        let xaddr := toU32 (← get value 4) (← get value 5) (← get value 6) (← get value 7)
        return ⟨.v4 (xaddr ^^^ magicCookie), port⟩
    else if family = 0x02 then
      if value.length < 20 then .err .truncatedAttr
      else do
        let bytes ← (List.range 16).mapM fun i => do
          return (← get value (4 + i)) ^^^ (← get (xorMask txid) i)
        return ⟨.v6 (← toVector 16 bytes), port⟩
    else .err (.badFamily family)

/-- Encode an address as the body of an `XOR-MAPPED-ADDRESS`-style attribute. -/
def buildXorAddress (addr : SocketAddr) (txid : TxId) : List UInt8 :=
  let xport := addr.port ^^^ (magicCookie >>> 16).toUInt16
  match addr.ip with
  | .v4 raw => 0 :: 0x01 :: ofU16 xport ++ ofU32 (raw ^^^ magicCookie)
  | .v6 raw => 0 :: 0x02 :: ofU16 xport ++ List.zipWith (· ^^^ ·) raw.toList (xorMask txid)

/-- Decode a legacy (pre-RFC 5389) `MAPPED-ADDRESS`, without XOR. -/
def parseMappedAddress (value : List UInt8) : Checked CodecError SocketAddr :=
  if value.length < 4 then .err .truncatedAttr
  else do
    let family ← get value 1
    let port := toU16 (← get value 2) (← get value 3)
    if family = 0x01 then
      if value.length < 8 then .err .truncatedAttr
      else do
        let addr := toU32 (← get value 4) (← get value 5) (← get value 6) (← get value 7)
        return ⟨.v4 addr, port⟩
    else if family = 0x02 then
      if value.length < 20 then .err .truncatedAttr
      else do
        return ⟨.v6 (← toVector 16 (← slice value 4 20)), port⟩
    else .err (.badFamily family)

/-- RFC 5389 §15.6 : reserved(2B) + class(1B) + number(1B) + reason(UTF-8). -/
structure ErrorCode where
  code : UInt16
  reason : String
deriving DecidableEq, Repr

/-- The value of an ERROR-CODE. The class is three bits, the number a whole byte. -/
def parseErrorCode (value : List UInt8) : Checked CodecError ErrorCode :=
  if value.length < 4 then .err .truncatedAttr
  else do
    let cls := ((← get value 2) &&& 0x07).toUInt16
    let number := (← get value 3).toUInt16
    let code := cls * 100 + number
    let reason := Utf8.fromUtf8Lossy (← slice value 4 value.length)
    return ⟨code, reason⟩

/-! ## The header -/

/-- The 20 bytes of a header. -/
def Header.bytes (h : Header) : List UInt8 :=
  ofU16 h.msgType ++ ofU16 h.attrsLen ++ ofU32 magicCookie ++ h.txid.toList

@[simp] theorem Header.length_bytes (h : Header) : h.bytes.length = 20 := by
  simp [Header.bytes]

/-- `parseHeader` accepts exactly the buffers that open with the header's bytes and hold
the section it declares. -/
theorem parseHeader_eq_ok {buf : List UInt8} {txid : TxId} {h : Header} :
    parseHeader buf txid = .ok h ↔
      h.txid = txid ∧ buf.take 20 = h.bytes ∧ 20 + h.attrsLen.toNat ≤ buf.length := by
  by_cases hlen : buf.length < 20
  · simp only [parseHeader, if_pos hlen, reduceCtorEq, false_iff]
    omega
  rcases buf with _ | ⟨b₀, _ | ⟨b₁, _ | ⟨b₂, _ | ⟨b₃, _ | ⟨b₄, _ | ⟨b₅, _ | ⟨b₆, _ | ⟨b₇, t⟩⟩⟩⟩⟩⟩⟩⟩
  iterate 8 · simp at hlen
  have ht : (t.take 12).length = 12 := by
    simp only [List.length_cons, List.length_take] at hlen ⊢
    omega
  have hslice : (slice (b₀ :: b₁ :: b₂ :: b₃ :: b₄ :: b₅ :: b₆ :: b₇ :: t) 8 20 :
      Checked CodecError (List UInt8)) = .ok (t.take 12) := slice_of_le (by omega) (by omega)
  have htake : (b₀ :: b₁ :: b₂ :: b₃ :: b₄ :: b₅ :: b₆ :: b₇ :: t).take 20 =
      b₀ :: b₁ :: b₂ :: b₃ :: b₄ :: b₅ :: b₆ :: b₇ :: t.take 12 := rfl
  have hvec : ∀ v : TxId, v = ⟨(t.take 12).toArray, by simpa using ht⟩ ↔ v.toList = t.take 12 :=
    fun v => by rw [← Vector.toList_inj]; rfl
  obtain ⟨msgType, attrsLen, txid'⟩ := h
  have hbytes : (b₀ :: b₁ :: b₂ :: b₃ :: b₄ :: b₅ :: b₆ :: b₇ :: t.take 12 =
      (Header.mk msgType attrsLen txid').bytes) ↔
      toU16 b₀ b₁ = msgType ∧ toU16 b₂ b₃ = attrsLen ∧ toU32 b₄ b₅ b₆ b₇ = magicCookie ∧
        txid'.toList = t.take 12 := by
    constructor
    · intro hb
      simp only [Header.bytes, ofU16, ofU32, List.cons_append, List.nil_append,
        List.cons.injEq] at hb
      obtain ⟨rfl, rfl, rfl, rfl, rfl, rfl, rfl, rfl, hb⟩ := hb
      exact ⟨toU16_ofU16 _, toU16_ofU16 _, toU32_ofU32 _, hb.symm⟩
    · rintro ⟨rfl, rfl, hc, ht'⟩
      simp only [Header.bytes, ofU16_toU16, ← hc, ofU32_toU32, ht', List.cons_append,
        List.nil_append]
  simp only [parseHeader, if_neg hlen, htake, hbytes, hslice, toVector_of_length ht, ok_bind]
  simp only [Checked.get, List.getElem?_cons_zero, List.getElem?_cons_succ, ok_bind]
  by_cases hc : toU32 b₄ b₅ b₆ b₇ = magicCookie
  · rw [if_neg (not_not.2 hc)]
    by_cases hx : (⟨(t.take 12).toArray, by simpa using ht⟩ : TxId) = txid
    · rw [if_neg (not_not.2 hx)]
      split_ifs with hl
      · simp only [false_iff]
        rintro ⟨-, ⟨-, rfl, -⟩, hle⟩
        omega
      · simp only [pure_eq_ok, Checked.ok.injEq, Header.mk.injEq, hc, true_and]
        constructor
        · rintro ⟨rfl, rfl, rfl⟩
          exact ⟨hx, ⟨rfl, rfl, (hvec _).1 rfl⟩, by omega⟩
        · rintro ⟨rfl, ⟨rfl, rfl, ht'⟩, -⟩
          exact ⟨rfl, rfl, ((hvec _).2 ht').symm⟩
    · rw [if_pos hx]
      simp only [reduceCtorEq, false_iff]
      rintro ⟨rfl, ⟨-, -, -, ht'⟩, -⟩
      exact hx ((hvec _).2 ht').symm
  · rw [if_pos hc]
    simp [hc]

theorem parseHeader_safe (buf : List UInt8) (txid : TxId) : (parseHeader buf txid).Safe := by
  refine safe_ite (fun _ => safe_err _) fun hlen => ?_
  iterate 8 refine safe_bind (safe_get (by omega)) fun _ _ => ?_
  refine safe_ite (fun _ => safe_err _) fun _ => ?_
  rw [slice_of_le (by omega) (by omega), ok_bind,
    toVector_of_length (by rw [List.length_take, List.length_drop]; omega), ok_bind]
  exact safe_ite (fun _ => safe_err _) fun _ =>
    safe_ite (fun _ => safe_err _) fun _ => safe_ok _

/-! ## The attribute walk -/

/-- The layout of attributes. -/
def attrFormat : Tlv.Format UInt8 Attr where
  headLen := 4
  align := 4
  limit := 65536
  head a := ofU16 a.attrType ++ ofU16 (UInt16.ofNat a.value.length)
  value := Attr.value
  len h := (toU16 (h.getD 2 0) (h.getD 3 0)).toNat
  read h v := ⟨toU16 (h.getD 0 0) (h.getD 1 0), v⟩
  headLen_pos := by decide
  align_pos := by decide
  length_head _ := rfl
  len_head a h := by
    simp only [ofU16, List.cons_append, List.nil_append, List.getD_cons_succ, List.getD_cons_zero,
      toU16_ofU16]
    exact toNat_cast_of_lt h
  read_head_value a := by
    simp only [ofU16, List.cons_append, List.nil_append, List.getD_cons_succ, List.getD_cons_zero,
      toU16_ofU16]
  value_read _ _ := rfl
  head_read h v hh hv := by
    obtain ⟨b₀, b₁, b₂, b₃, rfl⟩ := List.length_eq_four.1 hh
    simp only [List.getD_cons_succ, List.getD_cons_zero] at hv ⊢
    rw [hv, UInt16.ofNat_toNat, ofU16_toU16, ofU16_toU16]
    rfl

/-- The section after the header of a message. -/
def attrSection (buf : List UInt8) (attrsLen : UInt16) : List UInt8 :=
  (buf.drop 20).take attrsLen.toNat

theorem take_four_drop (bs : List UInt8) {i : ℕ} (h : i + 4 ≤ bs.length) :
    (bs.drop i).take 4 = [bs[i], bs[i + 1], bs[i + 2], bs[i + 3]] := by
  rw [List.drop_eq_getElem_cons (by omega : i < bs.length),
    List.drop_eq_getElem_cons (by omega : i + 1 < bs.length),
    List.drop_eq_getElem_cons (by omega : i + 2 < bs.length),
    List.drop_eq_getElem_cons (by omega : i + 3 < bs.length)]
  rfl

section

variable {buf : List UInt8} {last i : ℕ} (hlast : last ≤ buf.length) (hi : i + 4 ≤ last)

include hlast hi

theorem head_take :
    ((buf.take last).drop i).take 4 = [buf[i], buf[i + 1], buf[i + 2], buf[i + 3]] := by
  rw [take_four_drop (buf.take last) (by rw [List.length_take]; omega)]
  simp only [List.getElem_take]

/-- The length declared at offset `i` of a section that ends at `last`. -/
theorem lenAt_take :
    attrFormat.lenAt (buf.take last) i = (toU16 buf[i + 2] buf[i + 3]).toNat := by
  rw [Tlv.Format.lenAt, show attrFormat.headLen = 4 from rfl, head_take hlast hi]
  rfl

/-- The attribute read at offset `i` of a section that ends at `last`. -/
theorem read_take (v : List UInt8) :
    attrFormat.read (((buf.take last).drop i).take 4) v = ⟨toU16 buf[i] buf[i + 1], v⟩ := by
  rw [head_take hlast hi]
  rfl

end

theorem take_drop_take {buf : List UInt8} {last i n : ℕ} (h : i + n ≤ last) :
    ((buf.take last).drop i).take n = (buf.drop i).take n := by
  rw [List.drop_take, List.take_take, Nat.min_eq_left (by omega)]

/-- The walk from offset `i` decodes what is left of the section. -/
theorem walkAttrsLoop_eq_decode {buf : List UInt8} {last : ℕ} (hlast : last ≤ buf.length)
    (i : ℕ) (out : List Attr) : walkAttrsLoop buf last i out =
      match attrFormat.decode ((buf.take last).drop i) with
      | none => .err .truncatedAttr
      | some as => .ok (out ++ as) := by
  induction hn : last - i using Nat.strongRecOn generalizing i out with
  | _ n ih =>
    have hlen : (buf.take last).length = last := by simp [hlast]
    have hF : attrFormat.headLen = 4 := rfl
    rw [walkAttrsLoop, Tlv.Format.decode_drop, hlen, hF]
    by_cases hi : i + 4 ≤ last
    · rw [if_pos hi, if_pos hi, lenAt_take hlast hi, get_of_lt (by omega : i < buf.length),
        get_of_lt (by omega : i + 1 < buf.length), get_of_lt (by omega : i + 2 < buf.length),
        get_of_lt (by omega : i + 3 < buf.length)]
      simp only [ok_bind]
      set attrLen := (toU16 buf[i + 2] buf[i + 3]).toNat with hattrLen
      by_cases hv : i + 4 + attrLen ≤ last
      · have hpad : attrFormat.pad attrLen = (4 - attrLen % 4) % 4 := rfl
        rw [if_neg (by omega), if_pos hv, slice_of_le (by omega) (by omega), ok_bind,
          ih _ (by omega) _ _ rfl, hpad, read_take hlast hi, take_drop_take hv,
          Nat.add_sub_cancel_left]
        cases attrFormat.decode
          ((buf.take last).drop (i + 4 + attrLen + (4 - attrLen % 4) % 4)) with
        | none => rfl
        | some as => simp
      · rw [if_pos (by omega), if_neg hv]
    · rw [if_neg hi, if_neg hi]
      simp

/-- On a buffer that holds its section, `walkAttrs` decodes the section. -/
theorem walkAttrs_eq_decode {buf : List UInt8} {n : UInt16} (h : 20 + n.toNat ≤ buf.length) :
    walkAttrs buf n = match attrFormat.decode (attrSection buf n) with
      | none => .err .truncatedAttr
      | some as => .ok as := by
  rw [walkAttrs, walkAttrsLoop_eq_decode h, List.drop_take, Nat.add_sub_cancel_left]
  rfl

theorem walkAttrs_eq_ok {buf : List UInt8} {n : UInt16} (h : 20 + n.toNat ≤ buf.length)
    {as : List Attr} :
    walkAttrs buf n = .ok as ↔ attrFormat.decode (attrSection buf n) = some as := by
  rw [walkAttrs_eq_decode h]
  cases attrFormat.decode (attrSection buf n) <;> simp

/-- A header followed by the encoding of attributes, when the header declares its length,
reads back as that header and those attributes. -/
theorem parse_bytes_encode {h : Header} {as : List Attr}
    (hlen : h.attrsLen.toNat = attrFormat.size as) :
    parseHeader (h.bytes ++ attrFormat.encode 0 as) h.txid = .ok h ∧
      walkAttrs (h.bytes ++ attrFormat.encode 0 as) h.attrsLen = .ok as := by
  have hlt := h.attrsLen.toNat_lt
  have hbuf : 20 + h.attrsLen.toNat = (h.bytes ++ attrFormat.encode 0 as).length := by
    rw [List.length_append, h.length_bytes, attrFormat.length_encode, hlen]
  have hsec : attrSection (h.bytes ++ attrFormat.encode 0 as) h.attrsLen =
      attrFormat.encode 0 as := by
    rw [attrSection, List.drop_left' h.length_bytes, hlen, ← attrFormat.length_encode 0,
      List.take_length]
  refine ⟨parseHeader_eq_ok.2 ⟨rfl, List.take_left' h.length_bytes, hbuf.le⟩, ?_⟩
  rw [walkAttrs_eq_ok hbuf.le, hsec]
  refine attrFormat.decode_encode 0 fun a ha => ?_
  have := attrFormat.length_value_le_size ha
  simp only [attrFormat] at this hlen ⊢
  omega

/-- The walker never reads outside a buffer whose header was accepted. -/
theorem walkAttrs_safe {buf : List UInt8} {txid : TxId} {h : Header}
    (hh : parseHeader buf txid = .ok h) : (walkAttrs buf h.attrsLen).Safe := by
  rw [walkAttrs_eq_decode (parseHeader_eq_ok.1 hh).2.2]
  cases attrFormat.decode (attrSection buf h.attrsLen) with
  | none => exact safe_err _
  | some as => exact safe_ok as

/-! ## Values that cannot panic -/

theorem xorMask_length (txid : TxId) : (xorMask txid).length = 16 := by
  simp [xorMask]

/-- The loop of `parseXorAddress` XORs the address with the mask. -/
theorem xorLoop_eq {value mask : List UInt8} (hmask : mask.length = 16)
    (hvalue : 20 ≤ value.length) :
    ((List.range 16).mapM fun i => do return (← get value (4 + i)) ^^^ (← get mask i) :
      Checked CodecError (List UInt8)) = .ok (List.zipWith (· ^^^ ·) (value.drop 4) mask) := by
  have hloop : ((List.range 16).mapM fun i => do
      return (← get value (4 + i)) ^^^ (← get mask i) : Checked CodecError (List UInt8)) =
      .ok ((List.range 16).map fun i => value.getD (4 + i) 0 ^^^ mask.getD i 0) := by
    refine mapM_eq_ok fun i hi => ?_
    rw [List.mem_range] at hi
    have hv : 4 + i < value.length := by omega
    have hm : i < mask.length := by omega
    rw [get_of_lt hv, get_of_lt hm, List.getD_eq_getElem _ _ hv, List.getD_eq_getElem _ _ hm]
    rfl
  rw [hloop]
  refine congrArg Checked.ok (List.ext_getElem ?_ fun i hi hi' => ?_)
  · simp
    omega
  · rw [List.length_map, List.length_range] at hi
    simp only [List.getElem_map, List.getElem_range, List.getElem_zipWith, List.getElem_drop]
    rw [List.getD_eq_getElem _ _ (by omega), List.getD_eq_getElem _ _ (by omega)]

theorem parseXorAddress_safe (value : List UInt8) (txid : TxId) :
    (parseXorAddress value txid).Safe := by
  refine safe_ite (fun _ => safe_err _) fun h₄ => ?_
  iterate 3 refine safe_bind (safe_get (by omega)) fun _ _ => ?_
  refine safe_ite (fun _ => safe_ite (fun _ => safe_err _) fun h₈ => ?_) fun _ =>
    safe_ite (fun _ => safe_ite (fun _ => safe_err _) fun h₂₀ => ?_) fun _ => safe_err _
  · iterate 4 refine safe_bind (safe_get (by omega)) fun _ _ => ?_
    exact safe_ok _
  · rw [xorLoop_eq (xorMask_length txid) (by omega), ok_bind,
      toVector_of_length (by rw [List.length_zipWith, xorMask_length, List.length_drop]; omega)]
    exact safe_ok _

theorem parseMappedAddress_safe (value : List UInt8) : (parseMappedAddress value).Safe := by
  refine safe_ite (fun _ => safe_err _) fun h₄ => ?_
  iterate 3 refine safe_bind (safe_get (by omega)) fun _ _ => ?_
  refine safe_ite (fun _ => safe_ite (fun _ => safe_err _) fun h₈ => ?_) fun _ =>
    safe_ite (fun _ => safe_ite (fun _ => safe_err _) fun h₂₀ => ?_) fun _ => safe_err _
  · iterate 4 refine safe_bind (safe_get (by omega)) fun _ _ => ?_
    exact safe_ok _
  · rw [slice_of_le (by omega) (by omega), ok_bind,
      toVector_of_length (by rw [List.length_take, List.length_drop]; omega)]
    exact safe_ok _

theorem parseErrorCode_safe (value : List UInt8) : (parseErrorCode value).Safe := by
  refine safe_ite (fun _ => safe_err _) fun h₄ => ?_
  iterate 2 refine safe_bind (safe_get (by omega)) fun _ _ => ?_
  exact safe_bind (safe_slice (by omega) le_rfl) fun _ _ => safe_ok _

end WebrtcDoctor
