import WebrtcDoctor.AddressCodec
import WebrtcDoctor.MessageRoundTrip

/-!
# The fields of an Allocate response

The loops of `parseAllocateResponse` keep, of each type of attribute they know, the last
(`lastAttr`, `successFold_eq`, `errorFold_eq`). So where each such type occurs once, what the
response parses to depends neither on the order of the attributes nor on any others between
them (`allocateResponse_fields`).
-/

open BigEndian Checked NetAddr

namespace WebrtcDoctor

/-- The last attribute of type `t`. -/
def lastAttr (t : UInt16) : List Attr → Option Attr
  | [] => none
  | a :: attrs => (lastAttr t attrs).or (if a.attrType = t then some a else none)

/-- The last attribute of a type is the last of those of the type. -/
theorem lastAttr_eq_getLast? (t : UInt16) : ∀ attrs : List Attr,
    lastAttr t attrs = (attrs.filter fun a => a.attrType = t).getLast?
  | [] => rfl
  | a :: attrs => by
    rw [lastAttr, lastAttr_eq_getLast? t attrs, List.filter_cons]
    by_cases ha : a.attrType = t
    · rw [if_pos ha, if_pos (by simpa using ha), List.getLast?_cons]
      cases (attrs.filter fun a => a.attrType = t).getLast? <;> rfl
    · rw [if_neg ha, if_neg (by simpa using ha), Option.or_none]

/-- The last attribute of a type is an attribute, of that type. -/
theorem mem_of_lastAttr {t : UInt16} {attrs : List Attr} {a : Attr}
    (h : lastAttr t attrs = some a) : a ∈ attrs ∧ a.attrType = t := by
  rw [lastAttr_eq_getLast?] at h
  simpa using List.mem_of_getLast? h

/-- Whatever is between and in whatever order, a type that occurs once among the known ones
occurs once. -/
theorem filter_of_perm {types : List UInt16} {attrs known : List Attr} {a : Attr}
    (h : (attrs.filter fun a => a.attrType ∈ types).Perm known) (ht : a.attrType ∈ types)
    (hknown : (known.filter fun b => b.attrType = a.attrType) = [a]) :
    (attrs.filter fun b => b.attrType = a.attrType) = [a] := by
  have hperm := h.filter fun b => b.attrType = a.attrType
  rw [hknown, List.filter_filter] at hperm
  rw [← List.perm_singleton.1 hperm]
  refine List.filter_congr fun b _ => ?_
  by_cases hb : b.attrType = a.attrType
  · simp [hb, ht]
  · simp [hb]

/-- The one attribute of a type is the last. -/
theorem lastAttr_of_filter {t : UInt16} {attrs : List Attr} {a : Attr}
    (h : (attrs.filter fun b => b.attrType = t) = [a]) : lastAttr t attrs = some a := by
  rw [lastAttr_eq_getLast?, h]
  rfl

theorem eq_of_filter {t : UInt16} {attrs : List Attr} {a b : Attr}
    (h : (attrs.filter fun b => b.attrType = t) = [a]) (hb : b ∈ attrs) (ht : b.attrType = t) :
    b = a := by
  have hmem : b ∈ attrs.filter fun b => b.attrType = t := List.mem_filter.2 ⟨hb, by simpa using ht⟩
  rw [h] at hmem
  exact List.mem_singleton.1 hmem

/-! ## The loops -/

/-- The loop over a success response, where its relay addresses decode by `relayedOf` and its
lifetimes have their four bytes. -/
theorem successFold_eq {txid : TxId} (relayedOf : Attr → SocketAddr) (lifetimeOf : Attr → UInt32) :
    ∀ (attrs : List Attr) (s : Option SocketAddr × UInt32),
      (∀ a ∈ attrs, a.attrType = attr.xorRelayedAddress →
        parseXorAddress a.value txid = .ok (relayedOf a)) →
      (∀ a ∈ attrs, a.attrType = attr.lifetime → a.value = ofU32 (lifetimeOf a)) →
      attrs.foldlM (allocateSuccessStep txid) s =
        .ok (((lastAttr attr.xorRelayedAddress attrs).map relayedOf).or s.1,
          ((lastAttr attr.lifetime attrs).map lifetimeOf).getD s.2)
  | [], s, _, _ => by simp [lastAttr]
  | a :: attrs, s, hrelayed, hlifetime => by
    have ih := fun s => successFold_eq relayedOf lifetimeOf attrs s
      (fun b hb => hrelayed b (List.mem_cons_of_mem a hb))
      fun b hb => hlifetime b (List.mem_cons_of_mem a hb)
    rw [List.foldlM_cons, lastAttr, lastAttr, allocateSuccessStep]
    by_cases hr : a.attrType = attr.xorRelayedAddress
    · have hne : a.attrType ≠ attr.lifetime := by rw [hr]; decide
      rw [if_pos hr, hrelayed a (List.mem_cons_self ..) hr, if_pos hr, if_neg hne, Option.or_none]
      simp only [ok_bind, pure_eq_ok, ih]
      cases lastAttr attr.xorRelayedAddress attrs <;> rfl
    by_cases hl : a.attrType = attr.lifetime
    · have hvalue := hlifetime a (List.mem_cons_self ..) hl
      rw [if_neg hr, if_pos ⟨hl, by rw [hvalue]; exact le_rfl⟩, if_neg hr, if_pos hl,
        Option.or_none, hvalue]
      simp only [ofU32, Checked.get, List.getElem?_cons_zero, List.getElem?_cons_succ, ok_bind,
        pure_eq_ok, toU32_ofU32, ih]
      cases lastAttr attr.lifetime attrs <;> rfl
    · rw [if_neg hr, if_neg fun h => hl h.1, if_neg hr, if_neg hl, Option.or_none, Option.or_none]
      exact ih s

/-- The loop over an error response, where its error codes decode by `codeOf`. -/
theorem errorFold_eq (codeOf : Attr → ErrorCode) : ∀ (attrs : List Attr) (s : ErrorFields),
    (∀ a ∈ attrs, a.attrType = attr.errorCode → parseErrorCode a.value = .ok (codeOf a)) →
    attrs.foldlM allocateErrorStep s = .ok
      ⟨((lastAttr attr.errorCode attrs).map fun a => (codeOf a).code).getD s.code,
        ((lastAttr attr.errorCode attrs).map fun a => (codeOf a).reason).getD s.reason,
        ((lastAttr attr.realm attrs).map fun a => Utf8.fromUtf8Lossy a.value).or s.realm,
        ((lastAttr attr.nonce attrs).map Attr.value).or s.nonce⟩
  | [], s, _ => by simp [lastAttr]
  | a :: attrs, s, hcode => by
    have ih := fun s => errorFold_eq codeOf attrs s fun b hb => hcode b (List.mem_cons_of_mem a hb)
    rw [List.foldlM_cons, lastAttr, lastAttr, lastAttr, allocateErrorStep]
    by_cases he : a.attrType = attr.errorCode
    · have hne₁ : a.attrType ≠ attr.realm := by rw [he]; decide
      have hne₂ : a.attrType ≠ attr.nonce := by rw [he]; decide
      rw [if_pos he, hcode a (List.mem_cons_self ..) he, if_pos he, if_neg hne₁, if_neg hne₂]
      simp only [ok_bind, pure_eq_ok, ih, Option.or_none]
      cases lastAttr attr.errorCode attrs <;> rfl
    by_cases hr : a.attrType = attr.realm
    · have hne : a.attrType ≠ attr.nonce := by rw [hr]; decide
      rw [if_neg he, if_pos hr, if_neg he, if_pos hr, if_neg hne]
      simp only [ok_bind, pure_eq_ok, ih, Option.or_none]
      cases lastAttr attr.realm attrs <;> rfl
    by_cases hn : a.attrType = attr.nonce
    · rw [if_neg he, if_neg hr, if_pos hn, if_neg he, if_neg hr, if_pos hn]
      simp only [ok_bind, pure_eq_ok, ih, Option.or_none]
      cases lastAttr attr.nonce attrs <;> rfl
    · rw [if_neg he, if_neg hr, if_neg hn, if_neg he, if_neg hr, if_neg hn]
      simp only [ok_bind, pure_eq_ok, ih, Option.or_none]

/-- What an error response parses to, when its loop ends with `s`. -/
def ErrorFields.outcome (s : ErrorFields) : Checked AllocateError AllocateOutcome :=
  if s.code = 401 then
    match s.realm, s.nonce with
    | none, _ => .err (.missingAttr "REALM")
    | some _, none => .err (.missingAttr "NONCE")
    | some realm, some nonce => .ok (.unauthorized realm nonce)
  else .ok (.error s.code s.reason)

/-- The outcome is an error exactly if the code is not 401. -/
theorem ErrorFields.outcome_eq_error_iff {s : ErrorFields} {code : UInt16} {reason : String} :
    s.outcome = .ok (.error code reason) ↔ s.code ≠ 401 ∧ s.code = code ∧ s.reason = reason := by
  obtain ⟨c, r, realm, nonce⟩ := s
  by_cases hc : c = 401
  · cases realm <;> cases nonce <;> simp [ErrorFields.outcome, hc]
  · simp [ErrorFields.outcome, hc]

/-- What an error response with the attributes `attrs` parses to. -/
theorem parse_of_allocateError {txid : TxId} {buf : List UInt8} {h : Header} {attrs : List Attr}
    (hheader : parseHeader buf txid = .ok h) (htype : h.msgType = allocateError)
    (hwalk : walkAttrs buf h.attrsLen = .ok attrs) : parseAllocateResponse buf txid =
      (attrs.foldlM allocateErrorStep ⟨0, "", none, none⟩).mapErr .codec >>=
        ErrorFields.outcome := by
  simp only [parseAllocateResponse, hheader, hwalk, mapErr_ok, ok_bind, htype,
    show allocateError ≠ allocateSuccess by decide, if_false, if_true]
  rfl

section

variable {txid : TxId} {attrs : List Attr} (hfit : sectionLen attrs ≤ 65535)

include hfit

/-- A success response is what its attributes fold to. -/
theorem parse_success_message {relayed : SocketAddr} {lifetime : UInt32}
    (hfold : attrs.foldlM (allocateSuccessStep txid) (none, 0) = .ok (some relayed, lifetime)) :
    parseAllocateResponse (message allocateSuccess txid attrs) txid =
      .ok (.success relayed lifetime) := by
  obtain ⟨hheader, hwalk⟩ := parse_message allocateSuccess txid hfit
  simp only [parseAllocateResponse, hheader, hwalk, hfold, mapErr_ok, ok_bind, if_true, pure_eq_ok]

/-- An error response is what its attributes fold to. -/
theorem parse_error_message :
    parseAllocateResponse (message allocateError txid attrs) txid =
      (attrs.foldlM allocateErrorStep ⟨0, "", none, none⟩).mapErr .codec >>=
        ErrorFields.outcome := by
  obtain ⟨hheader, hwalk⟩ := parse_message allocateError txid hfit
  exact parse_of_allocateError hheader rfl hwalk

end

/-! ## Any order, any other attributes -/

/-- The ERROR-CODE of class `cls` and number `number`. -/
def errorCodeAttr (cls number : ℕ) (reason : String) : Attr :=
  ⟨attr.errorCode, 0 :: 0 :: UInt8.ofNat cls :: UInt8.ofNat number :: Utf8.asBytes reason⟩

/-- The code of a class of three bits and a number of a byte fits in 16 bits. -/
theorem toNat_code (cls number : UInt8) :
    ((cls &&& 0x07).toUInt16 * 100 + number.toUInt16).toNat =
      (cls &&& 0x07).toNat * 100 + number.toNat := by
  have hcls : (cls &&& 0x07).toNat ≤ 7 := by
    rw [UInt8.toNat_and]
    exact Nat.and_le_right
  have hnumber : number.toNat < 256 := UInt8.toNat_lt number
  rw [UInt16.toNat_add, UInt16.toNat_mul, UInt8.toNat_toUInt16, UInt8.toNat_toUInt16]
  show ((cls &&& 0x07).toNat * 100 % 65536 + number.toNat) % 65536 = _
  omega

/-- The value of a class and a number reads as the code they make. -/
theorem parseErrorCode_errorCodeAttr {cls number : ℕ} (reason : String) (hcls : cls ≤ 7)
    (hnumber : number ≤ 255) : parseErrorCode (errorCodeAttr cls number reason).value =
      .ok ⟨UInt16.ofNat (cls * 100 + number), reason⟩ := by
  have hlen : 4 ≤ (errorCodeAttr cls number reason).value.length := by
    simp [errorCodeAttr]
  have hcls8 : (UInt8.ofNat cls).toNat = cls := by
    rw [UInt8.toNat_ofNat']
    omega
  have hnumber8 : (UInt8.ofNat number).toNat = number := by
    rw [UInt8.toNat_ofNat']
    omega
  have hcode : (UInt8.ofNat cls &&& 0x07).toUInt16 * 100 + (UInt8.ofNat number).toUInt16 =
      UInt16.ofNat (cls * 100 + number) := by
    refine UInt16.toNat_inj.1 ?_
    have hmask : (UInt8.ofNat cls &&& 0x07).toNat = cls := by
      rw [UInt8.toNat_and, hcls8, show (0x07 : UInt8).toNat = 2 ^ 3 - 1 from rfl,
        Nat.and_two_pow_sub_one_eq_mod]
      omega
    rw [toNat_code, hmask, hnumber8, BigEndian.toNat_cast_of_lt (by omega)]
  have hreason : (errorCodeAttr cls number reason).value.drop 4 = Utf8.asBytes reason := rfl
  rw [parseErrorCode, if_neg (by omega), slice_of_le hlen le_rfl, hreason, List.take_of_length_le]
  · simp only [errorCodeAttr, Checked.get, List.getElem?_cons_zero, List.getElem?_cons_succ,
      ok_bind, pure_eq_ok, hcode, Utf8.fromUtf8Lossy_asBytes]
  · rw [← hreason, List.length_drop]

/-- Where each type it looks for occurs once, an Allocate response parses to what these
attributes say, in every order and with any attributes of other types between them. -/
theorem allocateResponse_fields (txid : TxId) (attrs : List Attr)
    (hfit : sectionLen attrs ≤ 65535) :
    (∀ (addr : SocketAddr) (lifetime : UInt32),
      (attrs.filter fun a => a.attrType ∈ [attr.xorRelayedAddress, attr.lifetime]).Perm
          [⟨attr.xorRelayedAddress, buildXorAddress addr txid⟩, ⟨attr.lifetime, ofU32 lifetime⟩] →
        parseAllocateResponse (message allocateSuccess txid attrs) txid =
          .ok (.success addr lifetime)) ∧
    (∀ (realm : String) (nonce : List UInt8) (reason : String),
      (attrs.filter fun a => a.attrType ∈ [attr.errorCode, attr.realm, attr.nonce]).Perm
          [errorCodeAttr 4 1 reason, ⟨attr.realm, Utf8.asBytes realm⟩, ⟨attr.nonce, nonce⟩] →
        parseAllocateResponse (message allocateError txid attrs) txid =
          .ok (.unauthorized realm nonce)) ∧
    ∀ (cls number : ℕ) (reason : String), 3 ≤ cls → cls ≤ 6 → number ≤ 99 →
      ¬(cls = 4 ∧ number = 1) →
      (attrs.filter fun a => a.attrType = attr.errorCode) = [errorCodeAttr cls number reason] →
        parseAllocateResponse (message allocateError txid attrs) txid =
          .ok (.error (UInt16.ofNat (cls * 100 + number)) reason) := by
  refine ⟨fun addr lifetime h => ?_, fun realm nonce reason h => ?_,
    fun cls number reason hge hle hnumber hne h => ?_⟩
  · have hrelayed := filter_of_perm h (a := ⟨attr.xorRelayedAddress, buildXorAddress addr txid⟩)
      (by simp) rfl
    have hlifetime := filter_of_perm h (a := ⟨attr.lifetime, ofU32 lifetime⟩) (by simp) rfl
    refine parse_success_message hfit ?_
    rw [successFold_eq (fun _ => addr) (fun _ => lifetime) attrs,
      lastAttr_of_filter hrelayed, lastAttr_of_filter hlifetime]
    · rfl
    · intro a ha ht
      rw [eq_of_filter hrelayed ha ht, parseXorAddress_buildXorAddress]
    · intro a ha ht
      rw [eq_of_filter hlifetime ha ht]
  · have hcode := filter_of_perm h (a := errorCodeAttr 4 1 reason)
      (by simp [errorCodeAttr]) rfl
    have hrealm := filter_of_perm h (a := ⟨attr.realm, Utf8.asBytes realm⟩) (by simp) rfl
    have hnonce := filter_of_perm h (a := ⟨attr.nonce, nonce⟩) (by simp) rfl
    rw [parse_error_message hfit, errorFold_eq (fun _ => ⟨401, reason⟩) attrs,
      lastAttr_of_filter hrealm, lastAttr_of_filter hnonce,
      show lastAttr attr.errorCode attrs = _ from lastAttr_of_filter hcode]
    · simp only [mapErr_ok, ok_bind, Option.map_some, Option.getD_some, Option.some_or,
        ErrorFields.outcome, if_true, Utf8.fromUtf8Lossy_asBytes]
    · intro a ha ht
      rw [eq_of_filter hcode ha ht]
      exact parseErrorCode_errorCodeAttr reason (by omega) (by omega)
  · have hcode : parseErrorCode (errorCodeAttr cls number reason).value = _ :=
      parseErrorCode_errorCodeAttr reason (by omega) (by omega)
    have h401 : UInt16.ofNat (cls * 100 + number) ≠ 401 := by
      intro h401
      have := congrArg UInt16.toNat h401
      rw [UInt16.toNat_ofNat', show (401 : UInt16).toNat = 401 from rfl,
        Nat.mod_eq_of_lt (by omega)] at this
      omega
    rw [parse_error_message hfit, errorFold_eq
      (fun _ => ⟨UInt16.ofNat (cls * 100 + number), reason⟩) attrs, lastAttr_of_filter h]
    · simp only [mapErr_ok, ok_bind, Option.map_some, Option.getD_some, ErrorFields.outcome,
        if_neg h401]
    · intro a ha ht
      rw [eq_of_filter h ha ht, hcode]

/-- A challenge whose attributes stand in another order, with a SOFTWARE among them. -/
theorem allocateResponse_fields_challenge :
    parseAllocateResponse (message allocateError (Vector.replicate 12 0)
      [⟨attr.nonce, [1, 2, 3]⟩, ⟨0x8022, [0x78]⟩, ⟨attr.realm, Utf8.asBytes "r"⟩,
        errorCodeAttr 4 1 "no"]) (Vector.replicate 12 0) = .ok (.unauthorized "r" [1, 2, 3]) :=
  (allocateResponse_fields _ _ (by decide)).2.1 "r" [1, 2, 3] "no" (by decide)

end WebrtcDoctor
