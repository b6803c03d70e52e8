import WebrtcDoctor.AllocateFields
import WebrtcDoctor.TurnEcho

/-!
# Two readings of one error response

`parseCreatePermissionResponse` returns the first ERROR-CODE and reports that there is none.
`parseAllocateResponse` overwrites what it has read with each ERROR-CODE, stops at one that is
malformed, and starts from code 0, which it returns where there is none. The two agree exactly
where an ERROR-CODE is present and the ones after the first change nothing
(`errorParsersAgree_iff`).
-/

open Checked

namespace WebrtcDoctor

open TurnEchoCheck

/-! ## Error codes -/

/-- Four bytes are enough for a code. -/
theorem parseErrorCode_eq_ok_of_le {value : List UInt8} (h : 4 ≤ value.length) :
    ∃ ec, parseErrorCode value = .ok ec := by
  rw [parseErrorCode, if_neg (by omega), get_of_lt (by omega), get_of_lt (by omega),
    slice_of_le h le_rfl]
  exact ⟨_, rfl⟩

/-- A code needs four bytes. -/
theorem le_of_parseErrorCode_eq_ok {value : List UInt8} {ec : ErrorCode}
    (h : parseErrorCode value = .ok ec) : 4 ≤ value.length := by
  by_contra hlt
  rw [parseErrorCode, if_pos (Nat.lt_of_not_le hlt)] at h
  cases h

/-- What an ERROR-CODE decodes to, where it is long enough to. -/
def errorCodeOf (a : Attr) : ErrorCode :=
  match parseErrorCode a.value with
  | .ok ec => ec
  | _ => ⟨0, ""⟩

theorem parseErrorCode_eq_errorCodeOf {a : Attr} (h : 4 ≤ a.value.length) :
    parseErrorCode a.value = .ok (errorCodeOf a) := by
  obtain ⟨ec, hec⟩ := parseErrorCode_eq_ok_of_le h
  rw [errorCodeOf, hec]

/-! ## The first and the last -/

/-- The loop decodes the first ERROR-CODE. -/
theorem firstErrorCode_eq : ∀ attrs : List Attr, firstErrorCode attrs =
    match attrs.find? fun a => a.attrType = attr.errorCode with
    | none => .err .missingErrorCode
    | some a => do
      let ec ← (parseErrorCode a.value).mapErr .codec
      return .error ec.code ec.reason
  | [] => rfl
  | a :: attrs => by
    by_cases ha : a.attrType = attr.errorCode
    · rw [firstErrorCode, if_pos ha, List.find?_cons_of_pos (by simpa using ha)]
    · rw [firstErrorCode, if_neg ha, List.find?_cons_of_neg (by simpa using ha),
        firstErrorCode_eq attrs]

/-- An error response is what its first ERROR-CODE decodes to. -/
theorem parse_permission_message {txid : TxId} {attrs : List Attr}
    (hfit : sectionLen attrs ≤ 65535) :
    parseCreatePermissionResponse (message createPermissionError txid attrs) txid =
      firstErrorCode attrs := by
  obtain ⟨hheader, hwalk⟩ := parse_message createPermissionError txid hfit
  simp only [parseCreatePermissionResponse, hheader, hwalk, mapErr_ok, ok_bind,
    show createPermissionError ≠ createPermissionSuccess by decide, if_false, if_true]

theorem lastAttr_isSome {t : UInt16} {attrs : List Attr} {a : Attr} (ha : a ∈ attrs)
    (ht : a.attrType = t) : ∃ b, lastAttr t attrs = some b ∧ b ∈ attrs ∧ b.attrType = t := by
  have hmem : a ∈ attrs.filter fun a => a.attrType = t := List.mem_filter.2 ⟨ha, by simpa using ht⟩
  obtain ⟨b, hb⟩ := Option.ne_none_iff_exists'.1
    (mt List.getLast?_eq_none_iff.1 (List.ne_nil_of_mem hmem))
  rw [← lastAttr_eq_getLast?] at hb
  exact ⟨b, hb, mem_of_lastAttr hb⟩

/-- A loop that ends with fields has read no malformed ERROR-CODE. -/
theorem le_of_errorFold_eq_ok : ∀ {attrs : List Attr} {s s' : ErrorFields},
    attrs.foldlM allocateErrorStep s = .ok s' →
      ∀ a ∈ attrs, a.attrType = attr.errorCode → 4 ≤ a.value.length
  | [], _, _, _, _, ha, _ => nomatch ha
  | b :: attrs, s, s', h, a, ha, ht => by
    rw [List.foldlM_cons] at h
    obtain ⟨t, hstep, hrest⟩ := bind_eq_ok.1 h
    rcases List.mem_cons.1 ha with rfl | ha
    · rw [allocateErrorStep, if_pos ht] at hstep
      obtain ⟨ec, hec, -⟩ := bind_eq_ok.1 hstep
      exact le_of_parseErrorCode_eq_ok hec
    · exact le_of_errorFold_eq_ok hrest a ha ht

section

variable {txid : TxId} {attrs : List Attr} (hfit : sectionLen attrs ≤ 65535)

include hfit

/-- Without an ERROR-CODE, an Allocate Error has code 0. -/
theorem parse_error_message_of_none (h : ∀ a ∈ attrs, a.attrType ≠ attr.errorCode) :
    parseAllocateResponse (message allocateError txid attrs) txid = .ok (.error 0 "") := by
  have hnone : lastAttr attr.errorCode attrs = none := by
    rw [lastAttr_eq_getLast?, List.getLast?_eq_none_iff, List.filter_eq_nil_iff]
    exact fun a ha => by simpa using h a ha
  rw [parse_error_message hfit, errorFold_eq errorCodeOf attrs _
    fun a ha ht => absurd ht (h a ha), hnone]
  rfl

/-- An Allocate Error has the code and reason `ec`, not 401, exactly if each ERROR-CODE is long
enough and the last decodes to `ec`. -/
theorem parse_error_message_eq_error_iff {ec : ErrorCode} (h401 : ec.code ≠ 401) {a : Attr}
    (ha : a ∈ attrs) (ht : a.attrType = attr.errorCode) :
    parseAllocateResponse (message allocateError txid attrs) txid =
        .ok (.error ec.code ec.reason) ↔
      (∀ a ∈ attrs, a.attrType = attr.errorCode → 4 ≤ a.value.length) ∧
        ∃ last, lastAttr attr.errorCode attrs = some last ∧ parseErrorCode last.value = .ok ec := by
  obtain ⟨last, hlast, hmem, htype⟩ := lastAttr_isSome ha ht
  have hparse (hlen : ∀ a ∈ attrs, a.attrType = attr.errorCode → 4 ≤ a.value.length) :
      parseAllocateResponse (message allocateError txid attrs) txid =
          .ok (.error ec.code ec.reason) ↔ parseErrorCode last.value = .ok ec := by
    rw [parse_error_message hfit, errorFold_eq errorCodeOf attrs _ fun a ha ht =>
      parseErrorCode_eq_errorCodeOf (hlen a ha ht), hlast, mapErr_ok, ok_bind,
      ErrorFields.outcome_eq_error_iff, parseErrorCode_eq_errorCodeOf (hlen last hmem htype)]
    obtain ⟨code, reason⟩ := ec
    simp only [Option.map_some, Option.getD_some, Checked.ok.injEq]
    constructor
    · rintro ⟨-, rfl, rfl⟩
      rfl
    · intro h
      exact ⟨by rw [h]; exact h401, by rw [h], by rw [h]⟩
  constructor
  · intro h
    obtain ⟨s, hs, -⟩ := bind_eq_ok.1 ((parse_error_message hfit).symm.trans h)
    have hlen := le_of_errorFold_eq_ok (mapErr_eq_ok.1 hs)
    exact ⟨hlen, last, hlast, (hparse hlen).1 h⟩
  · rintro ⟨hlen, last', hlast', hec⟩
    obtain rfl : last = last' := Option.some.inj (hlast.symm.trans hlast')
    exact (hparse hlen).2 hec

end

/-! ## Where they agree -/

/-- A CreatePermission Error and an Allocate Error with the same attributes give the same code
and reason, unless that is 401, and a missing ERROR-CODE is an error of both. -/
def ErrorParsersAgree (txid : TxId) (attrs : List Attr) : Prop :=
  (∀ (code : UInt16) (reason : String),
    parseCreatePermissionResponse (message createPermissionError txid attrs) txid =
        .ok (.error code reason) →
      code ≠ 401 →
        parseAllocateResponse (message allocateError txid attrs) txid = .ok (.error code reason)) ∧
  (parseCreatePermissionResponse (message createPermissionError txid attrs) txid =
      .err .missingErrorCode →
    ∃ e, parseAllocateResponse (message allocateError txid attrs) txid = .err e)

/-- The two parsers agree exactly if there is an ERROR-CODE and, where the first decodes to a
code other than 401, all are long enough and the last decodes to the same. -/
theorem errorParsersAgree_iff (txid : TxId) (attrs : List Attr) (hfit : sectionLen attrs ≤ 65535) :
    ErrorParsersAgree txid attrs ↔
      ∃ first, attrs.find? (fun a => a.attrType = attr.errorCode) = some first ∧
        ∀ ec, parseErrorCode first.value = .ok ec → ec.code ≠ 401 →
          (∀ a ∈ attrs, a.attrType = attr.errorCode → 4 ≤ a.value.length) ∧
            ∃ last, lastAttr attr.errorCode attrs = some last ∧
              parseErrorCode last.value = .ok ec := by
  rw [ErrorParsersAgree, parse_permission_message hfit, firstErrorCode_eq]
  cases hfirst : attrs.find? fun a => a.attrType = attr.errorCode with
  | none =>
    have hnone : ∀ a ∈ attrs, a.attrType ≠ attr.errorCode := fun a ha => by
      simpa using List.find?_eq_none.1 hfirst a ha
    simp [parse_error_message_of_none hfit hnone]
  | some first =>
    have hmem := List.mem_of_find?_eq_some hfirst
    have htype : first.attrType = attr.errorCode := by simpa using List.find?_some hfirst
    simp only [Option.some.injEq, exists_eq_left']
    cases hec : parseErrorCode first.value with
    | ok ec =>
      simp only [mapErr_ok, ok_bind, pure_eq_ok, Checked.ok.injEq, CpOutcome.error.injEq,
        reduceCtorEq, false_implies, and_true]
      constructor
      · rintro h ec' rfl h401
        exact (parse_error_message_eq_error_iff hfit h401 hmem htype).1 (h _ _ ⟨rfl, rfl⟩ h401)
      · rintro h code reason ⟨rfl, rfl⟩ h401
        exact (parse_error_message_eq_error_iff hfit h401 hmem htype).2 (h ec rfl h401)
    | err e => simp
    | panic => simp [mapErr]

/-- Two ERROR-CODEs that decode to the same. -/
theorem errorParsersAgree_repeated : ErrorParsersAgree (Vector.replicate 12 0)
    [errorCodeAttr 5 8 "full", errorCodeAttr 5 8 "full"] :=
  (errorParsersAgree_iff _ _ (by decide)).2 ⟨_, rfl, fun _ hec _ => ⟨by decide, _, rfl, hec⟩⟩

/-- An Allocate Error without attributes has the code 0, one with two ERROR-CODEs the code of
the second. -/
theorem errorParsers_disagree :
    ¬ErrorParsersAgree (Vector.replicate 12 0) [] ∧
      ¬ErrorParsersAgree (Vector.replicate 12 0)
        [errorCodeAttr 4 3 "forbidden", errorCodeAttr 5 8 "full"] := by
  refine ⟨fun h => ?_, fun h => ?_⟩
  · obtain ⟨e, he⟩ := h.2 (by decide +kernel)
    have hok : parseAllocateResponse (message allocateError (Vector.replicate 12 0) [])
        (Vector.replicate 12 0) = .ok (.error 0 "") := by decide +kernel
    rw [hok] at he
    cases he
  · have hcode := h.1 403 "forbidden" (by decide +kernel) (by decide)
    revert hcode
    decide +kernel

end WebrtcDoctor
