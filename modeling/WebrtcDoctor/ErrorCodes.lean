import WebrtcDoctor.ErrorParsers

/-!
# Classes and numbers of error responses

An ERROR-CODE has a class and a number, and its code is `class * 100 + number`. The number is a
byte, and nothing holds it below 100. So two ERROR-CODEs have the same code where one is a class
lower and its number higher by a hundred (`Shifted`). `codes_iff` says that they are told apart
otherwise, and that a message passes for a challenge without a 401 only with class 3 and number
101, or class 2 and number 201.
-/

open Checked

namespace WebrtcDoctor

/-- The class and the number of an ERROR-CODE. -/
def classAndNumber (a : Attr) : ℕ × ℕ :=
  ((a.value.getD 2 0 &&& 0x07).toNat, (a.value.getD 3 0).toNat)

/-- The class has three bits and the number eight. -/
theorem classAndNumber_le (a : Attr) : (classAndNumber a).1 ≤ 7 ∧ (classAndNumber a).2 ≤ 255 := by
  refine ⟨?_, Nat.le_of_lt_succ (UInt8.toNat_lt _)⟩
  rw [classAndNumber, UInt8.toNat_and]
  exact Nat.and_le_right

/-- The code of an ERROR-CODE that can be read. -/
theorem toNat_code_errorCodeOf {a : Attr} (h : 4 ≤ a.value.length) :
    (errorCodeOf a).code.toNat = (classAndNumber a).1 * 100 + (classAndNumber a).2 := by
  have h2 : a.value[2] = a.value.getD 2 0 := (List.getD_eq_getElem ..).symm
  have h3 : a.value[3] = a.value.getD 3 0 := (List.getD_eq_getElem ..).symm
  rw [errorCodeOf, parseErrorCode, if_neg (by omega), get_of_lt (by omega), get_of_lt (by omega),
    slice_of_le h le_rfl, h2, h3]
  exact toNat_code ..

/-! ## Allocate Errors -/

/-- The message is an Allocate Error for `txid` with the attributes `attrs`. -/
def IsAllocateError (txid : TxId) (buf : List UInt8) (attrs : List Attr) : Prop :=
  ∃ h, parseHeader buf txid = .ok h ∧ h.msgType = allocateError ∧
    walkAttrs buf h.attrsLen = .ok attrs

/-- Every ERROR-CODE can be read, and `a`, the last, decides. -/
def Decides (attrs : List Attr) (a : Attr) : Prop :=
  (∀ b ∈ attrs, b.attrType = attr.errorCode → 4 ≤ b.value.length) ∧
    lastAttr attr.errorCode attrs = some a

theorem Decides.le_length {attrs : List Attr} {a : Attr} (h : Decides attrs a) :
    4 ≤ a.value.length :=
  h.1 a (mem_of_lastAttr h.2).1 (mem_of_lastAttr h.2).2

section

variable {txid : TxId} {buf : List UInt8} {attrs : List Attr} {a : Attr}

/-- An Allocate Error is what its attributes fold to. -/
theorem parse_allocateError (h : IsAllocateError txid buf attrs) :
    parseAllocateResponse buf txid =
      (attrs.foldlM allocateErrorStep ⟨0, "", none, none⟩).mapErr .codec >>=
        ErrorFields.outcome := by
  obtain ⟨header, hheader, htype, hwalk⟩ := h
  exact parse_of_allocateError hheader htype hwalk

/-- A message has one list of attributes. -/
theorem IsAllocateError.unique {attrs' : List Attr} (h : IsAllocateError txid buf attrs)
    (h' : IsAllocateError txid buf attrs') : attrs = attrs' := by
  obtain ⟨header, hheader, -, hwalk⟩ := h
  obtain ⟨header', hheader', -, hwalk'⟩ := h'
  obtain rfl := Checked.ok.inj (hheader.symm.trans hheader')
  exact Checked.ok.inj (hwalk.symm.trans hwalk')

/-- What an Allocate Error parses to, by the ERROR-CODE that decides. -/
theorem parse_of_decides (h : IsAllocateError txid buf attrs) (hdecides : Decides attrs a) :
    parseAllocateResponse buf txid = ErrorFields.outcome
      ⟨(errorCodeOf a).code, (errorCodeOf a).reason,
        (lastAttr attr.realm attrs).map fun b => Utf8.fromUtf8Lossy b.value,
        (lastAttr attr.nonce attrs).map Attr.value⟩ := by
  rw [parse_allocateError h, errorFold_eq errorCodeOf attrs _ fun b hb ht =>
    parseErrorCode_eq_errorCodeOf (hdecides.1 b hb ht), hdecides.2]
  simp only [mapErr_ok, ok_bind, Option.map_some, Option.getD_some, Option.or_none]

/-- Only an Allocate Error that can be read is taken for a challenge. -/
theorem decides_of_unauthorized {realm : String} {nonce : List UInt8}
    (h : parseAllocateResponse buf txid = .ok (.unauthorized realm nonce)) :
    ∃ attrs a, IsAllocateError txid buf attrs ∧ Decides attrs a := by
  obtain ⟨header, hheader, h'⟩ := bind_eq_ok.1 h
  obtain ⟨attrs, hwalk, h'⟩ := bind_eq_ok.1 h'
  by_cases hsuccess : header.msgType = allocateSuccess
  · rw [if_pos hsuccess] at h'
    obtain ⟨⟨relayed, lifetime⟩, -, h'⟩ := bind_eq_ok.1 h'
    cases relayed <;> cases h'
  rw [if_neg hsuccess] at h'
  by_cases herror : header.msgType = allocateError
  swap
  · rw [if_neg herror] at h'
    cases h'
  have hattrs : IsAllocateError txid buf attrs :=
    ⟨header, mapErr_eq_ok.1 hheader, herror, mapErr_eq_ok.1 hwalk⟩
  rw [parse_allocateError hattrs] at h
  obtain ⟨s, hs, hout⟩ := bind_eq_ok.1 h
  have hlen := le_of_errorFold_eq_ok (mapErr_eq_ok.1 hs)
  cases hlast : lastAttr attr.errorCode attrs with
  | some a => exact ⟨attrs, a, hattrs, hlen, hlast⟩
  | none =>
    -- Without an ERROR-CODE the code is 0.
    rw [errorFold_eq errorCodeOf attrs _ fun b hb ht =>
      parseErrorCode_eq_errorCodeOf (hlen b hb ht), hlast] at hs
    cases hs
    cases hout

/-! ## The challenge -/

/-- A realm and a nonce are there. -/
def HasChallenge (attrs : List Attr) : Prop :=
  (∃ b ∈ attrs, b.attrType = attr.realm) ∧ ∃ b ∈ attrs, b.attrType = attr.nonce

theorem isSome_lastAttr_iff {t : UInt16} :
    (lastAttr t attrs).isSome ↔ ∃ b ∈ attrs, b.attrType = t := by
  rw [Option.isSome_iff_exists]
  constructor
  · rintro ⟨b, hb⟩
    exact ⟨b, mem_of_lastAttr hb⟩
  · rintro ⟨b, hb, ht⟩
    obtain ⟨c, hc, -⟩ := lastAttr_isSome hb ht
    exact ⟨c, hc⟩

/-- A message is a challenge exactly if it has the code 401, a realm and a nonce. -/
theorem unauthorized_iff (h : IsAllocateError txid buf attrs) (hdecides : Decides attrs a) :
    (∃ realm nonce, parseAllocateResponse buf txid = .ok (.unauthorized realm nonce)) ↔
      HasChallenge attrs ∧ (errorCodeOf a).code = 401 := by
  rw [parse_of_decides h hdecides, HasChallenge, ← isSome_lastAttr_iff, ← isSome_lastAttr_iff]
  by_cases hcode : (errorCodeOf a).code = 401
  · cases lastAttr attr.realm attrs <;> cases lastAttr attr.nonce attrs <;>
      simp [ErrorFields.outcome, hcode]
  · simp [ErrorFields.outcome, hcode]

/-- Only an Allocate Error whose deciding ERROR-CODE is of class 4 and number 1 is taken for a
challenge. -/
def Genuine (txid : TxId) (buf : List UInt8) : Prop :=
  ∀ realm nonce, parseAllocateResponse buf txid = .ok (.unauthorized realm nonce) →
    ∃ attrs a, IsAllocateError txid buf attrs ∧ lastAttr attr.errorCode attrs = some a ∧
      classAndNumber a = (4, 1)

/-- Three pairs of a class and a number make 401. -/
theorem code_eq_401_iff (h : 4 ≤ a.value.length) : (errorCodeOf a).code = 401 ↔
    classAndNumber a = (4, 1) ∨ classAndNumber a = (3, 101) ∨ classAndNumber a = (2, 201) := by
  obtain ⟨hcls, hnumber⟩ := classAndNumber_le a
  rw [← UInt16.toNat_inj, toNat_code_errorCodeOf h, show (401 : UInt16).toNat = 401 from rfl]
  simp only [Prod.ext_iff]
  omega

/-- A message is genuine unless it passes for a 401 that it is not. -/
theorem genuine_iff : Genuine txid buf ↔
    ∀ attrs a, IsAllocateError txid buf attrs → Decides attrs a → HasChallenge attrs →
      classAndNumber a ≠ (3, 101) ∧ classAndNumber a ≠ (2, 201) := by
  constructor
  · intro h attrs a hattrs hdecides hchallenge
    by_contra hbad
    have hcode : (errorCodeOf a).code = 401 := by
      rw [code_eq_401_iff hdecides.le_length]
      tauto
    obtain ⟨realm, nonce, hparse⟩ := (unauthorized_iff hattrs hdecides).2 ⟨hchallenge, hcode⟩
    obtain ⟨attrs', a', hattrs', hlast, hclass⟩ := h realm nonce hparse
    obtain rfl := hattrs'.unique hattrs
    obtain rfl : a = a' := Option.some.inj (hdecides.2.symm.trans hlast)
    rw [hclass] at hbad
    exact hbad (by decide)
  · intro h realm nonce hparse
    obtain ⟨attrs, a, hattrs, hdecides⟩ := decides_of_unauthorized hparse
    obtain ⟨hchallenge, hcode⟩ := (unauthorized_iff hattrs hdecides).1 ⟨realm, nonce, hparse⟩
    obtain ⟨h3, h2⟩ := h attrs a hattrs hdecides hchallenge
    refine ⟨attrs, a, hattrs, hdecides.2, ?_⟩
    have hclass := (code_eq_401_iff hdecides.le_length).1 hcode
    tauto

end

/-! ## Two codes -/

/-- The code that is reported. -/
def AllocateOutcome.code? : AllocateOutcome → Option UInt16
  | success _ _ => none
  | unauthorized _ _ => some 401
  | error code _ => some code

/-- The message is an Allocate Error with the one ERROR-CODE `a`, and parses to `outcome`. -/
def CarriesOne (txid : TxId) (buf : List UInt8) (a : Attr) (outcome : AllocateOutcome) : Prop :=
  ∃ attrs, IsAllocateError txid buf attrs ∧
    (attrs.filter fun b => b.attrType = attr.errorCode) = [a] ∧
    parseAllocateResponse buf txid = .ok outcome

/-- The second is a class lower and its number higher by a hundred, or the like. -/
def Shifted (p q : ℕ × ℕ) : Prop := q.1 < p.1 ∧ q.2 = p.2 + 100 * (p.1 - q.1)

/-- An outcome reports the code that the loop ended with. -/
theorem ErrorFields.code_of_outcome {s : ErrorFields} {outcome : AllocateOutcome}
    (h : s.outcome = .ok outcome) : outcome.code? = some s.code := by
  obtain ⟨code, reason, realm, nonce⟩ := s
  unfold ErrorFields.outcome at h
  split_ifs at h with h401
  · cases realm <;> cases nonce <;> cases h
    exact congrArg some h401.symm
  · cases h
    rfl

/-- The outcome shows the code of the one ERROR-CODE. -/
theorem CarriesOne.code {txid : TxId} {buf : List UInt8} {a : Attr} {outcome : AllocateOutcome}
    (h : CarriesOne txid buf a outcome) :
    4 ≤ a.value.length ∧ outcome.code? = some (errorCodeOf a).code := by
  obtain ⟨attrs, hattrs, hone, hparse⟩ := h
  obtain ⟨s, hs, -⟩ := bind_eq_ok.1 ((parse_allocateError hattrs).symm.trans hparse)
  have hdecides : Decides attrs a :=
    ⟨le_of_errorFold_eq_ok (mapErr_eq_ok.1 hs), lastAttr_of_filter hone⟩
  refine ⟨hdecides.le_length, ?_⟩
  rw [parse_of_decides hattrs hdecides] at hparse
  exact ErrorFields.code_of_outcome hparse

/-- Two ERROR-CODEs have the same code exactly if they are the same class and number, or one is
shifted against the other. -/
theorem code_eq_iff {a b : Attr} (ha : 4 ≤ a.value.length) (hb : 4 ≤ b.value.length) :
    (errorCodeOf a).code = (errorCodeOf b).code ↔ classAndNumber a = classAndNumber b ∨
      Shifted (classAndNumber a) (classAndNumber b) ∨
        Shifted (classAndNumber b) (classAndNumber a) := by
  rw [← UInt16.toNat_inj, toNat_code_errorCodeOf ha, toNat_code_errorCodeOf hb, Prod.ext_iff,
    Shifted, Shifted]
  omega

theorem not_shifted_self (p : ℕ × ℕ) : ¬Shifted p p := fun h => absurd h.1 (lt_irrefl _)

/-- Two Allocate Errors of different classes or numbers are told apart exactly if neither is
shifted against the other. -/
theorem toldApart_iff {txid₁ txid₂ : TxId} {buf₁ buf₂ : List UInt8} {a₁ a₂ : Attr}
    {outcome₁ outcome₂ : AllocateOutcome} (h₁ : CarriesOne txid₁ buf₁ a₁ outcome₁)
    (h₂ : CarriesOne txid₂ buf₂ a₂ outcome₂) :
    (classAndNumber a₁ ≠ classAndNumber a₂ → outcome₁.code? ≠ outcome₂.code?) ↔
      ¬Shifted (classAndNumber a₁) (classAndNumber a₂) ∧
        ¬Shifted (classAndNumber a₂) (classAndNumber a₁) := by
  obtain ⟨hlen₁, hcode₁⟩ := h₁.code
  obtain ⟨hlen₂, hcode₂⟩ := h₂.code
  rw [hcode₁, hcode₂, Ne, Ne, Option.some.injEq, code_eq_iff hlen₁ hlen₂]
  constructor
  · intro h
    by_cases heq : classAndNumber a₁ = classAndNumber a₂
    · rw [heq]
      exact ⟨not_shifted_self _, not_shifted_self _⟩
    · have hne := h heq
      tauto
  · tauto

/-- A message passes for a challenge without a 401 exactly if its ERROR-CODE is of class 3 and
number 101 or class 2 and number 201, and it has all else that a challenge has. Two Allocate
Errors of different classes or numbers are told apart exactly if neither is shifted against the
other. -/
theorem codes_iff (txid : TxId) (buf : List UInt8) :
    (Genuine txid buf ↔
      ∀ attrs a, IsAllocateError txid buf attrs → Decides attrs a → HasChallenge attrs →
        classAndNumber a ≠ (3, 101) ∧ classAndNumber a ≠ (2, 201)) ∧
    ∀ (txid' : TxId) (buf' : List UInt8) (a a' : Attr) (outcome outcome' : AllocateOutcome),
      CarriesOne txid buf a outcome → CarriesOne txid' buf' a' outcome' →
        ((classAndNumber a ≠ classAndNumber a' → outcome.code? ≠ outcome'.code?) ↔
          ¬Shifted (classAndNumber a) (classAndNumber a') ∧
            ¬Shifted (classAndNumber a') (classAndNumber a)) :=
  ⟨genuine_iff, fun _ _ _ _ _ _ => toldApart_iff⟩

namespace Sample

/-- An error response with a realm and a nonce. -/
def refusal (cls number : ℕ) : List UInt8 :=
  message allocateError (Vector.replicate 12 0) [errorCodeAttr cls number "no",
    ⟨attr.realm, Utf8.asBytes "r"⟩, ⟨attr.nonce, [1]⟩]

/-- A refusal carries its one ERROR-CODE. -/
theorem carriesOne_refusal {cls number : ℕ} {outcome : AllocateOutcome}
    (h : parseAllocateResponse (refusal cls number) (Vector.replicate 12 0) = .ok outcome) :
    CarriesOne (Vector.replicate 12 0) (refusal cls number) (errorCodeAttr cls number "no")
      outcome := by
  obtain ⟨hheader, hwalk⟩ := parse_message allocateError (Vector.replicate 12 0)
    (show sectionLen [errorCodeAttr cls number "no", ⟨attr.realm, Utf8.asBytes "r"⟩,
      ⟨attr.nonce, [1]⟩] ≤ 65535 by simp [sectionLen, errorCodeAttr]; decide)
  exact ⟨_, ⟨_, hheader, rfl, hwalk⟩, rfl, h⟩

end Sample

open Sample

/-- A 401 and a 508 are told apart. -/
theorem codes_iff_refusals :
    classAndNumber (errorCodeAttr 4 1 "no") ≠ classAndNumber (errorCodeAttr 5 8 "no") →
      (AllocateOutcome.unauthorized "r" [1]).code? ≠ (AllocateOutcome.error 508 "no").code? :=
  ((codes_iff _ _).2 _ _ _ _ _ _ (carriesOne_refusal (by decide +kernel))
    (carriesOne_refusal (by decide +kernel))).2 (by unfold Shifted; decide)

/-- Class 3 with number 101 passes for a challenge, and is reported as a 401 is. -/
theorem class_three_challenge :
    ¬Genuine (Vector.replicate 12 0) (refusal 3 101) ∧
      ∃ outcome outcome' : AllocateOutcome,
        CarriesOne (Vector.replicate 12 0) (refusal 4 1) (errorCodeAttr 4 1 "no") outcome ∧
        CarriesOne (Vector.replicate 12 0) (refusal 3 101) (errorCodeAttr 3 101 "no") outcome' ∧
        classAndNumber (errorCodeAttr 4 1 "no") ≠ classAndNumber (errorCodeAttr 3 101 "no") ∧
        outcome.code? = outcome'.code? := by
  have hparse : parseAllocateResponse (refusal 3 101) (Vector.replicate 12 0) =
      .ok (.unauthorized "r" [1]) := by decide +kernel
  refine ⟨fun h => ?_, .unauthorized "r" [1], _, carriesOne_refusal (by decide +kernel),
    carriesOne_refusal hparse, by decide, rfl⟩
  obtain ⟨attrs, a, hattrs, hlast, hclass⟩ := h "r" [1] hparse
  obtain ⟨attrs', hattrs', hone, -⟩ := carriesOne_refusal hparse
  rw [hattrs.unique hattrs', lastAttr_of_filter hone] at hlast
  cases hlast
  exact absurd hclass (by decide)

end WebrtcDoctor
