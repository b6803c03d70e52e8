import Mathlib.Data.List.TakeWhile
import WebrtcDoctor.MessageRoundTrip
import WebrtcDoctor.Stun

/-!
# Which mapped address is returned

`parseBindingResponse` stops at the first attribute of either form. So a MAPPED-ADDRESS that
comes before the XOR-MAPPED-ADDRESS is returned in its place, and a malformed
XOR-MAPPED-ADDRESS before a well-formed one ends the parse with its error. `preferredAddress`
is the answer that prefers the XOR form in every order, and of several the first that is
well-formed. The parser gives it exactly if the leading form decides as the preferred one
does, and gives one answer in all orders exactly if the two forms decode to the same
(`preferredAddress_iff`).
-/

open Checked NetAddr

namespace WebrtcDoctor

namespace StunBindingCheck

/-- The first attribute of type `t`. -/
def firstAttr (t : UInt16) (attrs : List Attr) : Option Attr := attrs.find? fun a => a.attrType = t

/-- The first attribute of either form. -/
def leadingForm (attrs : List Attr) : Option Attr :=
  attrs.find? fun a => a.attrType = attr.xorMappedAddress ∨ a.attrType = attr.mappedAddress

/-- A well-formed XOR-MAPPED-ADDRESS. -/
def ReadsXor (txid : TxId) (a : Attr) : Prop :=
  a.attrType = attr.xorMappedAddress ∧ ∃ addr, parseXorAddress a.value txid = .ok addr

instance (txid : TxId) (a : Attr) : Decidable (ReadsXor txid a) :=
  match h : parseXorAddress a.value txid with
  | .ok addr =>
    decidable_of_iff (a.attrType = attr.xorMappedAddress)
      ⟨fun hx => ⟨hx, addr, h⟩, fun hx => hx.1⟩
  | .err _ => .isFalse fun ⟨_, _, hok⟩ => by simp [h] at hok
  | .panic => .isFalse fun ⟨_, _, hok⟩ => by simp [h] at hok

/-- The XOR form to decode : the first well-formed one, the first one where none is. -/
def preferredXor (txid : TxId) (attrs : List Attr) : Option Attr :=
  (attrs.find? fun a => ReadsXor txid a).or (firstAttr attr.xorMappedAddress attrs)

/-- What the legacy form among `attrs` decodes to. -/
def mappedAddress (attrs : List Attr) : Checked BindingError SocketAddr :=
  match firstAttr attr.mappedAddress attrs with
  | some m => (parseMappedAddress m.value).mapErr .codec
  | none => .err .noMappedAddress

/-- What the XOR form decodes to where there is one, else what the legacy form does. -/
def preferredAddress (txid : TxId) (attrs : List Attr) : Checked BindingError SocketAddr :=
  match preferredXor txid attrs with
  | some x => (parseXorAddress x.value txid).mapErr .codec
  | none => mappedAddress attrs

/-- Where the XOR form is present, the leading form is a XOR-MAPPED-ADDRESS, well-formed if any
is, or a MAPPED-ADDRESS that decodes to the same as the preferred XOR-MAPPED-ADDRESS. -/
def LeadsRight (txid : TxId) (attrs : List Attr) : Prop :=
  ∀ x, preferredXor txid attrs = some x → ∀ f, leadingForm attrs = some f →
    if f.attrType = attr.xorMappedAddress then
      (∃ a ∈ attrs, ReadsXor txid a) → ReadsXor txid f
    else parseMappedAddress f.value = parseXorAddress x.value txid

theorem mapErr_codec_inj {c d : Checked CodecError SocketAddr} :
    c.mapErr BindingError.codec = d.mapErr .codec ↔ c = d := by
  cases c <;> cases d <;> simp [mapErr]

/-- No attribute is the first of a type that none has. -/
theorem firstAttr_eq_none {t : UInt16} {attrs : List Attr} :
    firstAttr t attrs = none ↔ ∀ a ∈ attrs, a.attrType ≠ t := by
  simp [firstAttr]

/-- The first attribute of a type is an attribute, of that type. -/
theorem mem_of_firstAttr {t : UInt16} {attrs : List Attr} {a : Attr}
    (h : firstAttr t attrs = some a) : a ∈ attrs ∧ a.attrType = t :=
  ⟨List.mem_of_find?_eq_some h, by simpa using List.find?_some h⟩

/-- The first of either form is an attribute, of that form. -/
theorem mem_of_leadingForm {attrs : List Attr} {f : Attr} (h : leadingForm attrs = some f) :
    f ∈ attrs ∧ (f.attrType = attr.xorMappedAddress ∨ f.attrType = attr.mappedAddress) :=
  ⟨List.mem_of_find?_eq_some h, by simpa using List.find?_some h⟩

/-- No attribute is of both forms. -/
theorem mappedAddress_ne_xor : attr.mappedAddress ≠ attr.xorMappedAddress := by decide

/-! ## The preferred form -/

/-- A well-formed XOR form that is preferred is the first of them. -/
theorem preferredXor_of_reads {txid : TxId} {attrs : List Attr} (h : ∃ a ∈ attrs, ReadsXor txid a) :
    ∃ x, preferredXor txid attrs = some x ∧ ReadsXor txid x ∧
      attrs.find? (fun a => ReadsXor txid a) = some x := by
  cases hx : attrs.find? fun a => ReadsXor txid a with
  | none =>
    obtain ⟨a, ha, hreads⟩ := h
    exact absurd hreads (by simpa using List.find?_eq_none.1 hx a ha)
  | some x => exact ⟨x, by rw [preferredXor, hx]; rfl, by simpa using List.find?_some hx, rfl⟩

/-- Where no XOR form is well-formed, the first one is preferred. -/
theorem preferredXor_of_not_reads {txid : TxId} {attrs : List Attr}
    (h : ¬∃ a ∈ attrs, ReadsXor txid a) :
    preferredXor txid attrs = firstAttr attr.xorMappedAddress attrs := by
  have hnone : (attrs.find? fun a => ReadsXor txid a) = none :=
    List.find?_eq_none.2 fun a ha => by simpa using fun hreads => h ⟨a, ha, hreads⟩
  rw [preferredXor, hnone, Option.none_or]

/-- A preferred form is a XOR form of the list. -/
theorem mem_of_preferredXor {txid : TxId} {attrs : List Attr} {x : Attr}
    (h : preferredXor txid attrs = some x) :
    x ∈ attrs ∧ x.attrType = attr.xorMappedAddress := by
  by_cases hreads : ∃ a ∈ attrs, ReadsXor txid a
  · obtain ⟨y, hy, hread, hfind⟩ := preferredXor_of_reads hreads
    obtain rfl : y = x := Option.some.inj (hy.symm.trans h)
    exact ⟨List.mem_of_find?_eq_some hfind, hread.1⟩
  · rw [preferredXor_of_not_reads hreads] at h
    exact mem_of_firstAttr h

/-- Nothing is preferred only where there is no XOR form. -/
theorem preferredXor_eq_none {txid : TxId} {attrs : List Attr} :
    preferredXor txid attrs = none ↔ firstAttr attr.xorMappedAddress attrs = none := by
  rw [preferredXor, Option.or_eq_none_iff, and_iff_right_iff_imp]
  intro h
  exact List.find?_eq_none.2 fun a ha => by
    simpa using fun hreads : ReadsXor txid a => firstAttr_eq_none.1 h a ha hreads.1

/-! ## The loop -/

/-- The loop decodes the leading form. -/
theorem firstMappedAddress_eq (txid : TxId) : ∀ attrs : List Attr,
    firstMappedAddress txid attrs =
      match leadingForm attrs with
      | some f =>
        if f.attrType = attr.xorMappedAddress then (parseXorAddress f.value txid).mapErr .codec
        else (parseMappedAddress f.value).mapErr .codec
      | none => .err .noMappedAddress
  | [] => rfl
  | a :: attrs => by
    rw [firstMappedAddress, leadingForm]
    by_cases hx : a.attrType = attr.xorMappedAddress
    · rw [if_pos hx, List.find?_cons_of_pos (by simpa using .inl hx)]
      exact (if_pos hx).symm
    by_cases hm : a.attrType = attr.mappedAddress
    · rw [if_neg hx, if_pos hm, List.find?_cons_of_pos (by simpa using .inr hm)]
      exact (if_neg hx).symm
    · rw [if_neg hx, if_neg hm, List.find?_cons_of_neg (by simpa using ⟨hx, hm⟩),
        firstMappedAddress_eq txid attrs, leadingForm]

/-- Without a XOR form the leading form is the first legacy form. -/
theorem leadingForm_of_no_xor {attrs : List Attr}
    (h : firstAttr attr.xorMappedAddress attrs = none) :
    leadingForm attrs = firstAttr attr.mappedAddress attrs := by
  rw [leadingForm, firstAttr, ← List.head?_filter, ← List.head?_filter]
  exact congrArg List.head? (List.filter_congr fun a ha => by simp [firstAttr_eq_none.1 h a ha])

/-- A leading XOR form is the first XOR form. -/
theorem firstAttr_of_leadingForm {attrs : List Attr} {f : Attr} (h : leadingForm attrs = some f)
    (hf : f.attrType = attr.xorMappedAddress) : firstAttr attr.xorMappedAddress attrs = some f := by
  obtain ⟨-, before, after, rfl, hbefore⟩ := List.find?_eq_some_iff_append.1 h
  refine List.find?_eq_some_iff_append.2 ⟨by simpa using hf, before, after, rfl, fun a ha => ?_⟩
  have hnone := hbefore a ha
  simp only [Bool.decide_or, Bool.not_or, Bool.and_eq_true] at hnone
  exact hnone.1

/-- A leading XOR form that is well-formed is the preferred one. -/
theorem preferredXor_of_leadingForm {txid : TxId} {attrs : List Attr} {f : Attr}
    (h : leadingForm attrs = some f) (hf : ReadsXor txid f) :
    preferredXor txid attrs = some f := by
  obtain ⟨-, before, after, rfl, hbefore⟩ := List.find?_eq_some_iff_append.1 h
  have hfind : ((before ++ f :: after).find? fun a => ReadsXor txid a) = some f := by
    refine List.find?_eq_some_iff_append.2 ⟨by simpa using hf, before, after, rfl, fun a ha => ?_⟩
    have hnone := hbefore a ha
    simp only [Bool.decide_or, Bool.not_or, Bool.and_eq_true, Bool.not_eq_true',
      decide_eq_false_iff_not] at hnone
    simpa using fun hreads : ReadsXor txid a => hnone.1 hreads.1
  rw [preferredXor, hfind]
  rfl

/-- The first attribute decides as the preferred one does exactly if it leads right. -/
theorem firstMappedAddress_eq_preferred_iff (txid : TxId) (attrs : List Attr) :
    firstMappedAddress txid attrs = preferredAddress txid attrs ↔ LeadsRight txid attrs := by
  rw [firstMappedAddress_eq, preferredAddress, LeadsRight]
  cases hx : preferredXor txid attrs with
  | none =>
    rw [leadingForm_of_no_xor (preferredXor_eq_none.1 hx), mappedAddress]
    cases hm : firstAttr attr.mappedAddress attrs with
    | none => simp
    | some m =>
      have hne : m.attrType ≠ attr.xorMappedAddress :=
        (mem_of_firstAttr hm).2 ▸ mappedAddress_ne_xor
      simp [hne]
  | some x =>
    obtain ⟨hmem, htype⟩ := mem_of_preferredXor hx
    cases hf : leadingForm attrs with
    | none => exact absurd (List.find?_eq_none.1 hf x hmem) (by simp [htype])
    | some f =>
      by_cases hfx : f.attrType = attr.xorMappedAddress
      · simp only [hfx, if_true, mapErr_codec_inj, Option.some.injEq, forall_eq']
        refine ⟨fun heq hany => ?_, fun hlead => ?_⟩
        · obtain ⟨y, hy, ⟨-, addr, hread⟩, -⟩ := preferredXor_of_reads hany
          obtain rfl : y = x := Option.some.inj (hy.symm.trans hx)
          exact ⟨hfx, addr, heq.trans hread⟩
        · by_cases hany : ∃ a ∈ attrs, ReadsXor txid a
          · rw [preferredXor_of_leadingForm hf (hlead hany)] at hx
            rw [Option.some.inj hx]
          · rw [preferredXor_of_not_reads hany, firstAttr_of_leadingForm hf hfx] at hx
            rw [Option.some.inj hx]
      · simp [hfx, mapErr_codec_inj]

/-- In a Binding success response the loop runs over the attributes read. -/
theorem parseBindingResponse_of_walk {buf : List UInt8} {txid : TxId} {h : Header}
    {attrs : List Attr} (hh : parseHeader buf txid = .ok h) (ht : h.msgType = bindingSuccess)
    (hw : walkAttrs buf h.attrsLen = .ok attrs) :
    parseBindingResponse buf txid = firstMappedAddress txid attrs := by
  simp only [parseBindingResponse, hh, hw, mapErr_ok, ok_bind, ht, ne_eq, not_true_eq_false,
    if_false]

/-- The loop's answer is that of the message with these attributes. -/
theorem parseBindingResponse_message {txid : TxId} {attrs : List Attr}
    (hfit : sectionLen attrs ≤ 65535) :
    parseBindingResponse (message bindingSuccess txid attrs) txid =
      firstMappedAddress txid attrs :=
  parseBindingResponse_of_walk (parse_message bindingSuccess txid hfit).1 rfl
    (parse_message bindingSuccess txid hfit).2

/-! ## All orders -/

theorem firstAttr_eq_head? (t : UInt16) (attrs : List Attr) :
    firstAttr t attrs = (attrs.filter fun a => a.attrType = t).head? := by
  rw [firstAttr, List.head?_filter]

/-- Of a type that occurs at most once there is one attribute. -/
theorem eq_of_once {t : UInt16} {attrs : List Attr} {a b : Attr}
    (honce : (attrs.filter fun a => a.attrType = t).length ≤ 1) (ha : a ∈ attrs)
    (hat : a.attrType = t) (hb : b ∈ attrs) (hbt : b.attrType = t) : a = b := by
  have ha' : a ∈ attrs.filter fun a => a.attrType = t := by simp [ha, hat]
  have hb' : b ∈ attrs.filter fun a => a.attrType = t := by simp [hb, hbt]
  generalize (attrs.filter fun a => a.attrType = t) = kept at honce ha' hb'
  match kept, honce with
  | [c], _ => rw [List.mem_singleton.1 ha', List.mem_singleton.1 hb']

/-- Of a type that occurs at most once, every order has the same first attribute. -/
theorem firstAttr_perm {t : UInt16} {attrs attrs' : List Attr} (h : attrs'.Perm attrs)
    (honce : (attrs.filter fun a => a.attrType = t).length ≤ 1) :
    firstAttr t attrs' = firstAttr t attrs := by
  have hperm := h.filter fun a => a.attrType = t
  rw [firstAttr_eq_head?, firstAttr_eq_head?]
  generalize (attrs.filter fun a => a.attrType = t) = kept at hperm honce
  match kept, honce with
  | [], _ => rw [List.perm_nil.1 hperm]
  | [a], _ => rw [List.perm_singleton.1 hperm]

/-- Where the XOR form occurs at most once, every order prefers the same one. -/
theorem preferredXor_perm {txid : TxId} {attrs attrs' : List Attr} (h : attrs'.Perm attrs)
    (honce : (attrs.filter fun a => a.attrType = attr.xorMappedAddress).length ≤ 1) :
    preferredXor txid attrs' = preferredXor txid attrs := by
  by_cases hany : ∃ a ∈ attrs, ReadsXor txid a
  · obtain ⟨x, hx, hread, -⟩ := preferredXor_of_reads hany
    have hx' : ∃ a ∈ attrs', ReadsXor txid a :=
      ⟨x, h.mem_iff.2 (mem_of_preferredXor hx).1, hread⟩
    obtain ⟨x', hpref, -, -⟩ := preferredXor_of_reads hx'
    obtain ⟨hmem, htype⟩ := mem_of_preferredXor hpref
    rw [hpref, hx, eq_of_once honce (h.mem_iff.1 hmem) htype (mem_of_preferredXor hx).1
      (mem_of_preferredXor hx).2]
  · have hany' : ¬∃ a ∈ attrs', ReadsXor txid a := fun ⟨a, ha, hread⟩ =>
      hany ⟨a, h.mem_iff.1 ha, hread⟩
    rw [preferredXor_of_not_reads hany, preferredXor_of_not_reads hany', firstAttr_perm h honce]

/-- Where each form occurs at most once, every order has the same preferred address. -/
theorem preferredAddress_perm {txid : TxId} {attrs attrs' : List Attr} (h : attrs'.Perm attrs)
    (hx : (attrs.filter fun a => a.attrType = attr.xorMappedAddress).length ≤ 1)
    (hm : (attrs.filter fun a => a.attrType = attr.mappedAddress).length ≤ 1) :
    preferredAddress txid attrs' = preferredAddress txid attrs := by
  rw [preferredAddress, preferredAddress, preferredXor_perm h hx, mappedAddress, mappedAddress,
    firstAttr_perm h hm]

/-- The section's length does not depend on the order. -/
theorem sectionLen_perm {attrs attrs' : List Attr} (h : attrs'.Perm attrs) :
    sectionLen attrs' = sectionLen attrs :=
  (h.map _).sum_nat

/-- Every XOR form decodes to the same as every legacy form. -/
def FormsAgree (txid : TxId) (attrs : List Attr) : Prop :=
  ∀ x ∈ attrs, x.attrType = attr.xorMappedAddress → ∀ m ∈ attrs, m.attrType = attr.mappedAddress →
    parseMappedAddress m.value = parseXorAddress x.value txid

/-- If both forms agree, either may come first. -/
theorem FormsAgree.leadsRight {txid : TxId} {attrs attrs' : List Attr}
    (h : FormsAgree txid attrs) (hperm : attrs'.Perm attrs)
    (honce : (attrs.filter fun a => a.attrType = attr.xorMappedAddress).length ≤ 1) :
    LeadsRight txid attrs' := by
  intro x hx f hf
  obtain ⟨hxmem, hxtype⟩ := mem_of_preferredXor hx
  obtain ⟨hfmem, hftype⟩ := mem_of_leadingForm hf
  split_ifs with hfx
  · rintro ⟨a, ha, hread⟩
    rwa [eq_of_once honce (hperm.mem_iff.1 hfmem) hfx (hperm.mem_iff.1 ha) hread.1]
  · exact h x (hperm.mem_iff.1 hxmem) hxtype f (hperm.mem_iff.1 hfmem) (hftype.resolve_left hfx)

/-- The two forms can be put in either order in front. -/
theorem perm_of_mem {attrs : List Attr} {x m : Attr} (hx : x ∈ attrs) (hm : m ∈ attrs)
    (hne : x ≠ m) : (x :: m :: (attrs.erase x).erase m).Perm attrs :=
  ((List.perm_cons_erase ((List.mem_erase_of_ne hne.symm).2 hm)).symm.cons x).trans
    (List.perm_cons_erase hx).symm

/-- If all orders give one result, both forms agree. -/
theorem formsAgree_of_orders {txid : TxId} {attrs : List Attr} {r : Checked BindingError SocketAddr}
    (h : ∀ attrs', attrs'.Perm attrs → firstMappedAddress txid attrs' = r) :
    FormsAgree txid attrs := by
  intro x hx hxtype m hm hmtype
  have hne : x ≠ m := by
    rintro rfl
    rw [hxtype] at hmtype
    revert hmtype
    decide
  have hmx : m.attrType ≠ attr.xorMappedAddress := by rw [hmtype]; decide
  have hxfirst := h _ (perm_of_mem hx hm hne)
  have hmfirst := h _ (((List.Perm.swap x m _).trans (perm_of_mem hx hm hne)))
  rw [firstMappedAddress, if_pos hxtype] at hxfirst
  rw [firstMappedAddress, if_neg hmx, if_pos hmtype] at hmfirst
  exact mapErr_codec_inj.1 (hmfirst.trans hxfirst.symm)

/-- A Binding success response gives the preferred address exactly if the leading form decides
as the preferred one does. Where each form occurs at most once, it gives one answer in all orders
of its attributes exactly if the two forms, where both occur, decode to the same. -/
theorem preferredAddress_iff (txid : TxId) (attrs : List Attr) :
    (∀ (buf : List UInt8) (h : Header), parseHeader buf txid = .ok h →
      h.msgType = bindingSuccess → walkAttrs buf h.attrsLen = .ok attrs →
        (parseBindingResponse buf txid = preferredAddress txid attrs ↔ LeadsRight txid attrs)) ∧
    (sectionLen attrs ≤ 65535 →
      (attrs.filter fun a => a.attrType = attr.xorMappedAddress).length ≤ 1 →
      (attrs.filter fun a => a.attrType = attr.mappedAddress).length ≤ 1 →
        ((∀ attrs', attrs'.Perm attrs →
            parseBindingResponse (message bindingSuccess txid attrs') txid =
              parseBindingResponse (message bindingSuccess txid attrs) txid) ↔
          FormsAgree txid attrs)) := by
  refine ⟨fun buf h hh ht hw => ?_, fun hfit hx hm => ⟨fun hsame => ?_, fun hagree => ?_⟩⟩
  · rw [parseBindingResponse_of_walk hh ht hw, firstMappedAddress_eq_preferred_iff]
  · have horders (attrs' : List Attr) (hperm : attrs'.Perm attrs) :
        firstMappedAddress txid attrs' =
          parseBindingResponse (message bindingSuccess txid attrs) txid := by
      rw [← parseBindingResponse_message ((sectionLen_perm hperm).le.trans hfit)]
      exact hsame attrs' hperm
    exact formsAgree_of_orders horders
  · intro attrs' hperm
    rw [parseBindingResponse_message ((sectionLen_perm hperm).le.trans hfit),
      parseBindingResponse_message hfit,
      (firstMappedAddress_eq_preferred_iff txid attrs').2 (hagree.leadsRight hperm hx),
      (firstMappedAddress_eq_preferred_iff txid attrs).2 (hagree.leadsRight (.refl attrs) hx),
      preferredAddress_perm hperm hx hm]

/-- `192.0.2.1:80` in the legacy form and `203.0.113.9:90` in the XOR form. -/
def legacyFirst (txid : TxId) : List Attr :=
  [⟨attr.mappedAddress, [0, 1, 0, 80, 192, 0, 2, 1]⟩,
    ⟨attr.xorMappedAddress, buildXorAddress ⟨.v4 0xCB007109, 90⟩ txid⟩]

/-- Behind the XOR form, a different legacy form is not returned. -/
theorem preferredAddress_xor_first :
    parseBindingResponse (message bindingSuccess (Vector.replicate 12 0)
        (legacyFirst (Vector.replicate 12 0)).reverse) (Vector.replicate 12 0) =
      .ok ⟨.v4 0xCB007109, 90⟩ :=
  ((preferredAddress_iff (Vector.replicate 12 0) (legacyFirst (Vector.replicate 12 0)).reverse).1 _
    ⟨bindingSuccess, 24, Vector.replicate 12 0⟩ (by decide +kernel) rfl (by decide +kernel)).2
    (by
      intro x _ f hf
      obtain rfl := Option.some.inj hf
      exact fun _ => by decide +kernel)

/-- In front of the XOR form it is, and a malformed XOR form in front of a well-formed one ends
the parse. -/
theorem legacy_first_returned :
    parseBindingResponse (message bindingSuccess (Vector.replicate 12 0)
        (legacyFirst (Vector.replicate 12 0))) (Vector.replicate 12 0) =
      .ok ⟨.v4 0xC0000201, 80⟩ ∧
    preferredAddress (Vector.replicate 12 0) (legacyFirst (Vector.replicate 12 0)) =
      .ok ⟨.v4 0xCB007109, 90⟩ ∧
    parseBindingResponse (message bindingSuccess (Vector.replicate 12 0)
        (legacyFirst (Vector.replicate 12 0)).reverse) (Vector.replicate 12 0) =
      .ok ⟨.v4 0xCB007109, 90⟩ ∧
    parseBindingResponse (message bindingSuccess (Vector.replicate 12 0)
        (⟨attr.xorMappedAddress, []⟩ :: (legacyFirst (Vector.replicate 12 0)).reverse))
        (Vector.replicate 12 0) = .err (.codec .truncatedAttr) ∧
    preferredAddress (Vector.replicate 12 0)
        (⟨attr.xorMappedAddress, []⟩ :: (legacyFirst (Vector.replicate 12 0)).reverse) =
      .ok ⟨.v4 0xCB007109, 90⟩ := by
  decide +kernel

end StunBindingCheck

end WebrtcDoctor
