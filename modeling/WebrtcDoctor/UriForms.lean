import WebrtcDoctor.Ipv6Text
import WebrtcDoctor.Target

/-!
# The forms of a target URI

A `stun:`, `turn:` or `turns:` URI names its host as a name or as an IPv6 literal in brackets,
with or without a port. `parseStunLike` splits at the last colon before it looks at brackets. So a
literal without a port is split inside, and a host with colons is accepted without brackets when
a number follows its last colon. `readsUri_iff` says that it goes wrong in these two cases only.
-/

open NetAddr

namespace WebrtcDoctor

/-! ## Splitting -/

/-- The first separator is the one after a text that has none. -/
theorem splitOnce_append {sep : Char} : ∀ {as : List Char} (bs : List Char), sep ∉ as →
    splitOnce sep (as ++ sep :: bs) = some (as, bs)
  | [], bs, _ => if_pos rfl
  | a :: as, bs, h => by
    obtain ⟨hne, has⟩ := not_or.1 (mt List.mem_cons.2 h)
    rw [List.cons_append, splitOnce, if_neg (Ne.symm hne), splitOnce_append bs has]
    rfl

theorem splitOnce_eq_none {sep : Char} : ∀ {cs : List Char}, sep ∉ cs → splitOnce sep cs = none
  | [], _ => rfl
  | c :: cs, h => by
    obtain ⟨hne, hcs⟩ := not_or.1 (mt List.mem_cons.2 h)
    rw [splitOnce, if_neg (Ne.symm hne), splitOnce_eq_none hcs]
    rfl

theorem eq_append_of_splitOnce {sep : Char} : ∀ {cs as bs : List Char},
    splitOnce sep cs = some (as, bs) → cs = as ++ sep :: bs ∧ sep ∉ as
  | c :: cs, as, bs, h => by
    rw [splitOnce] at h
    split_ifs at h with hc
    · obtain ⟨rfl, rfl⟩ := Prod.mk.inj (Option.some.inj h)
      exact ⟨by rw [hc]; rfl, List.not_mem_nil⟩
    · obtain ⟨⟨as', bs'⟩, hsplit, heq⟩ := Option.map_eq_some_iff.1 h
      obtain ⟨rfl, rfl⟩ := Prod.mk.inj heq
      obtain ⟨rfl, hno⟩ := eq_append_of_splitOnce hsplit
      exact ⟨rfl, fun hmem => (List.mem_cons.1 hmem).elim (fun h => hc h.symm) hno⟩

/-- The last separator is the one before a text that has none. -/
theorem rsplitOnce_append {sep : Char} (as : List Char) {bs : List Char} (h : sep ∉ bs) :
    rsplitOnce sep (as ++ sep :: bs) = some (as, bs) := by
  have hrev : (as ++ sep :: bs).reverse = bs.reverse ++ sep :: as.reverse := by simp
  rw [rsplitOnce, hrev, splitOnce_append _ (mt List.mem_reverse.1 h)]
  simp

theorem rsplitOnce_eq_none {sep : Char} {cs : List Char} (h : sep ∉ cs) :
    rsplitOnce sep cs = none := by
  rw [rsplitOnce, splitOnce_eq_none (mt List.mem_reverse.1 h)]
  rfl

/-- A text with the separator is split at the last. -/
theorem exists_last {sep : Char} {cs : List Char} (h : sep ∈ cs) :
    ∃ as bs, cs = as ++ sep :: bs ∧ sep ∉ bs := by
  obtain ⟨bs, as, heq, hbs⟩ := List.eq_append_cons_of_mem (List.mem_reverse.2 h)
  refine ⟨as.reverse, bs.reverse, ?_, mt List.mem_reverse.1 hbs⟩
  rw [← List.reverse_reverse cs, heq]
  simp

/-- The last separator determines the two parts. -/
theorem append_inj_last {sep : Char} {as as' bs bs' : List Char} (hbs : sep ∉ bs) (hbs' : sep ∉ bs')
    (h : as ++ sep :: bs = as' ++ sep :: bs') : as = as' ∧ bs = bs' := by
  have hsplit := rsplitOnce_append as hbs
  rw [h, rsplitOnce_append as' hbs'] at hsplit
  obtain ⟨rfl, rfl⟩ := Prod.mk.inj (Option.some.inj hsplit)
  exact ⟨rfl, rfl⟩

/-! ## Brackets -/

/-- `[` or `]`, which are trimmed off a host. -/
def isBracket (c : Char) : Bool := c = '[' ∨ c = ']'

theorem isBracket_of_noBrackets {cs : List Char} (h : NoBrackets cs) :
    ∀ c ∈ cs, isBracket c = false := by
  intro c hc
  have hopen : c ≠ '[' := fun heq => h.1 (heq ▸ hc)
  have hclose : c ≠ ']' := fun heq => h.2 (heq ▸ hc)
  simp [isBracket, hopen, hclose]

theorem dropWhile_eq_self {p : Char → Bool} {cs : List Char} (h : ∀ c ∈ cs, p c = false) :
    cs.dropWhile p = cs := by
  cases cs with
  | nil => rfl
  | cons c cs => rw [List.dropWhile_cons_of_neg (by simp [h c])]

theorem trimMatches_eq_self {cs : List Char} (h : NoBrackets cs) :
    trimMatches isBracket cs = cs := by
  have hno := isBracket_of_noBrackets h
  rw [trimMatches, dropWhile_eq_self hno, dropWhile_eq_self, List.reverse_reverse]
  exact fun c hc => hno c (List.mem_reverse.1 hc)

/-- Trimming takes off the brackets around a text without brackets. -/
theorem trimMatches_bracketed {cs : List Char} (h : NoBrackets cs) (hne : cs ≠ []) :
    trimMatches isBracket ('[' :: cs ++ [']']) = cs := by
  have hno := isBracket_of_noBrackets h
  obtain ⟨c, cs', rfl⟩ := List.exists_cons_of_ne_nil hne
  have hdrop : (c :: cs' ++ [']']).dropWhile isBracket = c :: cs' ++ [']'] := by
    rw [List.cons_append, List.dropWhile_cons_of_neg (by simp [hno c])]
  have hrev : (c :: cs' ++ [']']).reverse = ']' :: (c :: cs').reverse := by simp
  rw [trimMatches, List.cons_append, List.dropWhile_cons_of_pos rfl, hdrop, hrev,
    List.dropWhile_cons_of_pos rfl, dropWhile_eq_self, List.reverse_reverse]
  exact fun d hd => hno d (List.mem_reverse.1 hd)

theorem mem_dropWhile {p : Char → Bool} {c : Char} (hc : p c = false) (cs : List Char) :
    c ∈ cs.dropWhile p ↔ c ∈ cs := by
  conv_rhs => rw [← List.takeWhile_append_dropWhile (p := p) (l := cs), List.mem_append]
  refine (or_iff_right fun hmem => ?_).symm
  rw [List.mem_takeWhile_imp hmem] at hc
  cases hc

theorem mem_trimMatches {p : Char → Bool} {c : Char} (hc : p c = false) (cs : List Char) :
    c ∈ trimMatches p cs ↔ c ∈ cs := by
  rw [trimMatches, List.mem_reverse, mem_dropWhile hc, List.mem_reverse, mem_dropWhile hc]

/-! ## Ports -/

theorem parseU16Digits_append (bs : List Char) : ∀ (as : List Char) (n : ℕ),
    parseU16Digits n (as ++ bs) = (parseU16Digits n as >>= fun m => parseU16Digits m bs)
  | [], n => rfl
  | a :: as, n => by
    rw [List.cons_append, parseU16Digits, parseU16Digits, parseU16Digits_append bs as]
    split_ifs <;> rfl

theorem isDigit_of_parseU16Digits : ∀ {cs : List Char} {n m : ℕ},
    parseU16Digits n cs = .ok m → ∀ c ∈ cs, c.isDigit = true
  | d :: cs, n, m, h, c, hc => by
    rw [parseU16Digits] at h
    split_ifs at h with hd
    rcases List.mem_cons.1 hc with rfl | hc
    · simpa using hd
    · exact isDigit_of_parseU16Digits h c hc

theorem isDigit_digitChar {d : ℕ} (h : d < 10) :
    d.digitChar.isDigit = true ∧ d.digitChar.toNat - 48 = d := by
  interval_cases d <;> decide

/-- The decimal digits of a number below 65536 read back as the number. -/
theorem parseU16Digits_toDigits (n : ℕ) (h : n < 65536) :
    parseU16Digits 0 (Nat.toDigits 10 n) = .ok n := by
  induction n using Nat.base_induction 10 (by decide) with
  | single m hm =>
    obtain ⟨hdigit, hvalue⟩ := isDigit_digitChar hm
    rw [Nat.toDigits_of_lt_base hm, parseU16Digits, hdigit, hvalue, if_neg (by simp),
      if_neg (by omega), if_neg (by omega), Nat.zero_mul, Nat.zero_add]
    rfl
  | digit m k hk hm ih =>
    obtain ⟨hdigit, hvalue⟩ := isDigit_digitChar hk
    rw [← Nat.toDigits_append_toDigits (by decide) hm hk, Nat.toDigits_of_lt_base hk,
      parseU16Digits_append, ih (by omega)]
    show parseU16Digits m [k.digitChar] = _
    rw [parseU16Digits, hdigit, hvalue, if_neg (by simp), if_neg (by omega), if_neg (by omega),
      Nat.mul_comm]
    rfl

theorem isDigit_of_mem_toDigits (n : ℕ) : ∀ c ∈ Nat.toDigits 10 n, c.isDigit = true := by
  induction n using Nat.base_induction 10 (by decide) with
  | single m hm => simpa [Nat.toDigits_of_lt_base hm] using (isDigit_digitChar hm).1
  | digit m k hk hm ih =>
    rw [← Nat.toDigits_append_toDigits (by decide) hm hk, Nat.toDigits_of_lt_base hk]
    intro c hc
    rcases List.mem_append.1 hc with hc | hc
    · exact ih c hc
    · rw [List.mem_singleton.1 hc]
      exact (isDigit_digitChar hk).1

theorem parseU16_of_ne {c : Char} {cs : List Char} (h : c ≠ '+') :
    parseU16 (c :: cs) = (parseU16Digits 0 (c :: cs)).map UInt16.ofNat := by
  unfold parseU16
  split
  · rename_i heq
    cases heq
  · rename_i heq
    exact absurd (List.cons.inj heq).1 h
  · rename_i heq
    exact absurd (List.cons.inj heq).1 h
  · rfl

/-- A port read from its decimal digits is the port. -/
theorem parseU16_toDigits (port : UInt16) :
    parseU16 (Nat.toDigits 10 port.toNat) = .ok port := by
  have hdigits := isDigit_of_mem_toDigits port.toNat
  have hparse := parseU16Digits_toDigits port.toNat port.toNat_lt
  obtain ⟨c, cs, hcs⟩ := List.exists_cons_of_ne_nil (@Nat.toDigits_ne_nil port.toNat 10)
  rw [hcs] at hdigits hparse ⊢
  have hplus : c ≠ '+' := by
    rintro rfl
    exact absurd (hdigits '+' (List.mem_cons_self ..)) (by decide)
  rw [parseU16_of_ne hplus, hparse]
  exact congrArg Except.ok (UInt16.ofNat_toNat)

theorem not_mem_of_isDigit {cs : List Char} (h : ∀ c ∈ cs, c.isDigit = true) :
    ':' ∉ cs ∧ ']' ∉ cs :=
  ⟨fun hmem => absurd (h _ hmem) (by decide), fun hmem => absurd (h _ hmem) (by decide)⟩

/-- A port is not empty, and has no colon and no bracket. -/
theorem parseU16_ok {cs : List Char} {port : UInt16} (h : parseU16 cs = .ok port) :
    cs ≠ [] ∧ ':' ∉ cs ∧ ']' ∉ cs := by
  have hmap : ∀ {ds : List Char}, (parseU16Digits 0 ds).map UInt16.ofNat = .ok port →
      ':' ∉ ds ∧ ']' ∉ ds := by
    intro ds hds
    cases hdigits : parseU16Digits 0 ds with
    | error e =>
      rw [hdigits] at hds
      cases hds
    | ok n => exact not_mem_of_isDigit (isDigit_of_parseU16Digits hdigits)
  unfold parseU16 at h
  split at h
  · cases h
  · cases h
  · obtain ⟨hcolon, hclose⟩ := hmap h
    exact ⟨List.cons_ne_nil _ _, by simp [hcolon], by simp [hclose]⟩
  · exact ⟨by rintro rfl; simp_all, hmap h⟩

/-! ## What is parsed -/

/-- The scheme of a URI, one of the allowed ones in any case. -/
def IsScheme (allowed : List String) (scheme : List Char) : Prop :=
  ':' ∉ scheme ∧ String.ofList (toAsciiLowercase scheme) ∈ allowed

section

variable {url : String} {allowed : List String} {defaultPort : UInt16} {scheme rest : List Char}
  (hurl : url.toList = scheme ++ ':' :: rest) (hscheme : IsScheme allowed scheme)

include hurl hscheme

/-- Without a colon the rest is the host. -/
theorem parse_of_no_port (hne : rest ≠ []) (hcolon : ':' ∉ rest) :
    parseStunLike url allowed defaultPort = .ok ⟨String.ofList rest, defaultPort⟩ := by
  rw [parseStunLike, hurl, splitOnce_append rest hscheme.1]
  dsimp only
  rw [if_neg (not_not.2 hscheme.2), rsplitOnce_eq_none hcolon]
  refine if_neg fun h => hne ?_
  exact String.toList_ofList.symm.trans (congrArg String.toList h)

/-- Before a port is the host, in brackets or not. -/
theorem parse_of_port {host p : List Char} {port : UInt16} (hrest : rest = host ++ ':' :: p)
    (hport : parseU16 p = .ok port) (hne : trimMatches isBracket host ≠ []) :
    parseStunLike url allowed defaultPort =
      .ok ⟨String.ofList (trimMatches isBracket host), port⟩ := by
  rw [parseStunLike, hurl, splitOnce_append rest hscheme.1]
  dsimp only
  rw [if_neg (not_not.2 hscheme.2), hrest, rsplitOnce_append host (parseU16_ok hport).2.1]
  dsimp only
  rw [hport]
  refine if_neg fun h => hne ?_
  exact String.toList_ofList.symm.trans (congrArg String.toList h)

/-- Behind the last colon has to be a port. -/
theorem parse_of_no_number {host p : List Char} {e : ParseIntError}
    (hrest : rest = host ++ ':' :: p) (hcolon : ':' ∉ p) (hport : parseU16 p = .error e) :
    ∃ e, parseStunLike url allowed defaultPort = .error e := by
  rw [parseStunLike, hurl, splitOnce_append rest hscheme.1]
  dsimp only
  rw [if_neg (not_not.2 hscheme.2), hrest, rsplitOnce_append host hcolon]
  dsimp only
  rw [hport]
  exact ⟨_, rfl⟩

end

/-- An accepted URI has an allowed scheme, and its host is what comes before the port without
brackets, or all of the rest. -/
theorem of_parse {url : String} {allowed : List String} {defaultPort : UInt16} {t : Target}
    (h : parseStunLike url allowed defaultPort = .ok t) : ∃ scheme rest,
    url.toList = scheme ++ ':' :: rest ∧ IsScheme allowed scheme ∧
      (':' ∉ rest ∧ t = ⟨String.ofList rest, defaultPort⟩ ∨
        ∃ host p port, rest = host ++ ':' :: p ∧ parseU16 p = .ok port ∧
          t = ⟨String.ofList (trimMatches isBracket host), port⟩) := by
  rw [parseStunLike] at h
  split at h
  · cases h
  rename_i scheme rest hsplit
  obtain ⟨hurl, hcolon⟩ := eq_append_of_splitOnce hsplit
  dsimp only at h
  by_cases hallowed : String.ofList (toAsciiLowercase scheme) ∈ allowed
  swap
  · rw [if_pos hallowed] at h
    cases h
  rw [if_neg (not_not.2 hallowed)] at h
  refine ⟨scheme, rest, hurl, ⟨hcolon, hallowed⟩, ?_⟩
  by_cases hrest : ':' ∈ rest
  · obtain ⟨host, p, rfl, hp⟩ := exists_last hrest
    rw [rsplitOnce_append host hp] at h
    dsimp only at h
    split at h
    · cases h
    rename_i port hport
    split_ifs at h
    exact Or.inr ⟨host, p, port, rfl, hport, (Except.ok.inj h).symm⟩
  · rw [rsplitOnce_eq_none hrest] at h
    dsimp only at h
    split_ifs at h
    exact Or.inl ⟨hrest, (Except.ok.inj h).symm⟩

/-! ## The forms -/

/-- The text of a host name. -/
def IsHost (host : List Char) : Prop := host ≠ [] ∧ ':' ∉ host ∧ NoBrackets host

/-- `[v]`. -/
def bracketed (v : List Char) : List Char := '[' :: v ++ [']']

/-- A port in decimal. -/
def decimal (port : UInt16) : List Char := Nat.toDigits 10 port.toNat

/-- The URI is read as its form says. A host with a colon is in brackets, and an IPv6 literal
without brackets is an error. -/
structure ReadsUri (url : String) (allowed : List String) (defaultPort : UInt16) : Prop where
  host : ∀ scheme host, IsScheme allowed scheme → IsHost host →
    url.toList = scheme ++ ':' :: host →
      parseStunLike url allowed defaultPort = .ok ⟨String.ofList host, defaultPort⟩
  hostPort : ∀ scheme host port, IsScheme allowed scheme → IsHost host →
    url.toList = scheme ++ ':' :: (host ++ ':' :: decimal port) →
      parseStunLike url allowed defaultPort = .ok ⟨String.ofList host, port⟩
  literal : ∀ scheme v, IsScheme allowed scheme → IsV6 v →
    url.toList = scheme ++ ':' :: bracketed v →
      parseStunLike url allowed defaultPort = .ok ⟨String.ofList v, defaultPort⟩
  literalPort : ∀ scheme v port, IsScheme allowed scheme → IsV6 v →
    url.toList = scheme ++ ':' :: (bracketed v ++ ':' :: decimal port) →
      parseStunLike url allowed defaultPort = .ok ⟨String.ofList v, port⟩
  inBrackets : ∀ scheme rest t, ':' ∉ scheme → url.toList = scheme ++ ':' :: rest →
    parseStunLike url allowed defaultPort = .ok t → ':' ∈ t.host.toList →
      ∃ v, rest = bracketed v ∨ ∃ p, ':' ∉ p ∧ rest = bracketed v ++ ':' :: p
  unbracketed : ∀ scheme v, IsScheme allowed scheme → IsV6 v → url.toList = scheme ++ ':' :: v →
    ∃ e, parseStunLike url allowed defaultPort = .error e

theorem noBrackets_ne_bracketed {v w : List Char} (h : NoBrackets v) : v ≠ bracketed w := by
  rintro rfl
  exact h.1 (List.mem_cons_self ..)

/-- The rest of a URI is not a literal in brackets alone, and a host with colons in front of a
port is in brackets. -/
def WellSplit (rest : List Char) : Prop :=
  (∀ v, IsV6 v → rest ≠ bracketed v) ∧
    ∀ host p port, rest = host ++ ':' :: p → parseU16 p = .ok port → ':' ∈ host →
      ∃ v, host = bracketed v

section

variable {url : String} {allowed : List String} {defaultPort : UInt16} {scheme rest : List Char}
  (hurl : url.toList = scheme ++ ':' :: rest) (hscheme : IsScheme allowed scheme)

include hurl hscheme

/-- A literal in brackets without a port is split inside, and is an error. -/
theorem parse_bracketed {v : List Char} (hv : IsV6 v) (hrest : rest = bracketed v) :
    ∃ e, parseStunLike url allowed defaultPort = .error e := by
  have hmem : ':' ∈ v := List.count_pos_iff.1 (Nat.lt_of_lt_of_le (by decide) hv.two_le_count)
  obtain ⟨as, bs, rfl, hbs⟩ := exists_last hmem
  have hsplit : rest = ('[' :: as) ++ ':' :: (bs ++ [']']) := by simp [hrest, bracketed]
  have hcolon : ':' ∉ bs ++ [']'] := by simp [hbs]
  cases hport : parseU16 (bs ++ [']']) with
  | error e => exact parse_of_no_number hurl hscheme hsplit hcolon hport
  | ok port => exact absurd (by simp) (parseU16_ok hport).2.2

/-- So a URI that is read as its form says is well split. -/
theorem wellSplit_of_reads (h : ReadsUri url allowed defaultPort) : WellSplit rest := by
  refine ⟨fun v hv hrest => ?_, fun host p port hrest hport hmem => ?_⟩
  · obtain ⟨e, he⟩ : ∃ e, parseStunLike url allowed defaultPort = .error e :=
      parse_bracketed hurl hscheme hv hrest
    rw [h.literal scheme v hscheme hv (hrest ▸ hurl)] at he
    cases he
  · obtain ⟨hne, hcolon, hclose⟩ := parseU16_ok hport
    have hmem' := (mem_trimMatches (p := isBracket) (by decide) host).2 hmem
    have hparse : parseStunLike url allowed defaultPort = _ :=
      parse_of_port hurl hscheme hrest hport (List.ne_nil_of_mem hmem')
    obtain ⟨v, hv | ⟨p', hp', hv⟩⟩ := h.inBrackets scheme rest _ hscheme.1 hurl hparse
      (by rwa [String.toList_ofList])
    · -- The last character is that of a port, not a bracket.
      obtain ⟨q, c, rfl⟩ := (List.eq_nil_or_concat' p).resolve_left hne
      have hlast : (host ++ ':' :: q) ++ [c] = ('[' :: v) ++ [']'] := by
        rw [List.append_assoc, List.cons_append, ← hrest, hv, bracketed]
      rw [List.singleton_inj.1 (List.append_inj' hlast rfl).2] at hclose
      exact absurd (by simp) hclose
    · exact ⟨v, (append_inj_last hcolon hp' (hrest.symm.trans hv)).1⟩

end

/-- A URI is read as its form says exactly if it is well split, or its scheme is not allowed. -/
theorem readsUri_iff (url : String) (allowed : List String) (defaultPort : UInt16) :
    ReadsUri url allowed defaultPort ↔
      ∀ scheme rest, url.toList = scheme ++ ':' :: rest → IsScheme allowed scheme →
        WellSplit rest := by
  constructor
  · exact fun h scheme rest hurl hscheme => wellSplit_of_reads hurl hscheme h
  intro h
  refine ⟨fun scheme host hscheme hhost hurl => ?_, fun scheme host port hscheme hhost hurl => ?_,
    fun scheme v hscheme hv hurl => ?_, fun scheme v port hscheme hv hurl => ?_,
    fun scheme rest t hcolon hurl hparse hmem => ?_, fun scheme v hscheme hv hurl => ?_⟩
  · exact parse_of_no_port hurl hscheme hhost.1 hhost.2.1
  · have htrim := trimMatches_eq_self hhost.2.2
    rw [parse_of_port hurl hscheme rfl (parseU16_toDigits port) (by rw [htrim]; exact hhost.1),
      htrim]
  · exact absurd rfl ((h scheme _ hurl hscheme).1 v hv)
  · have hne : v ≠ [] := by
      rintro rfl
      exact absurd hv.two_le_count (by decide)
    have htrim := trimMatches_bracketed hv.noBrackets hne
    rw [parse_of_port hurl hscheme rfl (parseU16_toDigits port)
      (by rw [bracketed, htrim]; exact hne), bracketed, htrim]
  · obtain ⟨scheme', rest', hurl', hscheme', hcase⟩ := of_parse hparse
    have hsplit := splitOnce_append rest hcolon
    rw [← hurl, hurl', splitOnce_append rest' hscheme'.1] at hsplit
    obtain ⟨rfl, rfl⟩ := Prod.mk.inj (Option.some.inj hsplit)
    rcases hcase with ⟨hno, rfl⟩ | ⟨host, p, port, rfl, hport, rfl⟩
    · rw [String.toList_ofList] at hmem
      exact absurd hmem hno
    · rw [String.toList_ofList, mem_trimMatches (by decide)] at hmem
      obtain ⟨v, rfl⟩ := (h _ _ hurl hscheme').2 host p port rfl hport hmem
      exact ⟨v, Or.inr ⟨p, (parseU16_ok hport).2.1, rfl⟩⟩
  · have hmem : ':' ∈ v := List.count_pos_iff.1 (Nat.lt_of_lt_of_le (by decide) hv.two_le_count)
    obtain ⟨host, p, rfl, hp⟩ := exists_last hmem
    cases hport : parseU16 p with
    | error e => exact parse_of_no_number hurl hscheme rfl hp hport
    | ok port =>
      have hhost : ':' ∈ host := by
        have hcount := hv.two_le_count
        rw [List.count_append, List.count_cons_self, List.count_eq_zero_of_not_mem hp] at hcount
        exact List.count_pos_iff.1 (by omega)
      obtain ⟨w, hw⟩ := (h _ _ hurl hscheme).2 host p port rfl hport hhost
      exact absurd hw (noBrackets_ne_bracketed (noBrackets_append.1 hv.noBrackets).1)

/-- An IPv6 literal without a port is an error in brackets, and is split without them. -/
theorem literals_misread :
    (∃ e, parseStunLike "stun:[::1]" ["stun"] 3478 = .error e) ∧ IsV6 "::1".toList ∧
      parseStunLike "stun:2001:db8::1" ["stun"] 3478 = .ok ⟨"2001:db8:", 1⟩ ∧
      IsV6 "2001:db8::1".toList ∧ ¬ReadsUri "stun:[::1]" ["stun"] 3478 ∧
      ¬ReadsUri "stun:2001:db8::1" ["stun"] 3478 := by
  have hloopback : IsV6 "::1".toList := ⟨[0, 0, 0, 0, 0, 0, 0, 1], by decide +kernel⟩
  have hdoc : IsV6 "2001:db8::1".toList := ⟨[0x2001, 0xdb8, 0, 0, 0, 0, 0, 1], by decide +kernel⟩
  have hscheme : IsScheme ["stun"] "stun".toList := ⟨by decide, by decide⟩
  have herror : parseStunLike "stun:[::1]" ["stun"] 3478 =
      .error ("invalid port in " ++ quoted "stun:[::1]") := by decide +kernel
  have hsplit : parseStunLike "stun:2001:db8::1" ["stun"] 3478 = .ok ⟨"2001:db8:", 1⟩ := by
    decide +kernel
  refine ⟨⟨_, herror⟩, hloopback, hsplit, hdoc, fun h => ?_, fun h => ?_⟩
  · have hok := h.literal _ _ hscheme hloopback (by decide +kernel)
    rw [herror] at hok
    cases hok
  · obtain ⟨e, he⟩ := h.unbracketed _ _ hscheme hdoc (by decide +kernel)
    rw [hsplit] at he
    cases he

end WebrtcDoctor
