import Mathlib.Tactic.IntervalCases
import WebrtcDoctor.NetAddr

/-!
# Socket addresses read back

What `SocketAddr.display` prints `SocketAddr.parse` reads back (`SocketAddr.parse_display`).
A printed number is read up to the first character that is not a digit
(`readNumber_toDigits`), and printed groups up to the `::` or the closing bracket
(`readGroups_showGroups`). No group is taken for the start of an IPv4 tail, because its
digits are followed by something other than a dot (`readV4_eq_none`).
-/

namespace NetAddr

/-! ## Numbers -/

/-- The text begins with no digit of the radix. -/
def Stops (radix : ℕ) (cs : List Char) : Prop := ∀ c ∈ cs.head?, toDigit radix c = none

/-- A digit has its value. -/
theorem toDigit_digitChar {radix d : ℕ} (hr : radix ≤ 16) (hd : d < radix) :
    toDigit radix d.digitChar = some d := by
  have hd' : d < 16 := by omega
  interval_cases d <;> simp [toDigit, Nat.digitChar, hd]

/-- The digits of a number are digits. -/
theorem isSome_toDigit_of_mem {radix : ℕ} (h1 : 1 < radix) (hr : radix ≤ 16) (n : ℕ) :
    ∀ c ∈ Nat.toDigits radix n, (toDigit radix c).isSome := by
  induction n using Nat.base_induction radix h1 with
  | single m hm => simp [Nat.toDigits_of_lt_base hm, toDigit_digitChar hr hm]
  | digit m k hk hm ih =>
    rw [← Nat.toDigits_append_toDigits h1 hm hk, Nat.toDigits_of_lt_base hk]
    intro c hc
    rcases List.mem_append.1 hc with hc | hc
    · exact ih c hc
    · rw [List.mem_singleton.1 hc, toDigit_digitChar hr hk]
      rfl

/-- The digits of a number spell it. -/
theorem digitsValue_toDigits {radix n : ℕ} (h1 : 1 < radix) (hr : radix ≤ 16) :
    digitsValue radix (Nat.toDigits radix n) = n := by
  induction n using Nat.base_induction radix h1 with
  | single m hm => simp [Nat.toDigits_of_lt_base hm, digitsValue, toDigit_digitChar hr hm]
  | digit m k hk hm ih =>
    rw [← Nat.toDigits_append_toDigits h1 hm hk, Nat.toDigits_of_lt_base hk, digitsValue,
      List.foldl_append, ← digitsValue, ih]
    simp [toDigit_digitChar hr hk, Nat.mul_comm]

/-- A printed number above zero has no leading zero. -/
theorem head?_toDigits_ne {radix n : ℕ} (h1 : 1 < radix) (hn : 0 < n) :
    (Nat.toDigits radix n).head? ≠ some '0' := by
  induction n using Nat.base_induction radix h1 with
  | single m hm =>
    simp only [Nat.toDigits_of_lt_base hm, List.head?_cons, ne_eq, Option.some.injEq,
      Nat.digitChar_eq_zero]
    omega
  | digit m k hk hm ih =>
    rw [← Nat.toDigits_append_toDigits h1 hm hk, List.head?_append_of_ne_nil _ Nat.toDigits_ne_nil]
    exact ih hm

/-- The digits end where the rest begins with none. -/
theorem takeWhile_append_of_stops {radix : ℕ} {ds rest : List Char}
    (hds : ∀ c ∈ ds, (toDigit radix c).isSome) (hrest : Stops radix rest) :
    (ds ++ rest).takeWhile (fun c => (toDigit radix c).isSome) = ds ∧
      (ds ++ rest).dropWhile (fun c => (toDigit radix c).isSome) = rest := by
  rw [List.takeWhile_append_of_pos hds, List.dropWhile_append_of_pos hds]
  cases rest with
  | nil => simp
  | cons c cs => simp [hrest c rfl]

/-- A printed number reads back up to the first character that is not a digit. -/
theorem readNumber_toDigits {radix n bound : ℕ} {maxDigits : Option ℕ} (zeroPrefix : Bool)
    {rest : List Char} (h1 : 1 < radix) (hr : radix ≤ 16) (hn : n < bound)
    (hmax : ∀ k ∈ maxDigits, 0 < k ∧ n < radix ^ k) (hrest : Stops radix rest) :
    readNumber radix maxDigits zeroPrefix bound (Nat.toDigits radix n ++ rest) =
      some (n, rest) := by
  obtain ⟨htake, hdrop⟩ := takeWhile_append_of_stops (isSome_toDigit_of_mem h1 hr n) hrest
  have hlen : ¬maxDigits.any (· < (Nat.toDigits radix n).length) := by
    cases maxDigits with
    | none => simp
    | some k =>
      have := (Nat.length_toDigits_le_iff h1 (hmax k rfl).1).2 (hmax k rfl).2
      simpa using this
  have hzero : ¬(!zeroPrefix ∧ (Nat.toDigits radix n).head? = some '0' ∧
      1 < (Nat.toDigits radix n).length) := by
    rintro ⟨-, hhead, hone⟩
    refine head?_toDigits_ne h1 (Nat.pos_of_ne_zero ?_) hhead
    rintro rfl
    simp at hone
  have hpos : (Nat.toDigits radix n).length ≠ 0 := by simp
  simp only [readNumber, htake, hdrop, digitsValue_toDigits h1 hr]
  rw [if_neg hlen, if_neg hpos, if_neg hzero, if_pos hn]

/-- Text that begins with no digit is no number. -/
theorem readNumber_of_stops {radix bound : ℕ} {maxDigits : Option ℕ} {zeroPrefix : Bool}
    {cs : List Char} (h : Stops radix cs) :
    readNumber radix maxDigits zeroPrefix bound cs = none := by
  have htake : cs.takeWhile (fun c => (toDigit radix c).isSome) = [] := by
    cases cs with
    | nil => rfl
    | cons c cs => simp [h c rfl]
  simp only [readNumber, htake, List.length_nil]
  split <;> simp

theorem eq_dropWhile_of_readNumber {radix bound n : ℕ} {maxDigits : Option ℕ} {zeroPrefix : Bool}
    {cs cs' : List Char} (h : readNumber radix maxDigits zeroPrefix bound cs = some (n, cs')) :
    cs' = cs.dropWhile fun c => (toDigit radix c).isSome := by
  unfold readNumber at h
  dsimp only at h
  split_ifs at h
  exact (Prod.ext_iff.1 (Option.some.inj h)).2.symm

@[simp] theorem readChar_self (c : Char) (cs : List Char) : readChar c (c :: cs) = some cs :=
  if_pos rfl

/-! ## IPv4 addresses -/

theorem stops_cons {radix : ℕ} {c : Char} {cs : List Char} (h : toDigit radix c = none) :
    Stops radix (c :: cs) := by
  rintro _ ⟨⟩
  exact h

/-- The text of four octets reads back. -/
theorem readV4_showV4 {a b c d : ℕ} (ha : a < 256) (hb : b < 256) (hc : c < 256) (hd : d < 256)
    {rest : List Char} (h : Stops 10 rest) :
    readV4 (showV4 [a, b, c, d] ++ rest) = some ([a, b, c, d], rest) := by
  have hread : ∀ {n : ℕ} {cs : List Char}, n < 256 → Stops 10 cs →
      readNumber 10 (some 3) false 256 (Nat.toDigits 10 n ++ cs) = some (n, cs) :=
    fun hn hcs => readNumber_toDigits false (by decide) (by decide) hn
      (by rintro _ ⟨⟩; exact ⟨by decide, by omega⟩) hcs
  have hdot : ∀ cs, Stops 10 ('.' :: cs) := fun cs => stops_cons (by decide)
  simp [showV4, List.intercalate, readV4, readOctets, readSeparator, readChar, hread ha (hdot _),
    hread hb (hdot _), hread hc (hdot _), hread hd h]

/-- Digits that no dot follows are not the start of an IPv4 address. -/
theorem readV4_eq_none {cs : List Char}
    (h : (cs.dropWhile fun c => (toDigit 10 c).isSome).head? ≠ some '.') : readV4 cs = none := by
  rw [readV4, readOctets, readSeparator, if_neg (by decide)]
  cases hn : readNumber 10 (some 3) false 256 cs with
  | none => rfl
  | some p =>
    obtain ⟨o, cs'⟩ := p
    have hcs' := eq_dropWhile_of_readNumber hn
    have hsep : readChar '.' cs' = none := by
      cases cs' with
      | nil => rfl
      | cons c cs' =>
        rw [← hcs', List.head?_cons, ne_eq, Option.some.injEq] at h
        simp [readChar, h]
    simp [readOctets, readSeparator, hsep]

/-! ## IPv6 groups -/

/-- Nothing, a colon or a closing bracket comes next. -/
def Delim (cs : List Char) : Prop := ∀ c ∈ cs.head?, c = ':' ∨ c = ']'

theorem delim_colon (cs : List Char) : Delim (':' :: cs) := by
  rintro _ ⟨⟩
  exact Or.inl rfl

theorem delim_bracket (cs : List Char) : Delim (']' :: cs) := by
  rintro _ ⟨⟩
  exact Or.inr rfl

theorem Delim.stops {radix : ℕ} {cs : List Char} (h : Delim cs) : Stops radix cs := by
  intro c hc
  rcases h c hc with rfl | rfl <;> simp [toDigit]

theorem head?_dropWhile_ne {p : Char → Bool} {c : Char} {rest : List Char}
    (hrest : ∀ x ∈ rest.head?, p x = false ∧ x ≠ c) :
    ∀ ds : List Char, c ∉ ds → ((ds ++ rest).dropWhile p).head? ≠ some c
  | [], _ => by
    cases rest with
    | nil => simp
    | cons x rest =>
      obtain ⟨hp, hne⟩ := hrest x rfl
      simpa [List.dropWhile_cons, hp] using hne
  | d :: ds, hds => by
    rw [List.mem_cons, not_or] at hds
    rw [List.cons_append, List.dropWhile_cons]
    split
    · exact head?_dropWhile_ne hrest ds hds.2
    · simpa using Ne.symm hds.1

/-- A printed group is not the start of an IPv4 address. -/
theorem readV4_toDigits {g : ℕ} {rest : List Char} (h : Delim rest) :
    readV4 (Nat.toDigits 16 g ++ rest) = none := by
  refine readV4_eq_none (head?_dropWhile_ne (fun x hx => ⟨?_, ?_⟩) _ fun hdot => ?_)
  · rw [h.stops x hx]
    rfl
  · rcases h x hx with rfl | rfl <;> decide
  · have := isSome_toDigit_of_mem (by decide : 1 < 16) le_rfl g _ hdot
    simp [toDigit] at this

/-- No IPv4 address begins with a delimiter. -/
theorem readV4_of_delim {cs : List Char} (h : Delim cs) : readV4 cs = none := by
  refine readV4_eq_none (head?_dropWhile_ne (fun x hx => ⟨?_, ?_⟩) [] (by simp))
  · rw [h.stops x hx]
    rfl
  · rcases h x hx with rfl | rfl <;> decide

/-- The separator before the group at index `i`. -/
def sepText (i : ℕ) : List Char := if 0 < i then [':'] else []

/-- Groups as printed from index `i` on. -/
def groupsText : ℕ → List ℕ → List Char
  | _, [] => []
  | i, g :: gs => sepText i ++ (Nat.toDigits 16 g ++ groupsText (i + 1) gs)

/-- The text of some groups, as a reader from the first on meets it. -/
theorem showGroups_eq : ∀ gs, showGroups gs = groupsText 0 gs
  | [] => rfl
  | g :: gs => by
    have tail : ∀ (gs : List ℕ) (g i : ℕ), 0 < i →
        List.intercalate [':'] ((g :: gs).map (Nat.toDigits 16)) =
          Nat.toDigits 16 g ++ groupsText i gs := by
      intro gs
      induction gs with
      | nil => simp [List.intercalate, groupsText]
      | cons g' gs ih =>
        intro g i hi
        have := ih g' (i + 1) (by omega)
        simp only [List.map_cons, List.intercalate, List.intersperse_cons_cons,
          List.flatten_cons] at this ⊢
        rw [this, groupsText, sepText, if_pos hi]
    rw [showGroups, tail gs g 1 (by decide)]
    rfl

/-- The separator of an element is read before it. -/
theorem readSeparator_sepText {α : Type} (i : ℕ) (inner : List Char → Option (α × List Char))
    (cs : List Char) : readSeparator ':' i inner (sepText i ++ cs) = inner cs := by
  unfold readSeparator sepText
  split <;> simp [readChar]

/-- After the first group comes a separator. -/
theorem delim_groupsText {i : ℕ} (hi : 0 < i) {rest : List Char} (h : Delim rest) :
    ∀ gs, Delim (groupsText i gs ++ rest)
  | [] => h
  | g :: gs => by
    rw [groupsText, sepText, if_pos hi]
    exact delim_colon _

/-- Neither an IPv4 tail nor a group can be read at index `i`. -/
def Blocks (i : ℕ) (cs : List Char) : Prop :=
  readSeparator ':' i readV4 cs = none ∧
    readSeparator ':' i (readNumber 16 (some 4) true 65536) cs = none

theorem blocks_bracket (i : ℕ) (cs : List Char) : Blocks i (']' :: cs) := by
  unfold Blocks readSeparator
  split
  · simp [readChar]
  · exact ⟨readV4_of_delim (delim_bracket cs), readNumber_of_stops (delim_bracket cs).stops⟩

theorem blocks_colons (i : ℕ) (cs : List Char) : Blocks i (':' :: ':' :: cs) := by
  unfold Blocks readSeparator
  split
  · simp [readChar, readV4_of_delim (delim_colon cs), readNumber_of_stops (delim_colon cs).stops]
  · exact ⟨readV4_of_delim (delim_colon _), readNumber_of_stops (delim_colon _).stops⟩

/-- No group is read where none begins. -/
theorem readGroups_of_blocks {limit i : ℕ} {cs : List Char} (h : Blocks i cs) :
    readGroups limit i cs = ([], false, cs) := by
  rw [readGroups]
  simp [h.1, h.2]

/-- Reading one printed group. -/
theorem readGroups_cons {limit i g : ℕ} (hi : i < limit) (hg : g < 65536) {rest : List Char}
    (h : Delim rest) : readGroups limit i (sepText i ++ (Nat.toDigits 16 g ++ rest)) =
      (g :: (readGroups limit (i + 1) rest).1, (readGroups limit (i + 1) rest).2) := by
  have hread : readNumber 16 (some 4) true 65536 (Nat.toDigits 16 g ++ rest) = some (g, rest) :=
    readNumber_toDigits true (by decide) le_rfl hg (by rintro _ ⟨⟩; exact ⟨by decide, by omega⟩)
      h.stops
  rw [readGroups]
  simp [hi, readSeparator_sepText, readV4_toDigits h, hread]

/-- Printed groups read back, up to the limit or to what is no group. -/
theorem readGroups_groupsText {limit : ℕ} {rest : List Char} (h : Delim rest) :
    ∀ (gs : List ℕ) (i : ℕ), (∀ g ∈ gs, g < 65536) → i + gs.length ≤ limit →
      (i + gs.length = limit ∨ Blocks (i + gs.length) rest) →
      readGroups limit i (groupsText i gs ++ rest) = (gs, false, rest)
  | [], i, _, _, hstop => by
    rcases hstop with heq | hb
    · rw [List.length_nil, Nat.add_zero] at heq
      rw [readGroups, if_neg (by omega)]
      rfl
    · exact readGroups_of_blocks hb
  | g :: gs, i, hlt, hle, hstop => by
    rw [List.length_cons] at hle hstop
    rw [groupsText, List.append_assoc, List.append_assoc,
      readGroups_cons (by omega) (hlt g (by simp)) (delim_groupsText (by omega) h gs),
      readGroups_groupsText h gs (i + 1) (fun x hx => hlt x (by simp [hx])) (by omega)
        (by rwa [Nat.add_right_comm, Nat.add_assoc])]

/-- The text of some groups reads back. -/
theorem readGroups_showGroups {limit : ℕ} {gs : List ℕ} {rest : List Char}
    (hlt : ∀ g ∈ gs, g < 65536) (hle : gs.length ≤ limit) (h : Delim rest)
    (hstop : gs.length = limit ∨ Blocks gs.length rest) :
    readGroups limit 0 (showGroups gs ++ rest) = (gs, false, rest) := by
  rw [showGroups_eq]
  exact readGroups_groupsText h gs 0 hlt (by omega) (by rwa [Nat.zero_add])

/-! ## The elided run of zeros -/

/-- The groups of the run are there and are zero. -/
def ZeroRun (segs : List ℕ) (s : Span) : Prop :=
  ∀ k, s.start ≤ k → k < s.start + s.len → segs[k]? = some 0

/-- The longest run found is a run of zeros. -/
theorem zeroRun_longestZeros {segs : List ℕ} : ∀ (ss : List ℕ) (i : ℕ) (longest current : Span),
    segs.drop i = ss → ZeroRun segs longest → ZeroRun segs current →
      (0 < current.len → current.start + current.len = i) →
      ZeroRun segs (longestZeros ss i longest current)
  | [], _, _, _, _, hl, _, _ => hl
  | s :: ss, i, longest, current, hdrop, hl, hc, hi => by
    have hss : segs.drop (i + 1) = ss := by
      rw [← List.drop_drop, hdrop]
      rfl
    rw [longestZeros]
    split
    next hs =>
      have hget : segs[i]? = some 0 := by
        have : (segs.drop i)[0]? = some s := by rw [hdrop]; rfl
        rwa [List.getElem?_drop, Nat.add_zero, hs] at this
      set current' : Span := ⟨if current.len = 0 then i else current.start, current.len + 1⟩
        with hcur
      have hi' : current'.start + current'.len = i + 1 := by
        simp only [hcur]
        split <;> omega
      have hc' : ZeroRun segs current' := by
        intro k hk hlt
        rw [hi'] at hlt
        rcases Nat.lt_succ_iff_lt_or_eq.1 hlt with hki | rfl
        · simp only [hcur] at hk
          split at hk
          · omega
          · exact hc k hk (by omega)
        · exact hget
      refine zeroRun_longestZeros ss (i + 1) _ _ hss ?_ hc' fun _ => hi'
      split
      · exact hc'
      · exact hl
    next =>
      refine zeroRun_longestZeros ss (i + 1) _ _ hss hl ?_ ?_
      · intro k hk hlt
        simp at hlt
      · simp

/-- The run that is left out is of zeros. -/
theorem zeroRun_zeroSpan (segs : List ℕ) : ZeroRun segs (zeroSpan segs) := by
  have hnil : ZeroRun segs ⟨0, 0⟩ := by
    intro k _ hlt
    simp at hlt
  exact zeroRun_longestZeros segs 0 _ _ rfl hnil hnil (by simp)

/-- A list with a run of zeros is what is before it, the zeros and what is after it. -/
theorem eq_append_of_zeroRun {segs : List ℕ} {s : Span} (h : ZeroRun segs s) (hs : 0 < s.len) :
    s.start + s.len ≤ segs.length ∧
      segs.take s.start ++ List.replicate s.len 0 ++ segs.drop (s.start + s.len) = segs := by
  have hle : s.start + s.len ≤ segs.length := by
    have := h (s.start + s.len - 1) (by omega) (by omega)
    obtain ⟨hlt, -⟩ := List.getElem?_eq_some_iff.1 this
    omega
  refine ⟨hle, ?_⟩
  have hmid : (segs.drop s.start).take s.len = List.replicate s.len 0 := by
    refine List.eq_replicate_iff.2 ⟨by rw [List.length_take, List.length_drop]; omega, ?_⟩
    intro x hx
    obtain ⟨k, hk, rfl⟩ := List.getElem_of_mem hx
    rw [List.length_take, List.length_drop] at hk
    have := h (s.start + k) (by omega) (by omega)
    obtain ⟨hlt, hget⟩ := List.getElem?_eq_some_iff.1 this
    simpa using hget
  rw [← hmid, List.append_assoc, ← List.drop_drop, List.take_append_drop, List.take_append_drop]

/-! ## IPv6 addresses -/

/-- An IPv4-mapped address reads back. -/
theorem readV6_mapped {s t : ℕ} (hs : s < 65536) (ht : t < 65536) (rest : List Char) :
    readV6 (':' :: ':' :: 'f' :: 'f' :: 'f' :: 'f' :: ':' ::
      showV4 [s / 256, s % 256, t / 256, t % 256] ++ ']' :: rest) =
      some ([0, 0, 0, 0, 0, 65535, s, t], ']' :: rest) := by
  set dotted := showV4 [s / 256, s % 256, t / 256, t % 256] ++ ']' :: rest with hdotted
  have htext : ':' :: ':' :: 'f' :: 'f' :: 'f' :: 'f' :: ':' ::
      showV4 [s / 256, s % 256, t / 256, t % 256] ++ ']' :: rest =
      ':' :: ':' :: (sepText 0 ++ (Nat.toDigits 16 65535 ++ (':' :: dotted))) := rfl
  have hv4 : readV4 dotted = some ([s / 256, s % 256, t / 256, t % 256], ']' :: rest) :=
    readV4_showV4 (by omega) (by omega) (by omega) (by omega) (delim_bracket rest).stops
  have htail : readGroups 7 1 (':' :: dotted) = ([s, t], true, ']' :: rest) := by
    rw [readGroups]
    simp [readSeparator, readChar, hv4, Nat.div_add_mod']
  rw [htext, readV6, readGroups_of_blocks (blocks_colons 0 _)]
  simp only [List.length_nil, Nat.zero_add, readChar_self, Option.bind_eq_bind, Option.bind_some]
  rw [readGroups_cons (by decide) (by decide) (delim_colon _), htail]
  rfl

/-- Printed groups read back, up to the closing bracket. -/
theorem readV6_showSegments {segs : List ℕ} (hlen : segs.length = 8) (hlt : ∀ s ∈ segs, s < 65536)
    (rest : List Char) : readV6 (showSegments segs ++ ']' :: rest) = some (segs, ']' :: rest) := by
  unfold showSegments
  split
  next hmapped =>
    obtain ⟨s, t, hst⟩ : ∃ s t, segs.drop 6 = [s, t] :=
      List.length_eq_two.1 (by rw [List.length_drop, hlen])
    have hsegs : segs = [0, 0, 0, 0, 0, 65535, s, t] := by
      rw [← List.take_append_drop 6 segs, hmapped, hst]
      rfl
    rw [hst]
    have hs : s < 65536 := hlt s (by rw [hsegs]; simp)
    have ht : t < 65536 := hlt t (by rw [hsegs]; simp)
    rw [hsegs]
    exact readV6_mapped hs ht rest
  next =>
    dsimp only
    split
    next hz =>
      obtain ⟨hle, happ⟩ := eq_append_of_zeroRun (zeroRun_zeroSpan segs) (Nat.zero_lt_of_lt hz)
      set z := zeroSpan segs
      rw [hlen] at hle
      have hhead : (segs.take z.start).length = z.start := by
        rw [List.length_take]
        omega
      have htail : (segs.drop (z.start + z.len)).length = 8 - (z.start + z.len) := by
        rw [List.length_drop, hlen]
      rw [List.append_assoc, List.cons_append, List.cons_append, readV6,
        readGroups_showGroups (fun g hg => hlt g (List.mem_of_mem_take hg)) (by omega)
          (delim_colon _) (Or.inr (blocks_colons _ _))]
      simp only [hhead, readChar_self, Bool.false_eq_true, if_false, Option.bind_eq_bind,
        Option.bind_some]
      rw [if_neg (by omega)]
      rw [readGroups_showGroups (fun g hg => hlt g (List.mem_of_mem_drop hg)) (by omega)
        (delim_bracket rest) (Or.inr (blocks_bracket _ _))]
      simp only [htail]
      rw [show 8 - z.start - (8 - (z.start + z.len)) = z.len by omega, happ]
    next =>
      rw [readV6, readGroups_showGroups hlt hlen.le (delim_bracket rest) (Or.inl hlen)]
      simp [hlen]

theorem segments_lt (octets : Vector UInt8 16) : ∀ s ∈ segments octets, s < 65536 := by
  intro s hs
  obtain ⟨k, rfl⟩ := List.mem_ofFn.1 hs
  have h₁ := octets[2 * k.val].toNat_lt
  have h₂ := octets[2 * k.val + 1].toNat_lt
  omega

/-- The octets of an address are those of its groups. -/
theorem octetsOf_segments (octets : Vector UInt8 16) : octetsOf (segments octets) = octets := by
  refine Vector.ext fun j hj => ?_
  have hget : ∀ k, (hk : k < 8) → (segments octets).getD k 0 =
      octets[2 * k].toNat * 256 + octets[2 * k + 1].toNat := by
    intro k hk
    interval_cases k <;> simp [segments]
  simp only [octetsOf, Vector.getElem_ofFn]
  obtain ⟨k, rfl | rfl⟩ : ∃ k, j = 2 * k ∨ j = 2 * k + 1 := ⟨j / 2, by omega⟩
  · have hlt := octets[2 * k + 1].toNat_lt
    rw [if_pos (by omega), show 2 * k / 2 = k by omega, hget k (by omega),
      show (octets[2 * k].toNat * 256 + octets[2 * k + 1].toNat) / 256 = octets[2 * k].toNat by
        omega, UInt8.ofNat_toNat]
  · have hlt := octets[2 * k + 1].toNat_lt
    rw [if_neg (by omega), show (2 * k + 1) / 2 = k by omega, hget k (by omega)]
    apply UInt8.toNat_inj.1
    rw [UInt8.toNat_ofNat']
    omega

/-! ## Socket addresses -/

/-- The text of a port reads back. -/
theorem readPort_toDigits (port : UInt16) :
    readPort (':' :: Nat.toDigits 10 port.toNat) = some (port.toNat, []) := by
  have h : readNumber 10 none true 65536 (Nat.toDigits 10 port.toNat ++ []) =
      some (port.toNat, []) :=
    readNumber_toDigits true (by decide) (by decide) port.toNat_lt (by simp) (by simp [Stops])
  rw [List.append_nil] at h
  simp [readPort, h]

/-- An IPv4 address with a port reads back. -/
theorem readSocketV4_chars (bits : UInt32) (port : UInt16) :
    readSocketV4 (SocketAddr.chars ⟨.v4 bits, port⟩) = some (⟨.v4 bits, port⟩, []) := by
  have hlt := bits.toNat_lt
  have hoct : v4Octets bits = [bits.toNat / 16777216, bits.toNat / 65536 % 256,
      bits.toNat / 256 % 256, bits.toNat % 256] := by
    simp only [v4Octets, BigEndian.ofU32, List.map_cons, List.map_nil, UInt8.toNat_ofNat']
    congr 1
    omega
  have hread := readV4_showV4 (by omega : bits.toNat / 16777216 < 256)
    (by omega : bits.toNat / 65536 % 256 < 256) (by omega : bits.toNat / 256 % 256 < 256)
    (by omega : bits.toNat % 256 < 256) (delim_colon (Nat.toDigits 10 port.toNat)).stops
  have hval : UInt32.ofNat ((((0 * 256 + bits.toNat / 16777216) * 256 +
      bits.toNat / 65536 % 256) * 256 + bits.toNat / 256 % 256) * 256 + bits.toNat % 256) =
      bits := by
    rw [← UInt32.toNat_inj, UInt32.toNat_ofNat']
    omega
  simp only [SocketAddr.chars, IpAddr.chars, hoct, readSocketV4, hread, readPort_toDigits,
    Option.bind_eq_bind, Option.bind_some, List.foldl_cons, List.foldl_nil, hval,
    UInt16.ofNat_toNat]

/-- An IPv6 address with a port reads back. -/
theorem readSocketV6_chars (octets : Vector UInt8 16) (port : UInt16) :
    readSocketV6 (SocketAddr.chars ⟨.v6 octets, port⟩) = some (⟨.v6 octets, port⟩, []) := by
  have hlen : (segments octets).length = 8 := by simp [segments]
  have hread := readV6_showSegments hlen (segments_lt octets) (':' :: Nat.toDigits 10 port.toNat)
  have hscope : ∀ cs, readScope (']' :: cs) = ']' :: cs := fun cs => by simp [readScope, readChar]
  simp only [SocketAddr.chars, IpAddr.chars, readSocketV6, List.cons_append, readChar_self,
    Option.bind_eq_bind, Option.bind_some, hread, hscope, readPort_toDigits, octetsOf_segments,
    UInt16.ofNat_toNat]

/-- A printed address reads back. -/
@[simp] theorem SocketAddr.parse_display (addr : SocketAddr) :
    SocketAddr.parse (toString addr) = some addr := by
  obtain ⟨bits | octets, port⟩ := addr
  · simp only [SocketAddr.parse, toString, SocketAddr.display, String.toList_ofList,
      readSocketV4_chars]
    rfl
  · have hv4 : readSocketV4 (SocketAddr.chars ⟨.v6 octets, port⟩) = none := by
      have : readV4 (SocketAddr.chars ⟨.v6 octets, port⟩) = none :=
        readV4_eq_none (by simp [SocketAddr.chars, toDigit])
      simp [readSocketV4, this]
    simp only [SocketAddr.parse, toString, SocketAddr.display, String.toList_ofList, hv4,
      readSocketV6_chars]
    rfl

/-- Different addresses print differently. -/
theorem SocketAddr.toString_injective :
    Function.Injective (toString : SocketAddr → String) := fun a b h =>
  Option.some.inj (by rw [← SocketAddr.parse_display a, h, SocketAddr.parse_display])

end NetAddr
