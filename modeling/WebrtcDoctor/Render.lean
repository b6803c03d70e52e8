import WebrtcDoctor.ByteIndex
import WebrtcDoctor.Ipv6Text
import WebrtcDoctor.ReportJson

/-!
# The pretty report

`render.rs` without colours, as it prints where the output is not a terminal. `pretty` is the text
it prints : a header, a row for each result with the candidates under that of `ice.gather`, and the
counts with the verdict. The columns are padded by characters to widths in bytes.

What a subcommand prints reads back (`pretty_reads_back`) : `readPretty` finds in the text the
verdict, and for each result its status, id and summary, and the candidates in its detail. That is
so where the texts shown are of one line each (`Report.OneLine`). A summary can quote a server, and
with a line break in it two reports can print the same text.
-/

open NetAddr ByteIndex

namespace WebrtcDoctor

/-! ## Printing -/

/-- The version of the library. -/
def version : String := "0.7.0"

/-- `{:<width$}`. -/
def padRight (width : ℕ) (s : String) : String :=
  s ++ String.ofList (List.replicate (width - s.length) ' ')

/-- The greatest length in bytes, zero of no texts. -/
def maxLen (texts : List String) : ℕ := ((texts.map fun s => byteLen s.toList).max?).getD 0

/-- The mark in front of a result. -/
def CheckStatus.glyph : CheckStatus → Char
  | .pass => '✓'
  | .warn => '⚠'
  | .fail => '✗'
  | .skip => '·'

/-- The verdict in capitals. -/
def Verdict.label : Verdict → String
  | .healthy => "HEALTHY"
  | .warnings => "WARNINGS"
  | .failed => "FAILED"

/-- An IPv6 address in brackets. -/
def formatEndpoint (addr : String) (port : UInt16) : String :=
  if ':' ∈ addr.toList then s!"[{addr}]:{port}" else s!"{addr}:{port}"

/-- The kind, endpoint and suffix of a candidate in the detail. -/
def renderCandidate (c : Json) : Option (String × String × String) := do
  let kind ← (← c.get? "kind").asStr?
  let addr ← (← c.get? "address").asStr?
  let port := (← c.get? "port").asU64?.getD 0
  let suffix :=
    match (c.get? "interface").bind Json.asStr?, (c.get? "via").bind Json.asStr? with
    | some iface, _ => "(" ++ iface ++ ")"
    | none, some via => "via " ++ via
    | none, none => ""
  return (kind, formatEndpoint addr (UInt16.ofNat port), suffix)

/-- A candidate in three columns, under the row of its result. -/
def candidateLine (addrW : ℕ) (row : String × String × String) : String :=
  "      " ++ padRight 5 row.1 ++ "  " ++ padRight addrW row.2.1 ++ "  " ++ row.2.2

/-- The candidates in the detail of a result, as they are shown. -/
def renderedCandidates (r : CheckResult) : List (String × String × String) :=
  match (r.detail.bind fun detail => detail.get? "candidates").bind Json.asArray? with
  | none => []
  | some cands => cands.filterMap renderCandidate

/-- The candidates in the detail of a result, a line each. -/
def printCandidates (r : CheckResult) : List String :=
  let rendered := renderedCandidates r
  rendered.map (candidateLine (maxLen (rendered.map fun row => row.2.1)))

/-- The row of a result. -/
def resultLine (maxId : ℕ) (r : CheckResult) : String :=
  "  " ++ r.status.glyph.toString ++ " " ++ padRight maxId r.id ++ "  " ++ r.summary

/-- The row of a result and the lines under it. -/
def resultLines (maxId : ℕ) (r : CheckResult) : List String :=
  resultLine maxId r :: if r.id = "ice.gather" then printCandidates r else []

/-- The counts and the verdict. -/
def verdictLine (report : Report) : String :=
  let (p, w, f, s) := report.counts
  s!"{p} pass · {w} warn · {f} fail · {s} skip        verdict: " ++ report.verdict.label

/-- What is printed, one `println!` each. -/
def prettyLines (report : Report) (header : String) : List String :=
  let maxId := maxLen (report.results.map CheckResult.id)
  s!"webrtc-doctor {version} — {header}" :: report.results.flatMap (resultLines maxId) ++
    ["", verdictLine report]

/-- The text that is printed. Each `println!` ends with a line break. -/
def pretty (report : Report) (header : String) : String :=
  String.join ((prettyLines report header).map fun line => line ++ "\n")

/-- The texts in a row that the program does not choose : the summary, and the interfaces and
servers of the candidates under it. -/
def shownTexts (r : CheckResult) : List String :=
  r.summary :: if r.id = "ice.gather" then (renderedCandidates r).map fun row => row.2.2 else []

/-- No text that the report shows breaks a line. -/
def Report.OneLine (report : Report) (header : String) : Prop :=
  ∀ text ∈ header :: report.results.flatMap shownTexts, '\n' ∉ text.toList

instance (report : Report) (header : String) : Decidable (report.OneLine header) :=
  inferInstanceAs (Decidable (∀ text ∈ header :: report.results.flatMap shownTexts,
    '\n' ∉ text.toList))

/-! ## Reading -/

/-- A result as the report shows it. -/
structure Row where
  status : CheckStatus
  id : String
  summary : String
  candidates : List Candidate
deriving DecidableEq

/-- The status of a mark. -/
def CheckStatus.ofGlyph? (c : Char) : Option CheckStatus :=
  [CheckStatus.pass, .warn, .fail, .skip].find? fun status => status.glyph = c

/-- The verdict at the end of the last line. The last letters of the three differ. -/
def Verdict.ofLine? (line : String) : Option Verdict :=
  [Verdict.healthy, .warnings, .failed].find? fun v =>
    v.label.toList.getLast? = line.toList.getLast?

/-- The kind of a candidate, in lower case only. -/
def CandidateKind.ofText? (text : String) : Option CandidateKind :=
  [CandidateKind.host, .srflx, .relay].find? fun kind => kind.text = text

/-- The text up to the first blank. -/
def word (cs : List Char) : String := String.ofList (cs.takeWhile fun c => c ≠ ' ')

/-- The text after the first blanks. -/
def afterWord (cs : List Char) : List Char :=
  (cs.dropWhile fun c => c ≠ ' ').dropWhile fun c => c = ' '

/-- The interface and the server of a candidate. -/
def readSuffix : List Char → Option String × Option String
  | '(' :: cs => (some (String.ofList cs.dropLast), none)
  | 'v' :: 'i' :: 'a' :: ' ' :: cs => (none, some (String.ofList cs))
  | _ => (none, none)

/-- A candidate, from its line. -/
def readCandidate (line : String) : Option Candidate := do
  let kind ← CandidateKind.ofText? (word (line.toList.drop 6))
  let addr ← SocketAddr.parse (word (line.toList.drop 13))
  let (interface, via) := readSuffix (afterWord (line.toList.drop 13))
  return ⟨kind, toString addr.ip, addr.port, interface, via⟩

/-- Whether a line is of a result, and not of a candidate. -/
def isResult (line : String) : Bool := line.toList.getD 2 ' ' ≠ ' '

/-- The id in the row of a result. -/
def readId (line : String) : String := word (line.toList.drop 4)

/-- A result, from its row and the candidates under it. -/
def readResult (maxId : ℕ) (line : String) (candidates : List Candidate) : Option Row := do
  let status ← CheckStatus.ofGlyph? (line.toList.getD 2 ' ')
  return ⟨status, readId line, String.ofList (line.toList.drop (maxId + 6)), candidates⟩

/-- The candidates before the first result, and the results. -/
def readRows (maxId : ℕ) : List String → Option (List Candidate × List Row)
  | [] => some ([], [])
  | line :: lines => do
    let (candidates, rows) ← readRows maxId lines
    if isResult line then return ([], (← readResult maxId line candidates) :: rows)
    else return ((← readCandidate line) :: candidates, rows)

/-- The lines of a text in which each line is ended by a line break. -/
def readLines (text : String) : List String :=
  (text.toList.splitOn '\n').dropLast.map String.ofList

/-- The verdict and the results, from the text of a report. -/
def readPretty (text : String) : Option (Verdict × List Row) := do
  let lines := readLines text
  let body := lines.tail.dropLast.dropLast
  let (candidates, rows) ← readRows (maxLen ((body.filter isResult).map readId)) body
  guard candidates.isEmpty
  return (← Verdict.ofLine? (lines.getLast?.getD ""), rows)

/-! ## The text of an address -/

theorem mem_of_mem_intercalate {sep c : Char} : ∀ {xss : List (List Char)},
    c ∈ List.intercalate [sep] xss → c = sep ∨ ∃ xs ∈ xss, c ∈ xs
  | [], h => by simp at h
  | [xs], h => Or.inr ⟨xs, by simp, by simpa using h⟩
  | xs :: ys :: xss, h => by
    rw [List.intercalate_cons_cons, List.mem_append, List.mem_append] at h
    rcases h with (h | h) | h
    · exact Or.inr ⟨xs, by simp, h⟩
    · exact Or.inl (List.mem_singleton.1 h)
    · rcases mem_of_mem_intercalate h with h | ⟨zs, hzs, h⟩
      · exact Or.inl h
      · exact Or.inr ⟨zs, List.mem_cons_of_mem _ hzs, h⟩

theorem notMem_toDigits {radix n : ℕ} {c : Char} (h1 : 1 < radix) (hr : radix ≤ 16)
    (hc : toDigit radix c = none) : c ∉ Nat.toDigits radix n := by
  intro h
  have hsome := isSome_toDigit_of_mem h1 hr n c h
  rw [hc] at hsome
  cases hsome

/-- A character that stands in no address. -/
def NotInAddress (c : Char) : Prop :=
  toDigit 10 c = none ∧ toDigit 16 c = none ∧ c ∉ [':', '.', '[', ']']

instance (c : Char) : Decidable (NotInAddress c) :=
  inferInstanceAs (Decidable (_ ∧ _ ∧ _))

theorem notMem_showV4 {os : List ℕ} {c : Char} (hc : toDigit 10 c = none) (hdot : c ≠ '.') :
    c ∉ showV4 os := by
  intro h
  rcases mem_of_mem_intercalate h with h | ⟨xs, hxs, h⟩
  · exact hdot h
  · obtain ⟨o, -, rfl⟩ := List.mem_map.1 hxs
    exact notMem_toDigits (by decide) (by decide) hc h

namespace NotInAddress

variable {c : Char}

theorem ne_of_mem (h : NotInAddress c) {d : Char} (hd : d ∈ [':', '.', '[', ']']) : c ≠ d := by
  rintro rfl
  exact h.2.2 hd

theorem notMem_showGroups (h : NotInAddress c) (segs : List ℕ) : c ∉ showGroups segs := by
  intro hmem
  rcases mem_of_mem_intercalate hmem with hsep | ⟨xs, hxs, hmem⟩
  · exact h.ne_of_mem (by decide) hsep
  · obtain ⟨s, -, rfl⟩ := List.mem_map.1 hxs
    exact notMem_toDigits (by decide) (by decide) h.2.1 hmem

theorem notMem_showSegments (h : NotInAddress c) (segs : List ℕ) : c ∉ showSegments segs := by
  have hcolon : c ≠ ':' := h.ne_of_mem (by decide)
  have hdigit : ∀ d, (toDigit 16 d).isSome → c ≠ d := by
    rintro d hd rfl
    rw [h.2.1] at hd
    cases hd
  unfold showSegments
  split
  · have hv4 : ∀ os, c ∉ showV4 os := fun os => notMem_showV4 h.1 (h.ne_of_mem (by decide))
    simp [hv4, hcolon, hdigit 'f' (by decide)]
  dsimp only
  split
  · simp [h.notMem_showGroups, hcolon]
  · exact h.notMem_showGroups segs

/-- The text of an address and a port. -/
theorem notMem_chars (h : NotInAddress c) (addr : SocketAddr) : c ∉ addr.chars := by
  have hport : c ∉ Nat.toDigits 10 addr.port.toNat :=
    notMem_toDigits (by decide) (by decide) h.1
  have hcolon : c ≠ ':' := h.ne_of_mem (by decide)
  obtain ⟨bits | octets, port⟩ := addr
  · have hip : c ∉ showV4 (v4Octets bits) := notMem_showV4 h.1 (h.ne_of_mem (by decide))
    simp [SocketAddr.chars, IpAddr.chars, hport, hip, hcolon]
  · have hopen : c ≠ '[' := h.ne_of_mem (by decide)
    have hclose : c ≠ ']' := h.ne_of_mem (by decide)
    simp [SocketAddr.chars, IpAddr.chars, hport, h.notMem_showSegments, hcolon, hopen, hclose]

end NotInAddress

theorem colon_mem_showSegments (octets : Vector UInt8 16) :
    ':' ∈ showSegments (segments octets) := by
  have hlen : (segments octets).length = 8 := List.length_ofFn
  have hread := readV6_showSegments hlen (segments_lt octets) []
  have hcount := (consumes_readV6 hread).2
  rw [List.count_append] at hcount
  exact List.count_pos_iff.1 (by omega)

/-- The endpoint is the text of the socket address. -/
theorem formatEndpoint_toString (ip : IpAddr) (port : UInt16) :
    formatEndpoint (toString ip) port = toString (SocketAddr.mk ip port) := by
  have hip : (toString ip).toList = ip.chars := String.toList_ofList
  have hport : (toString port).toList = Nat.toDigits 10 port.toNat := String.toList_ofList
  refine String.toList_injective ?_
  rw [show (toString (SocketAddr.mk ip port)).toList = (SocketAddr.mk ip port).chars from
    String.toList_ofList, formatEndpoint, hip]
  cases ip with
  | v4 bits =>
    have hno : ':' ∉ (IpAddr.v4 bits).chars := notMem_showV4 (by decide) (by decide)
    rw [if_neg hno]
    show (toString (IpAddr.v4 bits) ++ ":" ++ toString port).toList = _
    simp [SocketAddr.chars, hip, hport]
  | v6 octets =>
    have hcolon : ':' ∈ (IpAddr.v6 octets).chars := colon_mem_showSegments octets
    rw [if_pos hcolon]
    show ("[" ++ toString (IpAddr.v6 octets) ++ "]:" ++ toString port).toList = _
    simp [SocketAddr.chars, hip, hport]

/-! ## Columns -/

/-- A text padded to a column of `width` and the two blanks after it. -/
def column (width : ℕ) (s : String) : List Char :=
  s.toList ++ List.replicate (width - s.length + 2) ' '

theorem toList_padRight_append (width : ℕ) (s rest : String) :
    (padRight width s ++ "  " ++ rest).toList = column width s ++ rest.toList := by
  simp only [padRight, column, String.toList_append, String.toList_ofList, List.append_assoc,
    List.replicate_add]
  rfl

theorem length_column {width : ℕ} {s : String} (h : s.length ≤ width) :
    (column width s).length = width + 2 := by
  rw [column, List.length_append, List.length_replicate, String.length_toList]
  omega

theorem word_column_append {s : String} (h : ' ' ∉ s.toList) (width : ℕ) (rest : List Char) :
    word (column width s ++ rest) = s := by
  have hne : ∀ c ∈ s.toList, decide (c ≠ ' ') := fun c hc => by
    rw [decide_eq_true_iff]
    rintro rfl
    exact h hc
  rw [word, column, List.append_assoc, List.takeWhile_append_of_pos hne]
  simp [List.replicate_succ]

theorem afterWord_column_append {s : String} {rest : List Char} (h : ' ' ∉ s.toList)
    (hrest : rest.head? ≠ some ' ') (width : ℕ) : afterWord (column width s ++ rest) = rest := by
  have hne : ∀ c ∈ s.toList, decide (c ≠ ' ') := fun c hc => by
    rw [decide_eq_true_iff]
    rintro rfl
    exact h hc
  have hblank : ∀ n,
      (List.replicate n ' ' ++ rest).dropWhile (fun c => decide (c = ' ')) = rest := by
    intro n
    rw [List.dropWhile_append_of_pos fun c hc => by simp [List.eq_of_mem_replicate hc]]
    cases rest with
    | nil => rfl
    | cons c cs => simpa using hrest
  rw [afterWord, column, List.append_assoc, List.dropWhile_append_of_pos hne,
    List.replicate_succ, List.cons_append, List.dropWhile_cons_of_neg (by simp),
    ← List.cons_append, ← List.replicate_succ, hblank]

theorem length_le_byteLen (cs : List Char) : cs.length ≤ byteLen cs := by
  induction cs with
  | nil => exact le_rfl
  | cons c cs ih =>
    have hpos := c.utf8Size_pos
    rw [List.length_cons, byteLen_cons]
    omega

theorem length_le_maxLen {texts : List String} {s : String} (h : s ∈ texts) :
    s.length ≤ maxLen texts := by
  have hmem : byteLen s.toList ∈ texts.map fun s => byteLen s.toList := List.mem_map_of_mem h
  have hle : byteLen s.toList ≤ maxLen texts := by
    rw [maxLen]
    cases hmax : (texts.map fun s => byteLen s.toList).max? with
    | none =>
      rw [List.max?_eq_none_iff.1 hmax] at hmem
      cases hmem
    | some m => exact (List.max?_eq_some_iff.1 hmax).2 _ hmem
  rw [← String.length_toList]
  exact (length_le_byteLen _).trans hle

/-! ## Candidates -/

namespace Candidate

/-- A candidate as the check gathers it. -/
structure Plain (c : Candidate) : Prop where
  address : ∃ ip : IpAddr, c.address = toString ip
  origin : c.interface = none ∨ c.via = none

/-- Where a candidate comes from, as its line ends. -/
def suffix (c : Candidate) : String :=
  match c.interface, c.via with
  | some iface, _ => "(" ++ iface ++ ")"
  | none, some via => "via " ++ via
  | none, none => ""

/-- The line of a candidate. -/
def line (addrW : ℕ) (c : Candidate) : String :=
  candidateLine addrW (c.kind.text, formatEndpoint c.address c.port, c.suffix)

theorem renderCandidate_toJson (c : Candidate) : renderCandidate c.toJson =
    some (c.kind.text, formatEndpoint c.address c.port, c.suffix) := by
  obtain ⟨kind, address, port, interface, via⟩ := c
  cases interface <;> cases via <;>
    simp [renderCandidate, Candidate.toJson, Candidate.suffix, Json.get?, Json.asStr?]

theorem readSuffix_suffix {c : Candidate} (h : c.Plain) :
    readSuffix c.suffix.toList = (c.interface, c.via) := by
  obtain ⟨kind, address, port, interface, via⟩ := c
  obtain ⟨-, horigin⟩ := h
  rcases interface with _ | iface
  · rcases via with _ | via
    · rfl
    · simp [Candidate.suffix, readSuffix]
  · obtain rfl : via = none := by simpa using horigin
    simp [Candidate.suffix, readSuffix]

theorem head?_suffix (c : Candidate) : c.suffix.toList.head? ≠ some ' ' := by
  obtain ⟨kind, address, port, interface, via⟩ := c
  rcases interface with _ | iface
  · rcases via with _ | via <;> simp [Candidate.suffix]
  · simp [Candidate.suffix]

theorem toList_line (addrW : ℕ) (c : Candidate) : (c.line addrW).toList =
    List.replicate 6 ' ' ++ (column 5 c.kind.text ++
      (column addrW (formatEndpoint c.address c.port) ++ c.suffix.toList)) := by
  rw [← toList_padRight_append addrW, ← toList_padRight_append 5]
  simp [line, candidateLine, String.toList_append]

/-- A candidate's line is not taken for the line of a result. -/
theorem isResult_line (addrW : ℕ) (c : Candidate) : isResult (c.line addrW) = false := by
  rw [isResult, toList_line]
  rfl

/-- The line of a candidate reads back. -/
theorem readCandidate_line {c : Candidate} (h : c.Plain) (addrW : ℕ) :
    readCandidate (c.line addrW) = some c := by
  obtain ⟨ip, hip⟩ := h.address
  have hend : formatEndpoint c.address c.port = toString (SocketAddr.mk ip c.port) := by
    rw [hip, formatEndpoint_toString]
  have hblank : ' ' ∉ (formatEndpoint c.address c.port).toList := by
    rw [hend]
    exact String.toList_ofList ▸ NotInAddress.notMem_chars (by decide) _
  have hkind : ' ' ∉ c.kind.text.toList ∧ c.kind.text.length ≤ 5 ∧
      CandidateKind.ofText? c.kind.text = some c.kind := by
    cases c.kind <;> decide
  have hdrop6 : (c.line addrW).toList.drop 6 = column 5 c.kind.text ++
      (column addrW (formatEndpoint c.address c.port) ++ c.suffix.toList) := by
    rw [toList_line]
    rfl
  have hdrop13 : (c.line addrW).toList.drop 13 =
      column addrW (formatEndpoint c.address c.port) ++ c.suffix.toList := by
    rw [show 13 = 6 + 7 from rfl, ← List.drop_drop, hdrop6,
      List.drop_left' (length_column hkind.2.1)]
  rw [readCandidate, hdrop6, hdrop13, word_column_append hkind.1, word_column_append hblank,
    afterWord_column_append hblank c.head?_suffix, hkind.2.2, hend, readSuffix_suffix h]
  have hparse : SocketAddr.parse (toString (SocketAddr.mk ip c.port)) = some ⟨ip, c.port⟩ :=
    SocketAddr.parse_display _
  rw [hparse]
  exact congrArg some (by rw [← hip])

end Candidate

theorem renderedCandidates_eq {r : CheckResult} {cands : List Candidate}
    (h : r.detail = some (IceGatherCheck.detail cands)) : renderedCandidates r =
      cands.map fun c => (c.kind.text, formatEndpoint c.address c.port, c.suffix) := by
  rw [renderedCandidates, h]
  show (cands.map Candidate.toJson).filterMap renderCandidate = _
  rw [List.filterMap_map, ← List.filterMap_eq_map]
  exact congrFun (congrArg List.filterMap (funext Candidate.renderCandidate_toJson)) cands

/-- Under the row of `ice.gather` stand the candidates of its detail. -/
theorem printCandidates_eq {r : CheckResult} {cands : List Candidate}
    (h : r.detail = some (IceGatherCheck.detail cands)) :
    printCandidates r = cands.map (Candidate.line
      (maxLen (cands.map fun c => formatEndpoint c.address c.port))) := by
  rw [printCandidates, renderedCandidates_eq h, List.map_map, List.map_map]
  rfl

theorem printCandidates_of_none {r : CheckResult} (h : r.detail = none) :
    printCandidates r = [] := by
  rw [printCandidates, renderedCandidates, h]
  rfl

theorem readRows_candidates {maxId : ℕ} (addrW : ℕ) {lines : List String} {cs : List Candidate}
    {rows : List Row} (hlines : readRows maxId lines = some (cs, rows)) :
    ∀ {cands : List Candidate}, (∀ c ∈ cands, c.Plain) →
      readRows maxId (cands.map (Candidate.line addrW) ++ lines) = some (cands ++ cs, rows)
  | [], _ => hlines
  | c :: cands, h => by
    have ih := readRows_candidates addrW hlines fun c' hc' => h c' (List.mem_cons_of_mem _ hc')
    rw [List.map_cons, List.cons_append, readRows, ih]
    simp [Candidate.isResult_line, Candidate.readCandidate_line (h c (List.mem_cons_self ..))]

/-! ## Results -/

theorem toList_resultLine (maxId : ℕ) (r : CheckResult) : (resultLine maxId r).toList =
    [' ', ' ', r.status.glyph, ' '] ++ (column maxId r.id ++ r.summary.toList) := by
  rw [← toList_padRight_append]
  simp [resultLine, String.toList_append, Char.toString]

theorem isResult_resultLine (maxId : ℕ) (r : CheckResult) : isResult (resultLine maxId r) := by
  have hglyph : r.status.glyph ≠ ' ' := by
    cases r.status <;> decide
  rw [isResult, toList_resultLine]
  simpa using hglyph

/-- The id is the first word after the glyph. -/
theorem readId_resultLine {r : CheckResult} (h : ' ' ∉ r.id.toList) (maxId : ℕ) :
    readId (resultLine maxId r) = r.id := by
  rw [readId, toList_resultLine]
  exact word_column_append h _ _

/-- The row of a result reads back, above its candidates. -/
theorem readResult_resultLine {r : CheckResult} {maxId : ℕ} (h : ' ' ∉ r.id.toList)
    (hid : r.id.length ≤ maxId) (candidates : List Candidate) :
    readResult maxId (resultLine maxId r) candidates =
      some ⟨r.status, r.id, r.summary, candidates⟩ := by
  have hstatus : CheckStatus.ofGlyph? r.status.glyph = some r.status := by
    cases r.status <;> decide
  have hsummary : (resultLine maxId r).toList.drop (maxId + 6) = r.summary.toList := by
    rw [toList_resultLine, show maxId + 6 = 4 + (maxId + 2) by omega, ← List.drop_drop]
    exact List.drop_left' (length_column hid)
  rw [readResult, readId_resultLine h, hsummary, toList_resultLine]
  simp [hstatus]

/-- The row shows the result, and under `ice.gather` the candidates of its detail. -/
structure Row.Shows (row : Row) (r : CheckResult) : Prop where
  status : row.status = r.status
  id : row.id = r.id
  summary : row.summary = r.summary
  candidates : if r.id = IceGatherCheck.id then
      r.detail = some (IceGatherCheck.detail row.candidates) ∨
        r.detail = none ∧ row.candidates = []
    else row.candidates = []

/-- What can be told from a printed result. -/
structure Printable (r : CheckResult) : Prop where
  id : ' ' ∉ r.id.toList
  idLine : '\n' ∉ r.id.toList
  detail : r.id = IceGatherCheck.id → r.detail = none ∨
    ∃ cands : List Candidate, (∀ c ∈ cands, c.Plain) ∧ r.detail = some (IceGatherCheck.detail cands)

theorem readRows_resultLines {r : CheckResult} (h : Printable r) {maxId : ℕ}
    (hid : r.id.length ≤ maxId) {lines : List String} {rows : List Row}
    (hlines : readRows maxId lines = some ([], rows)) :
    ∃ row : Row, row.Shows r ∧
      readRows maxId (resultLines maxId r ++ lines) = some ([], row :: rows) := by
  have hcands : ∃ cands, readRows maxId ((if r.id = "ice.gather" then printCandidates r else []) ++
      lines) = some (cands, rows) ∧ (⟨r.status, r.id, r.summary, cands⟩ : Row).Shows r := by
    by_cases hice : r.id = IceGatherCheck.id
    · rw [if_pos (show r.id = "ice.gather" from hice)]
      rcases h.detail hice with hnone | ⟨cands, hplain, hdetail⟩
      · refine ⟨[], ?_, rfl, rfl, rfl, by rw [if_pos hice]; exact Or.inr ⟨hnone, rfl⟩⟩
        rw [printCandidates_of_none hnone]
        exact hlines
      · refine ⟨cands, ?_, rfl, rfl, rfl, by rw [if_pos hice]; exact Or.inl hdetail⟩
        rw [printCandidates_eq hdetail, readRows_candidates _ hlines hplain, List.append_nil]
    · rw [if_neg (show ¬r.id = "ice.gather" from hice)]
      exact ⟨[], hlines, rfl, rfl, rfl, by rw [if_neg hice]⟩
  obtain ⟨cands, hread, hshows⟩ := hcands
  refine ⟨_, hshows, ?_⟩
  rw [resultLines, List.cons_append, readRows, hread]
  simp [isResult_resultLine, readResult_resultLine h.id hid]

theorem readRows_flatMap {maxId : ℕ} : ∀ {results : List CheckResult},
    (∀ r ∈ results, Printable r) → (∀ r ∈ results, r.id.length ≤ maxId) →
    ∃ rows, readRows maxId (results.flatMap (resultLines maxId)) = some ([], rows) ∧
      List.Forall₂ Row.Shows rows results
  | [], _, _ => ⟨[], rfl, .nil⟩
  | r :: results, h, hid => by
    obtain ⟨rows, hrows, hshows⟩ := readRows_flatMap
      (fun r' hr' => h r' (List.mem_cons_of_mem _ hr'))
      (fun r' hr' => hid r' (List.mem_cons_of_mem _ hr'))
    obtain ⟨row, hrow, hread⟩ := readRows_resultLines (h r (List.mem_cons_self ..))
      (hid r (List.mem_cons_self ..)) hrows
    exact ⟨row :: rows, hread, .cons hrow hshows⟩

/-! ## The report -/

/-- The ids can be read before the width of their column is known. -/
theorem readId_flatMap {results : List CheckResult} (h : ∀ r ∈ results, Printable r) (maxId : ℕ) :
    ((results.flatMap (resultLines maxId)).filter isResult).map readId =
      results.map CheckResult.id := by
  have hone : ∀ r ∈ results, (resultLines maxId r).filter isResult = [resultLine maxId r] := by
    intro r hr
    rw [resultLines, List.filter_cons_of_pos (isResult_resultLine maxId r)]
    refine congrArg (resultLine maxId r :: ·) (List.filter_eq_nil_iff.2 fun line hline => ?_)
    split at hline
    · next hice =>
      rcases (h r hr).detail hice with hnone | ⟨cands, -, hdetail⟩
      · rw [printCandidates_of_none hnone] at hline
        cases hline
      · rw [printCandidates_eq hdetail] at hline
        obtain ⟨c, -, rfl⟩ := List.mem_map.1 hline
        rw [Candidate.isResult_line]
        exact Bool.false_ne_true
    · cases hline
  induction results with
  | nil => rfl
  | cons r results ih =>
    rw [List.flatMap_cons, List.filter_append, List.map_append,
      ih (fun r' hr' => h r' (List.mem_cons_of_mem _ hr'))
        (fun r' hr' => hone r' (List.mem_cons_of_mem _ hr')),
      hone r (List.mem_cons_self ..), List.map_singleton,
      readId_resultLine (h r (List.mem_cons_self ..)).id]
    rfl

/-- The last line names the verdict. -/
theorem ofLine?_verdictLine (report : Report) :
    Verdict.ofLine? (verdictLine report) = some report.verdict := by
  have hlast : (verdictLine report).toList.getLast? = report.verdict.label.toList.getLast? := by
    have hne : report.verdict.label.toList ≠ [] := by
      cases report.verdict <;> decide
    rw [verdictLine, String.toList_append, List.getLast?_append_of_ne_nil _ hne]
  rw [Verdict.ofLine?, hlast]
  cases report.verdict <;> decide

/-! ## Lines -/

/-- Lines without the separator, each closed with it, are split as they were. -/
theorem splitOn_flatMap {sep : Char} : ∀ {lines : List (List Char)}, (∀ line ∈ lines, sep ∉ line) →
    (lines.flatMap fun line => line ++ [sep]).splitOn sep = lines ++ [[]]
  | [], _ => List.splitOn_nil sep
  | line :: lines, h => by
    have ih := splitOn_flatMap fun line' hline => h line' (List.mem_cons_of_mem _ hline)
    rw [List.flatMap_cons, List.append_assoc, List.singleton_append,
      List.splitOn_append_cons_self_of_not_mem (h line (List.mem_cons_self ..)), ih]
    rfl

/-- Lines without a line break in them are read back from the text. -/
theorem readLines_join {lines : List String} (h : ∀ line ∈ lines, '\n' ∉ line.toList) :
    readLines (String.join (lines.map fun line => line ++ "\n")) = lines := by
  have htext : (String.join (lines.map fun line => line ++ "\n")).toList =
      (lines.map String.toList).flatMap fun line => line ++ ['\n'] := by
    rw [String.toList_join, List.flatMap_map, List.flatMap_map]
    exact List.flatMap_congr fun line _ => String.toList_append
  have hnone : ∀ line ∈ lines.map String.toList, '\n' ∉ line := by
    intro line hline
    obtain ⟨text, htext, rfl⟩ := List.mem_map.1 hline
    exact h text htext
  rw [readLines, htext, splitOn_flatMap hnone, List.dropLast_concat, List.map_map]
  exact List.map_id'' (fun text => String.ofList_toList) lines

theorem newline_notMem_padRight {s : String} (h : '\n' ∉ s.toList) (width : ℕ) :
    '\n' ∉ (padRight width s).toList := by
  rw [padRight, String.toList_append, String.toList_ofList, List.mem_append, List.mem_replicate]
  rintro (hmem | ⟨-, hmem⟩)
  · exact h hmem
  · exact absurd hmem (by decide)

theorem Candidate.newline_notMem_line {c : Candidate} (h : c.Plain)
    (hsuffix : '\n' ∉ c.suffix.toList) (addrW : ℕ) : '\n' ∉ (c.line addrW).toList := by
  have hkind : '\n' ∉ c.kind.text.toList := by
    cases c.kind <;> decide
  have hend : '\n' ∉ (formatEndpoint c.address c.port).toList := by
    obtain ⟨ip, hip⟩ := h.address
    rw [hip, formatEndpoint_toString]
    exact String.toList_ofList ▸ NotInAddress.notMem_chars (by decide) _
  simp [line, candidateLine, newline_notMem_padRight, hkind, hend, hsuffix]

/-- A result whose texts are of one line each is printed on one line, and so are its candidates. -/
theorem newline_notMem_resultLines {r : CheckResult} (h : Printable r)
    (hone : ∀ text ∈ shownTexts r, '\n' ∉ text.toList) (maxId : ℕ) :
    ∀ line ∈ resultLines maxId r, '\n' ∉ line.toList := by
  have hsummary : '\n' ∉ r.summary.toList := hone _ (List.mem_cons_self ..)
  have hglyph : r.status.glyph ≠ '\n' := by
    cases r.status <;> decide
  intro line hline
  rcases List.mem_cons.1 hline with rfl | hline
  · simp [resultLine, newline_notMem_padRight h.idLine, hsummary, hglyph.symm, Char.toString]
  split at hline
  swap
  · cases hline
  next hice =>
  rcases h.detail hice with hnone | ⟨cands, hplain, hdetail⟩
  · rw [printCandidates_of_none hnone] at hline
    cases hline
  · rw [printCandidates_eq hdetail] at hline
    obtain ⟨c, hc, rfl⟩ := List.mem_map.1 hline
    refine Candidate.newline_notMem_line (hplain c hc) (hone _ (List.mem_cons_of_mem _ ?_)) _
    rw [if_pos hice, renderedCandidates_eq hdetail, List.map_map]
    exact List.mem_map_of_mem hc

/-- The line of the verdict has no newline in it. -/
theorem newline_notMem_verdictLine (report : Report) : '\n' ∉ (verdictLine report).toList := by
  have hnat : ∀ n : ℕ, '\n' ∉ Nat.toDigits 10 n := fun n =>
    notMem_toDigits (by decide) (by decide) (by decide)
  have hlabel : '\n' ∉ report.verdict.label.toList := by
    cases report.verdict <;> decide
  rw [verdictLine]
  obtain ⟨p, w, f, s⟩ := report.counts
  show '\n' ∉ (toString p ++ " pass · " ++ toString w ++ " warn · " ++ toString f ++ " fail · " ++
    toString s ++ " skip        verdict: " ++ report.verdict.label).toList
  simp [hnat, hlabel]

theorem newline_notMem_prettyLines {report : Report} (h : ∀ r ∈ report.results, Printable r)
    {header : String} (hone : report.OneLine header) :
    ∀ line ∈ prettyLines report header, '\n' ∉ line.toList := by
  have hheader : '\n' ∉ header.toList := hone _ (List.mem_cons_self ..)
  intro line hline
  rw [prettyLines, List.cons_append, List.mem_cons, List.mem_append, List.mem_pair] at hline
  rcases hline with rfl | hline | rfl | rfl
  · show '\n' ∉ ("webrtc-doctor " ++ version ++ " — " ++ header).toList
    simp [version, hheader]
  · obtain ⟨r, hr, hline⟩ := List.mem_flatMap.1 hline
    refine newline_notMem_resultLines (h r hr) (fun text htext => ?_) _ line hline
    exact hone text (List.mem_cons_of_mem _ (List.mem_flatMap.2 ⟨r, hr, htext⟩))
  · decide
  · exact newline_notMem_verdictLine report

/-- The text of a report shows its verdict and its results. -/
theorem readPretty_pretty {report : Report} (h : ∀ r ∈ report.results, Printable r)
    {header : String} (hone : report.OneLine header) :
    ∃ rows, readPretty (pretty report header) = some (report.verdict, rows) ∧
      List.Forall₂ Row.Shows rows report.results := by
  obtain ⟨rows, hread, hshows⟩ := readRows_flatMap h
    (fun r hr => length_le_maxLen (List.mem_map_of_mem hr))
  refine ⟨rows, ?_, hshows⟩
  set maxId := maxLen (report.results.map CheckResult.id) with hmaxId
  set body := report.results.flatMap (resultLines maxId) with hbody
  have hlines : prettyLines report header =
      s!"webrtc-doctor {version} — {header}" :: (body ++ ["", verdictLine report]) := rfl
  have htail : (prettyLines report header).tail.dropLast.dropLast = body := by
    rw [hlines, List.tail_cons, List.dropLast_append_cons]
    exact List.dropLast_concat
  have hlast : (prettyLines report header).getLast?.getD "" = verdictLine report := by
    rw [hlines, ← List.cons_append, List.getLast?_append_of_ne_nil _ (List.cons_ne_nil _ _)]
    rfl
  rw [readPretty, pretty, readLines_join (newline_notMem_prettyLines h hone)]
  dsimp only
  rw [htail, hlast, readId_flatMap h, ← hmaxId, hread, ofLine?_verdictLine]
  rfl

/-! ## What a subcommand prints -/

theorem IceGatherCheck.plain_of_mem_gather {ctx : ProbeContext} {ifs : List Interface} :
    ∀ c ∈ gather ctx ifs, c.Plain := by
  intro c hc
  rw [gather, List.mem_append, List.mem_append] at hc
  rcases hc with (hc | hc) | hc
  · obtain ⟨i, -, rfl⟩ := List.mem_map.1 hc
    exact ⟨⟨i.ip, rfl⟩, Or.inr rfl⟩
  · unfold srflxCandidates at hc
    split at hc
    · next addr _ =>
      obtain rfl := List.mem_singleton.1 hc
      exact ⟨⟨addr.ip, rfl⟩, Or.inl rfl⟩
    · cases hc
  · unfold relayCandidates at hc
    split at hc
    · next session _ =>
      obtain rfl := List.mem_singleton.1 hc
      exact ⟨⟨session.relayed.ip, rfl⟩, Or.inl rfl⟩
    · cases hc

theorem IceGatherCheck.detail_run (env : IceGatherEnv) (ctx : ProbeContext) :
    (run env ctx).2.detail = none ∨ ∃ cands : List Candidate, (∀ c ∈ cands, c.Plain) ∧
      (run env ctx).2.detail = some (detail cands) := by
  unfold run
  split
  · exact Or.inl rfl
  · next ifs _ =>
    refine Or.inr ⟨gather ctx ifs, plain_of_mem_gather, ?_⟩
    dsimp only
    split <;> rfl

/-- The ids of the checks other than `ice.gather`. -/
def otherIds : List String :=
  [DnsCheck.id, StunBindingCheck.id, TurnAllocateCheck.id, TurnsAllocateCheck.id, TurnEchoCheck.id,
    SignalingCheck.id, DtlsLoopbackCheck.id, DtlsRemoteCheck.id]

theorem ProbeCheck.id_mem_otherIds (p : ProbeCheck) :
    p.check.id ∈ otherIds ∨ ∃ env, p = .iceGather env := by
  cases p with
  | dns env => exact Or.inl (by simp [otherIds, check, DnsCheck.check])
  | stun env => exact Or.inl (by simp [otherIds, check, StunBindingCheck.check])
  | turnAlloc env => exact Or.inl (by simp [otherIds, check, TurnAllocateCheck.check])
  | turnsAlloc env => exact Or.inl (by simp [otherIds, check, TurnsAllocateCheck.check])
  | turnEcho env => exact Or.inl (by simp [otherIds, check, TurnEchoCheck.check])
  | iceGather env => exact Or.inr ⟨env, rfl⟩
  | signaling env self => exact Or.inl (by simp [otherIds, check, SignalingCheck.check])
  | dtlsLoopback env => exact Or.inl (by simp [otherIds, check, DtlsLoopbackCheck.check])
  | dtlsRemote env => exact Or.inl (by simp [otherIds, check, DtlsRemoteCheck.check])

theorem ProbeCheck.printable {p : ProbeCheck} {r : CheckResult} (h : Pipeline.Gives p.check r) :
    Printable r := by
  have hid : r.id = p.check.id := (reports_of_gives h).id
  rcases p.id_mem_otherIds with hmem | ⟨env, rfl⟩
  · have hall : ∀ id ∈ otherIds, ' ' ∉ id.toList ∧ '\n' ∉ id.toList ∧ id ≠ IceGatherCheck.id := by
      decide
    obtain ⟨hblank, hline, hne⟩ := hall _ hmem
    rw [← hid] at hblank hline hne
    exact ⟨hblank, hline, fun hice => absurd hice hne⟩
  · have hblank : ' ' ∉ IceGatherCheck.id.toList := by decide
    have hline : '\n' ∉ IceGatherCheck.id.toList := by decide
    refine ⟨hid ▸ hblank, hid ▸ hline, fun _ => ?_⟩
    rcases h with ⟨ctx, rfl⟩ | ⟨passed, rfl⟩
    · exact IceGatherCheck.detail_run env ctx
    · exact Or.inl rfl

/-- The pretty report of any subcommand shows the verdict and every result, and under
`ice.gather` the candidates that its detail lists, if no text in it breaks a line. -/
theorem pretty_reads_back {env : CliEnv} {command : Command} {header : String} {report : Report}
    (h : main env command = .ok (.report header report)) (hone : report.OneLine header) :
    ∃ rows, readPretty (pretty report header) = some (report.verdict, rows) ∧
      List.Forall₂ Row.Shows rows report.results := by
  refine readPretty_pretty (fun r hr => ?_) hone
  obtain ⟨p, hgives⟩ := exists_gives_of_main h hr
  exact ProbeCheck.printable hgives

open Sample in
/-- `ice turn:192.0.2.1` with a relay that grants the login. -/
theorem pretty_reads_back_login :
    main (cliEnv [challenge (txid 1), grant (txid 2)]) loginCommand =
      .ok (.report "probing 192.0.2.1 (ice)" loginJob.report) ∧
    loginJob.report.OneLine "probing 192.0.2.1 (ice)" ∧
    ∃ rows, readPretty (pretty loginJob.report "probing 192.0.2.1 (ice)") = some (.healthy, rows) ∧
      List.Forall₂ Row.Shows rows loginJob.report.results := by
  have hmain : main (cliEnv [challenge (txid 1), grant (txid 2)]) loginCommand =
      .ok (.report "probing 192.0.2.1 (ice)" loginJob.report) := by
    rw [main, show (cliEnv [challenge (txid 1), grant (txid 2)]).stdin = [] from rfl,
      plan_loginCommand]
    rfl
  have hverdict : loginJob.report.verdict = .healthy := by decide +kernel
  have hone : loginJob.report.OneLine "probing 192.0.2.1 (ice)" := by decide +kernel
  exact ⟨hmain, hone, hverdict ▸ pretty_reads_back hmain hone⟩

-- With a line break in a summary, two reports print the same text.
example : pretty ⟨[.pass "a" "A" 0 "x\n  ✓ b  y", .pass "b" "B" 0 "z"], 0⟩ "probing" =
    pretty ⟨[.pass "a" "A" 0 "x", .pass "b" "B" 0 "y\n  ✓ b  z"], 0⟩ "probing" := by decide +kernel

end WebrtcDoctor
