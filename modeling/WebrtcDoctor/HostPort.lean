import WebrtcDoctor.ByteIndex
import WebrtcDoctor.UriForms

/-!
# The grammar of `host:port`

`parse_host_port` cuts its text at byte indices, behind the first `]` if it begins with a bracket
and at the last colon otherwise (`Indexed.parseHostPort`). Every index is one that a search gave,
so no cut panics and the result is that of `parseHostPort` (`indexed_parseHostPort_eq`).

What it accepts are two forms, `[host]:port` and `host:port`, and a text has at most one of them
(`hostPort_grammar`).
-/

open ByteIndex Checked NetAddr

namespace WebrtcDoctor

/-! ## The parser -/

namespace Indexed

/-- The two parts of the text, before they are checked. -/
def splitHostPort (cs : List Char) : Checked String (List Char × List Char) :=
  match cs with
  | '[' :: rest =>
    match find ']' rest with
    | none => .err ("missing closing " ++ quoted "]" ++ " for IPv6 literal")
    | some close => do
      let host ← sliceTo rest close
      let after ← sliceFrom rest (close + 1)
      match after with
      | ':' :: port => return (host, port)
      | _ => .err ("expected " ++ quoted ":port" ++ " after " ++ quoted "]")
  | _ =>
    match rfind ':' cs with
    | none => .err ("expected " ++ quoted "host:port")
    | some idx => do
      if ':' ∈ (← sliceTo cs idx) then
        .err ("IPv6 literal must be bracketed, e.g. " ++ quoted "[::1]:5684")
      else return (← sliceTo cs idx, ← sliceFrom cs (idx + 1))

/-- `parse_host_port`. -/
def parseHostPort (s : String) : Checked String (String × UInt16) := do
  let (host, port) ← splitHostPort s.toList
  if host = [] then .err "empty host"
  else
    match parseU16 port with
    | .error e => .err s!"bad port: {e}"
    | .ok port => return (String.ofList host, port)

end Indexed

/-! ## Splitting -/

/-- The texts by where they are cut. -/
inductive Cuts : List Char → Prop
  | unclosed {rest : List Char} (h : ']' ∉ rest) : Cuts ('[' :: rest)
  | bracketed {host : List Char} (after : List Char) (h : ']' ∉ host) :
      Cuts ('[' :: (host ++ ']' :: after))
  | noColon {cs : List Char} (h : ':' ∉ cs) (hopen : cs.head? ≠ some '[') : Cuts cs
  | plain {host port : List Char} (h : ':' ∉ port)
      (hopen : (host ++ ':' :: port).head? ≠ some '[') : Cuts (host ++ ':' :: port)

theorem cuts (cs : List Char) : Cuts cs := by
  by_cases hopen : cs.head? = some '['
  · obtain ⟨rest, rfl⟩ := List.head?_eq_some_iff.1 hopen
    by_cases hclose : ']' ∈ rest
    · obtain ⟨host, after, rfl, hhost⟩ := List.eq_append_cons_of_mem hclose
      exact .bracketed after hhost
    · exact .unclosed hclose
  · by_cases hcolon : ':' ∈ cs
    · obtain ⟨host, port, rfl, hport⟩ := exists_last hcolon
      exact .plain hport hopen
    · exact .noColon hcolon hopen

/-- What is split off a text without a bracket at the front. -/
theorem Indexed.splitHostPort_of_head {cs : List Char} (h : cs.head? ≠ some '[') :
    Indexed.splitHostPort cs =
      match rfind ':' cs with
      | none => .err ("expected " ++ quoted "host:port")
      | some idx => do
        if ':' ∈ (← sliceTo cs idx) then
          .err ("IPv6 literal must be bracketed, e.g. " ++ quoted "[::1]:5684")
        else return (← sliceTo cs idx, ← sliceFrom cs (idx + 1)) := by
  unfold Indexed.splitHostPort
  split
  · exact absurd rfl h
  · rfl

/-- Without a bracket in front, the text is split at its last colon. -/
theorem splitHostPort_of_head {cs : List Char} (h : cs.head? ≠ some '[') :
    splitHostPort cs =
      match rsplitOnce ':' cs with
      | none => .error ("expected " ++ quoted "host:port")
      | some (host, port) =>
        if ':' ∈ host then
          .error ("IPv6 literal must be bracketed, e.g. " ++ quoted "[::1]:5684")
        else .ok (host, port) := by
  unfold splitHostPort
  split
  · exact absurd rfl h
  · rfl

/-- Cutting at indices gives the parts that `splitHostPort` gives. -/
theorem indexed_splitHostPort_eq (cs : List Char) :
    Indexed.splitHostPort cs = ofResult (splitHostPort cs) := by
  cases cuts cs with
  | unclosed h =>
    rw [Indexed.splitHostPort, splitHostPort, find_eq_none h, splitOnce_eq_none h]
    rfl
  | @bracketed host after h =>
    rw [Indexed.splitHostPort, splitHostPort, find_append after h, splitOnce_append after h]
    dsimp only
    rw [sliceTo_byteLen, ok_bind, sliceFrom_succ (by decide), ok_bind]
    split
    · rfl
    · rename_i hno
      split
      · rename_i heq
        cases heq
      · rename_i heq
        cases heq
        exact absurd rfl (hno _)
      · rfl
  | noColon h hopen =>
    rw [Indexed.splitHostPort_of_head hopen, splitHostPort_of_head hopen, rfind_eq_none h,
      rsplitOnce_eq_none h]
    rfl
  | @plain host port h hopen =>
    rw [Indexed.splitHostPort_of_head hopen, splitHostPort_of_head hopen, rfind_append host h,
      rsplitOnce_append host h]
    dsimp only
    rw [sliceTo_byteLen, sliceFrom_succ (by decide), ok_bind, ok_bind]
    split_ifs <;> rfl

/-- Cutting at indices changes nothing, and so it does not panic. -/
theorem indexed_parseHostPort_eq (s : String) :
    Indexed.parseHostPort s = ofResult (parseHostPort s) := by
  rw [Indexed.parseHostPort, indexed_splitHostPort_eq, parseHostPort]
  rcases splitHostPort s.toList with e | ⟨host, port⟩
  · rfl
  show (if host = [] then _ else _) = ofResult (if host = [] then _ else _)
  split_ifs
  · rfl
  · cases parseU16 port <;> rfl

/-! ## The forms -/

/-- `[host]:port` and `host:port`. -/
inductive HostPortForm where
  | bracketed
  | plain
deriving DecidableEq, Repr

namespace HostPortForm

/-- A text that can stand for the host. -/
def Admits : HostPortForm → List Char → Prop
  | bracketed, host => host ≠ [] ∧ ']' ∉ host
  | plain, host => host ≠ [] ∧ ':' ∉ host ∧ host.head? ≠ some '['

/-- The text of a host and a port in a form. -/
def text : HostPortForm → List Char → List Char → List Char
  | bracketed, host, port => '[' :: (host ++ ']' :: ':' :: port)
  | plain, host, port => host ++ ':' :: port

variable {form form' : HostPortForm} {host host' port port' : List Char}

theorem Admits.ne_nil (h : form.Admits host) : host ≠ [] := by
  cases form <;> exact h.1

/-- The form shows in the first character. -/
theorem head?_text (h : form.Admits host) (port : List Char) :
    (form.text host port).head? = some '[' ↔ form = bracketed := by
  cases form with
  | bracketed => exact iff_of_true rfl rfl
  | plain =>
    refine iff_of_false (fun hhead => h.2.2 ?_) nofun
    rwa [text, List.head?_append_of_ne_nil _ h.1] at hhead

/-- A text in one of the forms is split into its host and its port. -/
theorem splitHostPort_text (h : form.Admits host) (hport : ':' ∉ port) :
    splitHostPort (form.text host port) = .ok (host, port) := by
  cases form with
  | bracketed =>
    rw [text, splitHostPort, splitOnce_append _ h.2]
    rfl
  | plain =>
    have hhead : (host ++ ':' :: port).head? ≠ some '[' := mt (head?_text h port).1 nofun
    rw [text, splitHostPort_of_head hhead, rsplitOnce_append host hport]
    exact if_neg h.2.1

/-- What is split has one of the forms. -/
theorem of_splitHostPort {cs : List Char} (h : splitHostPort cs = .ok (host, port))
    (hne : host ≠ []) : ∃ form : HostPortForm, form.Admits host ∧ cs = form.text host port := by
  cases cuts cs with
  | unclosed hclose =>
    rw [splitHostPort, splitOnce_eq_none hclose] at h
    cases h
  | @bracketed host' after hclose =>
    rw [splitHostPort, splitOnce_append after hclose] at h
    split at h
    · rename_i heq
      cases heq
    · rename_i heq
      cases heq
      cases h
      exact ⟨bracketed, ⟨hne, hclose⟩, rfl⟩
    · cases h
  | noColon hcolon hopen =>
    rw [splitHostPort_of_head hopen, rsplitOnce_eq_none hcolon] at h
    cases h
  | @plain host' port' hcolon hopen =>
    rw [splitHostPort_of_head hopen, rsplitOnce_append host' hcolon] at h
    dsimp only at h
    split_ifs at h with hmem
    cases h
    rw [List.head?_append_of_ne_nil _ hne] at hopen
    exact ⟨plain, ⟨hne, hmem, hopen⟩, rfl⟩

/-- A text with a port has at most one form, host and port. -/
theorem text_inj (h : form.Admits host) (h' : form'.Admits host') (hport : ':' ∉ port)
    (hport' : ':' ∉ port') (htext : form.text host port = form'.text host' port') :
    form = form' ∧ host = host' ∧ port = port' := by
  have hform : form = bracketed ↔ form' = bracketed := by
    rw [← head?_text h port, htext, head?_text h' port']
  have hsplit := splitHostPort_text h hport
  rw [htext, splitHostPort_text h' hport'] at hsplit
  obtain ⟨rfl, rfl⟩ := Prod.mk.inj (Except.ok.inj hsplit)
  refine ⟨?_, rfl, rfl⟩
  cases form <;> cases form' <;> simp at hform ⊢

/-- Outside of brackets a host has no colon. -/
theorem count_text_plain (h : plain.Admits host) (hport : ':' ∉ port) :
    (plain.text host port).count ':' = 1 := by
  rw [text, List.count_append, List.count_cons_self, List.count_eq_zero_of_not_mem h.2.1,
    List.count_eq_zero_of_not_mem hport]

end HostPortForm

/-! ## What is accepted -/

/-- A text is accepted exactly if it is a host and a port in one of the forms. -/
theorem parseHostPort_eq_ok {s host : String} {n : UInt16} : parseHostPort s = .ok (host, n) ↔
    ∃ (form : HostPortForm) (port : List Char), form.Admits host.toList ∧
      s.toList = form.text host.toList port ∧ parseU16 port = .ok n := by
  constructor
  · intro h
    rw [parseHostPort] at h
    cases hsplit : splitHostPort s.toList with
    | error e =>
      rw [hsplit] at h
      cases h
    | ok parts =>
      obtain ⟨host', port⟩ := parts
      rw [hsplit] at h
      dsimp only at h
      split_ifs at h with hne
      cases hport : parseU16 port with
      | error e =>
        rw [hport] at h
        cases h
      | ok n' =>
        rw [hport] at h
        cases h
        obtain ⟨form, hadmits, htext⟩ := HostPortForm.of_splitHostPort hsplit hne
        rw [← String.toList_ofList (l := host')] at hadmits htext
        exact ⟨form, port, hadmits, htext, hport⟩
  · rintro ⟨form, port, hadmits, htext, hport⟩
    rw [parseHostPort, htext,
      HostPortForm.splitHostPort_text hadmits (parseU16_ok hport).2.1]
    dsimp only
    rw [if_neg hadmits.ne_nil, hport, String.ofList_toList]

/-- A text with two colons and no bracket at the front is rejected. -/
theorem parseHostPort_of_two_colons {s : String} (hopen : s.toList.head? ≠ some '[')
    (hcount : 2 ≤ s.toList.count ':') : ∃ e, parseHostPort s = .error e := by
  cases h : parseHostPort s with
  | error e => exact ⟨e, rfl⟩
  | ok r =>
    obtain ⟨host, n⟩ := r
    obtain ⟨form, port, hadmits, htext, hport⟩ := parseHostPort_eq_ok.1 h
    rw [htext] at hopen hcount
    cases form with
    | bracketed => exact absurd rfl hopen
    | plain =>
      rw [HostPortForm.count_text_plain hadmits (parseU16_ok hport).2.1] at hcount
      exact absurd hcount (by decide)

/-- The parser accepts the two forms, and gives the host and the port they have. It does not
panic. A text has at most one form, host and port, a host written with a decimal port is read
back, and an IPv6 literal without brackets is rejected, with a port or without. -/
theorem hostPort_grammar :
    (∀ (s host : String) (n : UInt16), Indexed.parseHostPort s = .ok (host, n) ↔
      ∃ (form : HostPortForm) (port : List Char), form.Admits host.toList ∧
        s.toList = form.text host.toList port ∧ parseU16 port = .ok n) ∧
    (∀ s : String, (Indexed.parseHostPort s).Safe) ∧
    (∀ (form form' : HostPortForm) (host host' port port' : List Char) (n n' : UInt16),
      form.Admits host → form'.Admits host' → parseU16 port = .ok n → parseU16 port' = .ok n' →
        form.text host port = form'.text host' port' →
          form = form' ∧ host = host' ∧ port = port') ∧
    (∀ (form : HostPortForm) (host : String) (n : UInt16), form.Admits host.toList →
      Indexed.parseHostPort (String.ofList (form.text host.toList (decimal n))) =
        .ok (host, n)) ∧
    ∀ v tail : List Char, IsV6 v →
      ∃ e, Indexed.parseHostPort (String.ofList (v ++ tail)) = .err e := by
  refine ⟨fun s host n => ?_, fun s => ?_, fun form form' host host' port port' n n' h h' hport
    hport' htext => ?_, fun form host n h => ?_, fun v tail hv => ?_⟩
  · rw [indexed_parseHostPort_eq, ofResult_eq_ok, parseHostPort_eq_ok]
  · rw [indexed_parseHostPort_eq]
    exact safe_ofResult _
  · exact HostPortForm.text_inj h h' (parseU16_ok hport).2.1 (parseU16_ok hport').2.1 htext
  · rw [indexed_parseHostPort_eq, ofResult_eq_ok, parseHostPort_eq_ok]
    exact ⟨form, decimal n, h, String.toList_ofList, parseU16_toDigits n⟩
  · have hne : v ≠ [] := by
      rintro rfl
      exact absurd hv.two_le_count (by decide)
    have hopen : (String.ofList (v ++ tail)).toList.head? ≠ some '[' := by
      rw [String.toList_ofList, List.head?_append_of_ne_nil _ hne]
      exact fun h => hv.noBrackets.1 (List.mem_of_mem_head? h)
    have hcount : 2 ≤ (String.ofList (v ++ tail)).toList.count ':' := by
      rw [String.toList_ofList, List.count_append]
      exact Nat.le_add_right_of_le hv.two_le_count
    obtain ⟨e, he⟩ := parseHostPort_of_two_colons hopen hcount
    exact ⟨e, by rw [indexed_parseHostPort_eq, he]; rfl⟩

/-- An IPv6 literal in brackets, and one without. -/
theorem hostPort_grammar_loopback : Indexed.parseHostPort "[::1]:5684" = .ok ("::1", 5684) ∧
    ∃ e, Indexed.parseHostPort "::1" = .err e :=
  ⟨hostPort_grammar.2.2.2.1 .bracketed "::1" 5684 ⟨by decide, by decide⟩,
    hostPort_grammar.2.2.2.2 "::1".toList [] ⟨[0, 0, 0, 0, 0, 0, 0, 1], by decide +kernel⟩⟩

end WebrtcDoctor
