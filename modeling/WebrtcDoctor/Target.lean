import Mathlib.Tactic.Common
import Mathlib.Data.Nat.Notation

/-!
# Parsing targets

`target.rs` and the `host:port` parser of `main.rs`. Texts are read as lists of
characters.
-/

namespace WebrtcDoctor

/-! ## Ports -/

/-- Why a port cannot be read. -/
inductive ParseIntError where
  | empty
  | invalidDigit
  | posOverflow
deriving DecidableEq, Repr

instance : ToString ParseIntError where
  toString
    | .empty => "cannot parse integer from empty string"
    | .invalidDigit => "invalid digit found in string"
    | .posOverflow => "number too large to fit in target type"

/-- The digits of a `u16` after `n`. A character is checked before the overflow at it. -/
def parseU16Digits : ℕ → List Char → Except ParseIntError ℕ
  | n, [] => .ok n
  | n, c :: cs =>
    if !c.isDigit then .error .invalidDigit
    else if 65536 ≤ n * 10 then .error .posOverflow
    else if 65536 ≤ n * 10 + (c.toNat - 48) then .error .posOverflow
    else parseU16Digits (n * 10 + (c.toNat - 48)) cs

/-- `str::parse::<u16>`. -/
def parseU16 (cs : List Char) : Except ParseIntError UInt16 :=
  match cs with
  | [] => .error .empty
  | ['+'] => .error .invalidDigit
  | '+' :: ds => (parseU16Digits 0 ds).map UInt16.ofNat
  | ds => (parseU16Digits 0 ds).map UInt16.ofNat

/-! ## Splitting -/

/-- The text before and after the first `sep`. -/
def splitOnce (sep : Char) : List Char → Option (List Char × List Char)
  | [] => none
  | c :: cs => if c = sep then some ([], cs) else (splitOnce sep cs).map fun p => (c :: p.1, p.2)

/-- The text before and after the last `sep`. -/
def rsplitOnce (sep : Char) (cs : List Char) : Option (List Char × List Char) :=
  (splitOnce sep cs.reverse).map fun p => (p.2.reverse, p.1.reverse)

/-- The text without the characters of `p` at both ends. -/
def trimMatches (p : Char → Bool) (cs : List Char) : List Char :=
  ((cs.dropWhile p).reverse.dropWhile p).reverse

/-- `to_ascii_lowercase`. -/
def toAsciiLowercase (cs : List Char) : List Char :=
  cs.map fun c => if 'A' ≤ c ∧ c ≤ 'Z' then Char.ofNat (c.toNat + 32) else c

/-- A text in backquotes. -/
def quoted (s : String) : String := "`" ++ s ++ "`"

/-! ## Targets -/

/-- A host and a port. -/
structure Target where
  host : String
  port : UInt16
deriving DecidableEq, Repr

/-- The schemes an error message asks for. -/
def expectedSchemes : List String → String
  | [one] => s!"a '{one}:' URI"
  | many => "one of: " ++ ", ".intercalate (many.map fun s => s!"'{s}:'")

/-- Parse a `stun:`, `turn:` or `turns:` URI of an allowed scheme. -/
def parseStunLike (url : String) (allowedSchemes : List String) (defaultPort : UInt16) :
    Except String Target :=
  match splitOnce ':' url.toList with
  | none => .error ("missing scheme in " ++ quoted url ++ " (expected e.g. stun:host:port)")
  | some (scheme, rest) =>
    let schemeLc := String.ofList (toAsciiLowercase scheme)
    if schemeLc ∉ allowedSchemes then
      .error (s!"this subcommand expects {expectedSchemes allowedSchemes}, got " ++
        s!"'{String.ofList scheme}:' (in " ++ quoted url ++ ")")
    else
      match rsplitOnce ':' rest with
      | some (h, p) =>
        match parseU16 p with
        | .error _ => .error ("invalid port in " ++ quoted url)
        | .ok port =>
          let host := String.ofList (trimMatches (fun c => c = '[' ∨ c = ']') h)
          if host = "" then .error ("empty host in " ++ quoted url) else .ok ⟨host, port⟩
      | none =>
        let host := String.ofList rest
        if host = "" then .error ("empty host in " ++ quoted url) else .ok ⟨host, defaultPort⟩

/-- The two parts of a `host:port` text, before they are checked. -/
def splitHostPort (cs : List Char) : Except String (List Char × List Char) :=
  match cs with
  | '[' :: rest =>
    match splitOnce ']' rest with
    | none => .error ("missing closing " ++ quoted "]" ++ " for IPv6 literal")
    | some (host, ':' :: port) => .ok (host, port)
    | some _ => .error ("expected " ++ quoted ":port" ++ " after " ++ quoted "]")
  | _ =>
    match rsplitOnce ':' cs with
    | none => .error ("expected " ++ quoted "host:port")
    | some (host, port) =>
      if ':' ∈ host then
        .error ("IPv6 literal must be bracketed, e.g. " ++ quoted "[::1]:5684")
      else .ok (host, port)

/-- Split a `host:port` text, with IPv6 literals in brackets. -/
def parseHostPort (s : String) : Except String (String × UInt16) :=
  match splitHostPort s.toList with
  | .error e => .error e
  | .ok (host, port) =>
    if host = [] then .error "empty host"
    else
      match parseU16 port with
      | .error e => .error s!"bad port: {e}"
      | .ok port => .ok (String.ofList host, port)

example : parseStunLike "STUN:host:3478" ["stun"] 3478 = .ok ⟨"host", 3478⟩ := by decide

end WebrtcDoctor
