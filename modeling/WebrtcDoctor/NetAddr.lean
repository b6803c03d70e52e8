import Mathlib.Data.List.Basic
import Mathlib.Tactic.Common
import WebrtcDoctor.BigEndian

/-!
# Socket addresses as text

`IpAddr` and `SocketAddr` are the addresses of `std::net`, built by `SocketAddr::new`,
so the flow label and the scope of an IPv6 socket address are zero and are left out.
`SocketAddr.display` is the text `Display` prints and `SocketAddr.parse` is `FromStr` : a
reader that takes numbers, separators and groups off the front of the text and must
use all of it. An IPv6 address prints its longest run of zero groups as `::`, and an
IPv4-mapped one prints the last two groups in dotted form.
-/

namespace NetAddr

/-- `std::net::IpAddr`, an IPv4 address as its 32 bits and an IPv6 address as its octets. -/
inductive IpAddr where
  | v4 (bits : UInt32)
  | v6 (octets : Vector UInt8 16)
deriving DecidableEq, Repr

/-- `std::net::SocketAddr`. -/
structure SocketAddr where
  ip : IpAddr
  port : UInt16
deriving DecidableEq, Repr

/-! ## Printing -/

/-- The decimal octets of an IPv4 address. -/
def showV4 (octets : List ℕ) : List Char :=
  List.intercalate ['.'] (octets.map (Nat.toDigits 10))

/-- The four octets of an IPv4 address. -/
def v4Octets (bits : UInt32) : List ℕ := (BigEndian.ofU32 bits).map UInt8.toNat

/-- The eight 16-bit groups of an IPv6 address. -/
def segments (octets : Vector UInt8 16) : List ℕ :=
  List.ofFn fun k : Fin 8 => octets[2 * k.val].toNat * 256 + octets[2 * k.val + 1].toNat

/-- A run of groups. -/
structure Span where
  start : ℕ
  len : ℕ
deriving DecidableEq, Repr

/-- The first longest run of zero groups, from group `i` on. -/
def longestZeros : List ℕ → ℕ → Span → Span → Span
  | [], _, longest, _ => longest
  | s :: ss, i, longest, current =>
    if s = 0 then
      let current := Span.mk (if current.len = 0 then i else current.start) (current.len + 1)
      longestZeros ss (i + 1) (if longest.len < current.len then current else longest) current
    else longestZeros ss (i + 1) longest ⟨0, 0⟩

/-- The first longest run of zero groups. -/
def zeroSpan (segs : List ℕ) : Span := longestZeros segs 0 ⟨0, 0⟩ ⟨0, 0⟩

/-- Groups in hexadecimal, separated by colons. -/
def showGroups (segs : List ℕ) : List Char :=
  List.intercalate [':'] (segs.map (Nat.toDigits 16))

/-- An IPv6 address, its longest run of zeros left out. An embedded IPv4 address is in decimal. -/
def showSegments (segs : List ℕ) : List Char :=
  if segs.take 6 = [0, 0, 0, 0, 0, 0xffff] then
    ':' :: ':' :: 'f' :: 'f' :: 'f' :: 'f' :: ':' ::
      showV4 ((segs.drop 6).flatMap fun s => [s / 256, s % 256])
  else
    let z := zeroSpan segs
    if 1 < z.len then
      showGroups (segs.take z.start) ++ ':' :: ':' :: showGroups (segs.drop (z.start + z.len))
    else showGroups segs

/-- The text of an address. -/
def IpAddr.chars : IpAddr → List Char
  | .v4 bits => showV4 (v4Octets bits)
  | .v6 octets => showSegments (segments octets)

/-- `Display` for `IpAddr`. -/
def IpAddr.display (ip : IpAddr) : String := String.ofList ip.chars

/-- The text of an address with its port, an IPv6 address in brackets. -/
def SocketAddr.chars (addr : SocketAddr) : List Char :=
  match addr.ip with
  | .v4 _ => addr.ip.chars ++ ':' :: Nat.toDigits 10 addr.port.toNat
  | .v6 _ => '[' :: addr.ip.chars ++ ']' :: ':' :: Nat.toDigits 10 addr.port.toNat

/-- `Display` for `SocketAddr`. -/
def SocketAddr.display (addr : SocketAddr) : String := String.ofList addr.chars

instance : ToString IpAddr := ⟨IpAddr.display⟩

instance : ToString SocketAddr := ⟨SocketAddr.display⟩

/-! ## Reading -/

/-- `char::to_digit`. -/
def toDigit (radix : ℕ) (c : Char) : Option ℕ :=
  let d := if '0' ≤ c ∧ c ≤ '9' then c.toNat - 48
    else if 'a' ≤ c ∧ c ≤ 'z' then c.toNat - 87
    else if 'A' ≤ c ∧ c ≤ 'Z' then c.toNat - 55
    else radix
  if d < radix then some d else none

/-- The number a string of digits spells. -/
def digitsValue (radix : ℕ) (cs : List Char) : ℕ :=
  cs.foldl (fun n c => n * radix + (toDigit radix c).getD 0) 0

/-- A number below `bound` of at most `maxDigits` digits. -/
def readNumber (radix : ℕ) (maxDigits : Option ℕ) (zeroPrefix : Bool) (bound : ℕ)
    (cs : List Char) : Option (ℕ × List Char) :=
  let ds := cs.takeWhile fun c => (toDigit radix c).isSome
  if maxDigits.any (· < ds.length) then none
  else if ds.length = 0 then none
  else if !zeroPrefix ∧ ds.head? = some '0' ∧ 1 < ds.length then none
  else if digitsValue radix ds < bound then
    some (digitsValue radix ds, cs.dropWhile fun c => (toDigit radix c).isSome)
  else none

/-- The text after the character `c`. -/
def readChar (c : Char) : List Char → Option (List Char)
  | [] => none
  | c' :: cs => if c' = c then some cs else none

/-- `inner` after a separator, which the element at index `0` does not have. -/
def readSeparator {α : Type} (sep : Char) (index : ℕ) (inner : List Char → Option (α × List Char))
    (cs : List Char) : Option (α × List Char) :=
  if 0 < index then (readChar sep cs).bind inner else inner cs

/-- `n` octets of an IPv4 address, from index `index` on. -/
def readOctets : ℕ → ℕ → List Char → Option (List ℕ × List Char)
  | 0, _, cs => some ([], cs)
  | n + 1, index, cs => do
    let (o, cs) ← readSeparator '.' index (readNumber 10 (some 3) false 256) cs
    let (os, cs) ← readOctets n (index + 1) cs
    some (o :: os, cs)

/-- An IPv4 address at the start of a text. -/
def readV4 (cs : List Char) : Option (List ℕ × List Char) := readOctets 4 0 cs

/-- The groups from index `i` on, at most `limit`, and whether an IPv4 tail ended them. -/
def readGroups (limit i : ℕ) (cs : List Char) : List ℕ × Bool × List Char :=
  if i < limit then
    match (if i < limit - 1 then readSeparator ':' i readV4 cs else none) with
    | some (os, cs) =>
      ([os.getD 0 0 * 256 + os.getD 1 0, os.getD 2 0 * 256 + os.getD 3 0], true, cs)
    | none =>
      match readSeparator ':' i (readNumber 16 (some 4) true 65536) cs with
      | some (g, cs') =>
        let (gs, v4, cs'') := readGroups limit (i + 1) cs'
        (g :: gs, v4, cs'')
      | none => ([], false, cs)
  else ([], false, cs)
termination_by limit - i

/-- An IPv6 address at the start of a text. -/
def readV6 (cs : List Char) : Option (List ℕ × List Char) :=
  match readGroups 8 0 cs with
  | (head, v4, cs) =>
    if head.length = 8 then some (head, cs)
    else if v4 then none
    else do
      let cs ← readChar ':' cs
      let cs ← readChar ':' cs
      let (tail, _, cs) := readGroups (8 - (head.length + 1)) 0 cs
      some (head ++ List.replicate (8 - head.length - tail.length) 0 ++ tail, cs)

/-- The octets of eight groups. -/
def octetsOf (segs : List ℕ) : Vector UInt8 16 :=
  Vector.ofFn fun j => UInt8.ofNat
    (if j.val % 2 = 0 then segs.getD (j.val / 2) 0 / 256 else segs.getD (j.val / 2) 0)

/-- A colon and a port. -/
def readPort (cs : List Char) : Option (ℕ × List Char) :=
  (readChar ':' cs).bind (readNumber 10 none true 65536)

/-- The scope of an IPv6 socket address, when there is one. -/
def readScope (cs : List Char) : List Char :=
  match (readChar '%' cs).bind (readNumber 10 none true 4294967296) with
  | some (_, cs) => cs
  | none => cs

/-- An IPv4 address with a port. -/
def readSocketV4 (cs : List Char) : Option (SocketAddr × List Char) := do
  let (os, cs) ← readV4 cs
  let (port, cs) ← readPort cs
  some (⟨.v4 (UInt32.ofNat (os.foldl (fun n o => n * 256 + o) 0)), UInt16.ofNat port⟩, cs)

/-- An IPv6 address in brackets, its scope left out, with a port. -/
def readSocketV6 (cs : List Char) : Option (SocketAddr × List Char) := do
  let cs ← readChar '[' cs
  let (segs, cs) ← readV6 cs
  let cs ← readChar ']' (readScope cs)
  let (port, cs) ← readPort cs
  some (⟨.v6 (octetsOf segs), UInt16.ofNat port⟩, cs)

/-- `FromStr` for `SocketAddr`. -/
def SocketAddr.parse (s : String) : Option SocketAddr :=
  match (readSocketV4 s.toList).orElse fun _ => readSocketV6 s.toList with
  | some (addr, []) => some addr
  | _ => none

end NetAddr
