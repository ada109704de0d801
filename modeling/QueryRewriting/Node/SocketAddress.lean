import QueryRewriting.Decimal.Whole
import QueryRewriting.Text.Hex

/-! # Socket addresses

An address of version 4 or, in brackets, of version 6, a colon and a port. Names of hosts are no
addresses.
-/

namespace QueryRewriting

open Decimal Text

/-- An internet address: four bytes, or eight groups of 16 bits with a zone. -/
inductive IpAddress where
  | v4 (bytes : List Nat)
  | v6 (groups : List Nat) (zone : Nat)
  deriving DecidableEq, Repr

/-- An internet address and a port. -/
structure SocketAddress where
  ip : IpAddress
  port : Nat
  deriving DecidableEq, Repr

namespace IpAddress

/-! ## Reading -/

/-- A decimal number up to `high` in front; leading zeros count as digits. -/
def number? (high : Nat) (cs : List Char) : Option (Nat × List Char) := do
  let n ← readDigits? (cs.takeWhile Char.isDigit)
  if n ≤ high then some (n, cs.dropWhile Char.isDigit) else none

/-- A byte in front, without leading zeros. -/
def byte? (cs : List Char) : Option (Nat × List Char) :=
  match cs with
  | '0' :: c :: rest => if c.isDigit then none else some (0, c :: rest)
  | _ => number? 255 cs

/-- So many bytes with dots between them, and what follows. -/
def bytes? : Nat → List Char → Option (List Nat × List Char)
  | 0, _ => none
  | 1, cs => (byte? cs).map fun (b, rest) => ([b], rest)
  | n + 1, cs => do
    match ← byte? cs with
    | (b, '.' :: rest) =>
      let (bytes, rest) ← bytes? n rest
      return (b :: bytes, rest)
    | _ => none

/-- A group of up to four hexadecimal digits in front. -/
def group? (cs : List Char) : Option (Nat × List Char) :=
  let digits := (cs.takeWhile fun c => (hexDigit? c).isSome).filterMap hexDigit?
  if digits.isEmpty || 4 < digits.length then none
  else some (hexNumber digits, cs.drop digits.length)

/-- Drops the colon between groups; none stands before the first. -/
def dropColon? (first : Bool) (cs : List Char) : Option (List Char) :=
  if first then some cs
  else match cs with
    | ':' :: rest => some rest
    | _ => none

/-- Up to `limit` groups in front, separated by colons. The last two may be written as an address of
version 4; the flag says that they are. -/
def groups (first : Bool) : Nat → List Char → List Nat × Bool × List Char
  | 0, cs => ([], false, cs)
  | limit + 1, cs =>
    match dropColon? first cs with
    | none => ([], false, cs)
    | some inner =>
      match if 0 < limit then bytes? 4 inner else none with
      | some ([a, b, c, d], rest) => ([a * 256 + b, c * 256 + d], true, rest)
      | _ =>
        match group? inner with
        | some (g, rest) =>
          let (more, mapped, rest) := groups false limit rest
          (g :: more, mapped, rest)
        | none => ([], false, cs)

/-- The eight groups in front; two colons stand for one or more groups of zeros. -/
def groups? (cs : List Char) : Option (List Nat × List Char) :=
  let (head, mapped, rest) := groups true 8 cs
  if head.length = 8 then some (head, rest)
  else if mapped then none
  else match rest with
    | ':' :: ':' :: rest =>
      let (tail, _, rest) := groups true (7 - head.length) rest
      some (head ++ List.replicate (8 - head.length - tail.length) 0 ++ tail, rest)
    | _ => none

/-! ## Writing -/

/-- The start and the length of the first longest run of zeros. -/
def longestZeros (groups : List Nat) : Nat × Nat :=
  let runs := (List.range groups.length).map fun start =>
    (start, ((groups.drop start).takeWhile (· == 0)).length)
  runs.foldl (fun best run => if best.2 < run.2 then run else best) (0, 0)

/-- A group of an address, without zeros in front. -/
def hexText (n : Nat) : String := String.ofList (Nat.toDigits 16 n)

/-- Groups with colons between them. -/
def groupsText (groups : List Nat) : String := ":".intercalate (groups.map hexText)

/-- The text of eight groups: a run of two or more zeros is left out, and an address of version 4 is
written as such. -/
def v6Text (groups : List Nat) : String :=
  match groups with
  | [0, 0, 0, 0, 0, 65535, a, b] => s!"::ffff:{a / 256}.{a % 256}.{b / 256}.{b % 256}"
  | _ =>
    let (start, length) := longestZeros groups
    if 1 < length then
      groupsText (groups.take start) ++ "::" ++ groupsText (groups.drop (start + length))
    else groupsText groups

/-- Whether an address is only reachable from its own machine. -/
def isLoopback : IpAddress → Bool
  | .v4 bytes => bytes.head? == some 127
  | .v6 groups _ => groups == [0, 0, 0, 0, 0, 0, 0, 1]

end IpAddress

namespace SocketAddress

/-- A port behind a colon, which ends the text. -/
def port? (cs : List Char) : Option Nat :=
  match cs with
  | ':' :: rest =>
    match IpAddress.number? 65535 rest with
    | some (port, []) => some port
    | _ => none
  | _ => none

/-- A zone, if one starts here. -/
def zone? (cs : List Char) : Option (Nat × List Char) :=
  match cs with
  | '%' :: rest => IpAddress.number? 4294967295 rest
  | _ => some (0, cs)

/-- Reads an address and a port. -/
def read? (text : String) : Option SocketAddress :=
  match text.toList with
  | '[' :: cs => do
    let (groups, rest) ← IpAddress.groups? cs
    let (zone, rest) ← zone? rest
    match rest with
    | ']' :: rest => return ⟨.v6 groups zone, ← port? rest⟩
    | _ => none
  | cs => do
    let (bytes, rest) ← IpAddress.bytes? 4 cs
    return ⟨.v4 bytes, ← port? rest⟩

/-- The text of an address and a port. -/
def text (address : SocketAddress) : String :=
  match address.ip with
  | .v4 bytes => ".".intercalate (bytes.map fun b => s!"{b}") ++ s!":{address.port}"
  | .v6 groups zone =>
    let zoneText := if zone = 0 then "" else s!"%{zone}"
    "[" ++ IpAddress.v6Text groups ++ zoneText ++ s!"]:{address.port}"

end SocketAddress

end QueryRewriting
