import FacetFilter.Text.Hexadecimal
import FacetFilter.Text.Pieces

/-! IPv6 addresses in hosts: eight pieces of sixteen bits. A double colon stands for one or
more pieces of zero, and the last two pieces may be written as four decimal octets. -/

namespace FacetFilter.Url.Ipv6

/-- A piece of one to four hexadecimal digits. -/
def piece? (digits : List Char) : Option Nat :=
  if 1 ≤ digits.length ∧ digits.length ≤ 4 then Text.hexNumber? digits else none

/-- A decimal octet without leading zeros. -/
def octet? (digits : List Char) : Option Nat :=
  if digits ≠ [] ∧ digits.all Char.isDigit ∧ (digits.length = 1 ∨ digits.head? ≠ some '0') then
    let n := Nat.ofDigitChars 10 digits 0
    if n ≤ 255 then some n else none
  else none

/-- The two pieces of four octets between dots. -/
def dotted? (cs : List Char) : Option (List Nat) :=
  match (Text.pieces '.' cs).mapM octet? with
  | some [a, b, c, d] => some [a * 256 + b, c * 256 + d]
  | _ => none

/-- The last group of an address: a piece or four octets. -/
def lastGroup? (cs : List Char) : Option (List Nat) :=
  match piece? cs with
  | some p => some [p]
  | none => dotted? cs

/-- Groups between colons; only the last may be dotted, and only where `lastDotted` allows. -/
def groups? (lastDotted : Bool) (cs : List Char) : Option (List Nat) :=
  if cs.isEmpty then some [] else
    let parts := Text.pieces ':' cs
    match parts.dropLast.mapM piece?, parts.getLast? with
    | some front, some last =>
      if lastDotted then (lastGroup? last).map (front ++ ·)
      else (piece? last).map (front ++ [·])
    | _, _ => none

/-- The texts before and after the first double colon. -/
def gap? : List Char → Option (List Char × List Char)
  | ':' :: ':' :: rest => some ([], rest)
  | c :: rest => (gap? rest).map fun (before, after) => (c :: before, after)
  | [] => none

/-- The eight pieces of an address. -/
def pieces? (cs : List Char) : Option (List Nat) :=
  match gap? cs with
  | none => (groups? true cs).filter (·.length == 8)
  | some (before, after) =>
    match groups? false before, groups? true after with
    | some front, some back =>
      if front.length + back.length ≤ 7 then
        some (front ++ List.replicate (8 - front.length - back.length) 0 ++ back)
      else none
    | _, _ => none

/-- Start and length of the first longest run of zeros. -/
def longestZeros (ps : List Nat) : Nat × Nat :=
  (List.range ps.length).foldl (fun best i =>
    let n := ((ps.drop i).takeWhile (· == 0)).length
    if best.2 < n then (i, n) else best) (0, 0)

def colonJoined (ps : List Nat) : List Char := Text.join ':' (ps.map (Nat.toDigits 16))

/-- The shortest form: the first longest run of two zeros or more becomes a double colon. -/
def text (ps : List Nat) : List Char :=
  let (start, length) := longestZeros ps
  if length < 2 then colonJoined ps
  else colonJoined (ps.take start) ++ ':' :: ':' :: colonJoined (ps.drop (start + length))

example : (pieces? "1:2::3".toList).map text = some "1:2::3".toList := by decide
example : (pieces? "::FFFF:1.2.3.4".toList).map text = some "::ffff:102:304".toList := by decide
example : pieces? "1::2::3".toList = none ∧ pieces? ":1".toList = none := by decide
example : pieces? "1.2.3.4::".toList = none := by decide

end FacetFilter.Url.Ipv6
