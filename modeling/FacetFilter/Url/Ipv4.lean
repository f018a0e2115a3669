import FacetFilter.Text.Pieces

/-! IPv4 addresses in hosts: up to four numbers between dots, each in decimal, octal after
`0` or hexadecimal after `0x`, the last one filling all octets that are left. -/

namespace FacetFilter.Url.Ipv4

/-- The value of a digit in any base up to sixteen. -/
def digitValue (c : Char) : Nat :=
  if c.isDigit then c.toNat - 0x30 else c.toLower.toNat - 0x57

def isDigitIn (base : Nat) (c : Char) : Bool :=
  (c.isDigit || (c.isAlpha && c.toLower.toNat ≤ 0x66)) && digitValue c < base

def valueIn (base : Nat) (digits : List Char) : Nat :=
  digits.foldl (fun n c => base * n + digitValue c) 0

def digits? (base : Nat) (digits : List Char) : Option Nat :=
  if digits.all (isDigitIn base) then some (valueIn base digits) else none

/-- The number a label names; nothing after `0x` is zero. -/
def number? : List Char → Option Nat
  | [] => none
  | '0' :: x :: rest => if x.toLower = 'x' then digits? 16 rest else digits? 8 (x :: rest)
  | digits => digits? 10 digits

/-- The labels of a name; one empty label at the end is passed over. -/
def labels (name : List Char) : List (List Char) :=
  let all := Text.pieces '.' name
  if all.getLast? = some [] then all.dropLast else all

/-- Whether a name has to be an address: its last label is a number, or at least all digits. -/
def isMeant (name : List Char) : Bool :=
  match (labels name).getLast? with
  | none => false
  | some label => (!label.isEmpty && label.all Char.isDigit) || (number? label).isSome

/-- The value of numbers that fill `room` octets: each but the last is one octet. -/
def fill : Nat → List Nat → Option Nat
  | 0, _ => none
  | room, [last] => if last < Nat.pow 256 room then some last else none
  | room + 1, n :: more =>
    if n < 256 then (fill room more).map (n * Nat.pow 256 room + ·) else none
  | _, [] => none

/-- The address that a name stands for. -/
def address? (name : List Char) : Option Nat := do
  let numbers ← (labels name).mapM number?
  fill 4 numbers

/-- Four decimal octets between dots. -/
def text (address : Nat) : List Char :=
  Text.join '.' ([3, 2, 1, 0].map fun i => (address / Nat.pow 256 i % 256).repr.toList)

example : (address? "0x7f.1".toList).map text = some "127.0.0.1".toList := by decide
example : address? "1.2.3.4.0".toList = none := by decide
example : isMeant "a.09.".toList = true ∧ address? "a.09.".toList = none := by decide

end FacetFilter.Url.Ipv4
