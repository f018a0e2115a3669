/-! UTF-8 as a machine that reads one octet at a time. Its output has one entry for each
scalar value and one empty entry for each maximal ill-formed run of octets, from which both
readings follow: the strict one refuses an empty entry, the lenient one shows U+FFFD for it. -/

namespace FacetFilter.Text.Utf8

/-- The octets of a text. -/
def encode (cs : List Char) : List UInt8 := cs.flatMap String.utf8EncodeChar

/-- The number of octets of a text. -/
def size (cs : List Char) : Nat := (encode cs).length

/-- The characters that lie within the first `count` octets. -/
def takeOctets (count : Nat) : List Char → List Char
  | [] => []
  | c :: rest =>
    if c.utf8Size ≤ count then c :: takeOctets (count - c.utf8Size) rest else []

/-- The characters that begin after the first `count` octets. -/
def dropOctets (count : Nat) : List Char → List Char
  | [] => []
  | c :: rest => if count = 0 then c :: rest else dropOctets (count - c.utf8Size) rest

/-- The characters that lie within `count` octets after the first `start`. -/
def slice (start count : Nat) (cs : List Char) : List Char := takeOctets count (dropOctets start cs)

/-- A scalar value begun and not ended: `need` more octets, the next one from `low` to `high`. -/
structure Pending where
  need : Nat
  low : Nat
  high : Nat
  value : Nat
deriving DecidableEq, Repr

/-- The ranges that rule out overlong forms, surrogates and values past U+10FFFF are those of
the octet after the lead. -/
def start (b : UInt8) : List (Option Char) × Option Pending :=
  let n := b.toNat
  if n < 0x80 then ([some (Char.ofNat n)], none)
  else if 0xC2 ≤ n ∧ n ≤ 0xDF then ([], some ⟨1, 0x80, 0xBF, n - 0xC0⟩)
  else if n = 0xE0 then ([], some ⟨2, 0xA0, 0xBF, 0⟩)
  else if n = 0xED then ([], some ⟨2, 0x80, 0x9F, 0xD⟩)
  else if 0xE1 ≤ n ∧ n ≤ 0xEF then ([], some ⟨2, 0x80, 0xBF, n - 0xE0⟩)
  else if n = 0xF0 then ([], some ⟨3, 0x90, 0xBF, 0⟩)
  else if 0xF1 ≤ n ∧ n ≤ 0xF3 then ([], some ⟨3, 0x80, 0xBF, n - 0xF0⟩)
  else if n = 0xF4 then ([], some ⟨3, 0x80, 0x8F, 4⟩)
  else ([none], none)

/-- An octet that cannot continue what is pending ends it as ill-formed and starts anew. -/
def step : Option Pending → UInt8 → List (Option Char) × Option Pending
  | none, b => start b
  | some p, b =>
    if p.low ≤ b.toNat ∧ b.toNat ≤ p.high then
      let value := p.value * 64 + (b.toNat - 0x80)
      if p.need = 1 then ([some (Char.ofNat value)], none)
      else ([], some ⟨p.need - 1, 0x80, 0xBF, value⟩)
    else
      let (out, next) := start b
      (none :: out, next)

/-- Octets read in a state; a scalar value that the end cuts off is one ill-formed run. -/
def scan : Option Pending → List UInt8 → List (Option Char)
  | none, [] => []
  | some _, [] => [none]
  | state, b :: rest =>
    let (out, next) := step state b
    out ++ scan next rest

/-- The text of octets, with U+FFFD for each ill-formed run. -/
def decodeLossy (bs : List UInt8) : List Char := (scan none bs).map (·.getD '\uFFFD')

/-- The text of octets that are well-formed throughout. -/
def decode? (bs : List UInt8) : Option (List Char) := (scan none bs).mapM id

example : decodeLossy [0xC3, 0xA9, 0x61] = ['é', 'a'] := by decide
example : decodeLossy [0xE2, 0x82, 0x28, 0xFF] = ['\uFFFD', '(', '\uFFFD'] := by decide
example : decodeLossy [0xED, 0xA0, 0x80] = ['\uFFFD', '\uFFFD', '\uFFFD'] := by decide
example : decode? [0xF0, 0x9F, 0x98, 0x80] = some ['😀'] := by decide
example : decode? [0xF0, 0x9F, 0x98] = none := by decide

end FacetFilter.Text.Utf8
