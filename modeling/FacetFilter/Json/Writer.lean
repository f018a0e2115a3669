/-! Compact JSON text. Strings escape quotes, backslashes and controls, and nothing else. -/

namespace FacetFilter.Json

/-- The two lower-case hexadecimal digits of a number below 256. -/
def twoHexDigits (n : Nat) : List Char :=
  [Nat.digitChar (n / 16), Nat.digitChar (n % 16)]

def escapedChar (c : Char) : List Char :=
  match c with
  | '"' => ['\\', '"']
  | '\\' => ['\\', '\\']
  | '\x08' => ['\\', 'b']
  | '\x0c' => ['\\', 'f']
  | '\n' => ['\\', 'n']
  | '\x0d' => ['\\', 'r']
  | '\t' => ['\\', 't']
  | c => if c.toNat < 0x20 then ['\\', 'u', '0', '0'] ++ twoHexDigits c.toNat else [c]

def stringChars (s : String) : List Char := '"' :: s.toList.flatMap escapedChar ++ ['"']

def numberChars (n : Nat) : List Char := n.repr.toList

def arrayChars (items : List (List Char)) : List Char := '[' :: [','].intercalate items ++ [']']

def objectChars (members : List (String × List Char)) : List Char :=
  '\x7b' :: [','].intercalate (members.map fun (key, value) => stringChars key ++ ':' :: value) ++
    ['\x7d']

end FacetFilter.Json
