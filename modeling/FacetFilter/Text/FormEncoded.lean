import FacetFilter.Text.Percent
import FacetFilter.Text.Pieces
import FacetFilter.Text.Utf8

/-! Form-urlencoded text. Writing keeps ASCII letters, digits and `* - . _`, turns a space
into `+` and escapes everything else; reading cuts at `&` and at the first `=` of each part,
and never fails. -/

namespace FacetFilter.Text.FormEncoded

/-- The characters that stand for themselves. -/
def keeps (c : Char) : Bool := c.isAlphanum || c == '*' || c == '-' || c == '.' || c == '_'

def encodeChar (c : Char) : List Char :=
  if keeps c then [c] else if c = ' ' then ['+'] else Percent.escapeChar c

/-- The written form of a text. -/
def encode (cs : List Char) : List Char := cs.flatMap encodeChar

/-- The octets of a written text before its escapes are resolved: `+` is a space. -/
def octets (cs : List Char) : List UInt8 :=
  Utf8.encode (cs.map fun c => if c = '+' then ' ' else c)

/-- The text that a written text stands for. -/
def decode (cs : List Char) : List Char :=
  Utf8.decodeLossy (Percent.unescape (octets cs))

/-- The key and the value of one part; without `=` the value is empty. -/
def pair (part : List Char) : List Char × List Char :=
  let (key, value?) := cut '=' part
  (decode key, decode (value?.getD []))

/-- The key and value pairs of a written list; empty parts give none. -/
def pairs (cs : List Char) : List (List Char × List Char) :=
  ((pieces '&' cs).filter (!·.isEmpty)).map pair

example : decode "a+b%2C%zz%e9".toList = "a b,%zz\uFFFD".toList := by decide
example : encode "é & b".toList = "%C3%A9+%26+b".toList := by decide
example : pairs "a=1&&b&=c=d".toList =
    [("a".toList, "1".toList), ("b".toList, []), ([], "c=d".toList)] := by decide

end FacetFilter.Text.FormEncoded
