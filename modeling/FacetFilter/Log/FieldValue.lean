import FacetFilter.Pattern.Reader
import FacetFilter.Pattern.Supported

/-! The values that a directive may ask of a field: a number, or a pattern that is supported.
Truth values need no rule of their own, since their names are patterns. -/

namespace FacetFilter.Log.FieldValue

def withoutSign : List Char → List Char
  | '+' :: rest | '-' :: rest => rest
  | cs => cs

/-- Nothing, or the exponent of a number. -/
def isExponent : List Char → Bool
  | [] => true
  | e :: rest =>
    let digits := withoutSign rest
    (e == 'e' || e == 'E') && !digits.isEmpty && digits.all Char.isDigit

/-- Whether a text is a number, a fraction or an exponent included, or the name of an infinite
one or of none. -/
def isNumber (cs : List Char) : Bool :=
  let cs := withoutSign cs
  let (whole, rest) := cs.span Char.isDigit
  let (fraction, rest) := match rest with
    | '.' :: rest => rest.span Char.isDigit
    | rest => ([], rest)
  ["inf", "infinity", "nan"].contains (String.ofList (cs.map Char.toLower)) ||
    (!(whole ++ fraction).isEmpty && isExponent rest)

def isValid (cs : List Char) : Bool := isNumber cs || (Pattern.parse? cs).any (·.isSupported)

example : isValid "a**".toList = true := by decide +kernel
example : isValid "+1.5".toList = true := by decide +kernel
example : isValid "+".toList = false := by decide +kernel
example : isValid "\\w".toList = false := by decide +kernel
example : isValid "(?-u)\\w".toList = true := by decide +kernel
example : isValid "(?i)[&&]".toList = true := by decide +kernel
example : isValid "(?i)a".toList = false := by decide +kernel

end FacetFilter.Log.FieldValue
