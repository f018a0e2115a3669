import FacetFilter.Text.Quoted

/-! How a well-formed document can differ from the shape that is asked for, and how that is
told. Documents of every format share these words. -/

namespace FacetFilter.Shape

/-- What stands where something else is expected. Numbers are given by their text. -/
inductive Found where
  | null
  | boolean (b : Bool)
  | integer (text : String)
  | float (text : String)
  | string (s : String)
  | sequence
  | map
deriving DecidableEq, Repr

def Found.text : Found → String
  | .null => "null"
  | .boolean b => "boolean `" ++ (if b then "true" else "false") ++ "`"
  | .integer text => "integer `" ++ text ++ "`"
  | .float text => "floating point `" ++ text ++ "`"
  | .string s => "string " ++ Text.quoted s
  | .sequence => "sequence"
  | .map => "map"

inductive Mismatch where
  | missingField (name : String)
  | duplicateField (name : String)
  | wrongType (found : Found) (expected : String)
  /-- An integer outside the range asked for. -/
  | outOfRange (text : String) (expected : String)
  /-- A sequence that ends too early. -/
  | tooShort (length : Nat) (expected : String)
  | unknownVariant (found : String) (variants : List String)
  /-- A mismatch with words of its own. -/
  | other (text : String)
deriving DecidableEq, Repr

/-- Two names as alternatives, more of them as a list. -/
def alternatives : List String → String
  | [a, b] => "expected `" ++ a ++ "` or `" ++ b ++ "`"
  | names => "expected one of " ++ String.intercalate ", " (names.map fun n => "`" ++ n ++ "`")

def Mismatch.message : Mismatch → String
  | .missingField name => "missing field `" ++ name ++ "`"
  | .duplicateField name => "duplicate field `" ++ name ++ "`"
  | .wrongType found expected => "invalid type: " ++ found.text ++ ", expected " ++ expected
  | .outOfRange text expected =>
    "invalid value: integer `" ++ text ++ "`, expected " ++ expected
  | .tooShort length expected => "invalid length " ++ length.repr ++ ", expected " ++ expected
  | .unknownVariant found variants =>
    "unknown variant `" ++ found ++ "`, " ++ alternatives variants
  | .other text => text

end FacetFilter.Shape
