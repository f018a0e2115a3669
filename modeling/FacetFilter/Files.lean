import FacetFilter.Text.Utf8

/-! What is found at a path, and the text of files. -/

namespace FacetFilter

inductive FileContent where
  | absent
  /-- The path goes on after a file. -/
  | behindFile
  /-- The path, or a name in it, is longer than the system allows. -/
  | nameTooLong
  | directory
  | file (octets : List UInt8)
deriving DecidableEq, Repr

/-- Why there is no text at a path. -/
inductive FileError where
  | absent
  | behindFile
  | nameTooLong
  | directory
  | notText
deriving DecidableEq, Repr

def FileError.message : FileError → String
  | .absent => "No such file or directory (os error 2)"
  | .behindFile => "Not a directory (os error 20)"
  | .nameTooLong => "File name too long (os error 36)"
  | .directory => "Is a directory (os error 21)"
  | .notText => "stream did not contain valid UTF-8"

/-- The text of a file. -/
def FileContent.text : FileContent → Except FileError String
  | .absent => .error .absent
  | .behindFile => .error .behindFile
  | .nameTooLong => .error .nameTooLong
  | .directory => .error .directory
  | .file octets =>
    match Text.Utf8.decode? octets with
    | some cs => .ok (String.ofList cs)
    | none => .error .notText

/-- A file that holds this text. -/
def FileContent.ofText (text : String) : FileContent := .file (Text.Utf8.encode text.toList)

end FacetFilter
