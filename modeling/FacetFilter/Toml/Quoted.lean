import FacetFilter.Text.Hexadecimal

/-! TOML strings, from after the opening quotes to the closing ones. Strings in single quotes
have no escapes; those between three quotes may run over several lines. -/

namespace FacetFilter.Toml

/-- Tabs, printable ASCII and everything outside ASCII may stand in strings and comments. -/
def isPlain (c : Char) : Bool := c == '\t' || (0x20 ≤ c.toNat && c.toNat != 0x7F)

def isSpace (c : Char) : Bool := c == ' ' || c == '\t'

/-- What the letter of an escape stands for. -/
def escapeLetter? : Char → Option Char
  | 'b' => some '\x08'
  | 't' => some '\t'
  | 'n' => some '\n'
  | 'f' => some '\x0c'
  | 'r' => some '\x0d'
  | '"' => some '"'
  | '\\' => some '\\'
  | _ => none

/-- Puts a character before a string that was read. -/
def withFirst (c? : Option Char) (read : Option (List Char × List Char)) :
    Option (List Char × List Char) := do
  let (cs, rest) ← read
  return ((← c?) :: cs, rest)

/-- A string in double quotes on one line, and the text after it. -/
def basicString : List Char → Option (List Char × List Char)
  | '"' :: rest => some ([], rest)
  | '\\' :: 'u' :: a :: b :: c :: d :: rest =>
    withFirst (Text.codePoint? [a, b, c, d]) (basicString rest)
  | '\\' :: 'U' :: a :: b :: c :: d :: e :: f :: g :: h :: rest =>
    withFirst (Text.codePoint? [a, b, c, d, e, f, g, h]) (basicString rest)
  | '\\' :: letter :: rest => withFirst (escapeLetter? letter) (basicString rest)
  | c :: rest => if isPlain c ∧ c ≠ '\\' then withFirst (some c) (basicString rest) else none
  | [] => none

/-- A string in single quotes on one line, and the text after it. -/
def literalString : List Char → Option (List Char × List Char)
  | [] => none
  | c :: rest =>
    if c = '\x27' then some ([], rest)
    else if isPlain c then withFirst (some c) (literalString rest) else none

/-- Whether only spaces stand before the end of the line. -/
def lineEnds (cs : List Char) : Bool :=
  match cs.dropWhile isSpace with
  | '\n' :: _ => true
  | '\x0d' :: '\n' :: _ => true
  | _ => false

/-- The quotes of a run before three closing ones belong to the string, two of them at most. -/
def closing? (quote : Char) : List Char → Option (List Char × List Char)
  | a :: b :: c :: rest =>
    if a = quote ∧ b = quote ∧ c = quote then
      match rest with
      | d :: e :: rest' =>
        if d = quote ∧ e = quote then some ([quote, quote], rest')
        else if d = quote then some ([quote], e :: rest')
        else some ([], rest)
      | [d] => if d = quote then some ([quote], []) else some ([], rest)
      | [] => some ([], rest)
    else none
  | _ => none

/-- A string between three double quotes, and the text after it. A backslash at the end of a
line takes away all white space that follows, which `skipping` is for. -/
def basicLines (skipping : Bool) : List Char → Option (List Char × List Char)
  | [] => none
  | '\x0d' :: '\n' :: rest =>
    if skipping then basicLines true rest else withFirst (some '\n') (basicLines false rest)
  | '\\' :: 'u' :: a :: b :: c :: d :: rest =>
    withFirst (Text.codePoint? [a, b, c, d]) (basicLines false rest)
  | '\\' :: 'U' :: a :: b :: c :: d :: e :: f :: g :: h :: rest =>
    withFirst (Text.codePoint? [a, b, c, d, e, f, g, h]) (basicLines false rest)
  | '\\' :: letter :: rest =>
    if lineEnds (letter :: rest) then basicLines true (letter :: rest)
    else withFirst (escapeLetter? letter) (basicLines false rest)
  | c :: rest =>
    if skipping ∧ (isSpace c ∨ c = '\n') then basicLines true rest
    else match closing? '"' (c :: rest) with
      | some end_ => some end_
      | none =>
        if (isPlain c ∧ c ≠ '\\') ∨ c = '\n' then withFirst (some c) (basicLines false rest)
        else none

/-- A string between three single quotes, and the text after it. -/
def literalLines : List Char → Option (List Char × List Char)
  | [] => none
  | '\x0d' :: '\n' :: rest => withFirst (some '\n') (literalLines rest)
  | c :: rest =>
    match closing? '\x27' (c :: rest) with
    | some end_ => some end_
    | none =>
      if isPlain c ∨ c = '\n' then withFirst (some c) (literalLines rest) else none

/-- A line end right after the opening quotes does not count. -/
def afterFirstLineEnd : List Char → List Char
  | '\n' :: rest => rest
  | '\x0d' :: '\n' :: rest => rest
  | cs => cs

/-- A string on one line, from its opening quote. -/
def lineString? : List Char → Option (List Char × List Char)
  | [] => none
  | c :: rest =>
    if c = '"' then basicString rest else if c = '\x27' then literalString rest else none

/-- Any string, from its opening quotes. -/
def string? : List Char → Option (List Char × List Char)
  | a :: b :: c :: rest =>
    if a = '"' ∧ b = '"' ∧ c = '"' then basicLines false (afterFirstLineEnd rest)
    else if a = '\x27' ∧ b = '\x27' ∧ c = '\x27' then literalLines (afterFirstLineEnd rest)
    else lineString? (a :: b :: c :: rest)
  | cs => lineString? cs

end FacetFilter.Toml
