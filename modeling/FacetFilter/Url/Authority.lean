import FacetFilter.Text.Pieces
import FacetFilter.Url.Host
import FacetFilter.Url.Scheme

/-! The authority of a URL: who asks, the host and the port. -/

namespace FacetFilter.Url

structure Authority where
  user : List Char
  password : List Char
  host : Host
  port : Option Nat
deriving DecidableEq, Repr

namespace Authority

/-- An authority of nothing but a host. -/
def ofHost (host : Host) : Authority := ⟨[], [], host, none⟩

def hasUserinfo (a : Authority) : Bool := !a.user.isEmpty || !a.password.isEmpty

/-- The authority as it stands after the two slashes. A colon follows the user only before a
password. -/
def text (a : Authority) : List Char :=
  (if a.hasUserinfo then
    a.user ++ (if a.password.isEmpty then [] else ':' :: a.password) ++ ['@'] else []) ++
  a.host.text ++
  (match a.port with
    | some n => ':' :: n.repr.toList
    | none => [])

/-- The text before the last `@`, if there is one, and the text after it. -/
def splitUserinfo (cs : List Char) : Option (List Char) × List Char :=
  match Text.cut '@' cs.reverse with
  | (_, none) => (none, cs)
  | (after, some before) => (some before.reverse, after.reverse)

/-- The text up to the first colon outside brackets, and the text from there on. -/
def splitHost (inBrackets : Bool) : List Char → List Char × List Char
  | [] => ([], [])
  | c :: rest =>
    if c = ':' ∧ !inBrackets then ([], c :: rest) else
      let (host, after) := splitHost (c == '[' || (inBrackets && c != ']')) rest
      (c :: host, after)

/-- The number after the colon and what follows its digits, where only a backslash may stand.
An absent number and the default port of the scheme are not kept. -/
def readPort (kind : Kind) (cs : List Char) : Except Flaw (Option Nat × List Char) :=
  let (digits, rest) := cs.span Char.isDigit
  let n := Nat.ofDigitChars 10 digits 0
  if 65535 < n ∨ (rest ≠ [] ∧ rest.head? ≠ some '\\') then .error .invalidPort
  else if digits.isEmpty ∨ kind = .web n then .ok (none, rest)
  else .ok (some n, rest)

/-- The user and the password, escaped. -/
def readUserinfo (cs : List Char) : List Char × List Char :=
  let (user, password?) := Text.cut ':' cs
  (Text.Percent.escape inUserinfo user, Text.Percent.escape inUserinfo (password?.getD []))

def readHost (toAscii : List Char → Option (List Char)) (kind : Kind) (cs : List Char) :
    Except Flaw Host :=
  if kind.isSpecial then
    if cs.isEmpty then .error .emptyHost else Host.ofSpecial toAscii cs
  else Host.ofGeneral cs

/-- The authority written in `cs`, and the part of `cs` that belongs to the path. Nothing of
the URL follows `cs` when `isLast` holds: only then may an empty userinfo stand before an
empty host. -/
def read (toAscii : List Char → Option (List Char)) (kind : Kind) (isLast : Bool)
    (cs : List Char) : Except Flaw (Authority × List Char) := do
  let (userinfo?, rest) := splitUserinfo cs
  if userinfo? = some [] ∧ rest.isEmpty ∧ !isLast then throw .emptyHost
  let (user, password) := readUserinfo (userinfo?.getD [])
  let (hostText, afterHost) := splitHost false rest
  let host ← readHost toAscii kind hostText
  if host = .empty ∧ !afterHost.isEmpty then throw .emptyHost
  let (port, afterPort) ← readPort kind (afterHost.drop 1)
  if host = .empty ∧ (!user.isEmpty || !password.isEmpty) then throw .emptyHost
  return (⟨user, password, host, port⟩, afterPort)

end Authority

end FacetFilter.Url
