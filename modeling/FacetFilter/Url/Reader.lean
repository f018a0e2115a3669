import FacetFilter.Url.Basic

/-! Reading absolute URLs. Query and fragment are cut off first, since neither `?` nor `#` can
stand in any part before them; what is left is read by the kind of its scheme. Breaks are left
out, but in file paths only where the path has been followed. -/

namespace FacetFilter.Url

/-- Controls and spaces at both ends do not count. -/
def trimmed (cs : List Char) : List Char :=
  let ignorable := fun (c : Char) => c.toNat ≤ 0x20
  ((cs.dropWhile ignorable).reverse.dropWhile ignorable).reverse

section
variable (toAscii : List Char → Option (List Char))

/-- Authority and path of a web URL. Any number of slashes stands before the authority. -/
def readWeb (kind : Kind) (isLast : Bool) (cs : List Char) :
    Except Flaw (Option Authority × Path) := do
  let (region, rest) := (cs.dropWhile kind.separates).span (!kind.separates ·)
  let (authority, _) ← Authority.read toAscii kind (isLast && rest.isEmpty) region
  return (some authority, .rooted (Path.segments kind (rest.drop 1)))

/-- Authority and path of a general URL. -/
def readGeneral (isLast : Bool) : List Char → Except Flaw (Option Authority × Path)
  | '/' :: '/' :: cs => do
    let (region, rest) := cs.span (· != '/')
    let (authority, afterPort) ← Authority.read toAscii .general (isLast && rest.isEmpty) region
    let path :=
      if !afterPort.isEmpty then Path.segments .general (afterPort ++ rest)
      else if rest.isEmpty then []
      else Path.segments .general (rest.drop 1)
    return (some authority, .rooted path)
  | '/' :: cs => .ok (none, .rooted (Path.segments .general cs))
  | cs => .ok (none, .rootless (Text.Percent.escape inRootless cs))

/-- The host of a file URL and the text its path is read from. A drive letter in its place and
the name `localhost` are no hosts. -/
def readFileHost (cs : List Char) : Except Flaw (Host × List Char) := do
  let (region, rest) := cs.span (!Kind.file.separates ·)
  let region := withoutBreaks region
  if Path.isDrive region then return (.empty, cs)
  if region.isEmpty then return (.empty, rest)
  let host ← Host.ofSpecial toAscii region
  if host = .name "localhost".toList then return (.empty, rest)
  return (host, rest.drop 1)

/-- A file path that begins with a drive letter has no host. -/
def fileUrl (host : Host) (t : Path.Trail) : Option Authority × Path :=
  let host := if t.hasDrive then .empty else host
  (some (.ofHost host), .rooted (Path.withoutLeadingEmpty t.segments))

/-- What follows a slash at the start of a file URL. -/
def afterSlash? (cs : List Char) : Option (List Char) :=
  match cs.dropWhile isBreak with
  | c :: rest => if Kind.file.separates c then some rest else none
  | [] => none

/-- Authority and path of a file URL: with two slashes or more a host may follow, otherwise all
is path. -/
def readFile (cs : List Char) : Except Flaw (Option Authority × Path) :=
  match afterSlash? cs with
  | none => .ok (fileUrl .empty (Path.trail .file cs))
  | some pathText =>
    match afterSlash? pathText with
    | none => .ok (fileUrl .empty (Path.trail .file pathText))
    | some hostText => do
      let (host, pathText) ← readFileHost toAscii hostText
      return fileUrl host (Path.trail .file pathText)

/-- Authority and path by kind. -/
def readBody (kind : Kind) (isLast : Bool) (cs : List Char) :
    Except Flaw (Option Authority × Path) :=
  match kind with
  | .web _ => readWeb toAscii kind isLast (withoutBreaks cs)
  | .file => readFile toAscii cs
  | .general => readGeneral toAscii isLast (withoutBreaks cs)

/-- The URL of a text. -/
def ofChars (cs : List Char) : Except Flaw Url := do
  let (beforeFragment, fragment) := Text.cut '#' (trimmed cs)
  let (body, query) := Text.cut '?' beforeFragment
  let (schemeText, rest?) := Text.cut ':' body
  match scheme? (withoutBreaks schemeText), rest? with
  | some scheme, some rest =>
    let kind := Kind.ofScheme scheme
    let (authority, path) ← readBody toAscii kind (query.isNone && fragment.isNone) rest
    return {
      scheme, authority, path
      query := query.map (Text.Percent.escape (inQuery kind.isSpecial) ∘ withoutBreaks)
      fragment := fragment.map (Text.Percent.escape inFragment ∘ withoutBreaks) }
  | _, _ => throw .relative

end

/-- The reader as a library. -/
def library (toAscii : List Char → Option (List Char)) : UrlLibrary where
  Parsed := Url
  parse s := ofChars toAscii s.toList
  text := text
  parts := parts
  withoutFragment := withoutFragment
  withQuery := withQuery

/-- The library for URLs whose hosts are written in ASCII. -/
def asciiLibrary : UrlLibrary := library Host.asciiName

end FacetFilter.Url
