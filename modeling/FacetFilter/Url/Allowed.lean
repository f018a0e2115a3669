import FacetFilter.Text.Percent

/-! Which characters each part of a URL keeps as they are; all others are percent-escaped
there. A percent sign is kept everywhere, so that escapes already present stay what they are. -/

namespace FacetFilter.Url

/-- Tabs and line ends, which count nowhere in a URL. -/
def isBreak (c : Char) : Bool := c == '\t' || c == '\n' || c == '\x0d'

def withoutBreaks (cs : List Char) : List Char := cs.filter (!isBreak ·)

/-- The printable characters of ASCII and the space, which is all that a rootless path or the
host of a general scheme keeps. -/
def inRootless (c : Char) : Bool := 0x20 ≤ c.toNat && c.toNat < 0x7F

def inFragment (c : Char) : Bool := inRootless c && !" \"<>`".toList.contains c

def inPath (c : Char) : Bool := inFragment c && !"#?\x7b\x7d".toList.contains c

def inUserinfo (c : Char) : Bool := inPath c && !"/:;=@[\\]^|".toList.contains c

/-- Queries of web and file URLs do not keep the apostrophe. -/
def inQuery (special : Bool) (c : Char) : Bool :=
  inRootless c && !" \"#<>".toList.contains c && !(special && c == '\x27')

theorem inQuery_of_special {c : Char} (h : inQuery true c = true) (special : Bool) :
    inQuery special c = true := by
  simp only [inQuery, Bool.and_eq_true] at h ⊢
  refine ⟨h.1, ?_⟩
  cases special <;> simp_all

end FacetFilter.Url
