/-! Cutting text at a separator: at its first occurrence, or at every one. -/

namespace FacetFilter.Text

/-- The text before the first `sep`, and the text after it when `sep` occurs. -/
def cut (sep : Char) : List Char → List Char × Option (List Char)
  | [] => ([], none)
  | c :: rest =>
    if c = sep then ([], some rest) else
      let (before, after?) := cut sep rest
      (c :: before, after?)

/-- The texts between the occurrences of `sep`, one more than there are occurrences. -/
def pieces (sep : Char) (cs : List Char) : List (List Char) := cs.splitOn sep

/-- Texts written one after another with `sep` between them. -/
def join (sep : Char) (parts : List (List Char)) : List Char := [sep].intercalate parts

/-- Strings written one after another with a comma between them. -/
def commaJoined (parts : List String) : String :=
  String.ofList (join ',' (parts.map String.toList))

theorem sep_notMem_cut (sep : Char) (cs : List Char) : sep ∉ (cut sep cs).1 := by
  induction cs with
  | nil => simp [cut]
  | cons c rest ih =>
    by_cases h : c = sep
    · simp [cut, h]
    · simp only [cut, if_neg h, List.mem_cons, not_or]
      exact ⟨fun e => h e.symm, ih⟩

/-- Cutting loses nothing but the separator. -/
theorem cut_append (sep : Char) (cs : List Char) :
    (cut sep cs).1 ++ ((cut sep cs).2.elim [] (sep :: ·)) = cs := by
  induction cs with
  | nil => simp [cut]
  | cons c rest ih =>
    by_cases h : c = sep
    · simp [cut, h]
    · simp [cut, h, ih]

theorem cut_of_notMem {sep : Char} {cs : List Char} (h : sep ∉ cs) : cut sep cs = (cs, none) := by
  induction cs with
  | nil => rfl
  | cons c rest ih =>
    rw [List.mem_cons, not_or] at h
    simp [cut, Ne.symm h.1, ih h.2]

/-- A separator after a text without one is where the text is cut. -/
theorem cut_append_cons {sep : Char} {before : List Char} (h : sep ∉ before) (after : List Char) :
    cut sep (before ++ sep :: after) = (before, some after) := by
  induction before with
  | nil => simp [cut]
  | cons c rest ih =>
    rw [List.mem_cons, not_or] at h
    simp [cut, Ne.symm h.1, ih h.2]

end FacetFilter.Text
