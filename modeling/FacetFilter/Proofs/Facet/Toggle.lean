import FacetFilter.Proofs.Session.Toggles

/-! The grammar of toggles. The first colon ends the name of the category, and blanks around the
name and around the value do not count. What is wrong with a text is told of the value before it is
told of the name. A value is trimmed when a toggle is read and once more when it is flipped, which
makes no difference to a session. -/

namespace FacetFilter

open Text (TrimsTo isBlank trim trimmed trimsTo_iff)

namespace Category

/-- The names of a category, singular and plural. -/
def names : Category → List String
  | .country => ["country", "countries"]
  | .asn => ["asn", "asns"]
  | .service => ["service", "services"]

/-- Between its blanks the text is one of the category's names, up to the case of ASCII letters. -/
def IsNamedBy (c : Category) (text : List Char) : Prop :=
  ∃ word, TrimsTo text word ∧ String.ofList (word.map Char.toLower) ∈ c.names

variable {c : Category}

theorem ofLowerName?_eq_some_iff {name : String} : ofLowerName? name = some c ↔ name ∈ c.names := by
  constructor
  · intro h
    unfold ofLowerName? at h
    split at h
    · next hname => cases h; simpa [names] using hname
    split at h
    · next hname => cases h; simpa [names] using hname
    split at h
    · next hname => cases h; simpa [names] using hname
    · cases h
  · cases c <;> simp only [names, List.mem_cons, List.not_mem_nil, or_false] <;>
      rintro (rfl | rfl) <;> decide

theorem ofName?_eq_some_iff {name : String} : ofName? name = some c ↔ c.IsNamedBy name.toList := by
  rw [ofName?, ofLowerName?_eq_some_iff]
  constructor
  · exact fun h => ⟨_, Text.trimsTo_trim _, h⟩
  · rintro ⟨word, hword, h⟩
    rwa [trimsTo_iff.mp hword]

theorem ofName?_eq_none_iff {name : String} :
    ofName? name = none ↔ ∀ c : Category, ¬c.IsNamedBy name.toList := by
  simp only [Option.eq_none_iff_forall_ne_some, ne_eq, ofName?_eq_some_iff]

end Category

/-- A value has one normal form, trimmed or not. -/
theorem normalForm?_trimmed (c : Category) (v : String) :
    normalForm? c (trimmed v) = normalForm? c v := by
  have htwice : trimmed (trimmed v) = trimmed v := by
    rw [trimmed, trimmed, String.toList_ofList, Text.trim_trim]
  rw [normalForm?_eq, normalForm?_eq, htwice, trimmed, String.toList_ofList, Text.trim_trim]

theorem Session.toggle_trimmed (s : Session) (c : Category) (v : String) :
    s.toggle c (trimmed v) = s.toggle c v := by
  have hworking : s.working.toggle c (trimmed v) = s.working.toggle c v := by
    rw [Selection.toggle, Selection.toggle, normalForm?_trimmed]
  rw [Session.toggle, Session.toggle, hworking]

namespace Toggle

variable {text : String} {name after : List Char}

theorem parse_of_colon_notMem (h : ':' ∉ text.toList) :
    parse text = .error (.invalidToggle text) := by
  rw [parse, Text.cut_of_notMem h]

/-- Where there is a colon, the value decides first. -/
theorem parse_of_colon (htext : text.toList = name ++ ':' :: after) (hname : ':' ∉ name) :
    parse text =
      if trim after = [] then .error (.invalidToggle text)
      else (Category.parse (String.ofList name)).map (⟨·, String.ofList (trim after)⟩) := by
  rw [parse, htext, Text.cut_append_cons hname]
  simp only [List.isEmpty_iff]
  cases Category.parse (String.ofList name) <;> rfl

theorem parse_of_blank (htext : text.toList = name ++ ':' :: after) (hname : ':' ∉ name)
    (h : ∀ x ∈ after, isBlank x = true) : parse text = .error (.invalidToggle text) := by
  rw [parse_of_colon htext hname, if_pos (Text.trim_eq_nil_iff.mpr h)]

theorem parse_of_isNamedBy (htext : text.toList = name ++ ':' :: after) (hname : ':' ∉ name)
    (h : ∃ x ∈ after, isBlank x = false) {c : Category} (hc : c.IsNamedBy name) :
    parse text = .ok ⟨c, String.ofList (trim after)⟩ := by
  have hcategory : Category.ofName? (String.ofList name) = some c :=
    Category.ofName?_eq_some_iff.mpr (by rwa [String.toList_ofList])
  rw [parse_of_colon htext hname, if_neg (Text.trim_ne_nil_iff.mpr h), Category.parse, hcategory]
  rfl

theorem parse_of_unnamed (htext : text.toList = name ++ ':' :: after) (hname : ':' ∉ name)
    (h : ∃ x ∈ after, isBlank x = false) (hc : ∀ c : Category, ¬c.IsNamedBy name) :
    parse text = .error (.unknownCategory (String.ofList name)) := by
  have hcategory : Category.ofName? (String.ofList name) = none :=
    Category.ofName?_eq_none_iff.mpr (by rwa [String.toList_ofList])
  rw [parse_of_colon htext hname, if_neg (Text.trim_ne_nil_iff.mpr h), Category.parse, hcategory]
  rfl

/-- A text is a malformed toggle exactly when it has no colon or nothing but blanks after the
first one. -/
theorem parse_eq_invalidToggle_iff :
    parse text = .error (.invalidToggle text) ↔
      ':' ∉ text.toList ∨ ∃ name after, text.toList = name ++ ':' :: after ∧ ':' ∉ name ∧
        ∀ x ∈ after, isBlank x = true := by
  constructor
  · intro h
    by_cases hcolon : ':' ∈ text.toList
    · obtain ⟨name, after, htext, hname⟩ := List.eq_append_cons_of_mem hcolon
      refine Or.inr ⟨name, after, htext, hname, Text.trim_eq_nil_iff.mp ?_⟩
      by_contra hblank
      rw [parse_of_colon htext hname, if_neg hblank, Category.parse] at h
      cases hcategory : Category.ofName? (String.ofList name) <;>
        simp [hcategory, Except.map] at h
    · exact Or.inl hcolon
  · rintro (h | ⟨name, after, htext, hname, hblank⟩)
    · exact parse_of_colon_notMem h
    · exact parse_of_blank htext hname hblank

/-- The key of a category is one of its names. -/
theorem parse_key (c : Category) {v : String} (h : ∃ x ∈ v.toList, isBlank x = false) :
    parse (c.key ++ ":" ++ v) = .ok ⟨c, trimmed v⟩ := by
  have htext : (c.key ++ ":" ++ v).toList = c.key.toList ++ ':' :: v.toList := by
    simp [String.toList_append]
  have hname : ':' ∉ c.key.toList := by cases c <;> decide
  exact parse_of_isNamedBy htext hname h (Category.ofName?_eq_some_iff.mp c.ofName?_key)

/-- Every text is read in exactly one way. It is a malformed toggle when it has no colon or nothing
but blanks after the first one. Otherwise what stands before the first colon has to name a category,
and is told as it stands when it does not; when it does, the toggle has this category and what
stands after the colon, without the blanks at its ends. So the key of a category, a colon and a
value that is not blank are read as a toggle that any session takes as it takes the value itself. -/
theorem parse_at_first_colon :
    (∀ text, parse text = .error (.invalidToggle text) ↔
      ':' ∉ text.toList ∨ ∃ name after, text.toList = name ++ ':' :: after ∧ ':' ∉ name ∧
        ∀ x ∈ after, isBlank x = true) ∧
    (∀ (text : String) (name after : List Char), text.toList = name ++ ':' :: after → ':' ∉ name →
      (∃ x ∈ after, isBlank x = false) →
      (parse text = .error (.unknownCategory (String.ofList name)) ↔
        ∀ c : Category, ¬c.IsNamedBy name) ∧
      ∀ c : Category, c.IsNamedBy name →
        ∃ value, TrimsTo after value ∧ parse text = .ok ⟨c, String.ofList value⟩) ∧
    ∀ (c : Category) (v : String), (∃ x ∈ v.toList, isBlank x = false) →
      ∃ t, parse (c.key ++ ":" ++ v) = .ok t ∧
        ∀ s : Session, s.toggle t.category t.value = s.toggle c v := by
  refine ⟨fun _ => parse_eq_invalidToggle_iff, fun text name after htext hname h => ⟨⟨?_, ?_⟩, ?_⟩,
    fun c v h => ⟨_, parse_key c h, fun s => s.toggle_trimmed c v⟩⟩
  · intro herror c hc
    rw [parse_of_isNamedBy htext hname h hc] at herror
    cases herror
  · exact parse_of_unnamed htext hname h
  · intro c hc
    exact ⟨_, Text.trimsTo_trim after, parse_of_isNamedBy htext hname h hc⟩

/-- More colons belong to the value; a letter outside ASCII that has one of its letters as another
case is another letter; and a blank value is told before an unknown name. -/
theorem parse_at_first_colon_spellings :
    parse "\u2003aSnS\t: as007:x, y\u3000" = .ok ⟨.asn, "as007:x, y"⟩ ∧
      parse "\u017Fervice:http" = .error (.unknownCategory "\u017Fervice") ∧
      parse "port:\u00A0" = .error (.invalidToggle "port:\u00A0") ∧
      ∃ t, parse "asns:\u2003007 " = .ok t ∧
        ∀ s : Session, s.toggle t.category t.value = s.toggle .asn "\u2003007 " := by
  obtain ⟨hinvalid, hvalued, hkey⟩ := parse_at_first_colon
  obtain ⟨-, hnamed⟩ := hvalued "\u2003aSnS\t: as007:x, y\u3000" "\u2003aSnS\t".toList
    " as007:x, y\u3000".toList (by decide) (by decide) ⟨'x', by decide, by decide⟩
  obtain ⟨hunnamed, -⟩ := hvalued "\u017Fervice:http" "\u017Fervice".toList "http".toList
    (by decide) (by decide) ⟨'h', by decide, by decide⟩
  refine ⟨?_, hunnamed.mpr ?_, (hinvalid _).mpr (Or.inr ⟨"port".toList, ['\u00A0'], ?_⟩),
    hkey .asn "\u2003007 " ⟨'7', by decide, by decide⟩⟩
  · obtain ⟨value, hvalue, hparse⟩ := hnamed .asn ⟨"aSnS".toList, trimsTo_iff.mpr (by decide),
      by decide⟩
    rw [hparse, ← trimsTo_iff.mp hvalue]
    decide
  · exact Category.ofName?_eq_none_iff.mp (by decide)
  · exact ⟨by decide, by decide, List.forall_mem_singleton.mpr (by decide)⟩

end Toggle

end FacetFilter
