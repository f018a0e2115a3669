import FacetFilter.Proofs.Session.Commits
import FacetFilter.Proofs.Session.Parity

/-! What a toggle changes on the panel. Rows are made anew from the counts and the session each
time, and a value may have several of them, in other spellings, or none. Between two panels only the
check marks of one value differ, and the button. -/

namespace FacetFilter

variable {c : Category} {v w : String}

/-- Two values, the first of them not blank, are trimmed to one form exactly when they have one
normal form. -/
theorem form_eq_iff :
    Text.trim v.toList ≠ [] ∧ c.form (Text.trimmed w) = c.form (Text.trimmed v) ↔
      ∃ m, normalForm? c v = some m ∧ normalForm? c w = some m := by
  simp only [normalForm?_eq_some_iff]
  constructor
  · rintro ⟨hv, hform⟩
    refine ⟨_, ⟨hv, rfl⟩, fun hw => ?_, hform⟩
    -- the form of a blank value is empty, which that of no other value is
    have hempty : Text.trimmed w = "" := by rw [Text.trimmed, hw, String.ofList_nil]
    have hnil : (c.form (Text.trimmed v)).toList = [] := by
      rw [← hform, hempty]
      cases c <;> decide
    exact Category.form_ne_nil (by rwa [Text.trimmed, String.toList_ofList]) hnil
  · rintro ⟨m, ⟨hv, rfl⟩, -, hform⟩
    exact ⟨hv, hform⟩

namespace Session

/-- A toggle changes whether a value is selected exactly when both have one normal form. -/
theorem isSelected_toggle (s : Session) (c d : Category) (v w : String) :
    (s.toggle c v).2.isSelected d w =
      if d = c ∧ Text.trim v.toList ≠ [] ∧ d.form (Text.trimmed w) = d.form (Text.trimmed v)
      then !s.isSelected d w else s.isSelected d w := by
  simp only [isSelected, snd_toggle]
  split
  · next h =>
    obtain ⟨rfl, hform⟩ := h
    obtain ⟨m, hv, hw⟩ := form_eq_iff.mp hform
    simp [Selection.contains, Selection.toggle, hv, hw, MemberSet.contains_toggle_self]
  · next h =>
    rw [Bool.eq_iff_iff, Selection.contains_iff, Selection.contains_iff]
    refine exists_congr fun m => and_congr_right fun hw => ?_
    rw [Selection.mem_toggle, if_neg]
    rintro ⟨rfl, hv⟩
    exact h ⟨rfl, form_eq_iff.mpr ⟨m, hv, hw⟩⟩

/-- A blank value leaves the session as it is. -/
theorem toggle_blank (s : Session) (c : Category) (h : Text.trim v.toList = []) :
    (s.toggle c v).2 = s := by
  rw [snd_toggle, Selection.toggle, normalForm?_eq, if_pos h]

end Session

/-- The row after a toggle of `v` in `c`: it has the other check mark if it is one of this value. -/
def Row.afterToggle (r : Row) (c : Category) (v : String) : Row :=
  if r.category = c ∧ Text.trim v.toList ≠ [] ∧
      r.category.form (Text.trimmed r.value) = r.category.form (Text.trimmed v)
  then { r with checked := !r.checked } else r

/-- The section after a toggle: nothing but its rows can differ. -/
def Section.afterToggle (x : Section) (c : Category) (v : String) : Section :=
  { x with rows := x.rows.map (·.afterToggle c v) }

namespace Panel

variable {counts : Counts} {s : Session} {r : Row}

theorem sections_build (counts : Counts) (s : Session) (opened : Sections) :
    (build counts s opened).sections = Category.all.map fun d =>
      ⟨d, opened.get d, if opened.get d then rows counts s d else []⟩ := rfl

theorem apply_build (counts : Counts) (s : Session) (opened : Sections) :
    (build counts s opened).apply = .ofSession s := rfl

theorem busy_build (counts : Counts) (s : Session) (opened : Sections) :
    (build counts s opened).busy = s.inFlight := rfl

theorem rows_toggle (counts : Counts) (s : Session) (c d : Category) (v : String) :
    rows counts (s.toggle c v).2 d = (rows counts s d).map (·.afterToggle c v) := by
  rw [rows, rows, List.map_map]
  refine List.map_congr_left fun listed _ => ?_
  simp only [Function.comp_apply, Row.afterToggle, Session.isSelected_toggle]
  split <;> rfl

/-- The services of the counts have their rows in order of their names. -/
theorem pairwise_rows_service (counts : Counts) (s : Session) :
    (rows counts s .service).Pairwise fun r q => r.value < q.value := by
  rw [rows, listed, List.map_map, List.pairwise_map]
  exact counts.ascending

/-- No row of a blank value is checked. -/
theorem checked_of_blank (hr : r ∈ rows counts s c) (h : Text.trim r.value.toList = []) :
    r.checked = false := by
  obtain ⟨⟨value, label, count⟩, -, rfl⟩ := List.mem_map.mp hr
  dsimp only at h ⊢
  rw [Session.isSelected, Selection.contains_of_blank h]

/-- The rows of a category apart from their check marks. -/
theorem rows_eq (counts : Counts) (s : Session) (c : Category) :
    ((rows counts s c).map fun r => (r.category, r.value, r.label, r.count)) =
      match c with
      | .country => counts.countries.map fun e => (.country, e.code, e.name, e.count)
      | .asn => counts.asns.map fun e => (.asn, e.code.text, e.name, e.count)
      | .service => counts.services.map fun e => (.service, e.name, e.name, e.count) := by
  cases c <;> simp [rows, listed]

/-- Whatever the counts list and whichever sections are open, a toggle leaves of any session's panel
the same sections with the same rows. An open section has a row for each entry of the counts:
countries with their code, AS numbers with the text of theirs, and services with their name, which
is the label as well, in order of the names. A closed one has none. Only check marks change, and
only on the rows that have the normal form of the value, in its category; a blank value changes
nothing. Rows of blank values are never checked. The panel is as busy as before, and the button is
hidden exactly when no changes are left. -/
theorem build_toggle (counts : Counts) (s : Session) (opened : Sections) (c : Category)
    (v : String) :
    let before := build counts s opened
    let after := build counts (s.toggle c v).2 opened
    after.sections = before.sections.map (·.afterToggle c v) ∧
    (Text.trim v.toList = [] → after = before) ∧
    after.busy = before.busy ∧
    (after.apply = .hidden ↔ (s.toggle c v).2.isDirty = false) ∧
    before.sections.map Section.category = [.country, .asn, .service] ∧
    ∀ x ∈ before.sections, x.isOpen = opened.get x.category ∧
      (x.rows.map fun r => (r.category, r.value, r.label, r.count)) =
        (if x.isOpen then
          match x.category with
          | .country => counts.countries.map fun e => (.country, e.code, e.name, e.count)
          | .asn => counts.asns.map fun e => (.asn, e.code.text, e.name, e.count)
          | .service => counts.services.map fun e => (.service, e.name, e.name, e.count)
        else []) ∧
      (x.category = .service → x.rows.Pairwise fun r q => r.value < q.value) ∧
      ∀ r ∈ x.rows, Text.trim r.value.toList = [] → r.checked = false := by
  intro before after
  refine ⟨?_, fun hblank => ?_, ?_, ?_, rfl, fun x hx => ?_⟩
  · rw [sections_build, sections_build, List.map_map]
    refine List.map_congr_left fun d _ => ?_
    rw [Function.comp_apply, Section.afterToggle, rows_toggle]
    split <;> rfl
  · show build counts (s.toggle c v).2 opened = build counts s opened
    rw [s.toggle_blank c hblank]
  · rw [busy_build, busy_build, Session.snd_toggle]
  · rw [show after.apply = .ofSession (s.toggle c v).2 from apply_build _ _ _]
    exact Session.button_hidden_iff
  · rw [sections_build] at hx
    obtain ⟨d, -, rfl⟩ := List.mem_map.mp hx
    dsimp only
    split
    · refine ⟨rfl, rows_eq counts s d, ?_, fun r hr => checked_of_blank hr⟩
      rintro rfl
      exact pairwise_rows_service counts s
    · simp

/-- Spellings of one value are checked together, whichever of them is toggled; a blank one is not,
and the same value in another category keeps its check mark. -/
theorem build_toggle_spellings :
    let counts := Counts.ofListed [⟨" 7", "padded", 1⟩, ⟨" ", "blank", 2⟩]
      [⟨7, "first", 3⟩, ⟨7, "again", 4⟩, ⟨8, "other", 5⟩] [⟨"ssh", 6⟩, ⟨"as7", 7⟩]
    let s := (Session.start .none .sorted).toggleAll [⟨.country, "7"⟩]
    let before := build counts s .allOpen
    let after := build counts (s.toggle .asn "\tas07").2 .allOpen
    after.sections =
      [⟨.country, true, [⟨.country, " 7", "padded", 1, true⟩, ⟨.country, " ", "blank", 2, false⟩]⟩,
        ⟨.asn, true, [⟨.asn, "AS7", "first", 3, true⟩, ⟨.asn, "AS7", "again", 4, true⟩,
          ⟨.asn, "AS8", "other", 5, false⟩]⟩,
        ⟨.service, true, [⟨.service, "as7", "as7", 7, false⟩,
          ⟨.service, "ssh", "ssh", 6, false⟩]⟩] ∧
      (before.sections.map fun x => x.rows.map Row.checked) =
        [[true, false], [false, false, false], [false, false]] ∧
      after.busy = false ∧ build counts (s.toggle .asn " ").2 .allOpen = before := by
  intro counts s before after
  obtain ⟨hsections, -, hbusy, -⟩ := build_toggle counts s .allOpen .asn "\tas07"
  obtain ⟨-, hblank, -⟩ := build_toggle counts s .allOpen .asn " "
  refine ⟨?_, by decide +kernel, hbusy, hblank (by decide)⟩
  rw [hsections]
  decide +kernel

end Panel

end FacetFilter
