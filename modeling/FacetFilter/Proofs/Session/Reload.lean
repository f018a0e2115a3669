import FacetFilter.Proofs.Query.RoundTrip
import FacetFilter.Proofs.Session.Toggles

/-! Reloading a committed session from its own query. The session that goes on from the query
is clean, and what it holds are the pieces between the commas of the members that were chosen.
So the choice survives exactly when no member has a comma; a member that has one falls into
several or is lost. -/

namespace FacetFilter.Session

variable {s : Session}

/-- The session that goes on from the query of its own commit. -/
def reloaded (s : Session) : Session := s.restart (.ofQuery s.commit.query)

theorem working_reloaded (h : s.isDirty = true) :
    s.reloaded.working = .ofRaw (s.working.relisted s.order) := by
  rw [reloaded, commit_of_isDirty h, Selection.ofQuery_query]
  rfl

/-- After a commit with changes, whatever was toggled, the session reloaded from the query is
not dirty, and it holds the selection committed exactly when no member has a comma. -/
theorem same_reloaded_iff (raw : RawFilters) (o : MemberOrder) (ts : List Toggle)
    (h : ((start raw o).toggleAll ts).isDirty = true) :
    let s := (start raw o).toggleAll ts
    let next := s.restart (.ofQuery s.commit.query)
    next.isDirty = false ∧
    (next.baseline.same s.working = true ↔ ∀ c, ∀ m ∈ (s.working.get c).members, ',' ∉ m.toList) ∧
    (next.working.same s.working = true ↔ ∀ c, ∀ m ∈ (s.working.get c).members, ',' ∉ m.toList) :=
      by
  have hworking := working_reloaded h
  have hnormal : ((start raw o).toggleAll ts).working.Normal := by
    rw [toggleAll_eq]
    exact (Selection.normal_ofRaw raw).toggleAll ts
  have hsame := Selection.same_ofRaw_relisted_iff (o := ((start raw o).toggleAll ts).order) hnormal
  rw [← hworking] at hsame
  exact ⟨isDirty_restart _ _, hsame, hsame⟩

/-- Values with the separators of queries come back as they are. -/
theorem same_reloaded_separators :
    let s := (start ⟨["US"], [], []⟩ .sorted).toggleAll
      [⟨.service, " R&D=50%+é "⟩, ⟨.asn, "as007"⟩, ⟨.country, "US "⟩]
    let next := s.restart (.ofQuery s.commit.query)
    s.isDirty = true ∧ next.isDirty = false ∧ next.baseline.same s.working = true ∧
      next.working.same s.working = true := by
  intro s next
  have h : s.isDirty = true := by decide +kernel
  have hcomma : ∀ c, ∀ m ∈ (s.working.get c).members, ',' ∉ m.toList := by
    intro c
    cases c <;> decide +kernel
  obtain ⟨hclean, hbaseline, hworking⟩ := same_reloaded_iff ⟨["US"], [], []⟩ .sorted
    [⟨.service, " R&D=50%+é "⟩, ⟨.asn, "as007"⟩, ⟨.country, "US "⟩] h
  exact ⟨h, hclean, hbaseline.mpr hcomma, hworking.mpr hcomma⟩

/-- A member with a comma falls into its pieces. -/
theorem reloaded_splits_comma :
    let s := (start .none .sorted).toggleAll [⟨.service, "a,b"⟩]
    let next := s.restart (.ofQuery s.commit.query)
    s.isDirty = true ∧ (s.working.get .service).members = ["a,b"] ∧
      (next.working.get .service).members = ["b", "a"] ∧
      next.working.same s.working = false ∧ next.baseline.same s.working = false := by
  decide +kernel

end FacetFilter.Session
