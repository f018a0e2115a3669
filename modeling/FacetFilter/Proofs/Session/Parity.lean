import FacetFilter.Proofs.Session.Operations

/-! What is selected, and whether anything has changed, are matters of parity. Of a whole run of
operations only the filters of the last start count and how often each value was toggled since,
in whatever spelling and order, and whatever commits came between. -/

namespace FacetFilter

open Operation (lastFilters lastToggles)

namespace Selection

/-- What is contained is what has a normal form among the members. -/
theorem contains_iff {s : Selection} {c : Category} {v : String} :
    s.contains c v = true ↔ ∃ m, normalForm? c v = some m ∧ m ∈ (s.get c).members := by
  simp only [contains, Option.any_eq_true, MemberSet.contains_iff]

theorem contains_of_blank {s : Selection} {c : Category} {v : String}
    (h : Text.trim v.toList = []) : s.contains c v = false := by
  rw [contains, normalForm?_eq, if_pos h, Option.any_none]

end Selection

theorem flips_perm {ts us : List Toggle} (h : ts.Perm us) (c : Category) (m : String) :
    flips ts c m = flips us c m :=
  h.countP_eq _

namespace Session

/-- The members after a run of operations: the filters of the last start, with the values flipped
that were toggled an odd number of times since. -/
theorem mem_working_after (raw : RawFilters) (o : MemberOrder) (ops : List Operation)
    (c : Category) (m : String) :
    m ∈ (((start raw o).after ops).working.get c).members ↔
      Xor (∃ v ∈ (lastFilters raw ops).get c, normalForm? c v = some m)
        (flips (lastToggles ops) c m % 2 = 1) := by
  rw [working_after, Selection.mem_toggleAll, Selection.mem_ofRaw]

theorem isSelected_after_iff (raw : RawFilters) (o : MemberOrder) (ops : List Operation)
    (c : Category) (v : String) :
    ((start raw o).after ops).isSelected c v = true ↔ Text.trim v.toList ≠ [] ∧
      Xor (∃ w ∈ (lastFilters raw ops).get c, normalForm? c w = some (c.form (Text.trimmed v)))
        (flips (lastToggles ops) c (c.form (Text.trimmed v)) % 2 = 1) := by
  rw [isSelected, Selection.contains_iff]
  constructor
  · rintro ⟨m, hform, hm⟩
    obtain ⟨hne, rfl⟩ := normalForm?_eq_some_iff.mp hform
    exact ⟨hne, (mem_working_after raw o ops c _).mp hm⟩
  · rintro ⟨hne, hxor⟩
    exact ⟨_, normalForm?_eq_some_iff.mpr ⟨hne, rfl⟩, (mem_working_after raw o ops c _).mpr hxor⟩

/-- A run leaves changes exactly when some value was toggled an odd number of times since the last
start. -/
theorem isDirty_after_iff (raw : RawFilters) (o : MemberOrder) (ops : List Operation) :
    ((start raw o).after ops).isDirty = true ↔
      ∃ c m, flips (lastToggles ops) c m % 2 = 1 := by
  have hclean := isDirty_toggleAll_eq_false_iff (isDirty_start (lastFilters raw ops) o)
    (lastToggles ops)
  rw [isDirty, toggleAll_eq] at hclean
  rw [isDirty, working_after, baseline_after, ← Bool.not_eq_false]
  refine (not_congr hclean).trans ?_
  simp only [not_forall, ne_eq, not_not]

/-- A toggle tells whether its value is selected afterwards, which no blank value ever is. -/
theorem answer_perform_toggle (s : Session) {op : Operation} {t : Toggle}
    (h : op.toggle? = some t) :
    (s.perform op).answer = .chosen ((s.perform op).after.isSelected t.category t.value) := by
  have htoggle : ∀ c v, (s.toggle c v).1 = (s.toggle c v).2.isSelected c v := by
    intro c v
    rw [isSelected, snd_toggle, fst_toggle, s.working.toggle_fst]
  cases op with
  | toggle c v =>
    cases h
    rw [perform, htoggle]
  | toggleAsn n =>
    cases h
    rw [perform, toggleAsn, htoggle]
  | commit | handOut | finish | restart => cases h

/-- After any run of operations a value is selected exactly when it is not blank and either its
normal form is that of one of the filters of the last start, or it was toggled an odd number of
times since, but not both. Every toggle tells this of its value. The session has changes exactly
when some value was toggled an odd number of times. So runs that make the same toggles in any order
end with the same sets, and agree on whether there are changes. -/
theorem selected_iff_toggled_odd (raw : RawFilters) (o : MemberOrder) (ops : List Operation) :
    let first := start raw o
    let s := first.after ops
    let given := lastFilters raw ops
    let toggles := lastToggles ops
    (∀ c v, s.isSelected c v = true ↔ Text.trim v.toList ≠ [] ∧
      Xor (∃ w ∈ given.get c, normalForm? c w = some (c.form (Text.trimmed v)))
        (flips toggles c (c.form (Text.trimmed v)) % 2 = 1)) ∧
    (∀ moment ∈ first.history ops, ∀ t, moment.operation.toggle? = some t →
      moment.answer = .chosen (moment.after.isSelected t.category t.value) ∧
      (Text.trim t.value.toList = [] → moment.answer = .chosen false)) ∧
    (s.isDirty = true ↔ ∃ c m, flips toggles c m % 2 = 1) ∧
    (∀ raw' o' ops', lastFilters raw' ops' = given → (lastToggles ops').Perm toggles →
      let s' := (start raw' o').after ops'
      s'.working.same s.working = true ∧ s'.baseline.same s.baseline = true ∧
        s'.isDirty = s.isDirty) := by
  refine ⟨isSelected_after_iff raw o ops, fun moment hm t ht => ?_, isDirty_after_iff raw o ops,
    fun raw' o' ops' hgiven hperm => ?_⟩
  · obtain ⟨before, op, -, -, rfl⟩ := eq_perform_of_mem_history hm
    rw [operation_perform] at ht
    have hanswer := answer_perform_toggle (((start raw o).after before)) ht
    refine ⟨hanswer, fun hblank => ?_⟩
    rw [hanswer, isSelected, Selection.contains_of_blank hblank]
  · have hflips := flips_perm hperm
    refine ⟨Selection.same_iff.mpr fun c m => ?_, Selection.same_iff.mpr fun c m => ?_, ?_⟩
    · rw [mem_working_after, mem_working_after, hgiven, hflips]
    · rw [baseline_after, baseline_after, hgiven]
    · rw [Bool.eq_iff_iff, isDirty_after_iff, isDirty_after_iff]
      simp only [hflips]

/-- Three spellings of one number are three toggles of it, whatever commits stand between them and
whatever order they come in; what was toggled before the last start no longer counts. -/
theorem selected_iff_toggled_odd_spellings :
    let ops := [.toggle .country "US", .restart ⟨["US", "DE"], ["as7"], []⟩,
      .toggle .asn "as064512", .handOut, .toggle .asn "\t64512 ", .toggle .asn "7", .finish,
      .toggle .country " DE ", .toggleAsn 64512]
    let s := (start .none .sorted).after ops
    let s' := (start ⟨["US", "DE"], ["as7"], []⟩ .insertion).after
      [.toggleAsn 64512, .toggle .country " DE ", .toggle .asn "7", .toggle .asn "\t64512 ",
        .toggle .asn "as064512"]
    s.isSelected .country "US" = true ∧ s.isSelected .country "DE" = false ∧
      s.isSelected .asn "AS64512" = true ∧ s.isSelected .asn "7" = false ∧ s.isDirty = true ∧
      s'.working.same s.working = true ∧ s'.isDirty = true := by
  intro ops s s'
  obtain ⟨hselected, -, hdirty, hperm⟩ := selected_iff_toggled_odd .none .sorted ops
  have hchanged : s.isDirty = true := hdirty.mpr ⟨.asn, "AS64512", by decide +kernel⟩
  obtain ⟨hsame, -, hagree⟩ := hperm ⟨["US", "DE"], ["as7"], []⟩ .insertion
    [.toggleAsn 64512, .toggle .country " DE ", .toggle .asn "7", .toggle .asn "\t64512 ",
      .toggle .asn "as064512"] (by decide +kernel) (by decide +kernel)
  refine ⟨(hselected _ _).mpr (by decide +kernel), Bool.eq_false_iff.mpr fun h => ?_,
    (hselected _ _).mpr (by decide +kernel), Bool.eq_false_iff.mpr fun h => ?_, hchanged, hsame,
    hagree.trans hchanged⟩
  · exact absurd ((hselected _ _).mp h) (by decide +kernel)
  · exact absurd ((hselected _ _).mp h) (by decide +kernel)

end Session

end FacetFilter
