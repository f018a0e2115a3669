import FacetFilter.Proofs.Facet.AsNumber
import FacetFilter.Proofs.Selection.MemberSet
import FacetFilter.Proofs.Text.Blank
import FacetFilter.Selection.State

/-! Normal forms, and the invariant that selections hold nothing else. Values come in by many
ways, but each of them goes through `normalForm?`, which leaves a normal form as it is. -/

namespace FacetFilter

theorem isBlank_of_isDigit {c : Char} (h : c.isDigit = true) : Text.isBlank c = false := by
  have hrange : 48 ≤ c.toNat ∧ c.toNat ≤ 57 := by
    simpa [Char.isDigit, UInt32.le_iff_toNat_le] using h
  simp only [Text.isBlank, Bool.or_eq_false_iff, Bool.and_eq_false_iff, decide_eq_false_iff_not,
    beq_eq_false_iff_ne]
  omega

namespace AsNumber

theorem trim_text (n : AsNumber) : Text.trim n.text.toList = n.text.toList := by
  refine Text.trim_of_forall fun c hc => ?_
  rw [toList_text, List.mem_cons, List.mem_cons] at hc
  rcases hc with rfl | rfl | hc
  · decide
  · decide
  · exact isBlank_of_isDigit (Text.isDigit_of_mem_toDigits hc)

/-- Canonical forms of trimmed values are trimmed. -/
theorem trim_canonical {v : String} (h : Text.trim v.toList = v.toList) :
    Text.trim (canonical v).toList = (canonical v).toList := by
  cases hn : ofText? v with
  | none => simpa [canonical, hn] using h
  | some n => simpa [canonical, hn] using trim_text n

theorem canonical_ne_nil {v : String} (h : v.toList ≠ []) : (canonical v).toList ≠ [] := by
  cases hn : ofText? v with
  | none => simpa [canonical, hn] using h
  | some n => simp [canonical, hn, toList_text]

end AsNumber

/-- What a category makes of a trimmed value. -/
def Category.form (c : Category) (v : String) : String :=
  match c with
  | .asn => AsNumber.canonical v
  | .country | .service => v

namespace Category

variable {c : Category} {v : String}

theorem form_form : c.form (c.form v) = c.form v := by
  cases c with
  | asn => exact AsNumber.canonical_canonical v
  | country | service => rfl

theorem trim_form (h : Text.trim v.toList = v.toList) :
    Text.trim (c.form v).toList = (c.form v).toList := by
  cases c with
  | asn => exact AsNumber.trim_canonical h
  | country | service => exact h

theorem form_ne_nil (h : v.toList ≠ []) : (c.form v).toList ≠ [] := by
  cases c with
  | asn => exact AsNumber.canonical_ne_nil h
  | country | service => exact h

theorem comma_notMem_form (h : ',' ∉ v.toList) : ',' ∉ (c.form v).toList := by
  cases c with
  | asn =>
    cases hn : AsNumber.ofText? v with
    | none => simpa [form, AsNumber.canonical, hn] using h
    | some n =>
      simp only [form, AsNumber.canonical, hn, AsNumber.toList_text, List.mem_cons, not_or]
      refine ⟨by decide, by decide, fun hm => ?_⟩
      exact absurd (Text.isDigit_of_mem_toDigits hm) (by decide)
  | country | service => exact h

end Category

section
variable {c : Category} {v w : String}

theorem normalForm?_eq (c : Category) (v : String) :
    normalForm? c v =
      if Text.trim v.toList = [] then none else some (c.form (Text.trimmed v)) := by
  have hempty : (Text.trimmed v).isEmpty = true ↔ Text.trim v.toList = [] := by
    rw [String.isEmpty_iff, ← String.toList_eq_nil_iff, Text.trimmed, String.toList_ofList]
  unfold normalForm?
  by_cases h : Text.trim v.toList = []
  · simp [h, hempty.mpr h]
  · have hf : (Text.trimmed v).isEmpty = false := Bool.eq_false_iff.mpr fun he => h (hempty.mp he)
    cases c <;> simp [h, hf, Category.form]

theorem normalForm?_eq_some_iff :
    normalForm? c v = some w ↔ Text.trim v.toList ≠ [] ∧ c.form (Text.trimmed v) = w := by
  rw [normalForm?_eq]
  split <;> simp_all

/-- What is its own normal form: trimmed and not empty, and in the form of its category. -/
theorem normalForm?_self_iff :
    normalForm? c w = some w ↔ Text.trim w.toList = w.toList ∧ w.toList ≠ [] ∧ c.form w = w := by
  rw [normalForm?_eq_some_iff]
  constructor
  · rintro ⟨hne, hform⟩
    have htrim : Text.trim w.toList = w.toList := by
      have := Category.trim_form (c := c) (v := Text.trimmed w)
        (by rw [Text.trimmed, String.toList_ofList, Text.trim_trim])
      rwa [hform] at this
    have hw : Text.trimmed w = w := by rw [Text.trimmed, htrim, String.ofList_toList]
    exact ⟨htrim, by rwa [htrim] at hne, by rwa [hw] at hform⟩
  · rintro ⟨htrim, hne, hform⟩
    refine ⟨by rwa [htrim], ?_⟩
    rw [Text.trimmed, htrim, String.ofList_toList, hform]

/-- Normal forms are their own normal forms. -/
theorem normalForm?_normalForm (h : normalForm? c v = some w) : normalForm? c w = some w := by
  obtain ⟨hne, rfl⟩ := normalForm?_eq_some_iff.mp h
  have htrim : Text.trim (Text.trimmed v).toList = (Text.trimmed v).toList := by
    rw [Text.trimmed, String.toList_ofList, Text.trim_trim]
  have hv : (Text.trimmed v).toList ≠ [] := by rwa [Text.trimmed, String.toList_ofList]
  exact normalForm?_self_iff.mpr
    ⟨Category.trim_form htrim, Category.form_ne_nil hv, Category.form_form⟩

/-- No normal form has a comma that its value has not. -/
theorem comma_notMem_normalForm (h : normalForm? c v = some w) (hv : ',' ∉ v.toList) :
    ',' ∉ w.toList := by
  obtain ⟨-, rfl⟩ := normalForm?_eq_some_iff.mp h
  refine Category.comma_notMem_form fun hm => ?_
  rw [Text.trimmed, String.toList_ofList] at hm
  exact hv (Text.mem_of_mem_trim hm)

end

namespace Selection

/-- Every member is its own normal form. -/
def Normal (s : Selection) : Prop := ∀ c, ∀ m ∈ (s.get c).members, normalForm? c m = some m

/-- The selections that filters from outside and toggles lead to, whatever order entries are
kept in on the way. -/
inductive Reachable : Selection → Prop where
  | ofRaw (raw : RawFilters) : Reachable (ofRaw raw)
  | toggle {s : Selection} (c : Category) (v : String) : Reachable s → Reachable (s.toggle c v).2
  | reorder {s t : Selection} :
      Reachable s → (∀ c, (s.get c).Reordered (t.get c)) → Reachable t

variable {s : Selection} {o : MemberOrder} {c d : Category} {v m : String}

theorem mem_ordered : m ∈ (s.get c).ordered c o ↔ m ∈ (s.get c).members :=
  (MemberSet.ordered_perm _ _ _).mem_iff

theorem listed_perm (s : Selection) (o : MemberOrder) (c : Category) :
    ((s.listed o).get c).Perm (s.get c).members := by
  rw [listed, PerCategory.get_ofFun]
  exact MemberSet.ordered_perm _ _ _

theorem mem_listed : m ∈ (s.listed o).get c ↔ m ∈ (s.get c).members :=
  (s.listed_perm o c).mem_iff

/-- There is one order for at most one member. -/
theorem listed_of_length_le_one (h : (s.get c).members.length ≤ 1) :
    (s.listed o).get c = (s.get c).members := by
  have hperm := s.listed_perm o c
  cases hms : (s.get c).members with
  | nil =>
    rw [hms] at hperm
    exact List.perm_nil.mp hperm
  | cons m rest =>
    have hrest : rest = [] := List.length_eq_zero_iff.mp (by simpa [hms] using h)
    rw [hms, hrest] at hperm
    rw [hrest]
    exact List.perm_singleton.mp hperm

theorem mem_ofRaw {raw : RawFilters} :
    m ∈ ((ofRaw raw).get c).members ↔ ∃ v ∈ raw.get c, normalForm? c v = some m := by
  rw [ofRaw, PerCategory.get_ofFun, MemberSet.mem_members_ofList, List.mem_filterMap]

/-- Who is a member after a toggle: in its category the normal form of the value has changed
sides, and nothing else has. -/
theorem mem_toggle : m ∈ ((s.toggle c v).2.get d).members ↔
    if d = c ∧ normalForm? c v = some m then m ∉ (s.get d).members
    else m ∈ (s.get d).members := by
  by_cases hd : d = c
  · subst hd
    cases hv : normalForm? d v with
    | none => simp [toggle, hv]
    | some w => simp [toggle, hv, MemberSet.mem_members_toggle, eq_comm (a := w)]
  · simp [hd, get_toggle_of_ne s v hd]

theorem normal_ofRaw (raw : RawFilters) : (ofRaw raw).Normal := by
  intro c m hm
  obtain ⟨v, -, hv⟩ := mem_ofRaw.mp hm
  exact normalForm?_normalForm hv

theorem Normal.toggle (h : s.Normal) (c : Category) (v : String) : (s.toggle c v).2.Normal := by
  intro d m hm
  rw [mem_toggle] at hm
  split at hm
  · next hv => exact hv.1 ▸ normalForm?_normalForm hv.2
  · exact h d m hm

/-- Reachable selections hold normal forms only. -/
theorem Reachable.normal (h : s.Reachable) : s.Normal := by
  induction h with
  | ofRaw raw => exact normal_ofRaw raw
  | toggle c v _ ih => exact ih.toggle c v
  | reorder _ hperm ih => exact fun c m hm => ih c m ((hperm c).members_perm.mem_iff.mpr hm)

/-- No member has a comma. -/
def CommaFree (s : Selection) : Prop := ∀ c, ∀ m ∈ (s.get c).members, ',' ∉ m.toList

theorem commaFree_ofRaw {raw : RawFilters} (h : ∀ c, ∀ v ∈ raw.get c, ',' ∉ v.toList) :
    (ofRaw raw).CommaFree := by
  intro c m hm
  obtain ⟨v, hv, hm⟩ := mem_ofRaw.mp hm
  exact comma_notMem_normalForm hm (h c v hv)

theorem CommaFree.toggle (h : s.CommaFree) (c : Category) (hv : ',' ∉ v.toList) :
    (s.toggle c v).2.CommaFree := by
  intro d m hm
  rw [mem_toggle] at hm
  split at hm
  · next hform => exact comma_notMem_normalForm hform.2 hv
  · exact h d m hm

/-- Equality of selections is equality of memberships in every category. -/
theorem same_iff {s t : Selection} :
    s.same t = true ↔ ∀ c m, m ∈ (s.get c).members ↔ m ∈ (t.get c).members := by
  simp only [same, List.all_eq_true, MemberSet.same_iff]
  exact ⟨fun h c => h c (Category.mem_all c), fun h c _ => h c⟩

/-- Toggles that leave the same sets flip the same member. -/
theorem normalForm?_eq_of_same_toggle {w : String} (hm : normalForm? c v = some m)
    (h : (s.toggle c w).2.same (s.toggle c v).2 = true) : normalForm? c w = some m := by
  by_contra hne
  have hboth := same_iff.mp h c m
  rw [mem_toggle, mem_toggle, if_neg fun hform => hne hform.2, if_pos ⟨rfl, hm⟩] at hboth
  exact iff_not_self hboth

end Selection

end FacetFilter
