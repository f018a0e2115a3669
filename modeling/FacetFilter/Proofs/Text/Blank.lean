import FacetFilter.Text.Blank
import Mathlib.Data.List.DropRight
import Mathlib.Data.List.TakeWhile

/-! Trimming is done once for all: a trimmed text begins and ends with characters that are no
blanks, so trimming it again takes nothing. It is the only text of this kind that is left when
blanks are taken from the ends. -/

namespace FacetFilter.Text

theorem mem_of_mem_trim {c : Char} {cs : List Char} (h : c ∈ trim cs) : c ∈ cs := by
  rw [trim, List.mem_reverse] at h
  have h := (List.dropWhile_sublist _).mem h
  rw [List.mem_reverse] at h
  exact (List.dropWhile_sublist _).mem h

/-- The first character of a trimmed text is no blank. -/
theorem isBlank_head?_trim (cs : List Char) : ∀ c ∈ (trim cs).head?, isBlank c = false := by
  intro c hc
  have hpre : trim cs <+: cs.dropWhile isBlank := by
    rw [trim, ← List.reverse_suffix, List.reverse_reverse]
    exact List.dropWhile_suffix _
  refine head?_dropWhile_isBlank cs c ?_
  obtain ⟨rest, hrest⟩ := hpre
  rw [← hrest, Option.mem_def, List.head?_append, Option.mem_def.mp hc]
  rfl

/-- The last character of a trimmed text is no blank. -/
theorem isBlank_getLast?_trim (cs : List Char) : ∀ c ∈ (trim cs).getLast?, isBlank c = false := by
  intro c hc
  rw [trim, List.getLast?_reverse] at hc
  exact head?_dropWhile_isBlank _ c hc

@[simp] theorem trim_trim (cs : List Char) : trim (trim cs) = trim cs :=
  trim_eq_self (isBlank_head?_trim cs) (isBlank_getLast?_trim cs)

/-- Trimming leaves nothing exactly when there are only blanks. -/
theorem trim_eq_nil_iff {cs : List Char} : trim cs = [] ↔ ∀ c ∈ cs, isBlank c = true := by
  rw [trim, List.reverse_eq_nil_iff, List.dropWhile_eq_nil_iff]
  refine ⟨fun h => ?_, fun h c hc => h c ((List.dropWhile_sublist _).mem (List.mem_reverse.mp hc))⟩
  have hfront : cs.dropWhile isBlank = [] := by
    cases hd : cs.dropWhile isBlank with
    | nil => rfl
    | cons first more =>
      have hfirst := head?_dropWhile_isBlank cs first (by simp [hd])
      rw [h first (by simp [hd])] at hfirst
      cases hfirst
  exact List.dropWhile_eq_nil_iff.mp hfront

theorem trim_ne_nil_iff {cs : List Char} : trim cs ≠ [] ↔ ∃ c ∈ cs, isBlank c = false := by
  rw [ne_eq, trim_eq_nil_iff]
  simp only [not_forall, Bool.not_eq_true, exists_prop]

/-- Text without blanks is trimmed. -/
theorem trim_of_forall {cs : List Char} (h : ∀ c ∈ cs, isBlank c = false) : trim cs = cs :=
  trim_eq_self (fun c hc => h c (List.mem_of_mem_head? hc))
    (fun c hc => h c (List.mem_of_getLast? hc))

theorem trim_append_left {front : List Char} (h : ∀ c ∈ front, isBlank c = true) (cs : List Char) :
    trim (front ++ cs) = trim cs := by
  rw [trim, List.dropWhile_append_of_pos h, trim]

theorem trim_append_right {back : List Char} (h : ∀ c ∈ back, isBlank c = true) (cs : List Char) :
    trim (cs ++ back) = trim cs := by
  have hback : ∀ c ∈ back.reverse, isBlank c = true := fun c hc => h c (List.mem_reverse.mp hc)
  rw [trim, trim, List.dropWhile_append]
  split
  · next hempty =>
    rw [List.isEmpty_iff.mp hempty, List.dropWhile_eq_nil_iff.mpr h]
  · rw [List.reverse_append, List.dropWhile_append_of_pos hback]

/-- The second text is what is left of the first without the blanks at its ends. -/
def TrimsTo (cs v : List Char) : Prop :=
  ∃ front back, cs = front ++ (v ++ back) ∧
    (∀ c ∈ front, isBlank c = true) ∧ (∀ c ∈ back, isBlank c = true) ∧
    (∀ c ∈ v.head?, isBlank c = false) ∧ ∀ c ∈ v.getLast?, isBlank c = false

theorem trimsTo_trim (cs : List Char) : TrimsTo cs (trim cs) := by
  have hback : trim cs ++ (cs.dropWhile isBlank).rtakeWhile isBlank = cs.dropWhile isBlank :=
    List.rdropWhile_append_rtakeWhile
  refine ⟨cs.takeWhile isBlank, (cs.dropWhile isBlank).rtakeWhile isBlank, ?_,
    fun _ => List.mem_takeWhile_imp, fun _ => List.mem_rtakeWhile_imp, isBlank_head?_trim cs,
    isBlank_getLast?_trim cs⟩
  rw [hback, List.takeWhile_append_dropWhile]

/-- There is one such text only, and trimming finds it. -/
theorem trimsTo_iff {cs v : List Char} : TrimsTo cs v ↔ trim cs = v := by
  constructor
  · rintro ⟨front, back, rfl, hfront, hback, hhead, hlast⟩
    rw [trim_append_left hfront, trim_append_right hback, trim_eq_self hhead hlast]
  · rintro rfl
    exact trimsTo_trim cs

end FacetFilter.Text
