import FacetFilter.Facet.Counts
import Mathlib.Data.List.Induction
import Mathlib.Data.List.Sort

/-! Which services counts hold when they are listed in any order, and names come up again: of each
name the last one, in order of the names. -/

namespace FacetFilter.Counts

/-- The service is listed, and no later one has its name. -/
def Latest (s : ServiceCount) (listed : List ServiceCount) : Prop :=
  ∃ before after, listed = before ++ s :: after ∧ ∀ t ∈ after, t.name ≠ s.name

variable {s t : ServiceCount} {services listed : List ServiceCount}

theorem latest_concat :
    Latest t (listed ++ [s]) ↔ t = s ∨ t.name ≠ s.name ∧ Latest t listed := by
  constructor
  · rintro ⟨before, after, hlisted, hafter⟩
    rcases List.eq_nil_or_concat' after with rfl | ⟨after, u, rfl⟩
    · obtain ⟨-, hs⟩ := List.append_inj' hlisted rfl
      exact Or.inl (List.cons.inj hs).1.symm
    · have hsplit : listed ++ [s] = (before ++ t :: after) ++ [u] := by simpa using hlisted
      obtain ⟨rfl, hu⟩ := List.append_inj' hsplit rfl
      obtain rfl := (List.cons.inj hu).1
      refine Or.inr ⟨(hafter s (by simp)).symm, before, after, rfl, fun v hv => ?_⟩
      exact hafter v (List.mem_append_left _ hv)
  · rintro (rfl | ⟨hne, before, after, rfl, hafter⟩)
    · exact ⟨listed, [], rfl, by simp⟩
    · refine ⟨before, after ++ [s], by simp, fun v hv => ?_⟩
      rcases List.mem_append.mp hv with hv | hv
      · exact hafter v hv
      · exact List.mem_singleton.mp hv ▸ hne.symm

/-- A service takes the place of the one of its name, and every other one stays. -/
theorem mem_putService_iff (h : services.Pairwise fun s t => s.name < t.name) :
    t ∈ putService s services ↔ t = s ∨ t.name ≠ s.name ∧ t ∈ services := by
  induction services with
  | nil => simp [putService]
  | cons u rest ih =>
    obtain ⟨hbelow, hrest⟩ := List.pairwise_cons.mp h
    unfold putService
    split
    · next hlt =>
      -- what stands after the place has greater names
      have hne : ∀ v ∈ u :: rest, v.name ≠ s.name := by
        intro v hv heq
        rcases List.mem_cons.mp hv with rfl | hv
        · exact String.lt_irrefl _ (heq ▸ hlt)
        · exact String.lt_asymm hlt (heq ▸ hbelow v hv)
      rw [List.mem_cons]
      exact or_congr_right (iff_and_self.mpr (hne t))
    · split
      · next heq =>
        rw [List.mem_cons, List.mem_cons]
        refine or_congr_right ⟨fun ht => ⟨?_, Or.inr ht⟩, ?_⟩
        · exact fun hs => String.lt_irrefl _ (heq ▸ hs ▸ hbelow t ht)
        · rintro ⟨hne, rfl | ht⟩
          · exact absurd heq.symm hne
          · exact ht
      · next hne =>
        rw [List.mem_cons, ih hrest, List.mem_cons]
        constructor
        · rintro (rfl | rfl | ⟨hts, ht⟩)
          · exact Or.inr ⟨Ne.symm hne, Or.inl rfl⟩
          · exact Or.inl rfl
          · exact Or.inr ⟨hts, Or.inr ht⟩
        · rintro (rfl | ⟨hts, rfl | ht⟩)
          · exact Or.inr (Or.inl rfl)
          · exact Or.inl rfl
          · exact Or.inr (Or.inr ⟨hts, ht⟩)

theorem mem_servicesOf_iff : t ∈ servicesOf listed ↔ Latest t listed := by
  induction listed using List.reverseRecOn with
  | nil => simp [servicesOf, Latest]
  | append_singleton listed s ih =>
    have hlast : servicesOf (listed ++ [s]) = putService s (servicesOf listed) := by
      simp [servicesOf]
    rw [hlast, mem_putService_iff (ascending_servicesOf listed), latest_concat, ih]

/-- Services in order of their names are determined by which ones they are. -/
theorem eq_of_mem_iff (hs : services.Pairwise fun s t => s.name < t.name)
    (hl : listed.Pairwise fun s t => s.name < t.name) (h : ∀ s, s ∈ services ↔ s ∈ listed) :
    services = listed := by
  have : Std.Antisymm fun s t : ServiceCount => s.name < t.name :=
    ⟨fun s t hst hts => absurd hts (String.lt_asymm hst)⟩
  have : Std.Irrefl fun s t : ServiceCount => s.name < t.name := ⟨fun s => String.lt_irrefl _⟩
  exact hs.eq_of_mem_iff hl h

/-- Services that are listed in order are held as they are. -/
theorem servicesOf_of_ascending (h : listed.Pairwise fun s t => s.name < t.name) :
    servicesOf listed = listed := by
  refine eq_of_mem_iff (ascending_servicesOf listed) h fun s => mem_servicesOf_iff.trans ?_
  constructor
  · rintro ⟨before, after, rfl, -⟩
    exact List.mem_append_right _ List.mem_cons_self
  · intro hs
    obtain ⟨before, after, rfl⟩ := List.append_of_mem hs
    obtain ⟨-, hafter, -⟩ := List.pairwise_append.mp h
    refine ⟨before, after, rfl, fun t ht heq => ?_⟩
    exact String.lt_irrefl _ (heq ▸ List.rel_of_pairwise_cons hafter ht)

end FacetFilter.Counts
