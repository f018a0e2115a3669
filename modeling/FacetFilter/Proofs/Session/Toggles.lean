import FacetFilter.Command.Apply
import FacetFilter.Proofs.Selection.NormalForm
import FacetFilter.Proofs.Text.Reading
import Mathlib.Logic.Basic
import Mathlib.Tactic.Tauto

/-! Toggles count by parity. However they are spelled and in whatever order they come, a value
has changed sides after a run of toggles exactly when its normal form was flipped an odd number
of times. -/

namespace FacetFilter

/-- How often a run of toggles flips the value with the normal form `m` in a category. -/
def flips (ts : List Toggle) (c : Category) (m : String) : Nat :=
  ts.countP fun t => decide (t.category = c ∧ normalForm? c t.value = some m)

theorem flips_cons (t : Toggle) (ts : List Toggle) (c : Category) (m : String) :
    flips (t :: ts) c m =
      flips ts c m + if t.category = c ∧ normalForm? c t.value = some m then 1 else 0 := by
  simp [flips, List.countP_cons]

theorem flips_append (ts us : List Toggle) (c : Category) (m : String) :
    flips (ts ++ us) c m = flips ts c m + flips us c m :=
  List.countP_append

/-- Two runs of toggles flip as often as one after the other. -/
theorem xor_flips_append {p : Prop} (ts us : List Toggle) (c : Category) (m : String) :
    Xor (Xor p (flips ts c m % 2 = 1)) (flips us c m % 2 = 1) ↔
      Xor p (flips (ts ++ us) c m % 2 = 1) := by
  rw [flips_append, xor_def, xor_def, xor_def]
  by_cases hp : p
  · simp only [hp, true_and, not_true, and_false, or_false]
    omega
  · simp only [hp, false_and, not_false_eq_true, and_true, false_or]
    omega

namespace Selection

variable {s : Selection} {ts : List Toggle} {c : Category} {m : String}

/-- The selection after toggles, one after another. -/
def toggleAll (s : Selection) (ts : List Toggle) : Selection :=
  ts.foldl (fun s t => (s.toggle t.category t.value).2) s

theorem toggleAll_cons (s : Selection) (t : Toggle) (ts : List Toggle) :
    s.toggleAll (t :: ts) = (s.toggle t.category t.value).2.toggleAll ts := by
  rw [toggleAll, toggleAll, List.foldl_cons]

theorem toggleAll_append (s : Selection) (ts us : List Toggle) :
    s.toggleAll (ts ++ us) = (s.toggleAll ts).toggleAll us :=
  List.foldl_append

theorem Normal.toggleAll (h : s.Normal) (ts : List Toggle) : (s.toggleAll ts).Normal := by
  induction ts generalizing s with
  | nil => exact h
  | cons t ts ih =>
    rw [toggleAll_cons]
    exact ih (h.toggle t.category t.value)

theorem CommaFree.toggleAll (h : s.CommaFree) (hts : ∀ t ∈ ts, ',' ∉ t.value.toList) :
    (s.toggleAll ts).CommaFree := by
  induction ts generalizing s with
  | nil => exact h
  | cons t ts ih =>
    rw [List.forall_mem_cons] at hts
    rw [toggleAll_cons]
    exact ih (h.toggle t.category hts.1) hts.2

/-- Exactly the normal forms that were flipped an odd number of times have changed sides. -/
theorem mem_toggleAll :
    m ∈ ((s.toggleAll ts).get c).members ↔
      Xor (m ∈ (s.get c).members) (flips ts c m % 2 = 1) := by
  induction ts generalizing s with
  | nil => simp [toggleAll, flips, xor_def]
  | cons t ts ih =>
    rw [toggleAll_cons, ih, mem_toggle, flips_cons]
    by_cases h : t.category = c ∧ normalForm? c t.value = some m
    · obtain ⟨rfl, hv⟩ := h
      have hodd : (flips ts t.category m + 1) % 2 = 1 ↔ ¬flips ts t.category m % 2 = 1 := by omega
      rw [if_pos ⟨rfl, hv⟩, if_pos ⟨rfl, hv⟩, hodd, xor_not_left, xor_not_right]
    · have hne : ¬(c = t.category ∧ normalForm? t.category t.value = some m) := by
        rintro ⟨rfl, hv⟩
        exact h ⟨rfl, hv⟩
      rw [if_neg h, if_neg hne, Nat.add_zero]

end Selection

namespace Session

variable {s : Session}

theorem fst_toggle (s : Session) (c : Category) (v : String) :
    (s.toggle c v).1 = (s.working.toggle c v).1 := by
  rw [toggle]

theorem snd_toggle (s : Session) (c : Category) (v : String) :
    (s.toggle c v).2 = { s with working := (s.working.toggle c v).2 } := by
  rw [toggle]

/-- The session after toggles, one after another. -/
def toggleAll (s : Session) (ts : List Toggle) : Session :=
  ts.foldl (fun s t => (s.toggle t.category t.value).2) s

theorem toggleAll_cons (s : Session) (t : Toggle) (ts : List Toggle) :
    s.toggleAll (t :: ts) = (s.toggle t.category t.value).2.toggleAll ts := by
  rw [toggleAll, toggleAll, List.foldl_cons]

/-- Toggles touch nothing but the working selection. -/
theorem toggleAll_eq (s : Session) (ts : List Toggle) :
    s.toggleAll ts = { s with working := s.working.toggleAll ts } := by
  induction ts generalizing s with
  | nil => rfl
  | cons t ts ih => rw [toggleAll_cons, snd_toggle, ih, Selection.toggleAll_cons]

theorem working_toggleAll (s : Session) (ts : List Toggle) :
    (s.toggleAll ts).working = s.working.toggleAll ts := by rw [toggleAll_eq]

theorem order_toggleAll (s : Session) (ts : List Toggle) : (s.toggleAll ts).order = s.order := by
  rw [toggleAll_eq]

theorem inFlight_toggleAll (s : Session) (ts : List Toggle) :
    (s.toggleAll ts).inFlight = s.inFlight := by rw [toggleAll_eq]

/-- Applying toggles with their events leads to the same session. -/
theorem snd_applyToggleAll (s : Session) (ts : List Toggle) :
    (Apply.toggleAll s ts).2 = s.toggleAll ts := by
  induction ts generalizing s with
  | nil => rfl
  | cons t ts ih =>
    rw [Apply.toggleAll]
    dsimp only
    rw [ih, toggleAll_cons]

/-- The session on a page is one on the filters of its URL. -/
theorem exists_page_of_ofUrl {lib : UrlLibrary} {text : String} {o : MemberOrder}
    (h : ofUrl lib text o = .ok s) : ∃ u, lib.page text = .ok u ∧ s = start (lib.filters u) o := by
  obtain ⟨raw, hraw, rfl⟩ := Text.map_eq_ok_iff.mp h
  obtain ⟨u, hu, rfl⟩ := Text.map_eq_ok_iff.mp hraw
  exact ⟨u, hu, rfl⟩

theorem isDirty_eq_false_iff :
    s.isDirty = false ↔ ∀ c m, m ∈ (s.working.get c).members ↔ m ∈ (s.baseline.get c).members := by
  rw [isDirty, Bool.not_eq_false', Selection.same_iff]

/-- Toggles leave a session without changes as it was exactly when they cancel in pairs. -/
theorem isDirty_toggleAll_eq_false_iff (h : s.isDirty = false) (ts : List Toggle) :
    (s.toggleAll ts).isDirty = false ↔ ∀ c m, flips ts c m % 2 ≠ 1 := by
  rw [isDirty_eq_false_iff] at h ⊢
  rw [toggleAll_eq]
  refine forall_congr' fun c => forall_congr' fun m => ?_
  rw [Selection.mem_toggleAll, ← h c m, xor_def]
  tauto

/-- A session begins without changes. -/
theorem isDirty_start (raw : RawFilters) (o : MemberOrder) : (start raw o).isDirty = false :=
  isDirty_eq_false_iff.mpr fun _ _ => Iff.rfl

theorem isDirty_restart (s : Session) (raw : RawFilters) : (s.restart raw).isDirty = false :=
  isDirty_start raw s.order

theorem commit_of_isDirty (h : s.isDirty = true) : s.commit = .ofSelection s.working s.order := by
  rw [commit, if_pos h]

/-- Handing out gives the request of the working selection if a commit is possible, and does
nothing but put it in flight. -/
theorem handOut_eq (s : Session) :
    s.handOut = (if s.canCommit then some (.ofSelection s.working s.order) else none,
      { s with inFlight := s.canCommit || s.inFlight }) := by
  by_cases h : s.canCommit
  · have hdirty : s.isDirty = true := (Bool.and_eq_true_iff.mp h).1
    simp [handOut, h, commit_of_isDirty hdirty]
  · simp [handOut, h]

end Session

end FacetFilter
