import FacetFilter.Proofs.Selection.NormalForm

/-! The sorted order of members. It is a total preorder on all strings; AS values tie when they
name one number, which no two members of a selection of normal forms do. So the sorted list of
such a selection depends on its members alone, not on the order in which entries are kept. In any
set of strings the AS values that name a number come first, by their numbers, and all others after
them by code points. -/

namespace FacetFilter

namespace MemberOrder

variable {c : Category} {v w x : String}

theorem asnLe_trans (h : asnLe v w = true) (h' : asnLe w x = true) : asnLe v x = true := by
  unfold asnLe at *
  cases hv : AsNumber.ofText? v <;> cases hw : AsNumber.ofText? w <;>
    cases hx : AsNumber.ofText? x <;> simp_all only [decide_eq_true_eq, Bool.false_eq_true]
  · exact String.le_trans h h'
  · exact UInt32.le_trans h h'

theorem asnLe_total (v w : String) : (asnLe v w || asnLe w v) = true := by
  unfold asnLe
  cases AsNumber.ofText? v <;> cases AsNumber.ofText? w <;>
    simp only [Bool.or_eq_true, decide_eq_true_eq, or_true, true_or]
  · exact String.le_total v w
  · exact UInt32.le_total _ _

/-- Only values that name one number tie. -/
theorem eq_or_ofText?_eq_of_asnLe (h : asnLe v w = true) (h' : asnLe w v = true) :
    v = w ∨ ∃ n, AsNumber.ofText? v = some n ∧ AsNumber.ofText? w = some n := by
  unfold asnLe at h h'
  cases hv : AsNumber.ofText? v with
  | none =>
    cases hw : AsNumber.ofText? w with
    | none =>
      simp only [hv, hw, decide_eq_true_eq] at h h'
      exact Or.inl (String.le_antisymm h h')
    | some n => simp [hv, hw] at h
  | some m =>
    cases hw : AsNumber.ofText? w with
    | none => simp [hv, hw] at h'
    | some n =>
      simp only [hv, hw, decide_eq_true_eq] at h h'
      exact Or.inr ⟨m, rfl, by rw [UInt32.le_antisymm h h']⟩

theorem asnLe_refl (v : String) : asnLe v v = true := by
  simpa using asnLe_total v v

theorem asnLe_of_ofText?_eq {n : AsNumber} (hv : AsNumber.ofText? v = some n)
    (hw : AsNumber.ofText? w = some n) : asnLe v w = true := by
  rw [asnLe, hv, hw]
  exact decide_eq_true (UInt32.le_refl n)

/-- Different values tie exactly when they name one number. -/
theorem asnLe_tie_iff (hne : v ≠ w) :
    asnLe v w = true ∧ asnLe w v = true ↔
      ∃ n, AsNumber.ofText? v = some n ∧ AsNumber.ofText? w = some n := by
  constructor
  · rintro ⟨h, h'⟩
    exact (eq_or_ofText?_eq_of_asnLe h h').resolve_left hne
  · rintro ⟨n, hv, hw⟩
    exact ⟨asnLe_of_ofText?_eq hv hw, asnLe_of_ofText?_eq hw hv⟩

/-- Nothing that names no number stands before what names one. -/
theorem isSome_of_asnLe (h : asnLe v w = true) (hw : (AsNumber.ofText? w).isSome = true) :
    (AsNumber.ofText? v).isSome = true := by
  obtain ⟨n, hn⟩ := Option.isSome_iff_exists.mp hw
  cases hv : AsNumber.ofText? v with
  | none => simp [asnLe, hv, hn] at h
  | some m => rfl

theorem le_trans (h : le c v w = true) (h' : le c w x = true) : le c v x = true := by
  cases c with
  | asn => exact asnLe_trans h h'
  | country | service =>
    simp only [le, decide_eq_true_eq] at *
    exact String.le_trans h h'

theorem le_total (c : Category) (v w : String) : (le c v w || le c w v) = true := by
  cases c with
  | asn => exact asnLe_total v w
  | country | service => simpa [le] using String.le_total v w

/-- Normal forms do not tie. -/
theorem le_antisymm (hv : normalForm? c v = some v) (hw : normalForm? c w = some w)
    (h : le c v w = true) (h' : le c w v = true) : v = w := by
  cases c with
  | asn =>
    obtain he | ⟨n, hn, hn'⟩ := eq_or_ofText?_eq_of_asnLe h h'
    · exact he
    · rw [AsNumber.eq_text_of_canonical (normalForm?_self_iff.mp hv).2.2 hn,
        AsNumber.eq_text_of_canonical (normalForm?_self_iff.mp hw).2.2 hn']
  | country | service =>
    simp only [le, decide_eq_true_eq] at h h'
    exact String.le_antisymm h h'

end MemberOrder

namespace MemberSet

variable {c : Category}

theorem pairwise_ordered_sorted (s : MemberSet) (c : Category) :
    (s.ordered c .sorted).Pairwise fun v w => MemberOrder.le c v w = true := by
  have trans : ∀ v w x, MemberOrder.le c v w = true → MemberOrder.le c w x = true →
      MemberOrder.le c v x = true := fun _ _ _ h h' => MemberOrder.le_trans h h'
  exact @List.pairwise_mergeSort _ (MemberOrder.le c) trans (MemberOrder.le_total c) s.members

theorem nodup_ordered (s : MemberSet) (c : Category) (o : MemberOrder) : (s.ordered c o).Nodup :=
  (s.ordered_perm c o).nodup_iff.mpr s.nodup_members

/-- Countries and services are listed by code points, each one once. -/
theorem pairwise_lt_ordered_sorted (s : MemberSet) (hc : c ≠ .asn) :
    (s.ordered c .sorted).Pairwise (· < ·) := by
  refine ((s.pairwise_ordered_sorted c).and (s.nodup_ordered c .sorted)).imp ?_
  rintro v w ⟨hle, hne⟩
  refine Std.lt_of_le_of_ne ?_ hne
  cases c with
  | asn => exact absurd rfl hc
  | country | service => exact of_decide_eq_true hle

/-- What a list holds of one kind stands at its front when nothing else comes before it. -/
theorem filter_append_filter_of_pairwise {p : String → Bool} {l : List String}
    (h : l.Pairwise fun v w => p w = true → p v = true) :
    l.filter p ++ l.filter (!p ·) = l := by
  induction l with
  | nil => rfl
  | cons v l ih =>
    obtain ⟨hv, hl⟩ := List.pairwise_cons.mp h
    cases hp : p v with
    | true => simp [hp, ih hl]
    | false =>
      have hall : ∀ w ∈ l, p w = false := fun w hw =>
        Bool.eq_false_iff.mpr fun hpw => by simp [hv w hw hpw] at hp
      have hnone : l.filter p = [] := List.filter_eq_nil_iff.mpr fun w hw => by simp [hall w hw]
      have hothers : l.filter (!p ·) = l := List.filter_eq_self.mpr fun w hw => by simp [hall w hw]
      simp [hp, hnone, hothers]

theorem map_ofText?_eq {l : List String} (h : ∀ v ∈ l, (AsNumber.ofText? v).isSome = true) :
    l.map AsNumber.ofText? = (l.filterMap AsNumber.ofText?).map some := by
  induction l with
  | nil => rfl
  | cons v l ih =>
    rw [List.forall_mem_cons] at h
    obtain ⟨n, hn⟩ := Option.isSome_iff_exists.mp h.1
    rw [List.filterMap_cons_some hn, List.map_cons, List.map_cons, hn, ih h.2]

/-- Sorted AS values: by number first, then those that name none by code points. -/
theorem exists_ordered_sorted_asn_eq (s : MemberSet) :
    ∃ (named others : List String) (numbers : List AsNumber),
      s.ordered .asn .sorted = named ++ others ∧
      named.map AsNumber.ofText? = numbers.map some ∧ numbers.Pairwise (· ≤ ·) ∧
      (∀ v ∈ others, AsNumber.ofText? v = none) ∧ others.Pairwise (· < ·) := by
  let l := s.ordered .asn .sorted
  let named := l.filter fun v => (AsNumber.ofText? v).isSome
  let others := l.filter fun v => !(AsNumber.ofText? v).isSome
  have hsorted : l.Pairwise fun v w => MemberOrder.asnLe v w = true :=
    s.pairwise_ordered_sorted .asn
  have hnone : ∀ v ∈ others, AsNumber.ofText? v = none := fun v hv => by
    simpa using (List.mem_filter.mp hv).2
  have hfront : named ++ others = l :=
    filter_append_filter_of_pairwise (hsorted.imp fun h hw => MemberOrder.isSome_of_asnLe h hw)
  refine ⟨named, others, named.filterMap AsNumber.ofText?, hfront.symm,
    map_ofText?_eq fun v hv => (List.mem_filter.mp hv).2, ?_, hnone, ?_⟩
  · refine List.pairwise_filterMap.mpr ((hsorted.filter _).imp fun {v w} h m hm n hn => ?_)
    rw [MemberOrder.asnLe, hm, hn] at h
    exact of_decide_eq_true h
  · have hdistinct : others.Nodup := (s.nodup_ordered .asn .sorted).filter _
    refine List.Pairwise.imp_of_mem ?_ ((hsorted.filter _).and hdistinct)
    rintro v w hv hw ⟨hle, hne⟩
    rw [MemberOrder.asnLe, hnone v hv, hnone w hw] at hle
    exact Std.lt_of_le_of_ne (of_decide_eq_true hle) hne

end MemberSet

namespace Selection

variable {s t : Selection} {c : Category}

/-- Equal selections of normal forms list the same members in sorted order. -/
theorem ordered_sorted_congr (hs : s.Normal) (ht : t.Normal)
    (h : (s.get c).members.Perm (t.get c).members) :
    (s.get c).ordered c .sorted = (t.get c).ordered c .sorted := by
  have hperm := (MemberSet.ordered_perm (s.get c) c .sorted).trans
    (h.trans (MemberSet.ordered_perm (t.get c) c .sorted).symm)
  refine List.Perm.eq_of_pairwise ?_ (MemberSet.pairwise_ordered_sorted _ c)
    (MemberSet.pairwise_ordered_sorted _ c) hperm
  intro v w hv hw
  exact MemberOrder.le_antisymm (hs c v (mem_ordered.mp hv))
    (ht c w (mem_ordered.mp hw))

theorem listed_sorted_congr (hs : s.Normal) (ht : t.Normal) (h : s.same t = true) :
    s.listed .sorted = t.listed .sorted := by
  refine PerCategory.ext_get fun c => ?_
  rw [listed, listed, PerCategory.get_ofFun, PerCategory.get_ofFun]
  exact ordered_sorted_congr hs ht (MemberSet.perm_of_same (MemberSet.same_iff.mpr (same_iff.mp h c)))

/-- Members of a selection of normal forms do not tie. -/
theorem Normal.pairwise_ordered_sorted (hs : s.Normal) (c : Category) :
    ((s.get c).ordered c .sorted).Pairwise fun v w =>
      MemberOrder.le c v w = true ∧ MemberOrder.le c w v = false := by
  have hnormal : ∀ m ∈ (s.get c).ordered c .sorted, normalForm? c m = some m := fun m hm =>
    hs c m (mem_ordered.mp hm)
  refine List.Pairwise.imp_of_mem ?_
    (((s.get c).pairwise_ordered_sorted c).and ((s.get c).nodup_ordered c .sorted))
  rintro v w hv hw ⟨hle, hne⟩
  refine ⟨hle, Bool.eq_false_iff.mpr fun h => hne ?_⟩
  exact MemberOrder.le_antisymm (hnormal v hv) (hnormal w hw) hle h

/-- The order in which the entries of a reachable selection are kept does not show. -/
theorem Reachable.ordered_sorted_of_reordered (hs : s.Reachable) {t : MemberSet}
    (h : (s.get c).Reordered t) : t.ordered c .sorted = (s.get c).ordered c .sorted := by
  have ht : Reachable (s.set c t) := by
    refine hs.reorder fun d => ?_
    by_cases hd : d = c
    · rw [hd, PerCategory.get_set_self]
      exact h
    · rw [PerCategory.get_set_of_ne _ _ hd]
      exact ⟨.refl _, rfl⟩
  have hsame := ordered_sorted_congr (c := c) hs.normal ht.normal (by
    rw [PerCategory.get_set_self]
    exact h.members_perm)
  rw [PerCategory.get_set_self] at hsame
  exact hsame.symm

/-- Sorting the members of a set, whatever strings they are and in whatever order its entries are
kept, lists each of them once. Countries and services stand in strictly ascending order of code
points. The order of AS values is a total preorder of all strings in which different ones tie
exactly when they name one number; so those that name a number come first, by number, and all
others after them in strictly ascending order of code points. In a reachable selection no two
members tie, and the list is the same in whatever order the entries are kept. -/
theorem sorted_members :
    (∀ (s : MemberSet) (c : Category), (s.ordered c .sorted).Perm s.members) ∧
    (∀ (s : MemberSet) (c : Category), c ≠ .asn → (s.ordered c .sorted).Pairwise (· < ·)) ∧
    (∀ v, MemberOrder.asnLe v v = true) ∧
    (∀ v w x, MemberOrder.asnLe v w = true → MemberOrder.asnLe w x = true →
      MemberOrder.asnLe v x = true) ∧
    (∀ v w, MemberOrder.asnLe v w = true ∨ MemberOrder.asnLe w v = true) ∧
    (∀ v w, v ≠ w → (MemberOrder.asnLe v w = true ∧ MemberOrder.asnLe w v = true ↔
      ∃ n, AsNumber.ofText? v = some n ∧ AsNumber.ofText? w = some n)) ∧
    (∀ s : MemberSet, ∃ (named others : List String) (numbers : List AsNumber),
      s.ordered .asn .sorted = named ++ others ∧
      named.map AsNumber.ofText? = numbers.map some ∧ numbers.Pairwise (· ≤ ·) ∧
      (∀ v ∈ others, AsNumber.ofText? v = none) ∧ others.Pairwise (· < ·)) ∧
    (∀ s : Selection, s.Reachable →
      ((s.get .asn).ordered .asn .sorted).Pairwise (fun v w =>
        MemberOrder.asnLe v w = true ∧ MemberOrder.asnLe w v = false) ∧
      ∀ t, (s.get .asn).Reordered t →
        t.ordered .asn .sorted = (s.get .asn).ordered .asn .sorted) :=
  ⟨fun s c => s.ordered_perm c .sorted,
    fun s _ hc => s.pairwise_lt_ordered_sorted hc,
    MemberOrder.asnLe_refl,
    fun _ _ _ => MemberOrder.asnLe_trans,
    fun v w => Bool.or_eq_true_iff.mp (MemberOrder.asnLe_total v w),
    fun _ _ => MemberOrder.asnLe_tie_iff,
    MemberSet.exists_ordered_sorted_asn_eq,
    fun _ hs => ⟨hs.normal.pairwise_ordered_sorted .asn, fun _ => hs.ordered_sorted_of_reordered⟩⟩

/-- Numbers go by their size and not by their digits; what is too large to be one goes last. -/
theorem sorted_members_numbers :
    let s := ofRaw ⟨["US", "DE"], ["AS1000", "x", "AS4294967296", "as2", "64512"], []⟩
    s.Reachable ∧ (s.get .country).ordered .country .sorted = ["DE", "US"] ∧
      (s.get .asn).ordered .asn .sorted = ["AS2", "AS1000", "AS64512", "AS4294967296", "x"] := by
  intro s
  obtain ⟨hperm, hascending, -, -, -, -, -, hreachable⟩ := sorted_members
  have hs : s.Reachable := .ofRaw _
  refine ⟨hs, ?_, ?_⟩
  · exact List.Perm.eq_of_pairwise
      (fun v w _ _ h h' => absurd (String.lt_trans h h') (String.lt_irrefl v))
      (hascending (s.get .country) .country (by decide)) (by decide)
      ((hperm (s.get .country) .country).trans (by decide +kernel))
  · refine List.Perm.eq_of_pairwise (fun v w _ _ h h' => ?_) (hreachable s hs).1 (by decide +kernel)
      ((hperm (s.get .asn) .asn).trans (by decide +kernel))
    rw [h.1] at h'
    cases h'.2

end Selection

end FacetFilter
