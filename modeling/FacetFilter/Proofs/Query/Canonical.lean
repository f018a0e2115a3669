import FacetFilter.Proofs.Query.RoundTrip
import FacetFilter.Proofs.Selection.MemberOrder

/-! One query for each selection. Different requests have different queries, since the parts of
a query can be told apart and escaping loses nothing. So two selections have one query when
they list the same members in the same order; in sorted order that is when they are equal as
sets, and in order of arrival when the orders agree. -/

namespace FacetFilter

open Text (join)
open Text.FormEncoded

namespace Parameter

/-- A parameter that has members can be told from its text. -/
theorem text_injective {p q : Parameter} (hp : p.members ≠ []) (hq : q.members ≠ [])
    (h : p.text = q.text) : p = q := by
  have hpair := congrArg (Text.cut '=') h
  rw [text, text, Text.cut_append_cons p.equals_notMem_key,
    Text.cut_append_cons q.equals_notMem_key] at hpair
  obtain ⟨hkey, hvalue⟩ := Prod.mk.inj hpair
  have hcategory : p.category = q.category := Category.key_injective (String.toList_inj.mp hkey)
  have hencoded := Text.join_injective (fun _ => notMem_of_mem_encoded (by decide))
    (fun _ => notMem_of_mem_encoded (by decide)) (by simpa using hp) (by simpa using hq)
    (Option.some.inj hvalue)
  have hmembers : p.members = q.members := by
    refine List.map_injective_iff.mpr (fun m n hmn => ?_) hencoded
    exact String.toList_inj.mp (encode_injective hmn)
  cases p
  cases q
  simp_all

end Parameter

namespace Request

/-- Every parameter of a selection's request has members. -/
theorem members_ne_nil {s : Selection} {o : MemberOrder} {p : Parameter}
    (h : p ∈ (ofSelection s o).parameters) : p.members ≠ [] := by
  obtain ⟨c, -, hc⟩ := List.mem_filterMap.mp h
  by_cases he : (s.get c).isEmpty
  · simp [he] at hc
  · rw [if_neg he, Option.some.injEq] at hc
    subst hc
    intro hnil
    have hperm := MemberSet.ordered_perm (s.get c) c o
    rw [show (s.get c).ordered c o = [] from hnil, List.nil_perm] at hperm
    exact he (MemberSet.isEmpty_iff.mpr hperm)

theorem eq_of_map_text {ps qs : List Parameter} (h : ∀ p ∈ ps, p.members ≠ [])
    (h' : ∀ p ∈ qs, p.members ≠ []) (he : ps.map Parameter.text = qs.map Parameter.text) :
    ps = qs := by
  induction ps generalizing qs with
  | nil => exact (List.map_eq_nil_iff.mp he.symm).symm
  | cons p ps ih =>
    cases qs with
    | nil => simp at he
    | cons q qs =>
      rw [List.forall_mem_cons] at h h'
      obtain ⟨hpq, hrest⟩ := List.cons.inj he
      rw [Parameter.text_injective h.1 h'.1 hpq, ih h.2 h'.2 hrest]

/-- Requests whose parameters have members can be told from their queries. -/
theorem query_injective {r r' : Request} (h : ∀ p ∈ r.parameters, p.members ≠ [])
    (h' : ∀ p ∈ r'.parameters, p.members ≠ []) (he : r.query = r'.query) : r = r' := by
  have hparams : r.parameters = r'.parameters := by
    by_cases hnil : r.query = []
    · rw [query_eq_nil_iff.mp hnil, query_eq_nil_iff.mp (he ▸ hnil)]
    · have hne : r.parameters ≠ [] := fun hp => hnil (query_eq_nil_iff.mpr hp)
      have hne' : r'.parameters ≠ [] := fun hp => hnil (he ▸ query_eq_nil_iff.mpr hp)
      exact eq_of_map_text h h' (Text.join_injective r.ampersand_notMem_texts
        r'.ampersand_notMem_texts (by simpa using hne) (by simpa using hne') he)
  cases r
  exact congrArg Request.mk hparams

theorem isEmpty_eq_of_ordered {s t : Selection} {o : MemberOrder} {c : Category}
    (h : (s.get c).ordered c o = (t.get c).ordered c o) :
    (s.get c).isEmpty = (t.get c).isEmpty := by
  have hperm : (s.get c).members.Perm (t.get c).members :=
    (MemberSet.ordered_perm (s.get c) c o).symm.trans (h ▸ MemberSet.ordered_perm (t.get c) c o)
  rw [Bool.eq_iff_iff, MemberSet.isEmpty_iff, MemberSet.isEmpty_iff]
  exact ⟨fun hs => List.nil_perm.mp (hs ▸ hperm), fun ht => List.perm_nil.mp (ht ▸ hperm)⟩

/-- Selections have one request when they list the same members in the same order. -/
theorem ofSelection_inj_iff {s t : Selection} {o : MemberOrder} :
    ofSelection s o = ofSelection t o ↔
      ∀ c, (s.get c).ordered c o = (t.get c).ordered c o := by
  constructor
  · intro h c
    have hs := flatMap_parameters s o c fun m => [m]
    have ht := flatMap_parameters t o c fun m => [m]
    rw [h, ht] at hs
    simpa using hs.symm
  · intro h
    refine congrArg Request.mk (List.filterMap_congr fun c _ => ?_)
    rw [isEmpty_eq_of_ordered (h c), h c]

theorem text_ofSelection_inj_iff {s t : Selection} {o : MemberOrder} :
    (ofSelection s o).text = (ofSelection t o).text ↔
      ∀ c, (s.get c).ordered c o = (t.get c).ordered c o := by
  rw [text, text, String.ofList_inj, ← ofSelection_inj_iff]
  exact ⟨query_injective (fun _ => members_ne_nil) (fun _ => members_ne_nil), congrArg query⟩

/-- Reachable selections, in whatever order their entries are kept, have the same sorted query
exactly when they are equal as sets, and the same query in order of arrival exactly when their
members arrived in the same order. -/
theorem text_eq_iff {s t : Selection} (hs : s.Reachable) (ht : t.Reachable) :
    ((ofSelection s .sorted).text = (ofSelection t .sorted).text ↔ s.same t = true) ∧
    ((ofSelection s .insertion).text = (ofSelection t .insertion).text ↔
      ∀ c, (s.get c).inArrivalOrder = (t.get c).inArrivalOrder) := by
  refine ⟨?_, text_ofSelection_inj_iff⟩
  rw [text_ofSelection_inj_iff, Selection.same_iff]
  constructor
  · intro h c m
    rw [← Selection.mem_ordered (s := s) (o := .sorted), h c, Selection.mem_ordered]
  · intro h c
    exact Selection.ordered_sorted_congr hs.normal ht.normal
      (MemberSet.perm_of_same (MemberSet.same_iff.mpr (h c)))

/-- Filters listed in another order: one sorted query, two queries in order of arrival. -/
theorem text_eq_permuted :
    let s := Selection.ofRaw ⟨["US", "DE"], ["7"], ["a,b", "c&d"]⟩
    let t := Selection.ofRaw ⟨["DE", "US"], ["as007", "7"], ["c&d", " a,b"]⟩
    s.Reachable ∧ t.Reachable ∧ (ofSelection s .sorted).text = (ofSelection t .sorted).text ∧
      (ofSelection s .insertion).text ≠ (ofSelection t .insertion).text := by
  intro s t
  have hs : s.Reachable := .ofRaw _
  have ht : t.Reachable := .ofRaw _
  obtain ⟨hsorted, hinsertion⟩ := text_eq_iff hs ht
  refine ⟨hs, ht, hsorted.mpr (by decide +kernel), fun h => ?_⟩
  have harrival := hinsertion.mp h .country
  have hs' : s.get .country = .ofList ["US", "DE"] := Selection.get_ofRaw (by decide)
  have ht' : t.get .country = .ofList ["DE", "US"] := Selection.get_ofRaw (by decide)
  rw [hs', ht', MemberSet.inArrivalOrder_ofList (by decide),
    MemberSet.inArrivalOrder_ofList (by decide)] at harrival
  exact absurd harrival (by decide)

end Request

end FacetFilter
