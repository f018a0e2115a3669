import FacetFilter.Proofs.Query.Parameters
import FacetFilter.Proofs.Session.Operations

/-! Normal forms in every session. Values come into a session when it is started and when they are
toggled, and in both ways as normal forms; no operation brings in anything else. So whatever was
done, the requests for its selections have no empty parameter and no blank member. -/

namespace FacetFilter

namespace Selection

/-- No two members of a selection of normal forms name one number. -/
theorem Normal.eq_of_ofText? {s : Selection} (h : s.Normal) {v w : String}
    (hv : v ∈ (s.get .asn).members) (hw : w ∈ (s.get .asn).members) {n : AsNumber}
    (hn : AsNumber.ofText? v = some n) (hn' : AsNumber.ofText? w = some n) : v = w := by
  have hform : AsNumber.canonical v = v := (normalForm?_self_iff.mp (h .asn v hv)).2.2
  have hform' : AsNumber.canonical w = w := (normalForm?_self_iff.mp (h .asn w hw)).2.2
  rw [AsNumber.eq_text_of_canonical hform hn, AsNumber.eq_text_of_canonical hform' hn']

end Selection

namespace Session

/-- Both selections hold normal forms only. -/
structure Normal (s : Session) : Prop where
  baseline : s.baseline.Normal
  working : s.working.Normal

variable {s : Session}

theorem normal_start (raw : RawFilters) (o : MemberOrder) : (start raw o).Normal :=
  ⟨Selection.normal_ofRaw raw, Selection.normal_ofRaw raw⟩

theorem Normal.perform (h : s.Normal) (op : Operation) : (s.perform op).after.Normal := by
  rw [after_perform]
  cases op.filters? with
  | none => exact ⟨h.baseline, h.working.toggleAll _⟩
  | some raw => exact ⟨Selection.normal_ofRaw raw, Selection.normal_ofRaw raw⟩

theorem Normal.after (h : s.Normal) (ops : List Operation) : (s.after ops).Normal := by
  induction ops using List.reverseRecOn with
  | nil => exact h
  | append_singleton ops op ih =>
    rw [after_concat]
    exact ih.perform op

/-- After any run of operations each member of the working selection and of the baseline is its own
normal form: it is not empty, it neither begins nor ends with a blank, and as an AS value it is
canonical, so no two members name one number. In either order of members the request for such a
selection asks for it and for nothing else: it has a parameter for each category with a choice and
for no other, none of them empty or with an empty part. -/
theorem normal_forms_after (raw : RawFilters) (o : MemberOrder) (ops : List Operation) :
    let s := (start raw o).after ops
    ∀ chosen ∈ [s.working, s.baseline],
      (∀ c, ∀ m ∈ (chosen.get c).members, normalForm? c m = some m ∧ m ≠ "" ∧
        (∀ x ∈ m.toList.head?, Text.isBlank x = false) ∧
        (∀ x ∈ m.toList.getLast?, Text.isBlank x = false) ∧
        (c = .asn → AsNumber.canonical m = m)) ∧
      (∀ v ∈ (chosen.get .asn).members, ∀ w ∈ (chosen.get .asn).members, ∀ n,
        AsNumber.ofText? v = some n → AsNumber.ofText? w = some n → v = w) ∧
      ∀ order, (Request.ofSelection chosen order).AsksFor chosen := by
  intro s chosen hchosen
  have hnormal : chosen.Normal := by
    have hs : s.Normal := (normal_start raw o).after ops
    rw [List.mem_cons, List.mem_singleton] at hchosen
    rcases hchosen with rfl | rfl
    · exact hs.working
    · exact hs.baseline
  refine ⟨fun c m hm => ?_, fun v hv w hw n => hnormal.eq_of_ofText? hv hw,
    Request.asksFor_ofSelection hnormal⟩
  have hself := hnormal c m hm
  obtain ⟨htrim, hne, hform⟩ := normalForm?_self_iff.mp hself
  refine ⟨hself, fun hempty => hne (by rw [hempty]; rfl), ?_, ?_, ?_⟩
  · rw [← htrim]
    exact Text.isBlank_head?_trim _
  · rw [← htrim]
    exact Text.isBlank_getLast?_trim _
  · rintro rfl
    exact hform

/-- Blank values leave no trace in the request, and three spellings of a number one member. -/
theorem normal_forms_after_blanks :
    let s := (start ⟨["", "\u3000"], ["as064512", "AS4294967296"], []⟩ .sorted).after
      [.toggle .country " ", .toggleAsn 7, .handOut, .toggle .asn "\t007\u00A0",
        .toggle .asn "64513", .toggle .service "\u2003ssh"]
    let r := Request.ofSelection s.working .sorted
    (s.working.get .asn).members = ["AS64513", "AS4294967296", "AS64512"] ∧
      (∀ m ∈ (s.working.get .asn).members, AsNumber.canonical m = m) ∧
      r.parameters.map Parameter.category = [.asn, .service] ∧
      ∀ p ∈ r.parameters, p.members ≠ [] := by
  intro s r
  obtain ⟨hforms, -, hrequest⟩ := normal_forms_after
    ⟨["", "\u3000"], ["as064512", "AS4294967296"], []⟩ .sorted
    [.toggle .country " ", .toggleAsn 7, .handOut, .toggle .asn "\t007\u00A0",
      .toggle .asn "64513", .toggle .service "\u2003ssh"] s.working List.mem_cons_self
  have hasks : r.AsksFor s.working := hrequest .sorted
  refine ⟨by decide +kernel, ?_, ?_, hasks.members_ne_nil⟩
  · intro m hm
    exact (hforms .asn m hm).2.2.2.2 rfl
  · rw [hasks.categories]
    decide +kernel

end Session

end FacetFilter
