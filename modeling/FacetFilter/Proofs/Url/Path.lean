import FacetFilter.Proofs.Text.Pieces
import FacetFilter.Proofs.Url.Allowed
import FacetFilter.Url.Path

/-! The segments of a followed path hold nothing that ends a path, a query or a URL, whatever
the text was that they were followed from. -/

namespace FacetFilter.Url.Path

open Text (Percent.escape)

/-- Segments that are escaped throughout. -/
def Escaped (segments : List (List Char)) : Prop :=
  ∀ segment ∈ segments, ∀ c ∈ segment, inPath c = true

section
variable {segment : List Char} {below : List (List Char)}

theorem escaped_nil : Escaped [] := fun _ h => by cases h

theorem Escaped.cons (hsegment : ∀ c ∈ segment, inPath c = true) (h : Escaped below) :
    Escaped (segment :: below) := List.forall_mem_cons.mpr ⟨hsegment, h⟩

theorem Escaped.reverse (h : Escaped below) : Escaped below.reverse := fun segment hs =>
  h segment (List.mem_reverse.mp hs)

theorem Escaped.up (h : Escaped below) : Escaped (up below) := by
  cases below with
  | nil => exact h
  | cons segment below =>
    rw [Path.up]
    split
    · exact h
    · exact (List.forall_mem_cons.mp h).2

theorem inPath_settled {kind : Kind} (hsegment : ∀ c ∈ segment, inPath c = true) :
    ∀ c ∈ settled kind below segment, inPath c = true := by
  unfold settled
  split
  · next letter mark =>
    split
    · rw [List.forall_mem_cons] at hsegment
      rw [List.forall_mem_cons, List.forall_mem_singleton]
      exact ⟨hsegment.1, by decide⟩
    · exact hsegment
  · exact hsegment

theorem inPath_driveAtBreak {drive after : List Char}
    (h : driveAtBreak? segment = some (drive, after)) : ∀ c ∈ drive, inPath c = true := by
  unfold driveAtBreak? at h
  split at h
  · next letter _ _ =>
    split at h
    · dsimp only at h
      split at h
      · next hdrive =>
        cases h
        simp only [Bool.and_eq_true] at hdrive
        have hletter : letter.isAlphanum = true := by simp [Char.isAlphanum, hdrive.1.1]
        rw [List.forall_mem_cons, List.forall_mem_singleton]
        exact ⟨inPath_of_inUserinfo (inUserinfo_of_isAlphanum hletter), by decide⟩
      · cases h
    · cases h
  · cases h

/-- Following segments from an escaped place leads through escaped segments only. -/
theorem Escaped.follow (h : Escaped below) (kind : Kind) (hasDrive : Bool)
    (segments : List (List Char)) : Escaped (follow kind hasDrive below segments).segments := by
  induction segments generalizing below hasDrive with
  | nil => exact h.reverse
  | cons segment more ih =>
    rw [Path.follow]
    dsimp only
    split
    · next drive after hdrive =>
      refine ih (Escaped.cons (fun c => inPath_of_mem_escape) (Escaped.cons ?_ h)) _
      split at hdrive
      · exact inPath_driveAtBreak hdrive
      · cases hdrive
    · -- The segment leads up, stays, or goes on top, and each of these places is escaped.
      have hbelow : Escaped
          (if isDoubleDot (Percent.escape inPath (withoutBreaks segment)) then Path.up below
          else if isDot (Percent.escape inPath (withoutBreaks segment)) then below
          else settled kind below (Percent.escape inPath (withoutBreaks segment)) :: below) := by
        split
        · exact h.up
        · split
          · exact h
          · exact Escaped.cons (inPath_settled fun c => inPath_of_mem_escape) h
      split
      · exact (Escaped.cons (fun c hc => by cases hc) hbelow).reverse
      · exact ih hbelow _

theorem escaped_trail (kind : Kind) (cs : List Char) : Escaped (trail kind cs).segments :=
  escaped_nil.follow kind false _

theorem Escaped.withoutLeadingEmpty (h : Escaped below) : Escaped (withoutLeadingEmpty below) := by
  fun_induction Path.withoutLeadingEmpty below with
  | case1 segment more ih => exact ih (List.forall_mem_cons.mp h).2
  | case2 => exact h

end

/-! ## The text -/

theorem mem_text_rooted {segments : List (List Char)} (h : Escaped segments) {c : Char}
    (hc : c ∈ (Path.rooted segments).text) : c = '/' ∨ inPath c = true := by
  cases segments with
  | nil => cases hc
  | cons segment more =>
    rcases List.mem_cons.mp hc with rfl | hc
    · exact Or.inl rfl
    · rcases Text.mem_join hc with rfl | ⟨part, hpart, hc⟩
      · exact Or.inl rfl
      · exact Or.inr (h part hpart c hc)

/-- What stands before a rooted path ends where the path begins. -/
theorem eq_slash_of_head?_text_rooted {segments : List (List Char)} {c : Char}
    (h : (Path.rooted segments).text.head? = some c) : c = '/' := by
  cases segments with
  | nil => cases h
  | cons segment more => exact (Option.some.inj h).symm

end FacetFilter.Url.Path
