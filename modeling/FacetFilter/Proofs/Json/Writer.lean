import FacetFilter.Json.Writer
import FacetFilter.Proofs.Json.Grammar
import FacetFilter.Proofs.Text.Digits
import Mathlib.Data.List.Forall2

/-! What is written is JSON: strings with their escapes, numbers as digits, arrays and objects of
what is written, without white space. -/

namespace FacetFilter.Json

open Grammar

/-! ## Strings -/

/-- Controls have a code unit below U+0020, of which two digits are zeros. -/
theorem unitText_twoHexDigits {n : Nat} (h : n < 0x20) :
    UnitText n ('0' :: '0' :: twoHexDigits n) := by
  have all : ∀ n < 0x20, Text.hexNumber? ('0' :: '0' :: twoHexDigits n) = some n := by decide
  exact ⟨rfl, all n h⟩

theorem spelled_escapedChar (c : Char) {cs t : List Char} (h : Spelled cs t) :
    Spelled (c :: cs) (escapedChar c ++ t) := by
  unfold escapedChar
  split
  · exact .escape (by decide) h
  · exact .escape (by decide) h
  · exact .escape (by decide) h
  · exact .escape (by decide) h
  · exact .escape (by decide) h
  · exact .escape (by decide) h
  · exact .escape (by decide) h
  · next hquote hbackslash _ _ _ _ _ =>
    split
    · next hcontrol =>
      have hunit := Spelled.unit (unitText_twoHexDigits hcontrol) (by omega) h
      rwa [Char.ofNat_toNat] at hunit
    · next hcontrol => exact .plain (by omega) hquote hbackslash h

theorem spelled_flatMap_escapedChar (cs : List Char) : Spelled cs (cs.flatMap escapedChar) := by
  induction cs with
  | nil => exact .nil
  | cons c cs ih => exact List.flatMap_cons ▸ spelled_escapedChar c ih

theorem written_stringChars (s : String) :
    Written (.value (.string (some s))) (stringChars s) := by
  have h := Written.string (spelled_flatMap_escapedChar s.toList)
  rwa [String.ofList_toList] at h

/-! ## Numbers -/

theorem wholePart_toDigits (n : Nat) : WholePart (Nat.toDigits 10 n) := by
  refine ⟨⟨Nat.toDigits_ne_nil, fun d hd => ?_⟩, fun h => ?_⟩
  · exact Text.isDigit_of_mem_toDigits hd
  · rw [Text.eq_zero_of_head?_toDigits h]
    rfl

/-- The node of a number that is written with digits alone. -/
def Node.ofNat (n : Nat) : Node := .number ⟨false, Nat.toDigits 10 n, [], none⟩

theorem written_numberChars (n : Nat) : Written (.value (.ofNat n)) (numberChars n) := by
  rw [numberChars, Nat.repr_eq_ofList_toDigits, String.toList_ofList]
  exact written_digits (wholePart_toDigits n)

/-! ## Arrays and objects -/

theorem written_arrayChars {vs : List Node} {ts : List (List Char)}
    (h : List.Forall₂ (fun v t => Written (.value v) t) vs ts) :
    Written (.value (.array vs none)) (arrayChars ts) := by
  cases h with
  | nil => exact .emptyArray (by simp [Spaces])
  | @cons v t vs ts hv hvs =>
    refine .array ?_
    induction hvs generalizing v t with
    | nil =>
      rw [List.intercalate_singleton]
      exact .lastItem (written_bare hv)
    | cons hv' _ ih =>
      rw [List.intercalate_cons_cons, List.append_assoc]
      exact .item (written_bare hv) (ih hv')

theorem written_member (key : String) {v : Node} {t : List Char} (h : Written (.value v) t) :
    Written (.member (some key, v)) (stringChars key ++ ':' :: t) := by
  have hnone : Spaces [] := by simp [Spaces]
  have hkey := spelled_flatMap_escapedChar key.toList
  have hmember := Written.member hnone hkey hnone (written_bare h)
  simpa [stringChars] using hmember

theorem written_objectChars {ms : List (StringText × Node)} {members : List (String × List Char)}
    (h : List.Forall₂ (fun m p => m.1 = some p.1 ∧ Written (.value m.2) p.2) ms members) :
    Written (.value (.object ms none)) (objectChars members) := by
  cases h with
  | nil => exact .emptyObject (by simp [Spaces])
  | @cons m p ms members hm hms =>
    refine .object ?_
    induction hms generalizing m p with
    | nil =>
      obtain ⟨key, v⟩ := m
      obtain rfl : key = some p.1 := hm.1
      rw [List.map_singleton, List.intercalate_singleton]
      exact .lastMember (written_member p.1 hm.2)
    | cons hm' _ ih =>
      obtain ⟨key, v⟩ := m
      obtain rfl : key = some p.1 := hm.1
      rw [List.map_cons, List.map_cons, List.intercalate_cons_cons, List.append_assoc]
      exact .moreMembers (written_member p.1 hm.2) (ih hm')

end FacetFilter.Json
