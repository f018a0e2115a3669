import FacetFilter.Text.Pieces
import Mathlib.Data.List.TakeDrop

/-! Joining and cutting at every separator are inverse to each other as far as the parts are
free of it; a part that is not falls into its own pieces. -/

namespace FacetFilter.Text

variable {sep : Char} {parts : List (List Char)}

theorem join_cons_cons (sep : Char) (part next : List Char) (rest : List (List Char)) :
    join sep (part :: next :: rest) = part ++ sep :: join sep (next :: rest) := by
  simp [join, List.intercalate_cons_cons]

@[simp] theorem join_nil (sep : Char) : join sep [] = [] := rfl

@[simp] theorem join_singleton (sep : Char) (part : List Char) : join sep [part] = part := by
  simp [join]

theorem mem_join {c : Char} (h : c ∈ join sep parts) : c = sep ∨ ∃ part ∈ parts, c ∈ part := by
  induction parts with
  | nil => simp at h
  | cons part rest ih =>
    cases rest with
    | nil => exact Or.inr ⟨part, by simp, by simpa using h⟩
    | cons next rest =>
      rw [join_cons_cons, List.mem_append, List.mem_cons] at h
      rcases h with h | h | h
      · exact Or.inr ⟨part, by simp, h⟩
      · exact Or.inl h
      · obtain rfl | ⟨p, hp, hc⟩ := ih h
        · exact Or.inl rfl
        · exact Or.inr ⟨p, List.mem_cons_of_mem _ hp, hc⟩

theorem mem_of_mem_fst_cut {c : Char} {cs : List Char} (h : c ∈ (cut sep cs).1) : c ∈ cs := by
  rw [← cut_append sep cs]
  exact List.mem_append_left _ h

theorem mem_of_mem_snd_cut {c : Char} {cs after : List Char} (hafter : (cut sep cs).2 = some after)
    (h : c ∈ after) : c ∈ cs := by
  rw [← cut_append sep cs, hafter]
  exact List.mem_append_right _ (List.mem_cons_of_mem _ h)

theorem pieces_append_cons (before after : List Char) :
    pieces sep (before ++ sep :: after) = pieces sep before ++ pieces sep after :=
  List.splitOn_append_cons_self before after

theorem pieces_of_notMem {cs : List Char} (h : sep ∉ cs) : pieces sep cs = [cs] :=
  List.splitOn_eq_singleton h

/-- The first piece ends at the first separator, and the others follow it. -/
theorem pieces_eq_cut (cs : List Char) :
    pieces sep cs = (cut sep cs).1 :: (cut sep cs).2.elim [] (pieces sep) := by
  have hfirst := pieces_of_notMem (sep_notMem_cut sep cs)
  have hcs := cut_append sep cs
  cases hafter : (cut sep cs).2 with
  | none =>
    rw [hafter, Option.elim_none, List.append_nil] at hcs
    rw [Option.elim_none, ← hfirst, hcs]
  | some after =>
    rw [hafter, Option.elim_some] at hcs
    rw [Option.elim_some, ← List.singleton_append, ← hfirst, ← pieces_append_cons, hcs]

/-- The pieces of joined parts are those of the parts, one after another. -/
theorem pieces_join (h : parts ≠ []) :
    pieces sep (join sep parts) = parts.flatMap (pieces sep) := by
  induction parts with
  | nil => exact absurd rfl h
  | cons part rest ih =>
    cases rest with
    | nil => simp
    | cons next rest =>
      rw [join_cons_cons, pieces_append_cons, ih (by simp), ← List.flatMap_cons]

/-- No piece holds the separator. -/
theorem sep_notMem_of_mem_pieces {cs piece : List Char} (h : piece ∈ pieces sep cs) :
    sep ∉ piece := by
  induction cs generalizing piece with
  | nil => rw [pieces, List.splitOn_nil, List.mem_singleton] at h; simp [h]
  | cons c rest ih =>
    rw [pieces, List.splitOn_cons_eq_if_modifyHead] at h
    split at h
    · rcases List.mem_cons.mp h with rfl | h
      · simp
      · exact ih h
    · next hc =>
      obtain ⟨first, more, hsplit⟩ := List.exists_cons_of_ne_nil (List.splitOn_ne_nil sep rest)
      have hpieces : pieces sep rest = first :: more := hsplit
      rw [hsplit, List.modifyHead_cons, List.mem_cons] at h
      rcases h with rfl | h
      · rw [List.mem_cons, not_or]
        exact ⟨fun e => hc (by simp [e]), ih (by simp [hpieces])⟩
      · exact ih (by simp [hpieces, h])

/-- Pieces are one more than the separators between them. -/
theorem length_pieces (sep : Char) (cs : List Char) : (pieces sep cs).length = cs.count sep + 1 := by
  induction cs with
  | nil => rfl
  | cons c cs ih =>
    rw [pieces] at ih
    rw [pieces, List.splitOn_cons_eq_if_modifyHead, List.count_cons]
    split <;> simp [ih]

/-- Every other character of joined parts is one of the parts'. -/
theorem count_join_of_ne {x : Char} (h : x ≠ sep) (parts : List (List Char)) :
    (join sep parts).count x = parts.flatten.count x := by
  induction parts with
  | nil => rfl
  | cons part rest ih =>
    cases rest with
    | nil => simp
    | cons next rest =>
      rw [join_cons_cons, List.count_append, List.count_cons_of_ne (Ne.symm h), ih,
        ← List.count_append, ← List.flatten_cons]

/-- Parts free of the separator can be told from what they are joined to. -/
theorem join_injective {other : List (List Char)} (h : ∀ part ∈ parts, sep ∉ part)
    (h' : ∀ part ∈ other, sep ∉ part) (hne : parts ≠ []) (hne' : other ≠ [])
    (he : join sep parts = join sep other) : parts = other := by
  rw [← List.splitOn_intercalate sep h hne, ← List.splitOn_intercalate sep h' hne']
  exact congrArg (List.splitOn sep) he

theorem dropWhile_eq_self {p : Char → Bool} {cs : List Char}
    (h : ∀ c, cs.head? = some c → p c = false) : cs.dropWhile p = cs := by
  cases cs with
  | nil => rfl
  | cons c cs => exact List.dropWhile_cons_of_neg (by simp [h c rfl])

/-- A span ends where a text ends that `p` accepts throughout and `p` refuses what follows. -/
theorem span_append {p : Char → Bool} {cs tail : List Char} (h : ∀ c ∈ cs, p c = true)
    (htail : ∀ c, tail.head? = some c → p c = false) : (cs ++ tail).span p = (cs, tail) := by
  have hstop : tail.takeWhile p = [] := by
    cases tail with
    | nil => rfl
    | cons c tail => exact List.takeWhile_cons_of_neg (by simp [htail c rfl])
  rw [List.span_eq_takeWhile_dropWhile, List.takeWhile_append_of_pos h,
    List.dropWhile_append_of_pos h, hstop, dropWhile_eq_self htail, List.append_nil]

/-! ## Text within joined texts -/

/-- Text that does not hold the separator stands on one side of it. -/
theorem infix_append_cons {cs before after : List Char} (hsep : sep ∉ cs)
    (h : cs <:+: before ++ sep :: after) : cs <:+: before ∨ cs <:+: after := by
  have hempty : ∀ {ds : List Char}, ds <+: sep :: after → sep ∉ ds → ds = [] := by
    intro ds hds hnot
    rcases List.prefix_cons_iff.mp hds with hnil | ⟨rest, rfl, -⟩
    · exact hnil
    · exact absurd List.mem_cons_self hnot
  rcases List.infix_append_iff.mp h with hbefore | hafter | ⟨start, rest, rfl, hstart, hrest⟩
  · exact Or.inl hbefore
  · rcases List.infix_cons_iff.mp hafter with hstart | hafter
    · rw [hempty hstart hsep]
      exact Or.inl List.nil_infix
    · exact Or.inr hafter
  · rw [hempty hrest fun hm => hsep (List.mem_append_right start hm), List.append_nil]
    exact Or.inl hstart.isInfix

/-- Text that does not hold the separator stands in one of the joined texts. -/
theorem exists_infix_of_infix_join {cs : List Char} (hsep : sep ∉ cs) (hne : cs ≠ [])
    (h : cs <:+: join sep parts) : ∃ part ∈ parts, cs <:+: part := by
  induction parts with
  | nil => exact absurd (List.infix_nil.mp h) hne
  | cons part rest ih =>
    cases rest with
    | nil => exact ⟨part, List.mem_cons_self, by rwa [join_singleton] at h⟩
    | cons next rest =>
      rw [join_cons_cons] at h
      rcases infix_append_cons hsep h with hpart | hrest
      · exact ⟨part, List.mem_cons_self, hpart⟩
      · obtain ⟨found, hfound, hin⟩ := ih hrest
        exact ⟨found, List.mem_cons_of_mem _ hfound, hin⟩

/-- Two marks that begin with a character they do not hold again stand at one place, or the second
one's text holds the first. -/
theorem eq_nil_of_mark_append {mark cs after after' : List Char} (hmark : sep ∉ mark)
    (hcs : ¬sep :: mark <:+: cs) (h : sep :: mark ++ after = cs ++ (sep :: mark ++ after')) :
    cs = [] := by
  rcases List.cons_eq_append_iff.mp h with ⟨hnil, -⟩ | ⟨rest, rfl, hrest⟩
  · exact hnil
  · rcases List.append_eq_append_iff.mp hrest with ⟨more, rfl, -⟩ | ⟨more, rfl, hmore⟩
    · exact absurd ⟨[], more, rfl⟩ hcs
    · rcases List.cons_eq_append_iff.mp hmore with ⟨rfl, -⟩ | ⟨more, rfl, -⟩
      · exact absurd ⟨[], [], by simp⟩ hcs
      · exact absurd (List.mem_append_right rest List.mem_cons_self) hmark

/-- A mark that is held by neither of the texts before it tells where these end. -/
theorem append_mark_inj {mark cs cs' after after' : List Char} (hmark : sep ∉ mark)
    (hcs : ¬sep :: mark <:+: cs) (hcs' : ¬sep :: mark <:+: cs')
    (h : cs ++ (sep :: mark ++ after) = cs' ++ (sep :: mark ++ after')) :
    cs = cs' ∧ after = after' := by
  have heq : cs = cs' := by
    rcases List.append_eq_append_iff.mp h with ⟨more, rfl, hmore⟩ | ⟨more, rfl, hmore⟩
    · rw [eq_nil_of_mark_append hmark (fun hin => hcs' (hin.trans (List.suffix_append _ _).isInfix))
        hmore, List.append_nil]
    · rw [eq_nil_of_mark_append hmark (fun hin => hcs (hin.trans (List.suffix_append _ _).isInfix))
        hmore, List.append_nil]
  subst heq
  exact ⟨rfl, List.append_cancel_left (List.append_cancel_left h)⟩

end FacetFilter.Text
