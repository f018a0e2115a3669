import FacetFilter.Proofs.Text.Pieces
import FacetFilter.Proofs.Text.Reading
import FacetFilter.Url.Ipv6
import Mathlib.Algebra.Group.Nat.Defs

/-! IPv6 addresses read back from their text. Each piece is written in its fewest hexadecimal
digits, so no group is empty; the only double colon is the one that stands for the longest run
of zeros, and what stands before and after it has room for that run. -/

namespace FacetFilter.Url.Ipv6

open Text (hexValue? hexNumber? pieces join)

/-- Eight pieces of sixteen bits. -/
structure Address (ps : List Nat) : Prop where
  length_eq : ps.length = 8
  lt : ∀ p ∈ ps, p < 65536

/-! ## One piece -/

theorem hexValue?_digitChar {d : Nat} (h : d < 16) : hexValue? d.digitChar = some d := by
  have all : ∀ d ∈ List.range 16, hexValue? (Nat.digitChar d) = some d := by decide
  exact all d (List.mem_range.mpr h)

theorem hexValue?_lt {c : Char} {v : Nat} (h : hexValue? c = some v) : v < 16 := by
  unfold hexValue? at h
  dsimp only at h
  split at h
  · next hd =>
    have hrange : 48 ≤ c.toNat ∧ c.toNat ≤ 57 := by
      simpa [Char.isDigit, UInt32.le_iff_toNat_le] using hd
    rw [Option.some.injEq] at h
    omega
  · split at h
    · rw [Option.some.injEq] at h
      omega
    · cases h

theorem hexNumber?_append (ds : List Char) (c : Char) :
    hexNumber? (ds ++ [c]) = (hexNumber? ds).bind fun n => (hexValue? c).map (16 * n + ·) := by
  simp [hexNumber?, List.foldlM_append, bind]

theorem hexNumber?_toDigits (n : Nat) : hexNumber? (Nat.toDigits 16 n) = some n := by
  induction n using Nat.strongRecOn with
  | _ n ih =>
    by_cases h : n < 16
    · rw [Nat.toDigits_of_lt_base h]
      simp [hexNumber?, hexValue?_digitChar h]
    · rw [Nat.toDigits_of_base_le (by decide) (by omega), hexNumber?_append, ih _ (by omega),
        Option.bind_some, hexValue?_digitChar (Nat.mod_lt _ (by decide)), Option.map_some]
      congr 1
      omega

theorem foldlM_hexValue?_lt {ds : List Char} {a n : Nat}
    (h : ds.foldlM (fun n c => (hexValue? c).map (16 * n + ·)) a = some n) :
    n < 16 ^ ds.length * (a + 1) := by
  induction ds generalizing a with
  | nil =>
    rw [List.foldlM_nil] at h
    cases h
    simp
  | cons c ds ih =>
    rw [List.foldlM_cons] at h
    obtain ⟨m, hm, h⟩ := Option.bind_eq_some_iff.mp h
    obtain ⟨v, hv, rfl⟩ := Option.map_eq_some_iff.mp hm
    have hlt : 16 * a + v + 1 ≤ 16 * (a + 1) := by
      have := hexValue?_lt hv
      omega
    calc n < 16 ^ ds.length * (16 * a + v + 1) := ih h
      _ ≤ 16 ^ ds.length * (16 * (a + 1)) := Nat.mul_le_mul_left _ hlt
      _ = 16 ^ (c :: ds).length * (a + 1) := by rw [List.length_cons, Nat.pow_succ, Nat.mul_assoc]

theorem piece?_lt {cs : List Char} {p : Nat} (h : piece? cs = some p) : p < 65536 := by
  unfold piece? at h
  split at h
  · next hlen =>
    have hp := foldlM_hexValue?_lt h
    have hpow : 16 ^ cs.length ≤ 16 ^ 4 := Nat.pow_le_pow_right (by decide) hlen.2
    omega
  · cases h

/-- A piece is read back from its digits. -/
theorem piece?_toDigits {p : Nat} (h : p < 65536) : piece? (Nat.toDigits 16 p) = some p := by
  have hlen : (Nat.toDigits 16 p).length ≤ 4 :=
    (Nat.length_toDigits_le_iff (by decide) (by decide)).mpr h
  rw [piece?, if_pos ⟨Nat.length_toDigits_pos, hlen⟩, hexNumber?_toDigits]

theorem isAlphanum_of_mem_toDigits {p : Nat} {c : Char} (h : c ∈ Nat.toDigits 16 p) :
    c.isAlphanum = true := by
  have all : ∀ d ∈ List.range 16, (Nat.digitChar d).isAlphanum = true := by decide
  induction p using Nat.strongRecOn with
  | _ p ih =>
    by_cases hp : p < 16
    · rw [Nat.toDigits_of_lt_base hp, List.mem_singleton] at h
      exact h ▸ all p (List.mem_range.mpr hp)
    · rw [Nat.toDigits_of_base_le (by decide) (by omega), List.mem_append, List.mem_singleton] at h
      rcases h with h | rfl
      · exact ih _ (by omega) h
      · exact all _ (List.mem_range.mpr (Nat.mod_lt _ (by decide)))

theorem colon_notMem_toDigits (p : Nat) : ':' ∉ Nat.toDigits 16 p := fun h =>
  absurd (isAlphanum_of_mem_toDigits h) (by decide)

/-! ## Groups between colons -/

theorem dotted?_lt {cs : List Char} {ps : List Nat} (h : dotted? cs = some ps) :
    ∀ p ∈ ps, p < 65536 := by
  unfold dotted? at h
  split at h
  · next a b c d hoctets =>
    have hle : ∀ n ∈ [a, b, c, d], n ≤ 255 := by
      intro n hn
      obtain ⟨part, -, hpart⟩ := Text.exists_of_mem_mapM hoctets hn
      unfold octet? at hpart
      split at hpart
      · dsimp only at hpart
        split at hpart
        · cases hpart
          assumption
        · cases hpart
      · cases hpart
    simp only [List.forall_mem_cons, List.not_mem_nil, false_implies, implies_true, and_true]
      at hle
    cases h
    simp only [List.forall_mem_cons, List.not_mem_nil, false_implies, implies_true, and_true]
    omega
  · cases h

theorem groups?_lt {lastDotted : Bool} {cs : List Char} {ps : List Nat}
    (h : groups? lastDotted cs = some ps) : ∀ p ∈ ps, p < 65536 := by
  unfold groups? at h
  split at h
  · cases h
    simp
  · dsimp only at h
    split at h
    · next front last hfront _ =>
      have hfront : ∀ p ∈ front, p < 65536 := fun p hp => by
        obtain ⟨part, -, hpart⟩ := Text.exists_of_mem_mapM hfront hp
        exact piece?_lt hpart
      split at h
      · obtain ⟨back, hback, rfl⟩ := Option.map_eq_some_iff.mp h
        have hback : ∀ p ∈ back, p < 65536 := by
          unfold lastGroup? at hback
          split at hback
          · next p hp =>
            cases hback
            simpa using piece?_lt hp
          · exact dotted?_lt hback
        exact fun p hp => (List.mem_append.mp hp).elim (hfront p) (hback p)
      · obtain ⟨p, hp, rfl⟩ := Option.map_eq_some_iff.mp h
        intro q hq
        rcases List.mem_append.mp hq with hq | hq
        · exact hfront q hq
        · rw [List.mem_singleton.mp hq]
          exact piece?_lt hp
    · cases h

/-- What is read as an address is eight pieces of sixteen bits. -/
theorem address_of_pieces? {cs : List Char} {ps : List Nat} (h : pieces? cs = some ps) :
    Address ps := by
  unfold pieces? at h
  split at h
  · obtain ⟨hgroups, hlen⟩ := Option.filter_eq_some_iff.mp h
    exact ⟨by simpa using hlen, groups?_lt hgroups⟩
  · split at h
    · next front back hfront hback =>
      split at h
      · next hroom =>
        cases h
        refine ⟨by simp only [List.length_append, List.length_replicate]; omega, fun p hp => ?_⟩
        rcases List.mem_append.mp hp with hp | hp
        · rcases List.mem_append.mp hp with hp | hp
          · exact groups?_lt hfront p hp
          · rw [(List.mem_replicate.mp hp).2]
            decide
        · exact groups?_lt hback p hp
      · cases h
    · cases h

/-! ## Reading the text -/

theorem colon_notMem_digits (ps : List Nat) : ∀ part ∈ ps.map (Nat.toDigits 16), ':' ∉ part := by
  intro part hpart
  obtain ⟨p, -, rfl⟩ := List.mem_map.mp hpart
  exact colon_notMem_toDigits p

theorem colonJoined_ne_nil {ps : List Nat} (h : ps ≠ []) : colonJoined ps ≠ [] := by
  cases ps with
  | nil => exact absurd rfl h
  | cons p rest =>
    cases rest with
    | nil => simp [colonJoined]
    | cons q rest => simp [colonJoined, Text.join_cons_cons]

/-- Pieces between colons are read back, wherever a dotted group would be allowed. -/
theorem groups?_colonJoined {ps : List Nat} (h : ∀ p ∈ ps, p < 65536) (lastDotted : Bool) :
    groups? lastDotted (colonJoined ps) = some ps := by
  rcases List.eq_nil_or_concat ps with rfl | ⟨front, last, rfl⟩
  · rfl
  · have hne : (colonJoined (front ++ [last])).isEmpty = false := by
      simpa using colonJoined_ne_nil (by simp)
    have hparts : pieces ':' (colonJoined (front ++ [last])) =
        front.map (Nat.toDigits 16) ++ [Nat.toDigits 16 last] := by
      rw [colonJoined, pieces, join, List.splitOn_intercalate ':' (colon_notMem_digits _) (by simp),
        List.map_append]
      rfl
    have hfront : (front.map (Nat.toDigits 16)).mapM piece? = some front :=
      Text.mapM_map_eq_some fun p hp => piece?_toDigits (h p (by simp [hp]))
    have hlast := piece?_toDigits (h last (by simp))
    cases lastDotted <;>
      simp [groups?, hne, hparts, hfront, hlast, lastGroup?]

/-- A group without a colon at the front of a text is passed over in the search for the gap. -/
theorem gap?_append {group : List Char} (h : ':' ∉ group) (rest : List Char) :
    gap? (group ++ rest) = (gap? rest).map fun (before, after) => (group ++ before, after) := by
  induction group with
  | nil => simp
  | cons c group ih =>
    rw [List.mem_cons, not_or] at h
    rw [List.cons_append, gap?, ih h.2, Option.map_map]
    · rfl
    · exact fun _ he => absurd he.symm h.1

/-- A single colon is no gap. -/
theorem gap?_colon {c : Char} (h : c ≠ ':') (rest : List Char) :
    gap? (':' :: c :: rest) =
      (gap? (c :: rest)).map fun (before, after) => (':' :: before, after) := by
  rw [gap?]
  exact fun _ _ he => h (List.cons.inj he).1

theorem exists_cons_colonJoined_append (p : Nat) (rest : List Nat) (tail : List Char) :
    ∃ c more, colonJoined (p :: rest) ++ tail = c :: more ∧ c ≠ ':' := by
  cases hd : Nat.toDigits 16 p with
  | nil => exact absurd hd Nat.toDigits_ne_nil
  | cons c ds =>
    have hc : c ≠ ':' := fun e => colon_notMem_toDigits p (by simp [hd, e])
    cases rest with
    | nil => exact ⟨c, ds ++ tail, by simp [colonJoined, hd], hc⟩
    | cons q rest => exact ⟨c, _, by simp [colonJoined, Text.join_cons_cons, hd]; rfl, hc⟩

theorem gap?_colonJoined_append (ps : List Nat) (tail : List Char) :
    gap? (colonJoined ps ++ tail) =
      (gap? tail).map fun (before, after) => (colonJoined ps ++ before, after) := by
  induction ps with
  | nil => simp [colonJoined]
  | cons p rest ih =>
    cases rest with
    | nil => simpa [colonJoined] using gap?_append (colon_notMem_toDigits p) tail
    | cons q rest =>
      have hsplit : colonJoined (p :: q :: rest) =
          Nat.toDigits 16 p ++ ':' :: colonJoined (q :: rest) := by
        simp [colonJoined, Text.join_cons_cons]
      obtain ⟨c, more, hmore, hc⟩ := exists_cons_colonJoined_append q rest tail
      rw [hsplit, List.append_assoc, gap?_append (colon_notMem_toDigits p), List.cons_append,
        hmore, gap?_colon hc, ← hmore, ih, Option.map_map, Option.map_map]
      simp [Function.comp_def]

/-- The zeros that stand at a place. -/
def zerosAt (ps : List Nat) (i : Nat) : List Nat := (ps.drop i).takeWhile (· == 0)

/-- The longest run is a run of zeros of its length, at a place within the address. -/
theorem longestZeros_spec (ps : List Nat) :
    (longestZeros ps).2 = 0 ∨
      ((longestZeros ps).1 < ps.length ∧
        (longestZeros ps).2 = (zerosAt ps (longestZeros ps).1).length) := by
  unfold longestZeros
  refine List.foldlRecOn (List.range ps.length) _
    (motive := fun best : Nat × Nat => best.2 = 0 ∨
      (best.1 < ps.length ∧ best.2 = (zerosAt ps best.1).length))
    (Or.inl rfl) fun best hbest i hi => ?_
  dsimp only
  split
  · exact Or.inr ⟨List.mem_range.mp hi, rfl⟩
  · exact hbest

theorem zerosAt_eq_replicate (ps : List Nat) (i : Nat) :
    zerosAt ps i = List.replicate (zerosAt ps i).length 0 := by
  refine List.eq_replicate_iff.mpr ⟨rfl, fun p hp => ?_⟩
  have hall := List.all_takeWhile (p := fun p : Nat => p == 0) (l := ps.drop i)
  simpa using List.all_eq_true.mp hall p hp

/-- An address falls into what stands before a run of zeros, the run, and what follows it. -/
theorem take_zerosAt_drop (ps : List Nat) (i : Nat) :
    ps.take i ++ List.replicate (zerosAt ps i).length 0 ++ ps.drop (i + (zerosAt ps i).length) =
      ps := by
  have htake : (ps.drop i).take (zerosAt ps i).length = zerosAt ps i :=
    (List.prefix_iff_eq_take.mp (List.takeWhile_prefix _)).symm
  have hrun := List.take_append_drop (zerosAt ps i).length (ps.drop i)
  rw [htake] at hrun
  rw [← zerosAt_eq_replicate, List.append_assoc, ← List.drop_drop, hrun, List.take_append_drop]

/-- Addresses are read back from their text. -/
theorem pieces?_text {ps : List Nat} (h : Address ps) : pieces? (text ps) = some ps := by
  have hlen := h.length_eq
  unfold text
  dsimp only
  split
  · -- No piece is empty, so two colons never meet.
    have hgap : gap? (colonJoined ps) = none := by
      simpa [gap?] using gap?_colonJoined_append ps []
    rw [pieces?, hgap]
    simp [groups?_colonJoined h.lt, hlen]
  · next hrun =>
    rcases longestZeros_spec ps with hzero | ⟨hstart, hcount⟩
    · omega
    generalize (longestZeros ps).1 = start at *
    generalize (longestZeros ps).2 = count at *
    have hroom : count ≤ 8 - start := by
      have hle := (List.takeWhile_prefix (fun p : Nat => p == 0) (l := ps.drop start)).length_le
      rw [List.length_drop, hlen] at hle
      exact hcount ▸ hle
    -- For the same reason the first double colon is the one that stands for the run.
    have hgap := gap?_colonJoined_append (ps.take start)
      (':' :: ':' :: colonJoined (ps.drop (start + count)))
    have htake : ∀ p ∈ ps.take start, p < 65536 := fun p hp => h.lt p (List.mem_of_mem_take hp)
    have hdrop : ∀ p ∈ ps.drop (start + count), p < 65536 := fun p hp =>
      h.lt p (List.mem_of_mem_drop hp)
    have hfront : (ps.take start).length = start := by rw [List.length_take]; omega
    have hback : (ps.drop (start + count)).length = 8 - (start + count) := by
      rw [List.length_drop, hlen]
    have hzeros : 8 - start - (8 - (start + count)) = count := by omega
    rw [pieces?, hgap, gap?, Option.map_some]
    simp only [List.append_nil, groups?_colonJoined htake, groups?_colonJoined hdrop, hfront, hback,
      hzeros]
    rw [if_pos (by omega), hcount, take_zerosAt_drop]

theorem mem_colonJoined {ps : List Nat} {c : Char} (h : c ∈ colonJoined ps) :
    c = ':' ∨ c.isAlphanum = true := by
  rcases Text.mem_join h with rfl | ⟨part, hpart, hc⟩
  · exact Or.inl rfl
  · obtain ⟨p, -, rfl⟩ := List.mem_map.mp hpart
    exact Or.inr (isAlphanum_of_mem_toDigits hc)

/-- Nothing but digits and colons. -/
theorem mem_text {ps : List Nat} {c : Char} (h : c ∈ text ps) : c = ':' ∨ c.isAlphanum = true := by
  unfold text at h
  dsimp only at h
  split at h
  · exact mem_colonJoined h
  · rw [List.mem_append, List.mem_cons, List.mem_cons] at h
    rcases h with h | rfl | rfl | h
    · exact mem_colonJoined h
    · exact Or.inl rfl
    · exact Or.inl rfl
    · exact mem_colonJoined h

end FacetFilter.Url.Ipv6
