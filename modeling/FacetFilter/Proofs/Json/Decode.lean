import FacetFilter.Json.Decode
import FacetFilter.Proofs.Json.Scanner
import FacetFilter.Proofs.Text.Reading

/-! What decoders accept, told of nodes. Decoders ask for a kind of node and refuse every other one;
a record is an object that names each field once at most, or an array of their values. Of a node
that some text stands for nothing can be broken off, so whatever a record passes over does not
matter. -/

namespace FacetFilter.Json

open Grammar Text

variable {α β γ : Type}

/-! ## Nodes of the grammar -/

/-- Some text stands for the node. -/
def Node.IsWritten (v : Node) : Prop := ∃ t, Written (.value v) t

/-- Every value within a part is the node of some text, and every key has a text. -/
def Inside : Phrase → Prop
  | .value _ => True
  | .element v => v.IsWritten
  | .items vs => ∀ v ∈ vs, v.IsWritten
  | .member m => (∃ key, m.1 = some key) ∧ m.2.IsWritten
  | .members ms => ∀ m ∈ ms, (∃ key, m.1 = some key) ∧ m.2.IsWritten

theorem inside_of_written {p : Phrase} {t : List Char} (h : Written p t) : Inside p := by
  induction h with
  | null | false | true | number | string | emptyArray | array | emptyObject | object => trivial
  | element _ hv _ => exact ⟨_, hv⟩
  | lastItem _ ih => exact List.forall_mem_singleton.mpr ih
  | item _ _ ih ihs => exact List.forall_mem_cons.mpr ⟨ih, ihs⟩
  | member _ _ _ _ ih => exact ⟨⟨_, rfl⟩, ih⟩
  | lastMember _ ih => exact List.forall_mem_singleton.mpr ih
  | moreMembers _ _ ih ihs => exact List.forall_mem_cons.mpr ⟨ih, ihs⟩

namespace Node.IsWritten

theorem items {vs : List Node} {ending : Option Fault} (h : (Node.array vs ending).IsWritten) :
    ending = none ∧ ∀ v ∈ vs, v.IsWritten := by
  obtain ⟨t, h⟩ := h
  cases h with
  | emptyArray => exact ⟨rfl, by simp⟩
  | array hs => exact ⟨rfl, inside_of_written hs⟩

theorem members {ms : List (StringText × Node)} {ending : Option Fault}
    (h : (Node.object ms ending).IsWritten) :
    ending = none ∧ ∀ m ∈ ms, (∃ key, m.1 = some key) ∧ m.2.IsWritten := by
  obtain ⟨t, h⟩ := h
  cases h with
  | emptyObject => exact ⟨rfl, by simp⟩
  | object hs => exact ⟨rfl, inside_of_written hs⟩

/-- Nothing ends before its end. -/
theorem fault? {v : Node} (h : v.IsWritten) : v.fault? = none := by
  obtain ⟨t, h⟩ := h
  cases h <;> rfl

end Node.IsWritten

/-! ## Steps of a decoder -/

/-- A node of the wrong kind is never accepted. -/
theorem unexpected_ne_ok (expected : String) (node : Node) (a : α) :
    unexpected expected node ≠ .ok a := by
  intro h
  obtain ⟨what, -, h⟩ := bind_eq_ok_iff.mp h
  cases h

theorem atEnd_eq_ok_iff {ending : Option Fault} {u : Unit} :
    atEnd ending = .ok u ↔ ending = none := by
  cases ending <;> simp [atEnd]

theorem keyText_eq_ok_iff {text : StringText} {key : String} :
    keyText text = .ok key ↔ text = some key := by
  cases text <;> simp [keyText]

/-! ## Strings and numbers -/

theorem string_eq_ok_iff {node : Node} {s : String} :
    string node = .ok s ↔ node = .string (some s) := by
  unfold string
  split
  · simp
  · next hno =>
    refine ⟨fun h => absurd h (unexpected_ne_ok _ _ _), fun h => absurd h (hno s)⟩

/-- The number that digits alone stand for, without sign, fraction and exponent. -/
structure Numeral.Natural (n : Numeral) (v : Nat) : Prop where
  sign : n.negative = false
  fraction : n.fraction = []
  exponent : n.exponent = none
  digits : Nat.ofDigitChars 10 n.whole 0 = v

/-- The node is a number written with digits alone. -/
def Node.IsNatural (node : Node) (v : Nat) : Prop := ∃ n, node = .number n ∧ n.Natural v

theorem le_ofDigitChars (ds : List Char) (k : Nat) : k ≤ Nat.ofDigitChars 10 ds k := by
  induction ds generalizing k with
  | nil => exact Nat.le_refl _
  | cons d ds ih =>
    rw [Nat.ofDigitChars_cons]
    exact Nat.le_trans (by omega) (ih _)

/-- All digits are kept exactly when the number stays within 64 bits. -/
theorem significand_eq_nil_iff {ds : List Char} {k v : Nat} (hk : k < UInt64.size) :
    Numeral.significand k ds = (v, []) ↔ Nat.ofDigitChars 10 ds k = v ∧ v < UInt64.size := by
  induction ds generalizing k with
  | nil =>
    rw [Numeral.significand, Nat.ofDigitChars_nil, Prod.mk.injEq, and_iff_left rfl]
    exact ⟨fun h => ⟨h, h ▸ hk⟩, And.left⟩
  | cons d ds ih =>
    have hdigit : Nat.ofDigitChars 10 (d :: ds) k =
        Nat.ofDigitChars 10 ds (k * 10 + Numeral.digitValue d) := by
      rw [Nat.ofDigitChars_cons, Nat.mul_comm]
      rfl
    rw [Numeral.significand, hdigit]
    by_cases hnext : k * 10 + Numeral.digitValue d < UInt64.size
    · rw [if_pos hnext]
      exact ih hnext
    · rw [if_neg hnext]
      refine ⟨fun h => (by simp at h), fun ⟨hv, hlt⟩ => absurd ?_ hnext⟩
      exact Nat.lt_of_le_of_lt (le_ofDigitChars ds _) (hv ▸ hlt)

/-- The unsigned integers are the numbers written with digits alone, within 64 bits. -/
theorem value?_eq_unsigned_iff {n : Numeral} {v : Nat} :
    n.value? = some (.unsigned v) ↔ n.Natural v ∧ v < UInt64.size := by
  have hfloat : ∀ x : Option Decimal.Magnitude,
      (x.map fun m => Number.float ⟨n.negative, m⟩) ≠ some (.unsigned v) := by
    rintro (_ | m) <;> simp
  unfold Numeral.value?
  dsimp only
  by_cases hw : n.isWhole
  · rw [if_pos hw]
    obtain ⟨hfraction, hexponent⟩ : n.fraction = [] ∧ n.exponent = none := by
      simpa [Numeral.isWhole] using hw
    split
    · next w hkept =>
      obtain ⟨hdigits, hlt⟩ := (significand_eq_nil_iff (by decide)).mp hkept
      cases hsign : n.negative with
      | false =>
        simp only [Bool.not_false, if_true, Option.some.injEq, Number.unsigned.injEq]
        constructor
        · rintro rfl
          exact ⟨⟨hsign, hfraction, hexponent, hdigits⟩, hlt⟩
        · exact fun ⟨hn, _⟩ => hdigits.symm.trans hn.digits
      | true =>
        refine ⟨fun h => ?_, fun ⟨hn, _⟩ => absurd hn.sign (by simp [hsign])⟩
        simp only [Bool.not_true, Bool.false_eq_true, if_false] at h
        split at h <;> simp at h
    · next hkept =>
      refine ⟨fun h => absurd h (hfloat _), fun ⟨hn, hlt⟩ => ?_⟩
      exact absurd ((significand_eq_nil_iff (by decide)).mpr ⟨hn.digits, hlt⟩) (hkept v)
  · rw [if_neg hw]
    refine ⟨fun h => absurd h (hfloat _), fun ⟨hn, _⟩ => absurd ?_ hw⟩
    simp [Numeral.isWhole, hn.fraction, hn.exponent]

theorem natural_eq_ok_iff {expected : String} {bound : Nat} (hbound : bound ≤ UInt64.size)
    {node : Node} {v : Nat} :
    natural expected bound node = .ok v ↔ node.IsNatural v ∧ v < bound := by
  have hnever : ∀ other : Node, unexpected expected other ≠ .ok v := fun other =>
    unexpected_ne_ok expected other v
  have hnumber : ∀ n : Numeral, (Node.number n).IsNatural v ↔ n.Natural v := fun n =>
    ⟨fun ⟨m, hm, h⟩ => (by cases hm; exact h), fun h => ⟨n, rfl, h⟩⟩
  unfold natural
  split
  · next n =>
    rw [hnumber]
    split
    · next w hw =>
      obtain ⟨hn, -⟩ := value?_eq_unsigned_iff.mp hw
      split
      · next hlt =>
        rw [Except.ok.injEq]
        constructor
        · rintro rfl
          exact ⟨hn, hlt⟩
        · exact fun ⟨hv, _⟩ => hn.digits.symm.trans hv.digits
      · next hlt =>
        refine ⟨fun h => (by cases h), fun ⟨hv, hlt'⟩ => absurd ?_ hlt⟩
        rwa [← hn.digits, hv.digits]
    · next w hw =>
      refine ⟨fun h => (by cases h), fun ⟨hv, hlt⟩ => ?_⟩
      rw [value?_eq_unsigned_iff.mpr ⟨hv, Nat.lt_of_lt_of_le hlt hbound⟩] at hw
      cases hw
    · next hw _ =>
      refine ⟨fun h => absurd h (hnever _), fun ⟨hv, hlt⟩ => absurd ?_ (hw v)⟩
      exact value?_eq_unsigned_iff.mpr ⟨hv, Nat.lt_of_lt_of_le hlt hbound⟩
  · next hno =>
    refine ⟨fun h => absurd h (hnever _), fun ⟨⟨n, hn, _⟩, _⟩ => absurd hn (hno n)⟩

theorem uint64_eq_ok_iff {node : Node} {v : UInt64} :
    uint64 node = .ok v ↔ node.IsNatural v.toNat := by
  rw [uint64, map_eq_ok_iff]
  constructor
  · rintro ⟨n, hn, rfl⟩
    obtain ⟨hn, hlt⟩ := (natural_eq_ok_iff (Nat.le_refl _)).mp hn
    rwa [UInt64.toNat_ofNat_of_lt' hlt]
  · exact fun h => ⟨v.toNat, (natural_eq_ok_iff (Nat.le_refl _)).mpr ⟨h, v.toNat_lt⟩,
      UInt64.ofNat_toNat⟩

theorem uint32_eq_ok_iff {node : Node} {v : UInt32} :
    uint32 node = .ok v ↔ node.IsNatural v.toNat := by
  have hsize : UInt32.size ≤ UInt64.size := by decide
  rw [uint32, map_eq_ok_iff]
  constructor
  · rintro ⟨n, hn, rfl⟩
    obtain ⟨hn, hlt⟩ := (natural_eq_ok_iff hsize).mp hn
    rwa [UInt32.toNat_ofNat_of_lt' hlt]
  · exact fun h => ⟨v.toNat, (natural_eq_ok_iff hsize).mpr ⟨h, v.toNat_lt⟩, UInt32.ofNat_toNat⟩

/-! ## Lists and maps -/

theorem list_eq_ok_iff {item : Decoder α} {node : Node} {values : List α} :
    list item node = .ok values ↔
      ∃ vs, node = .array vs none ∧ List.Forall₂ (fun v a => item v = .ok a) vs values := by
  unfold list
  split
  · next vs ending =>
    simp only [bind_eq_ok_iff, mapM_eq_ok_iff, atEnd_eq_ok_iff]
    constructor
    · rintro ⟨values', hvs, -, rfl, h⟩
      cases h
      exact ⟨vs, rfl, hvs⟩
    · rintro ⟨vs', h, hvs⟩
      cases h
      exact ⟨values, hvs, (), rfl, rfl⟩
  · next hno =>
    exact ⟨fun h => absurd h (unexpected_ne_ok _ _ _), fun ⟨vs, h, _⟩ => absurd h (hno vs none)⟩

theorem map_decoder_eq_ok_iff {value : Decoder α} {node : Node} {pairs : List (String × α)} :
    map value node = .ok pairs ↔ ∃ ms, node = .object ms none ∧
      List.Forall₂ (fun m p => m.1 = some p.1 ∧ value m.2 = .ok p.2) ms pairs := by
  unfold map
  split
  · next ms ending =>
    have hmember : ∀ (m : StringText × Node) (p : String × α),
        (do let key ← keyText m.1; return (key, ← value m.2) : Except Problem (String × α)) =
          .ok p ↔ m.1 = some p.1 ∧ value m.2 = .ok p.2 := by
      intro m p
      simp only [bind_eq_ok_iff, keyText_eq_ok_iff]
      constructor
      · rintro ⟨key, hkey, a, ha, h⟩
        cases h
        exact ⟨hkey, ha⟩
      · exact fun ⟨hkey, ha⟩ => ⟨p.1, hkey, p.2, ha, rfl⟩
    constructor
    · intro h
      obtain ⟨pairs', hms, h⟩ := bind_eq_ok_iff.mp h
      obtain ⟨_, hending, h⟩ := bind_eq_ok_iff.mp h
      cases h
      cases atEnd_eq_ok_iff.mp hending
      exact ⟨ms, rfl, (mapM_eq_ok_iff.mp hms).imp fun m p => (hmember m p).mp⟩
    · rintro ⟨ms', h, hms⟩
      cases h
      have hpairs := mapM_eq_ok_iff.mpr (hms.imp fun m p => (hmember m p).mpr)
      exact bind_eq_ok_iff.mpr ⟨pairs, hpairs, rfl⟩
  · next hno =>
    exact ⟨fun h => absurd h (unexpected_ne_ok _ _ _), fun ⟨ms, h, _⟩ => absurd h (hno ms none)⟩

/-! ## Records -/

/-- The values of the members of one name, in their order. -/
def named (name : String) (members : List (StringText × Node)) : List Node :=
  (members.filter fun m => m.1 = some name).map (·.2)

theorem named_cons_self (name : String) (v : Node) (ms : List (StringText × Node)) :
    named name ((some name, v) :: ms) = v :: named name ms := by
  simp [named]

theorem named_cons_of_ne {name other : String} (h : other ≠ name) (v : Node)
    (ms : List (StringText × Node)) : named name ((some other, v) :: ms) = named name ms := by
  simp [named, h]

/-- The values that a record gives for its three fields, each of which it may leave out: an object
names none of them twice, an array has them in their order. -/
inductive Fields (a b c : String) : Node → Option Node → Option Node → Option Node → Prop where
  | object {ms : List (StringText × Node)} {x y z : Option Node} : named a ms = x.toList →
      named b ms = y.toList → named c ms = z.toList → Fields a b c (.object ms none) x y z
  | array {vs : List Node} : vs.length ≤ 3 → Fields a b c (.array vs none) vs[0]? vs[1]? vs[2]?

/-- What a written record gives is written itself. -/
theorem Fields.isWritten {a b c : String} {node : Node} {x? y? z? : Option Node}
    (h : Fields a b c node x? y? z?) (hnode : node.IsWritten) :
    (∀ v ∈ x?, v.IsWritten) ∧ (∀ v ∈ y?, v.IsWritten) ∧ ∀ v ∈ z?, v.IsWritten := by
  cases h with
  | @object ms _ _ _ hx hy hz =>
    have hnamed : ∀ name, ∀ v? : Option Node, named name ms = v?.toList →
        ∀ v ∈ v?, v.IsWritten := by
      intro name v? hv? v hv
      have hmem : v ∈ named name ms := hv?.symm ▸ Option.mem_toList.mpr hv
      obtain ⟨m, hm, rfl⟩ := List.mem_map.mp hmem
      exact (hnode.members.2 m (List.mem_of_mem_filter hm)).2
    exact ⟨hnamed _ _ hx, hnamed _ _ hy, hnamed _ _ hz⟩
  | @array vs _ =>
    have hat : ∀ i : Nat, ∀ v ∈ vs[i]?, v.IsWritten := fun i v hv =>
      hnode.items.2 v (List.mem_of_getElem? hv)
    exact ⟨hat 0, hat 1, hat 2⟩

namespace RecordField

/-- What a field comes to when its value is `v?`, or missing. -/
def Gives (f : RecordField α) (v? : Option Node) (x : α) : Prop :=
  match v? with
  | some v => f.decoder v = .ok x
  | none => f.default? = some x

/-- What one member makes of what has been read of a field. -/
def Takes (f : RecordField α) (read : Option α) (name : String) (v : Node) (next : Option α) :
    Prop :=
  if name = f.name then read = none ∧ ∃ x, f.decoder v = .ok x ∧ next = some x else next = read

/-- What members make of what has been read of a field: nothing, unless one of them has its name. -/
def TakesAll (f : RecordField α) (read : Option α) (ms : List (StringText × Node))
    (last : Option α) : Prop :=
  (named f.name ms = [] ∧ last = read) ∨
    ∃ v x, named f.name ms = [v] ∧ read = none ∧ f.decoder v = .ok x ∧ last = some x

variable {f : RecordField α} {read last : Option α} {name : String} {v : Node}
  {ms : List (StringText × Node)}

theorem readOnce_eq_ok_iff :
    f.readOnce read v = .ok last ↔ read = none ∧ ∃ x, f.decoder v = .ok x ∧ last = some x := by
  cases read with
  | none =>
    rw [readOnce, map_eq_ok_iff, and_iff_right rfl]
    exact exists_congr fun x => and_congr_right fun _ => eq_comm
  | some x => simp [readOnce]

theorem takesAll_cons : f.TakesAll read ((some name, v) :: ms) last ↔
    ∃ next, f.Takes read name v next ∧ f.TakesAll next ms last := by
  by_cases h : name = f.name
  · subst h
    simp only [TakesAll, Takes, if_true, named_cons_self]
    constructor
    · rintro (⟨h, -⟩ | ⟨w, x, h, rfl, hx, rfl⟩)
      · cases h
      · obtain ⟨rfl, hms⟩ := List.cons_eq_cons.mp h
        exact ⟨some x, ⟨rfl, x, hx, rfl⟩, Or.inl ⟨hms, rfl⟩⟩
    · rintro ⟨next, ⟨rfl, x, hx, rfl⟩, ⟨hms, rfl⟩ | ⟨w, y, hms, h, -⟩⟩
      · exact Or.inr ⟨v, x, by rw [hms], rfl, hx, rfl⟩
      · cases h
  · simp only [TakesAll, Takes, if_neg h, named_cons_of_ne h, exists_eq_left]

/-- A field gets its value from the only member of its name, or else its default. -/
theorem gives_iff {x : α} : (∃ last, f.TakesAll none ms last ∧ f.orMissing last = .ok x) ↔
    ∃ v? : Option Node, named f.name ms = v?.toList ∧ f.Gives v? x := by
  constructor
  · rintro ⟨last, ⟨hms, rfl⟩ | ⟨v, y, hms, -, hy, rfl⟩, h⟩
    · refine ⟨none, hms, ?_⟩
      cases hd : f.default? <;> simp_all [orMissing, Gives]
    · obtain rfl : y = x := by simpa [orMissing] using h
      exact ⟨some v, hms, hy⟩
  · rintro ⟨_ | v, hms, h⟩
    · have hdefault : f.default? = some x := h
      exact ⟨none, Or.inl ⟨hms, rfl⟩, by rw [orMissing, Option.none_or, hdefault]⟩
    · exact ⟨some x, Or.inr ⟨v, x, hms, rfl, h, rfl⟩, rfl⟩

theorem readAt_eq_ok_iff {place : Nat} {record : String} {vs rest : List Node} {x : α} :
    f.readAt place record vs none = .ok (x, rest) ↔ f.Gives vs[0]? x ∧ rest = vs.tail := by
  cases vs with
  | nil =>
    cases hd : f.default? with
    | none =>
      simp [readAt, atEnd, Gives, hd, bind, Except.bind, throw, throwThe, MonadExceptOf.throw]
    | some y => simp [readAt, atEnd, Gives, hd, bind, Except.bind, pure, Except.pure, eq_comm]
  | cons v vs =>
    rw [readAt, map_eq_ok_iff]
    simp [Gives, eq_comm]

end RecordField

variable {a : RecordField α} {b : RecordField β} {c : RecordField γ}

/-- A member that is passed over is whole, so it does nothing. -/
theorem passOver_of_isWritten {v : Node} (h : v.IsWritten) : passOver v = .ok () := by
  rw [passOver, h.fault?]

/-- A member counts for the field of its name. -/
theorem gather_eq_ok_iff (hab : a.name ≠ b.name) (hac : a.name ≠ c.name) (hbc : b.name ≠ c.name)
    {name : String} {v : Node} (hv : v.IsWritten) {x x' : Option α} {y y' : Option β}
    {z z' : Option γ} : gather a b c (x, y, z) (some name, v) = .ok (x', y', z') ↔
      a.Takes x name v x' ∧ b.Takes y name v y' ∧ c.Takes z name v z' := by
  have hkey : ∀ g : String → Except Problem (Gathered α β γ),
      (keyText (some name) >>= g) = g name := fun _ => rfl
  rw [gather, hkey]
  by_cases ha : name = a.name
  · subst ha
    simp only [bind_eq_ok_iff, RecordField.readOnce_eq_ok_iff, RecordField.Takes, if_true,
      if_neg hab, if_neg hac]
    constructor
    · rintro ⟨next, hnext, h⟩
      cases h
      exact ⟨hnext, rfl, rfl⟩
    · rintro ⟨hnext, rfl, rfl⟩
      exact ⟨_, hnext, rfl⟩
  · by_cases hb : name = b.name
    · subst hb
      simp only [bind_eq_ok_iff, RecordField.readOnce_eq_ok_iff, RecordField.Takes, if_true,
        if_neg hab.symm, if_neg hbc]
      constructor
      · rintro ⟨next, hnext, h⟩
        cases h
        exact ⟨rfl, hnext, rfl⟩
      · rintro ⟨rfl, hnext, rfl⟩
        exact ⟨_, hnext, rfl⟩
    · by_cases hc : name = c.name
      · subst hc
        simp only [bind_eq_ok_iff, RecordField.readOnce_eq_ok_iff, RecordField.Takes, if_true,
          if_neg hac.symm, if_neg hbc.symm]
        constructor
        · rintro ⟨next, hnext, h⟩
          cases h
          exact ⟨rfl, rfl, hnext⟩
        · rintro ⟨rfl, rfl, hnext⟩
          exact ⟨_, hnext, rfl⟩
      · simp only [bind_eq_ok_iff, passOver_of_isWritten hv, RecordField.Takes, if_neg ha,
          if_neg hb, if_neg hc]
        constructor
        · rintro ⟨_, -, h⟩
          cases h
          exact ⟨rfl, rfl, rfl⟩
        · rintro ⟨rfl, rfl, rfl⟩
          exact ⟨(), trivial, rfl⟩

/-- Members count each for the field of its name, one after another. -/
theorem foldlM_gather_eq_ok_iff (hab : a.name ≠ b.name) (hac : a.name ≠ c.name)
    (hbc : b.name ≠ c.name) {ms : List (StringText × Node)}
    (hms : ∀ m ∈ ms, (∃ key, m.1 = some key) ∧ m.2.IsWritten) {x x' : Option α} {y y' : Option β}
    {z z' : Option γ} : ms.foldlM (gather a b c) (x, y, z) = .ok (x', y', z') ↔
      a.TakesAll x ms x' ∧ b.TakesAll y ms y' ∧ c.TakesAll z ms z' := by
  induction ms generalizing x y z with
  | nil =>
    simp only [List.foldlM_nil, RecordField.TakesAll, named]
    constructor
    · intro h
      cases h
      simp
    · simp
      rintro rfl rfl rfl
      rfl
  | cons m ms ih =>
    obtain ⟨⟨⟨name, hname⟩, hm⟩, hrest⟩ := List.forall_mem_cons.mp hms
    obtain ⟨_, v⟩ := m
    cases hname
    simp only [List.foldlM_cons, bind_eq_ok_iff, Prod.exists, gather_eq_ok_iff hab hac hbc hm,
      ih hrest, RecordField.takesAll_cons]
    constructor
    · rintro ⟨x₁, y₁, z₁, ⟨hx, hy, hz⟩, hxs, hys, hzs⟩
      exact ⟨⟨x₁, hx, hxs⟩, ⟨y₁, hy, hys⟩, ⟨z₁, hz, hzs⟩⟩
    · rintro ⟨⟨x₁, hx, hxs⟩, ⟨y₁, hy, hys⟩, ⟨z₁, hz, hzs⟩⟩
      exact ⟨x₁, y₁, z₁, ⟨hx, hy, hz⟩, hxs, hys, hzs⟩

theorem record_object_eq_ok_iff (expected : String) (hab : a.name ≠ b.name)
    (hac : a.name ≠ c.name) (hbc : b.name ≠ c.name) {ms : List (StringText × Node)}
    (hms : ∀ m ∈ ms, (∃ key, m.1 = some key) ∧ m.2.IsWritten) {x : α} {y : β} {z : γ} :
    record expected a b c (.object ms none) = .ok (x, y, z) ↔ ∃ x? y? z?,
      Fields a.name b.name c.name (.object ms none) x? y? z? ∧
        a.Gives x? x ∧ b.Gives y? y ∧ c.Gives z? z := by
  constructor
  · intro h
    obtain ⟨⟨last, last', last''⟩, hgathered, h⟩ := bind_eq_ok_iff.mp h
    obtain ⟨ha, hb, hc⟩ := (foldlM_gather_eq_ok_iff hab hac hbc hms).mp hgathered
    obtain ⟨_, -, h⟩ := bind_eq_ok_iff.mp h
    obtain ⟨x', hx, h⟩ := bind_eq_ok_iff.mp h
    obtain ⟨y', hy, h⟩ := bind_eq_ok_iff.mp h
    obtain ⟨z', hz, h⟩ := bind_eq_ok_iff.mp h
    cases h
    obtain ⟨x?, hxs, hx⟩ := RecordField.gives_iff.mp ⟨last, ha, hx⟩
    obtain ⟨y?, hys, hy⟩ := RecordField.gives_iff.mp ⟨last', hb, hy⟩
    obtain ⟨z?, hzs, hz⟩ := RecordField.gives_iff.mp ⟨last'', hc, hz⟩
    exact ⟨x?, y?, z?, .object hxs hys hzs, hx, hy, hz⟩
  · rintro ⟨x?, y?, z?, hfields, hx, hy, hz⟩
    obtain ⟨hxs, hys, hzs⟩ : named a.name ms = x?.toList ∧ named b.name ms = y?.toList ∧
        named c.name ms = z?.toList := by
      cases hfields with
      | object hxs hys hzs => exact ⟨hxs, hys, hzs⟩
    obtain ⟨last, ha, hx⟩ := RecordField.gives_iff.mpr ⟨x?, hxs, hx⟩
    obtain ⟨last', hb, hy⟩ := RecordField.gives_iff.mpr ⟨y?, hys, hy⟩
    obtain ⟨last'', hc, hz⟩ := RecordField.gives_iff.mpr ⟨z?, hzs, hz⟩
    have hgathered := (foldlM_gather_eq_ok_iff hab hac hbc hms).mpr ⟨ha, hb, hc⟩
    refine bind_eq_ok_iff.mpr ⟨(last, last', last''), hgathered, ?_⟩
    exact bind_eq_ok_iff.mpr ⟨(), rfl, bind_eq_ok_iff.mpr ⟨x, hx, bind_eq_ok_iff.mpr
      ⟨y, hy, bind_eq_ok_iff.mpr ⟨z, hz, rfl⟩⟩⟩⟩

theorem record_array_eq_ok_iff (expected : String) {vs : List Node} {x : α} {y : β} {z : γ} :
    record expected a b c (.array vs none) = .ok (x, y, z) ↔
      vs.length ≤ 3 ∧ a.Gives vs[0]? x ∧ b.Gives vs[1]? y ∧ c.Gives vs[2]? z := by
  have hlast : vs.tail.tail.tail = [] ↔ vs.length ≤ 3 := by
    rw [← List.length_eq_zero_iff]
    simp only [List.length_tail]
    omega
  have hat : vs.tail[0]? = vs[1]? ∧ vs.tail.tail[0]? = vs[2]? := by
    simp [List.getElem?_tail]
  rw [← hat.1, ← hat.2]
  constructor
  · intro h
    obtain ⟨⟨x', rest⟩, hread, h⟩ := bind_eq_ok_iff.mp h
    obtain ⟨hx, rfl⟩ := RecordField.readAt_eq_ok_iff.mp hread
    obtain ⟨⟨y', rest⟩, hread, h⟩ := bind_eq_ok_iff.mp h
    obtain ⟨hy, rfl⟩ := RecordField.readAt_eq_ok_iff.mp hread
    obtain ⟨⟨z', rest⟩, hread, h⟩ := bind_eq_ok_iff.mp h
    obtain ⟨hz, rfl⟩ := RecordField.readAt_eq_ok_iff.mp hread
    dsimp only at h
    split at h
    · cases h
    · next hend =>
      cases h
      exact ⟨hlast.mp (by simpa using hend), hx, hy, hz⟩
  · rintro ⟨hlength, hx, hy, hz⟩
    refine bind_eq_ok_iff.mpr ⟨_, RecordField.readAt_eq_ok_iff.mpr ⟨hx, rfl⟩, ?_⟩
    refine bind_eq_ok_iff.mpr ⟨_, RecordField.readAt_eq_ok_iff.mpr ⟨hy, rfl⟩, ?_⟩
    refine bind_eq_ok_iff.mpr ⟨_, RecordField.readAt_eq_ok_iff.mpr ⟨hz, rfl⟩, ?_⟩
    simp [hlast.mpr hlength, atEnd, bind, Except.bind, pure, Except.pure]

/-- A record is read from what its node gives for each of the three fields. -/
theorem record_eq_ok_iff (expected : String) (hab : a.name ≠ b.name) (hac : a.name ≠ c.name)
    (hbc : b.name ≠ c.name) {node : Node} (hnode : node.IsWritten) {x : α} {y : β} {z : γ} :
    record expected a b c node = .ok (x, y, z) ↔ ∃ x? y? z?,
      Fields a.name b.name c.name node x? y? z? ∧ a.Gives x? x ∧ b.Gives y? y ∧ c.Gives z? z := by
  have hother : ∀ other : Node, unexpected expected other ≠ .ok (x, y, z) := fun other =>
    unexpected_ne_ok expected other _
  cases node with
  | object ms ending =>
    obtain ⟨rfl, hms⟩ := hnode.members
    exact record_object_eq_ok_iff expected hab hac hbc hms
  | array vs ending =>
    obtain ⟨rfl, -⟩ := hnode.items
    rw [record_array_eq_ok_iff]
    constructor
    · exact fun ⟨hlength, hx, hy, hz⟩ => ⟨_, _, _, .array hlength, hx, hy, hz⟩
    · rintro ⟨x?, y?, z?, hfields, hx, hy, hz⟩
      cases hfields with
      | array hlength => exact ⟨hlength, hx, hy, hz⟩
  | null | boolean | number | string | broken =>
    exact ⟨fun h => absurd h (hother _), fun ⟨_, _, _, hfields, _⟩ => nomatch hfields⟩

/-! ## Texts -/

theorem isWritten_of_denotes {text : String} {root : Node} (h : Denotes text root) :
    root.IsWritten := inside_of_written h

/-- Of a text that stands for a value, the value is what counts. -/
theorem decode_of_denotes {d : Decoder α} {text : String} {root : Node} (h : Denotes text root) :
    decode d text = d root := by
  rw [decode, ofText_of_denotes h]
  cases hd : d root <;> simp [atEnd, bind, Except.bind, pure, Except.pure]

end FacetFilter.Json
