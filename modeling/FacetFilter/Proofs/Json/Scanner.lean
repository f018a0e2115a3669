import FacetFilter.Json.Scanner
import FacetFilter.Proofs.Json.Grammar

/-! The scanner reads every text of the grammar. Whatever is open around a value, it comes to rest
after the value with its node delivered to the innermost open frame, as if the value had been there
from the start. A number is complete only at the character after it, so that one must not be able to
carry it on. -/

namespace FacetFilter.Json

namespace ScanState

open Grammar

variable {e : Expectation} {open_ : List Frame} {root? : Option Node} {rest : List Char}

theorem run_cons {s next : ScanState} {c : Char} (h : (s.before c).step c rest = .ok next) :
    s.run (c :: rest) = next.run rest := by
  rw [run, h]

/-! ## Between tokens -/

theorem isSpace_of_mem {w : List Char} (h : Spaces w) {c : Char} (hc : c ∈ w) :
    isSpace c = true := by
  rcases h c hc with rfl | rfl | rfl | rfl <;> rfl

theorem run_between {c : Char} {next : ScanState}
    (h : betweenStep ⟨.between e, open_, root?⟩ e c = .ok next) :
    run ⟨.between e, open_, root?⟩ (c :: rest) = next.run rest :=
  run_cons h

theorem run_spaces {w : List Char} (h : Spaces w) :
    run ⟨.between e, open_, root?⟩ (w ++ rest) = run ⟨.between e, open_, root?⟩ rest := by
  induction w with
  | nil => rfl
  | cons c w ih =>
    have hstep : betweenStep ⟨.between e, open_, root?⟩ e c = .ok ⟨.between e, open_, root?⟩ := by
      simp [betweenStep, isSpace_of_mem h List.mem_cons_self]
    rw [List.cons_append, run_between hstep]
    exact ih fun d hd => h d (List.mem_cons_of_mem _ hd)

/-- A value begins with a character that is neither white space nor a closing bracket. -/
theorem run_value {c : Char} {next : ScanState} (he : e = .value ∨ e = .valueOrClose)
    (hspace : isSpace c = false) (hclose : c ≠ ']')
    (h : beginValue ⟨.between e, open_, root?⟩ c = .ok next) :
    run ⟨.between e, open_, root?⟩ (c :: rest) = next.run rest := by
  refine run_between ?_
  rcases he with rfl | rfl <;> simpa [betweenStep, hspace, hclose] using h

/-- After a value white space is passed over. -/
theorem run_deliver_spaces {w : List Char} (h : Spaces w) (v : Node) :
    (deliver open_ v).run (w ++ rest) = (deliver open_ v).run rest := by
  rcases open_ with _ | ⟨⟨items⟩ | ⟨members, key?⟩, outer⟩ <;> exact run_spaces h

/-! ## Words -/

theorem run_word {letters : List Char} (h : letters ≠ []) (v : Node) :
    run ⟨.word letters v, open_, root?⟩ (letters ++ rest) = (deliver open_ v).run rest := by
  induction letters with
  | nil => exact absurd rfl h
  | cons l more ih =>
    cases more with
    | nil => exact run_cons (by simp [before, step])
    | cons m more =>
      rw [List.cons_append, run_cons (s := ⟨.word (l :: m :: more) v, open_, root?⟩)
        (by simp [before, step]; rfl)]
      exact ih (by simp)

/-! ## Numbers -/

/-- The text after a number does not carry it on. -/
def Ends (rest : List Char) : Prop :=
  ∀ c ∈ rest.head?, c.isDigit = false ∧ c ≠ '.' ∧ c ≠ 'e' ∧ c ≠ 'E'

theorem ends_nil : Ends [] := by simp [Ends]

theorem ends_cons {c : Char} (h : c.isDigit = false ∧ c ≠ '.' ∧ c ≠ 'e' ∧ c ≠ 'E') :
    Ends (c :: rest) := by simpa [Ends] using h

theorem ends_spaces {w : List Char} (h : Spaces w) (hrest : Ends rest) : Ends (w ++ rest) := by
  cases w with
  | nil => exact hrest
  | cons c w =>
    refine ends_cons ?_
    rcases h c List.mem_cons_self with rfl | rfl | rfl | rfl <;> decide

/-- The parts of a number after which it may be complete. -/
def completeParts : List NumeralPart := [.zero, .whole, .fraction, .exponent]

variable {part : NumeralPart} {n : Numeral}

/-- A number is delivered when what follows does not carry it on. -/
theorem run_number_ends (hpart : part ∈ completeParts) (hrest : Ends rest) :
    run ⟨.number part n, open_, none⟩ rest = (deliver open_ (.number n)).run rest := by
  simp only [completeParts, List.mem_cons, List.not_mem_nil, or_false] at hpart
  cases rest with
  | nil =>
    rw [run, finish]
    dsimp only
    rw [if_pos hpart]
    rcases open_ with _ | ⟨⟨items⟩ | ⟨members, key?⟩, outer⟩ <;> rfl
  | cons c rest =>
    obtain ⟨hdigit, hpoint, he, hE⟩ := hrest c rfl
    have hnone : numeralStep part n c = .ok none := by
      rcases hpart with rfl | rfl | rfl | rfl <;> simp [numeralStep, hdigit, hpoint, he, hE]
    have hbefore : before ⟨.number part n, open_, none⟩ c =
        before (deliver open_ (.number n)) c := by
      rw [before]
      dsimp only
      rw [hnone]
      rcases open_ with _ | ⟨⟨items⟩ | ⟨members, key?⟩, outer⟩ <;> rfl
    rw [run, run, hbefore]

/-- A character that carries a number on. -/
theorem run_number {c : Char} {part' : NumeralPart} {n' : Numeral}
    (h : numeralStep part n c = .ok (some (part', n'))) :
    run ⟨.number part n, open_, none⟩ (c :: rest) = run ⟨.number part' n', open_, none⟩ rest := by
  refine run_cons ?_
  simp [before, step, h, Except.map]

/-- Digits that a part takes in one by one. -/
theorem run_digits (grow : Numeral → List Char → Numeral) (hnil : ∀ n, grow n [] = n)
    (hcons : ∀ n d ds, grow (grow n [d]) ds = grow n (d :: ds))
    (hstep : ∀ n d, d.isDigit = true → numeralStep part n d = .ok (some (part, grow n [d])))
    {ds : List Char} (hds : ∀ d ∈ ds, d.isDigit = true) (n : Numeral) :
    run ⟨.number part n, open_, none⟩ (ds ++ rest) =
      run ⟨.number part (grow n ds), open_, none⟩ rest := by
  induction ds generalizing n with
  | nil => rw [hnil, List.nil_append]
  | cons d ds ih =>
    obtain ⟨hd, hds⟩ := List.forall_mem_cons.mp hds
    rw [List.cons_append, run_number (hstep n d hd), ih hds, hcons]

theorem run_whole {ds : List Char} (hds : ∀ d ∈ ds, d.isDigit = true) (n : Numeral) :
    run ⟨.number .whole n, open_, none⟩ (ds ++ rest) =
      run ⟨.number .whole { n with whole := n.whole ++ ds }, open_, none⟩ rest :=
  run_digits (fun n ds => { n with whole := n.whole ++ ds }) (by simp) (by simp)
    (by simp +contextual [numeralStep]) hds n

theorem run_fraction {ds : List Char} (hds : ∀ d ∈ ds, d.isDigit = true) (n : Numeral) :
    run ⟨.number .fraction n, open_, none⟩ (ds ++ rest) =
      run ⟨.number .fraction { n with fraction := n.fraction ++ ds }, open_, none⟩ rest :=
  run_digits (fun n ds => { n with fraction := n.fraction ++ ds }) (by simp) (by simp)
    (by simp +contextual [numeralStep]) hds n

theorem run_exponent {ds : List Char} (hds : ∀ d ∈ ds, d.isDigit = true) (n : Numeral) :
    run ⟨.number .exponent n, open_, none⟩ (ds ++ rest) =
      run ⟨.number .exponent { n with exponent := n.exponent.map fun (s, es) => (s, es ++ ds) },
        open_, none⟩ rest :=
  run_digits (fun n ds => { n with exponent := n.exponent.map fun (s, es) => (s, es ++ ds) })
    (by simp) (by simp [Function.comp_def]) (by simp +contextual [numeralStep]) hds n

theorem ne_of_isDigit {d c : Char} (hd : d.isDigit = true) (hc : c.isDigit = false) : d ≠ c := by
  rintro rfl
  rw [hd] at hc
  cases hc

theorem beginValue_digit {d : Char} (hd : d.isDigit = true) (s : ScanState) :
    s.beginValue d = .ok { s with
      token := .number (if d = '0' then .zero else .whole) ⟨false, [d], [], none⟩ } := by
  have hne : ∀ c : Char, c.isDigit = false → d ≠ c := fun c => ne_of_isDigit hd
  by_cases h : d = '0'
  · subst h
    rfl
  · simp [beginValue, hd, h, hne '[' (by decide), hne '\x7b' (by decide), hne '"' (by decide),
      hne 'n' (by decide), hne 't' (by decide), hne 'f' (by decide), hne '-' (by decide)]

/-- The sign and the first digit, on which it depends whether more of them may follow. -/
theorem run_firstDigit (isNegative : Bool) {d : Char} (hd : d.isDigit = true)
    (he : e = .value ∨ e = .valueOrClose) :
    run ⟨.between e, open_, none⟩ ((if isNegative then ['-'] else []) ++ d :: rest) =
      run ⟨.number (if d = '0' then .zero else .whole) ⟨isNegative, [d], [], none⟩, open_, none⟩
        rest := by
  cases isNegative with
  | false =>
    have hspace : isSpace d = false := by
      have hne : ∀ c : Char, c.isDigit = false → d ≠ c := fun c => ne_of_isDigit hd
      simp [isSpace, hne ' ' (by decide), hne '\n' (by decide), hne '\t' (by decide),
        hne '\x0d' (by decide)]
    exact run_value he hspace (ne_of_isDigit hd (by decide)) (beginValue_digit hd _)
  | true =>
    refine (run_value he (by decide) (by decide) rfl).trans (run_number ?_)
    by_cases h : d = '0' <;> simp [numeralStep, h, hd]

/-- The sign and the whole part. -/
theorem run_wholePart (isNegative : Bool) {ds : List Char} (hds : WholePart ds)
    (he : e = .value ∨ e = .valueOrClose) :
    ∃ part ∈ [NumeralPart.zero, .whole],
      run ⟨.between e, open_, none⟩ ((if isNegative then ['-'] else []) ++ ds ++ rest) =
        run ⟨.number part ⟨isNegative, ds, [], none⟩, open_, none⟩ rest := by
  obtain ⟨⟨hne, hdigits⟩, hzero⟩ := hds
  obtain ⟨d, ds, rfl⟩ := List.exists_cons_of_ne_nil hne
  obtain ⟨hd, hds⟩ := List.forall_mem_cons.mp hdigits
  rw [List.append_assoc, List.cons_append, run_firstDigit isNegative hd he]
  by_cases h : d = '0'
  · obtain rfl : ds = [] := by simpa [h] using hzero
    exact ⟨.zero, by simp, by rw [if_pos h, List.nil_append]⟩
  · exact ⟨.whole, by simp, by rw [if_neg h, run_whole hds]; rfl⟩

/-- A fraction after the whole part, if there is one. -/
theorem run_fractionText {isNegative : Bool} {ds fs t : List Char} (h : FractionText fs t)
    (hpart : part ∈ [NumeralPart.zero, .whole]) :
    ∃ part' ∈ [NumeralPart.zero, .whole, .fraction],
      run ⟨.number part ⟨isNegative, ds, [], none⟩, open_, none⟩ (t ++ rest) =
        run ⟨.number part' ⟨isNegative, ds, fs, none⟩, open_, none⟩ rest := by
  cases h with
  | none => exact ⟨part, List.mem_append_left [NumeralPart.fraction] hpart, rfl⟩
  | digits hfs =>
    obtain ⟨f, fs, rfl⟩ := List.exists_cons_of_ne_nil hfs.1
    obtain ⟨hf, hfs⟩ := List.forall_mem_cons.mp hfs.2
    refine ⟨.fraction, by simp, ?_⟩
    have hpoint : numeralStep part ⟨isNegative, ds, [], none⟩ '.' =
        .ok (some (.fractionStart, ⟨isNegative, ds, [], none⟩)) := by
      simp only [List.mem_cons, List.not_mem_nil, or_false] at hpart
      rcases hpart with rfl | rfl <;> rfl
    rw [List.cons_append, List.cons_append, run_number hpoint,
      run_number (by simp [numeralStep, hf]; exact ⟨rfl, rfl⟩), run_fraction hfs]
    rfl

theorem run_exponentLetter {c : Char} (hc : c = 'e' ∨ c = 'E')
    (hpart : part ∈ [NumeralPart.zero, .whole, .fraction]) :
    run ⟨.number part n, open_, none⟩ (c :: rest) =
      run ⟨.number .exponentStart n, open_, none⟩ rest := by
  refine run_number ?_
  simp only [List.mem_cons, List.not_mem_nil, or_false] at hpart
  rcases hc with rfl | rfl <;> rcases hpart with rfl | rfl | rfl <;> rfl

/-- The digits of an exponent after its sign. -/
theorem run_exponentDigits {isNegative : Bool} {ds : List Char} (hds : DigitRun ds)
    (hn : n.exponent = some (isNegative, [])) :
    run ⟨.number .exponentSign n, open_, none⟩ (ds ++ rest) =
      run ⟨.number .exponent { n with exponent := some (isNegative, ds) }, open_, none⟩ rest := by
  obtain ⟨d, ds, rfl⟩ := List.exists_cons_of_ne_nil hds.1
  obtain ⟨hd, hds⟩ := List.forall_mem_cons.mp hds.2
  have hstep : numeralStep .exponentSign n d =
      .ok (some (.exponent, { n with exponent := some (isNegative, [d]) })) := by
    simp [numeralStep, hd, hn]
  rw [List.cons_append, run_number hstep, run_exponent hds]
  rfl

/-- An exponent at the end, if there is one. -/
theorem run_exponentText {isNegative : Bool} {ds fs t : List Char} {x : Option (Bool × List Char)}
    (h : ExponentText x t) (hpart : part ∈ [NumeralPart.zero, .whole, .fraction]) :
    ∃ part' ∈ completeParts,
      run ⟨.number part ⟨isNegative, ds, fs, none⟩, open_, none⟩ (t ++ rest) =
        run ⟨.number part' ⟨isNegative, ds, fs, x⟩, open_, none⟩ rest := by
  cases h with
  | none => exact ⟨part, List.mem_append_left [NumeralPart.exponent] hpart, rfl⟩
  | @bare c es hc hes =>
    obtain ⟨e, es, rfl⟩ := List.exists_cons_of_ne_nil hes.1
    obtain ⟨he, hes⟩ := List.forall_mem_cons.mp hes.2
    have hstep : numeralStep .exponentStart ⟨isNegative, ds, fs, none⟩ e =
        .ok (some (.exponent, ⟨isNegative, ds, fs, some (false, [e])⟩)) := by
      simp [numeralStep, he, ne_of_isDigit he (show '+'.isDigit = false from rfl),
        ne_of_isDigit he (show '-'.isDigit = false from rfl)]
    refine ⟨.exponent, by simp [completeParts], ?_⟩
    rw [List.cons_append, List.cons_append, run_exponentLetter hc hpart, run_number hstep,
      run_exponent hes]
    rfl
  | plus hc hes =>
    refine ⟨.exponent, by simp [completeParts], ?_⟩
    rw [List.cons_append, List.cons_append, run_exponentLetter hc hpart, run_number rfl,
      run_exponentDigits hes rfl]
    rfl
  | minus hc hes =>
    refine ⟨.exponent, by simp [completeParts], ?_⟩
    rw [List.cons_append, List.cons_append, run_exponentLetter hc hpart, run_number rfl,
      run_exponentDigits hes rfl]
    rfl

theorem run_numeralText {t : List Char} (h : NumeralText n t) (he : e = .value ∨ e = .valueOrClose)
    (hrest : Ends rest) :
    run ⟨.between e, open_, none⟩ (t ++ rest) = (deliver open_ (.number n)).run rest := by
  obtain ⟨hwhole, hfraction, hexponent⟩ := h
  obtain ⟨part, hpart, hrun⟩ := run_wholePart n.negative hwhole he
  obtain ⟨part', hpart', hrun'⟩ := run_fractionText hfraction hpart
  obtain ⟨part'', hpart'', hrun''⟩ := run_exponentText hexponent hpart'
  rw [List.append_assoc, List.append_assoc, hrun, hrun', hrun'', run_number_ends hpart'' hrest]

/-! ## Strings -/

variable {isKey : Bool} {l : Literal} {chars : List Char} {high? : Option Nat}

/-- A character inside a string. -/
theorem run_literal {c : Char} {l' : Literal} (hc : ¬(c = '"' ∧ l.escape = .none))
    (h : literalStep l c rest = .ok l') :
    run ⟨.string isKey l, open_, none⟩ (c :: rest) = run ⟨.string isKey l', open_, none⟩ rest := by
  refine run_cons ?_
  simp only [before, step]
  rw [if_neg hc, h]
  rfl

theorem unit_escape (l : Literal) (x : Escape) (u : Nat) :
    Literal.unit { l with escape := x } u = Literal.unit l u := by
  unfold Literal.unit
  cases l.high <;> rfl

/-- The digits of a code unit from one of them on. -/
theorem run_unitDigits {count value u : Nat} {ds : List Char} (hlength : count + ds.length = 4)
    (hne : ds ≠ [])
    (h : ds.foldlM (fun n c => (Text.hexValue? c).map (16 * n + ·)) value = some u) :
    run ⟨.string isKey { l with escape := .hex count value }, open_, none⟩ (ds ++ rest) =
      run ⟨.string isKey (Literal.unit l u), open_, none⟩ rest := by
  induction ds generalizing count value with
  | nil => exact absurd rfl hne
  | cons d ds ih =>
    rw [List.foldlM_cons] at h
    obtain ⟨next, hnext, h⟩ := Option.bind_eq_some_iff.mp h
    obtain ⟨x, hx, rfl⟩ := Option.map_eq_some_iff.mp hnext
    rw [List.cons_append, Nat.mul_comm] at *
    cases ds with
    | nil =>
      obtain rfl : count = 3 := by simpa using hlength
      obtain rfl : value * 16 + x = u := by simpa using h
      refine run_literal (by simp) ?_
      simp [literalStep, hx, unit_escape]
    | cons d' ds =>
      simp only [List.length_cons] at hlength
      have hcount : count ≠ 3 := by omega
      have hstep : literalStep { l with escape := .hex count value } d (d' :: ds ++ rest) =
          .ok { l with escape := .hex (count + 1) (value * 16 + x) } := by
        simp [literalStep, hx, hcount]
      rw [run_literal (by simp) hstep]
      exact ih (by simp only [List.length_cons]; omega) (by simp) h

/-- An escape that gives a code unit. -/
theorem run_unit {u : Nat} {ds : List Char} (h : UnitText u ds) (hl : l.escape = .none) :
    run ⟨.string isKey l, open_, none⟩ ('\\' :: 'u' :: ds ++ rest) =
      run ⟨.string isKey (Literal.unit l u), open_, none⟩ rest := by
  obtain ⟨hlength, hvalue⟩ := h
  have hne : ds ≠ [] := by
    rintro rfl
    simp at hlength
  have hslash : literalStep l '\\' ('u' :: (ds ++ rest)) = .ok { l with escape := .letter } := by
    simp [literalStep, hl]
  have hletter : literalStep { l with escape := .letter } 'u' (ds ++ rest) =
      .ok { l with escape := .hex 0 0 } := by simp [literalStep]
  rw [List.cons_append, List.cons_append, run_literal (by simp) hslash,
    run_literal (by simp) hletter]
  exact run_unitDigits (by omega) hne hvalue

theorem escaped?_of_mem {letter c : Char} (h : (letter, c) ∈ escapes) :
    letter ≠ 'u' ∧ escaped? letter = some c := by
  have hall : ∀ p ∈ escapes, p.1 ≠ 'u' ∧ escaped? p.1 = some p.2 := by decide
  exact hall _ h

/-- What is spelled between quotes is read as the characters that it stands for. -/
theorem run_spelled {cs t : List Char} (h : Spelled cs t) (chars : List Char) :
    run ⟨.string isKey ⟨chars, .none, none, false⟩, open_, none⟩ (t ++ rest) =
      run ⟨.string isKey ⟨cs.reverse ++ chars, .none, none, false⟩, open_, none⟩ rest := by
  induction h generalizing chars with
  | nil => rfl
  | @plain c cs t hlow hquote hslash _ ih =>
    have hc : literalStep ⟨chars, .none, none, false⟩ c (t ++ rest) =
        .ok ⟨c :: chars, .none, none, false⟩ := by
      simp [literalStep, hslash, Nat.not_lt.mpr hlow, Literal.push, Literal.giveUp]
    rw [List.cons_append, run_literal (by simp [hquote]) hc, ih]
    simp
  | @escape letter c cs t hmem _ ih =>
    obtain ⟨hu, hc⟩ := escaped?_of_mem hmem
    have hslash : literalStep ⟨chars, .none, none, false⟩ '\\' (letter :: (t ++ rest)) =
        .ok ⟨chars, .letter, none, false⟩ := by simp [literalStep]
    have hletter : literalStep ⟨chars, .letter, none, false⟩ letter (t ++ rest) =
        .ok ⟨c :: chars, .none, none, false⟩ := by
      simp [literalStep, hu, hc, Literal.push, Literal.giveUp]
    rw [List.cons_append, List.cons_append, run_literal (by simp) hslash,
      run_literal (by simp) hletter, ih]
    simp
  | @unit u ds cs t hunit hsurrogate _ ih =>
    have hchar : Literal.unit ⟨chars, .none, none, false⟩ u =
        ⟨Char.ofNat u :: chars, .none, none, false⟩ := by
      have hlow : ¬(0xDC00 ≤ u ∧ u ≤ 0xDFFF) := by omega
      have hhigh : ¬(0xD800 ≤ u ∧ u ≤ 0xDBFF) := by omega
      simp [Literal.unit, hlow, hhigh]
    rw [List.append_assoc, run_unit hunit rfl, hchar, ih]
    simp
  | @pair high low ds es cs t hds hes hhigh hlow _ ih =>
    have hfirst : Literal.unit ⟨chars, .none, none, false⟩ high =
        ⟨chars, .none, some high, false⟩ := by
      have hnot : ¬(0xDC00 ≤ high ∧ high ≤ 0xDFFF) := by omega
      simp [Literal.unit, hnot, hhigh]
    have hsecond : Literal.unit ⟨chars, .none, some high, false⟩ low =
        ⟨Char.ofNat (0x10000 + (high - 0xD800) * 0x400 + (low - 0xDC00)) :: chars, .none, none,
          false⟩ := by
      simp [Literal.unit, hlow]
    rw [List.append_assoc, List.append_assoc, run_unit hds rfl, hfirst, run_unit hes rfl, hsecond,
      ih]
    simp

/-- A string between its quotes, as a value or as a key. -/
theorem run_quoted {cs t : List Char} (h : Spelled cs t) :
    run ⟨.string isKey newLiteral, open_, none⟩ (t ++ '"' :: rest) =
      run (if isKey then ⟨.between .colon, keepKey open_ (some (String.ofList cs)), none⟩
        else deliver open_ (.string (some (String.ofList cs)))) rest := by
  rw [newLiteral, run_spelled h]
  refine run_cons ?_
  cases isKey <;> simp [before, step, Literal.text]

/-! ## Documents -/

/-- What reading the text of a part comes to, whatever is open around it. -/
def Reads : Phrase → List Char → Prop
  | .value v, t | .element v, t => ∀ e open_ rest, e = .value ∨ e = .valueOrClose → Ends rest →
    run ⟨.between e, open_, none⟩ (t ++ rest) = (deliver open_ v).run rest
  | .items vs, t => ∀ e done outer rest, e = .value ∨ e = .valueOrClose →
    run ⟨.between e, .array done :: outer, none⟩ (t ++ ']' :: rest) =
      (deliver outer (.array (done.reverse ++ vs) none)).run rest
  | .member m, t => ∀ e done outer rest, e = .key ∨ e = .keyOrClose → Ends rest →
    run ⟨.between e, .object done none :: outer, none⟩ (t ++ rest) =
      run ⟨.between .more, .object (m :: done) none :: outer, none⟩ rest
  | .members ms, t => ∀ e done outer rest, e = .key ∨ e = .keyOrClose →
    run ⟨.between e, .object done none :: outer, none⟩ (t ++ '\x7d' :: rest) =
      (deliver outer (.object (done.reverse ++ ms) none)).run rest

/-- Every text of the grammar is read as what it stands for. -/
theorem reads_of_written {p : Phrase} {t : List Char} (h : Written p t) : Reads p t := by
  induction h with
  | null =>
    intro e open_ rest he _
    exact (run_value he rfl (by decide) rfl).trans (run_word (by decide) _)
  | false =>
    intro e open_ rest he _
    exact (run_value he rfl (by decide) rfl).trans (run_word (by decide) _)
  | true =>
    intro e open_ rest he _
    exact (run_value he rfl (by decide) rfl).trans (run_word (by decide) _)
  | number hn => exact fun e open_ rest he hrest => run_numeralText hn he hrest
  | string hs =>
    intro e open_ rest he _
    rw [List.cons_append, List.cons_append, List.append_assoc, run_value he rfl (by decide) rfl]
    exact run_quoted hs
  | @emptyArray w hw =>
    intro e open_ rest he _
    rw [List.cons_append, List.cons_append, List.append_assoc, run_value he rfl (by decide) rfl,
      run_spaces hw]
    exact run_between rfl
  | array _ ih =>
    intro e open_ rest he _
    rw [List.cons_append, List.cons_append, List.append_assoc, run_value he rfl (by decide) rfl]
    exact ih .valueOrClose [] open_ rest (Or.inr rfl)
  | @emptyObject w hw =>
    intro e open_ rest he _
    rw [List.cons_append, List.cons_append, List.append_assoc, run_value he rfl (by decide) rfl,
      run_spaces hw]
    exact run_between rfl
  | object _ ih =>
    intro e open_ rest he _
    rw [List.cons_append, List.cons_append, List.append_assoc, run_value he rfl (by decide) rfl]
    exact ih .keyOrClose [] open_ rest (Or.inr rfl)
  | element hw _ hw' ih =>
    intro e open_ rest he hrest
    rw [List.append_assoc, List.append_assoc, run_spaces hw,
      ih e open_ _ he (ends_spaces hw' hrest), run_deliver_spaces hw']
  | lastItem _ ih =>
    intro e done outer rest he
    rw [ih e _ _ he (ends_cons (by decide)), ← List.reverse_cons]
    exact run_between rfl
  | @item v vs t ts _ _ ih ihs =>
    intro e done outer rest he
    have hdone : done.reverse ++ v :: vs = (v :: done).reverse ++ vs := by simp
    rw [List.append_assoc, List.cons_append, ih e _ _ he (ends_cons (by decide)), hdone,
      ← ihs .value _ outer rest (Or.inl rfl)]
    exact run_between rfl
  | member hw hk hw' _ ih =>
    intro e done outer rest he hrest
    have hquote : betweenStep ⟨.between e, .object done none :: outer, none⟩ e '"' =
        .ok ⟨.string true newLiteral, .object done none :: outer, none⟩ := by
      rcases he with rfl | rfl <;> rfl
    simp only [List.append_assoc, List.cons_append]
    rw [run_spaces hw, run_between hquote, run_quoted hk, if_pos rfl, run_spaces hw',
      run_between rfl]
    exact ih .value _ rest (Or.inl rfl) hrest
  | lastMember _ ih =>
    intro e done outer rest he
    rw [ih e done outer _ he (ends_cons (by decide)), ← List.reverse_cons]
    exact run_between rfl
  | @moreMembers m ms t ts _ _ ih ihs =>
    intro e done outer rest he
    have hdone : done.reverse ++ m :: ms = (m :: done).reverse ++ ms := by simp
    rw [List.append_assoc, List.cons_append, ih e done outer _ he (ends_cons (by decide)), hdone,
      ← ihs .key _ outer rest (Or.inl rfl)]
    exact run_between rfl

end ScanState

/-- A text of the grammar is a document without a fault. -/
theorem ofText_of_denotes {text : String} {root : Node} (h : Grammar.Denotes text root) :
    Document.ofText text = ⟨root, none⟩ := by
  have hrun := ScanState.reads_of_written h .value [] [] (Or.inl rfl) ScanState.ends_nil
  rwa [List.append_nil] at hrun

end FacetFilter.Json
