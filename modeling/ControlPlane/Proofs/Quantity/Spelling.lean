import ControlPlane.Quantity.Basic
import ControlPlane.Text.Split

/-!
# The grammar of quantities

`Spelling.Spells` says what a text is made of: a sign, digits with a point, and a scale.  Reading a
text finds its spelling and nothing else (`Spelling.read?_eq_some_iff`), so no text has two; the
letter `E`, which starts an exponent and two suffixes, is told apart by what follows.  A text is
refused as unreadable if and only if it has no spelling, and otherwise the value is that of the
spelling (`parse_follows_spelling`).
-/

namespace ControlPlane.Quantity

open Text

/-- The spelling is valid and makes up the whole text. -/
def Spelling.Spells (s : Spelling) (t : String) : Prop := s.Valid ∧ s.toList = t.toList

instance (s : Spelling) (t : String) : Decidable (s.Spells t) :=
  inferInstanceAs (Decidable (s.Valid ∧ s.toList = t.toList))

/-! ## signs -/

theorem ne_of_isDigit {c d : Char} (hc : isDigit c = true) (hd : isDigit d = false) : c ≠ d := by
  rintro rfl
  rw [hc] at hd
  cases hd

namespace Sign

/-- The text does not start with a sign. -/
def Free (cs : List Char) : Prop := ∀ c, cs.head? = some c → c ≠ '+' ∧ c ≠ '-'

theorem append_split (cs : List Char) :
    ((split cs).1.map char).toList ++ (split cs).2 = cs := by
  unfold split
  split <;> rfl

theorem split_append (sign : Option Sign) {cs : List Char} (h : Free cs) :
    split ((sign.map char).toList ++ cs) = (sign, cs) := by
  cases sign with
  | some sign => cases sign <;> rfl
  | none =>
      cases cs with
      | nil => rfl
      | cons c cs =>
          obtain ⟨hplus, hminus⟩ := h c rfl
          simp only [Option.map_none, Option.toList_none, List.nil_append]
          unfold split
          split
          · next heq => exact absurd (List.cons.inj heq).1 hplus
          · next heq => exact absurd (List.cons.inj heq).1 hminus
          · rfl

theorem free_of_digits {digits rest : List Char} (h : digits.all isDigit = true)
    (hne : digits ≠ []) : Free (digits ++ rest) := by
  obtain ⟨d, ds, rfl⟩ := List.exists_cons_of_ne_nil hne
  rintro c ⟨⟩
  have hd : isDigit d = true := List.all_eq_true.mp h d List.mem_cons_self
  exact ⟨ne_of_isDigit hd (by decide), ne_of_isDigit hd (by decide)⟩

end Sign

/-! ## scales -/

namespace Suffix

theorem read?_eq_some_iff {cs : List Char} {s : Suffix} : read? cs = some s ↔ s.toList = cs := by
  constructor
  · intro h
    simpa using List.find?_some h
  · rintro rfl
    exact read?_toList s

end Suffix

namespace Scale

/-- A scale starts with a letter. -/
theorem head_toList {x : Scale} (h : x.Valid) {c : Char} (hc : x.toList.head? = some c) :
    isDigit c = false ∧ c ≠ '.' := by
  cases x with
  | unit => cases hc
  | exponent letter sign digits =>
      cases hc
      obtain rfl | rfl := h.1 <;> decide
  | suffix s => revert c; cases s <;> rintro c ⟨⟩ <;> decide

/-- A letter `E` with a sign or digits behind it is no suffix. -/
theorem read?_toList {x : Scale} (h : x.Valid) : read? x.toList = some x := by
  cases x with
  | unit => rfl
  | suffix s => cases s <;> decide
  | exponent letter sign digits =>
      obtain ⟨hletter, hne, hdigits⟩ := h
      have hfree : Sign.Free digits := by
        rw [← List.append_nil digits]
        exact Sign.free_of_digits hdigits hne
      simp only [toList, read?, Sign.split_append sign hfree]
      rw [if_pos ⟨hletter, hne, hdigits⟩]

theorem spells_of_read? {cs : List Char} {x : Scale} (h : read? cs = some x) :
    x.Valid ∧ x.toList = cs := by
  unfold read? at h
  cases cs with
  | nil =>
      cases h
      exact ⟨trivial, rfl⟩
  | cons c rest =>
      dsimp only at h
      split at h
      · next hexponent =>
        cases h
        refine ⟨hexponent, ?_⟩
        rw [toList, Sign.append_split]
      · obtain ⟨s, hs, rfl⟩ := Option.map_eq_some_iff.mp h
        exact ⟨trivial, Suffix.read?_eq_some_iff.mp hs⟩

end Scale

/-! ## spellings -/

namespace Spelling

/-- The point and the digits behind it. -/
def pointed : Option (List Char) → List Char
  | some digits => '.' :: digits
  | none => []

theorem toList_eq (s : Spelling) :
    s.toList =
      (s.sign.map Sign.char).toList ++ (s.whole ++ (pointed s.fraction ++ s.scale.toList)) := by
  obtain ⟨sign, whole, fraction, scale⟩ := s
  cases fraction <;> simp [toList, pointed]

theorem Valid.free {s : Spelling} (h : s.Valid) :
    Sign.Free (s.whole ++ (pointed s.fraction ++ s.scale.toList)) := by
  by_cases hwhole : s.whole = []
  · have hdigit := h.some_digit.resolve_left (fun hne => hne hwhole)
    obtain ⟨sign, whole, fraction, scale⟩ := s
    cases fraction with
    | none => exact absurd rfl hdigit
    | some digits =>
        dsimp only at hwhole
        subst hwhole
        rintro c ⟨⟩
        decide
  · exact Sign.free_of_digits h.whole_digits hwhole

/-- A fraction at the start of a text, and what follows. -/
def splitFraction : List Char → Option (List Char) × List Char
  | '.' :: rest => (some (rest.takeWhile isDigit), rest.dropWhile isDigit)
  | cs => (none, cs)

theorem splitFraction_of_no_point {cs : List Char} (h : ∀ rest, cs = '.' :: rest → False) :
    splitFraction cs = (none, cs) := by
  unfold splitFraction
  split
  · exact (h _ rfl).elim
  · rfl

theorem append_splitFraction (cs : List Char) :
    pointed (splitFraction cs).1 ++ (splitFraction cs).2 = cs := by
  unfold splitFraction
  split
  · simp [pointed]
  · rfl

theorem splitFraction_digits (cs : List Char) :
    ((splitFraction cs).1.getD []).all isDigit = true := by
  unfold splitFraction
  split
  · exact List.all_takeWhile
  · rfl

theorem splitFraction_append {fraction : Option (List Char)} {rest : List Char}
    (hdigits : (fraction.getD []).all isDigit = true)
    (hrest : ∀ c, rest.head? = some c → isDigit c = false ∧ c ≠ '.') :
    splitFraction (pointed fraction ++ rest) = (fraction, rest) := by
  cases fraction with
  | some digits =>
      have hrun : ∀ c ∈ digits, isDigit c = true := List.all_eq_true.mp hdigits
      have hstop (c : Char) (hc : rest.head? = some c) : isDigit c = false := (hrest c hc).1
      rw [pointed, List.cons_append, splitFraction, takeWhile_append_stop hrun hstop,
        dropWhile_append_stop hrun hstop]
  | none =>
      refine splitFraction_of_no_point fun after hpoint => ?_
      rw [pointed, List.nil_append] at hpoint
      exact (hrest '.' (by rw [hpoint]; rfl)).2 rfl

/-- Reading cuts off the sign, the digits and the fraction, and needs one digit. -/
theorem read?_eq (cs : List Char) :
    read? cs =
      let unsigned := (Sign.split cs).2
      let whole := unsigned.takeWhile isDigit
      let tail := splitFraction (unsigned.dropWhile isDigit)
      if whole.isEmpty && (tail.1.getD []).isEmpty then none
      else (Scale.read? tail.2).map fun scale => ⟨(Sign.split cs).1, whole, tail.1, scale⟩ := by
  unfold read?
  generalize Sign.split cs = signed
  obtain ⟨sign, unsigned⟩ := signed
  dsimp only
  generalize unsigned.dropWhile isDigit = tail
  split
  · rfl
  · next h => rw [splitFraction_of_no_point h]

theorem isEmpty_and_isEmpty {whole fraction : List Char} :
    (whole.isEmpty && fraction.isEmpty) = false ↔ whole ≠ [] ∨ fraction ≠ [] := by
  rw [Bool.and_eq_false_iff, List.isEmpty_eq_false_iff, List.isEmpty_eq_false_iff]

/-- A valid spelling is read back from its text. -/
theorem read?_toList {s : Spelling} (h : s.Valid) : read? s.toList = some s := by
  obtain ⟨sign, whole, fraction, scale⟩ := s
  have hfree := h.free
  obtain ⟨hwhole, hfraction, hdigit, hscale⟩ := h
  dsimp only at hwhole hfraction hdigit hscale hfree
  have hscaleHead (c : Char) (hc : scale.toList.head? = some c) : isDigit c = false ∧ c ≠ '.' :=
    Scale.head_toList hscale hc
  have hstop (c : Char) (hc : (pointed fraction ++ scale.toList).head? = some c) :
      isDigit c = false := by
    cases fraction with
    | none => exact (hscaleHead c hc).1
    | some digits =>
        cases hc
        decide
  have hrun := List.all_eq_true.mp hwhole
  rw [toList_eq, read?_eq, Sign.split_append sign hfree]
  dsimp only
  rw [takeWhile_append_stop hrun hstop, dropWhile_append_stop hrun hstop,
    splitFraction_append hfraction hscaleHead]
  dsimp only
  rw [isEmpty_and_isEmpty.mpr hdigit, Scale.read?_toList hscale]
  rfl

/-- What is read is a valid spelling of the text. -/
theorem valid_of_read? {cs : List Char} {s : Spelling} (h : read? cs = some s) :
    s.Valid ∧ s.toList = cs := by
  rw [read?_eq] at h
  dsimp only at h
  split at h
  · cases h
  · next hsome =>
    obtain ⟨scale, hscale, rfl⟩ := Option.map_eq_some_iff.mp h
    obtain ⟨hvalid, htext⟩ := Scale.spells_of_read? hscale
    refine ⟨⟨List.all_takeWhile, splitFraction_digits _, ?_, hvalid⟩, ?_⟩
    · exact isEmpty_and_isEmpty.mp (Bool.not_eq_true _ ▸ hsome)
    · rw [toList_eq]
      dsimp only
      rw [htext, append_splitFraction, List.takeWhile_append_dropWhile, Sign.append_split]

/-- Reading finds the valid spelling of a text and nothing else. -/
theorem read?_eq_some_iff {cs : List Char} {s : Spelling} :
    read? cs = some s ↔ s.Valid ∧ s.toList = cs := by
  constructor
  · exact valid_of_read?
  · rintro ⟨hvalid, rfl⟩
    exact read?_toList hvalid

theorem spells_iff {t : String} {s : Spelling} : s.Spells t ↔ read? t.toList = some s :=
  read?_eq_some_iff.symm

/-- A text has at most one spelling. -/
theorem Spells.unique {t : String} {s s' : Spelling} (h : s.Spells t) (h' : s'.Spells t) :
    s = s' := by
  rw [spells_iff] at h h'
  exact Option.some.inj (h.symm.trans h')

end Spelling

/-! ## values -/

/-- A text that is no quantity is refused as it is. -/
theorem valueOf_of_not_spelled {t : String} (h : ¬ ∃ s : Spelling, s.Spells t) :
    ∃ why, valueOf t = .error (.unreadable t why) := by
  have hnone : Spelling.read? t.toList = none := by
    rw [Option.eq_none_iff_forall_not_mem]
    exact fun s hs => h ⟨s, Spelling.spells_iff.mpr hs⟩
  rw [valueOf, hnone]
  split
  · exact ⟨_, rfl⟩
  · exact ⟨_, rfl⟩

/-- The value of a spelled text is the value of its spelling. -/
theorem valueOf_of_spells {t : String} {s : Spelling} (h : s.Spells t) : valueOf t = s.value := by
  have hread := Spelling.spells_iff.mp h
  have hne : t.isEmpty = false := by
    rw [Bool.eq_false_iff]
    intro hempty
    rw [String.isEmpty_iff] at hempty
    rw [hempty] at hread
    cases hread
  rw [valueOf, hne, if_neg Bool.false_ne_true, hread]

/-- An exponent is read as an integer, or it has too many digits for that. -/
theorem exponentValue_cases (sign : Option Sign) (digits : List Char) :
    (4300 < digits.length ∧
      exponentValue sign digits = .error (.longExponent digits.length)) ∨
    (digits.length ≤ 4300 ∧ exponentValue sign digits =
      .ok (if sign = some .minus then -(decimalValue digits : Int) else decimalValue digits)) := by
  obtain h | h := Nat.lt_or_ge 4300 digits.length
  · exact .inl ⟨h, if_pos h⟩
  · exact .inr ⟨h, if_neg (Nat.not_lt.mpr h)⟩

/-- No spelling is refused as unreadable. -/
theorem Spelling.value_ne_unreadable (s : Spelling) (u : String) (why : Malformation) :
    s.value ≠ .error (.unreadable u why) := by
  have harithmetic (x : Except ArithmeticFault Decimal) :
      x.mapError Flaw.arithmetic ≠ .error (.unreadable u why) := by
    cases x <;> nofun
  unfold value
  cases s.scale with
  | unit => exact harithmetic _
  | suffix suffix => exact harithmetic _
  | exponent letter sign digits =>
      dsimp only
      obtain ⟨-, h⟩ | ⟨-, h⟩ := exponentValue_cases sign digits
      · rw [h]
        nofun
      · rw [h]
        exact harithmetic _

theorem exists_of_valueOf {t : String} {v : Decimal} (h : valueOf t = .ok v) :
    ∃ q, parse t = .ok q ∧ q.value = v := ⟨⟨t, v, h⟩, parse_text ⟨t, v, h⟩, rfl⟩

/-- A value can be computed for a given text. -/
theorem exists_of_toOption {t : String} {v : Decimal} (h : (valueOf t).toOption = some v) :
    ∃ q, parse t = .ok q ∧ q.value = v := by
  cases hvalue : valueOf t with
  | ok w =>
      rw [hvalue] at h
      exact Option.some.inj h ▸ exists_of_valueOf hvalue
  | error flaw =>
      rw [hvalue] at h
      cases h

theorem spelled_of_valueOf {t : String} {v : Decimal} (h : valueOf t = .ok v) :
    ∃ s : Spelling, s.Spells t ∧ s.value = .ok v := by
  by_cases hspelled : ∃ s : Spelling, s.Spells t
  · obtain ⟨s, hs⟩ := hspelled
    exact ⟨s, hs, (valueOf_of_spells hs).symm.trans h⟩
  · obtain ⟨why, hwhy⟩ := valueOf_of_not_spelled hspelled
    rw [hwhy] at h
    cases h

/-- A text is refused as unreadable if and only if it has no spelling.  A text has one spelling at
most, and its value is computed from that one: so a final `E` is exa, digits make it an exponent and
an `i` makes it exbi, and a letter without digits or with a sign alone spells nothing. -/
theorem parse_follows_spelling :
    (∀ t, (∃ u why, parse t = .error (.unreadable u why)) ↔ ¬ ∃ s : Spelling, s.Spells t) ∧
    (∀ t (s : Spelling), s.Spells t → (∀ s' : Spelling, s'.Spells t → s' = s) ∧
      (parse t).map value = s.value) ∧
    (⟨none, ['1'], none, .suffix .exa⟩ : Spelling).Spells "1E" ∧
    (⟨none, ['1'], none, .exponent 'E' none ['3']⟩ : Spelling).Spells "1E3" ∧
    (⟨none, ['1'], none, .suffix .exbi⟩ : Spelling).Spells "1Ei" ∧
    (∀ t ∈ ["1e", "1E+"], parse t = .error (.unreadable t .malformed)) := by
  refine ⟨fun t => ⟨?_, ?_⟩, fun t s hs => ⟨fun s' hs' => hs'.unique hs, ?_⟩, ?_, ?_, ?_, ?_⟩
  · rintro ⟨u, why, h⟩ ⟨s, hs⟩
    rw [parse_eq_error_iff, valueOf_of_spells hs] at h
    exact s.value_ne_unreadable u why h
  · intro h
    obtain ⟨why, hwhy⟩ := valueOf_of_not_spelled h
    exact ⟨t, why, parse_eq_error_iff.mpr hwhy⟩
  · rw [map_value_parse, valueOf_of_spells hs]
  · decide
  · decide
  · decide
  · intro t ht
    rw [parse_eq_error_iff]
    obtain rfl | rfl : t = "1e" ∨ t = "1E+" := by simpa using ht
    · rfl
    · rfl

/-- Digits may be of any script, and of several. -/
theorem parse_follows_spelling_scripts :
    (⟨some .minus, ['٣'], some ['5', '०'], .exponent 'e' (some .plus) ['２']⟩ : Spelling).Spells
      "-٣.5०e+２" ∧
    ((parse "-٣.5०e+２").map value).toOption = some ⟨true, 350, 0⟩ := by
  have hspells : (⟨some .minus, ['٣'], some ['5', '०'], .exponent 'e' (some .plus) ['２']⟩ :
      Spelling).Spells "-٣.5०e+２" := by decide
  obtain ⟨-, hparse⟩ := parse_follows_spelling.2.1 _ _ hspells
  refine ⟨hspells, ?_⟩
  rw [hparse]
  decide +kernel

end ControlPlane.Quantity
