import ControlPlane.Proofs.Reload.PlainScalars
import ControlPlane.Wire
import ControlPlane.Yaml.Typed
import Mathlib.Data.Bool.AllAny
import Mathlib.Data.List.Basic

/-!
# Numerals and words

Integers, truth values and the absent value are written plain, as numerals and words.  Nothing
stands in the way of the plain style (`isPlainText_int`), the text suggests the tag that it was
written for (`ofPlain_int`), and under that tag it is read as the same value (`read_int`).
-/

namespace ControlPlane.Yaml

/-! ## decimal digits -/

/-- A numeral is zero, or starts with another digit. -/
theorem toDigits_cases (n : Nat) :
    Nat.toDigits 10 n = ['0'] ∨
      ∃ d ds, Nat.toDigits 10 n = d :: ds ∧ '1' ≤ d ∧ d ≤ '9' := by
  induction n using Nat.strong_induction_on with
  | _ n ih =>
    by_cases hsmall : n < 10
    · have hdigit : ∀ k < 10, Nat.digitChar k = '0' ∨
          ('1' ≤ Nat.digitChar k ∧ Nat.digitChar k ≤ '9') := by decide
      rw [Nat.toDigits_of_lt_base hsmall]
      obtain h | ⟨hlow, hhigh⟩ := hdigit n hsmall
      · exact .inl (by rw [h])
      · exact .inr ⟨_, [], rfl, hlow, hhigh⟩
    · have hbase : 10 ≤ n := Nat.not_lt.mp hsmall
      rw [Nat.toDigits_of_base_le (by decide) hbase]
      have hless : n / 10 < n := by omega
      obtain h | ⟨d, ds, h, hlow, hhigh⟩ := ih (n / 10) hless
      · have hvalue := Nat.ofDigitChars_toDigits (b := 10) (n := n / 10) (by decide) (by decide)
        rw [h] at hvalue
        have hzero : Nat.ofDigitChars 10 ['0'] 0 = 0 := by decide
        omega
      · exact .inr ⟨d, ds ++ [_], by rw [h]; rfl, hlow, hhigh⟩

theorem isPlainDigit_of_isDigit {c : Char} (h : c.isDigit = true) :
    Integer.isPlainDigit c = true := by
  rw [Char.isDigit, Bool.and_eq_true] at h
  rw [Integer.isPlainDigit, Bool.and_eq_true]
  exact h

theorem isPlainDigit_of_mem_toDigits {n : Nat} {c : Char} (h : c ∈ Nat.toDigits 10 n) :
    Integer.isPlainDigit c = true :=
  isPlainDigit_of_isDigit (Nat.isDigit_of_mem_toDigits (by decide) (by decide) h)

/-- A numeral is a first digit and further ones. -/
theorem exists_toDigits (n : Nat) : ∃ d ds, Nat.toDigits 10 n = d :: ds ∧
    Integer.isPlainDigit d = true ∧ ∀ x ∈ ds, Integer.isPlainDigit x = true := by
  obtain ⟨d, ds, hds⟩ := List.exists_cons_of_ne_nil (Nat.toDigits_ne_nil (n := n) (b := 10))
  have hdigit {x : Char} (hx : x ∈ d :: ds) : Integer.isPlainDigit x = true :=
    isPlainDigit_of_mem_toDigits (hds ▸ hx)
  exact ⟨d, ds, hds, hdigit List.mem_cons_self, fun x hx => hdigit (List.mem_cons_of_mem d hx)⟩

section Digit

variable {c : Char}

theorem isPlainDigit_iff : Integer.isPlainDigit c = true ↔ 48 ≤ c.toNat ∧ c.toNat ≤ 57 := by
  rw [Integer.isPlainDigit, Bool.and_eq_true, decide_eq_true_iff, decide_eq_true_iff]
  exact Iff.rfl

theorem mem_nine (hlow : '1' ≤ c) (hhigh : c ≤ '9') : c ∈ "123456789".toList := by
  have hmem : ∀ n ≤ 57, 49 ≤ n → Char.ofNat n ∈ "123456789".toList := by decide
  have := hmem c.toNat hhigh hlow
  rwa [Char.ofNat_toNat] at this

/-- What holds of the ten digits holds of every plain digit. -/
theorem of_isPlainDigit {P : Char → Prop} (h : ∀ d ∈ "0123456789".toList, P d)
    (hc : Integer.isPlainDigit c = true) : P c := by
  obtain ⟨hlow, hhigh⟩ := isPlainDigit_iff.mp hc
  have hmem : ∀ n ≤ 57, 48 ≤ n → Char.ofNat n ∈ "0123456789".toList := by decide
  have := h _ (hmem c.toNat hhigh hlow)
  rwa [Char.ofNat_toNat] at this

end Digit

/-- The digits of a numeral have its value. -/
theorem digitsValue_toDigits (n : Nat) :
    Text.digitsValue 10 ((Nat.toDigits 10 n).map fun c => c.toNat - 48) = n := by
  have hvalue := Nat.ofDigitChars_toDigits (b := 10) (n := n) (by decide) (by decide)
  have hfold (cs : List Char) (start : Nat) :
      (cs.map fun c => c.toNat - 48).foldl (fun n d => n * 10 + d) start
        = Nat.ofDigitChars 10 cs start := by
    induction cs generalizing start with
    | nil => rfl
    | cons c cs ih =>
        rw [List.map_cons, List.foldl_cons, ih, Nat.mul_comm]
        rfl
  rw [Text.digitsValue, hfold, hvalue]

/-- The numeral of an integer has a sign if it is negative. -/
theorem toList_toString_int (i : Int) :
    (toString i).toList = (if i < 0 then ['-'] else []) ++ Nat.toDigits 10 i.natAbs := by
  rw [Int.toString_eq_repr, Int.repr_eq_if]
  split
  · next h =>
    have hnat : i.toNat = i.natAbs := by omega
    rw [if_neg (by omega), hnat, Nat.toList_repr]
    rfl
  · next h =>
    have hnat : (-i).toNat = i.natAbs := by omega
    rw [if_pos (by omega), String.toList_append, hnat, Nat.toList_repr]
    rfl

/-! ## the plain style -/

/-- A character that is neither a blank nor an indicator within a text. -/
def isQuiet (c : Char) : Bool := isAscii c && c != ' ' && c != ':' && c != '#'

theorem hasInnerIndicator_eq_false {cs : List Char} {afterSpace : Bool}
    (h : cs.all isQuiet = true) : hasInnerIndicator afterSpace cs = false := by
  induction cs generalizing afterSpace with
  | nil => rfl
  | cons c cs ih =>
      simp only [List.all_cons, Bool.and_eq_true, isQuiet, bne_iff_ne] at h
      obtain ⟨⟨⟨-, hcolon⟩, hcomment⟩, hcs⟩ := h
      rw [hasInnerIndicator, ih hcs]
      simp [hcolon, hcomment]

/-- A text of quiet characters is written plain unless it starts like something else. -/
theorem isPlainText_of_quiet {c : Char} {rest : List Char} (h : (c :: rest).all isQuiet = true)
    (hstart : isLeadingIndicator c rest = false) (hmark : ¬ StartsWithMark (c :: rest)) :
    isPlainText (c :: rest) = true := by
  have hquiet {x : Char} (hx : isQuiet x = true) :
      isOrdinary x = true ∧ isBreak x = false ∧ x ≠ ' ' ∧ x ≠ '\n' := by
    simp only [isQuiet, Bool.and_eq_true, bne_iff_ne] at hx
    have hline := endsLine_of_isAscii hx.1.1.1
    simp only [endsLine, Bool.or_eq_false_iff, beq_eq_false_iff_ne] at hline
    refine ⟨?_, ?_, hx.1.1.2, hline.1.1.1.1⟩
    · rw [isOrdinary_eq, hx.1.1.1, Bool.or_true]
    · simp [isBreak, hline]
  have hall := List.all_eq_true.mp h
  have hordinary : (c :: rest).all isOrdinary = true :=
    List.all_eq_true.mpr fun x hx => (hquiet (hall x hx)).1
  have hmultiline : isMultiline (c :: rest) = false :=
    List.any_eq_false.mpr fun x hx => by simp [(hquiet (hall x hx)).2.1]
  have houter : hasOuterBlank (c :: rest) = false := by
    obtain ⟨-, -, hspace, hfeed⟩ := hquiet (hall c List.mem_cons_self)
    obtain ⟨-, -, hlastSpace, hlastFeed⟩ :=
      hquiet (hall _ (List.getLast_mem (List.cons_ne_nil c rest)))
    rw [hasOuterBlank, List.getLast?_eq_some_getLast (List.cons_ne_nil c rest)]
    simp [hspace, hfeed, hlastSpace, hlastFeed]
  have hindicator : hasIndicator (c :: rest) = false := by
    obtain ⟨hdashes, hpoints⟩ := not_or.mp hmark
    have hrest : rest.all isQuiet = true := by
      rw [List.all_cons, Bool.and_eq_true] at h
      exact h.2
    rw [hasIndicator, beq_eq_false_iff_ne.mpr hdashes, beq_eq_false_iff_ne.mpr hpoints]
    simp [hstart, hasInnerIndicator_eq_false hrest]
  rw [isPlainText, hordinary, hmultiline, houter, hindicator]
  rfl

/-- A numeral is its first character and digits. -/
theorem exists_digits (i : Int) : ∃ c rest, (toString i).toList = c :: rest ∧
    (∀ x ∈ rest, Integer.isPlainDigit x = true) ∧
      (Integer.isPlainDigit c = true ∨ c = '-' ∧ rest ≠ []) := by
  rw [toList_toString_int]
  by_cases hneg : i < 0
  · rw [if_pos hneg]
    exact ⟨'-', _, rfl, fun x hx => isPlainDigit_of_mem_toDigits hx,
      .inr ⟨rfl, Nat.toDigits_ne_nil⟩⟩
  · obtain ⟨d, ds, hds, hd, hrest⟩ := exists_toDigits i.natAbs
    rw [if_neg hneg, List.nil_append, hds]
    exact ⟨d, ds, rfl, hrest, .inl hd⟩

theorem isPlainText_int (i : Int) : isPlainText (toString i).toList = true := by
  have hquiet : ∀ x ∈ "0123456789".toList,
      isQuiet x = true ∧ x ≠ '-' ∧ x ≠ '.' ∧ isLeadingIndicator x [] = false ∧ x ≠ ' ' :=
    List.all_iff_forall_prop.mp (by decide)
  obtain ⟨c, rest, htext, hrest, hc⟩ := exists_digits i
  rw [htext]
  have hall : rest.all isQuiet = true :=
    List.all_eq_true.mpr fun x hx => (of_isPlainDigit hquiet (hrest x hx)).1
  obtain hc | ⟨rfl, hne⟩ := hc
  · obtain ⟨hfirst, hdash, hpoint, hlead, -⟩ := of_isPlainDigit hquiet hc
    refine isPlainText_of_quiet (by simp [hfirst, hall]) ?_ ?_
    · rw [isLeadingIndicator, Bool.or_eq_false_iff] at hlead ⊢
      simp only [List.isEmpty_nil, Bool.true_or, Bool.and_true] at hlead
      rw [hlead.2, Bool.false_and]
      exact ⟨hlead.1, rfl⟩
    · simp [StartsWithMark, hdash, hpoint]
  · obtain ⟨d, ds, rfl⟩ := List.exists_cons_of_ne_nil hne
    obtain ⟨-, hdash, -, -, hspace⟩ := of_isPlainDigit hquiet (hrest d List.mem_cons_self)
    refine isPlainText_of_quiet (by rw [List.all_cons, hall]; decide) ?_ ?_
    · simp [isLeadingIndicator, leadingIndicators, hspace]
    · simp [StartsWithMark, hdash]

theorem isPlainText_bool (b : Bool) : isPlainText (boolText b) = true := by
  cases b <;> decide

theorem isPlainText_null : isPlainText "null".toList = true := by decide

/-! ## the tag -/

theorem isDigitOr_of_isPlainDigit {x : Char} (h : Integer.isPlainDigit x = true) :
    Tag.isDigitOr_ x = true := by
  rw [Tag.isDigitOr_, h, Bool.true_or]

/-- What is made of digits has no point. -/
theorem isPointed_toDigits (n : Nat) : Tag.isPointed (Nat.toDigits 10 n) = false := by
  obtain ⟨d, ds, hds, hd, hdigits⟩ := exists_toDigits n
  have hrest : ds.dropWhile Tag.isDigitOr_ = [] :=
    List.dropWhile_eq_nil_iff.mpr fun x hx => isDigitOr_of_isPlainDigit (hdigits x hx)
  rw [hds, Tag.isPointed, Tag.afterNumber?, if_pos hd, hrest]
  rfl

/-- A numeral is an integer of radix ten, or zero. -/
theorem isInt_toDigits (n : Nat) : Tag.isInt (Nat.toDigits 10 n) = true := by
  obtain hzero | ⟨d, ds, hds, hlow, hhigh⟩ := toDigits_cases n
  · rw [hzero]
    decide
  · have hdigits : ds.all Tag.isDigitOr_ = true :=
      List.all_eq_true.mpr fun x hx => isDigitOr_of_isPlainDigit
        (isPlainDigit_of_mem_toDigits (hds ▸ List.mem_cons_of_mem d hx))
    have hnine : ∀ x ∈ "123456789".toList, Tag.isInt (x :: ds) = true := by
      simp [Tag.isInt, Tag.unsigned, hdigits]
    rw [hds]
    exact hnine d (mem_nine hlow hhigh)

/-- A numeral is a sign or nothing, and digits. -/
theorem exists_sign (i : Int) : ∃ sign, (sign = [] ∨ sign = ['-']) ∧
    (toString i).toList = sign ++ Nat.toDigits 10 i.natAbs := by
  rw [toList_toString_int]
  by_cases h : i < 0
  · exact ⟨['-'], .inr rfl, by rw [if_pos h]⟩
  · exact ⟨[], .inl rfl, by rw [if_neg h]⟩

/-- Numerals end in digits. -/
theorem getLast?_numeral (sign : List Char) (n : Nat) :
    (sign ++ Nat.toDigits 10 n).getLast? ≠ some '\n' := by
  rw [List.getLast?_append_of_ne_nil sign Nat.toDigits_ne_nil]
  intro h
  have := isPlainDigit_of_mem_toDigits (List.mem_of_getLast? h)
  cases this

section Sign

variable {sign : List Char} (hsign : sign = [] ∨ sign = ['-']) (n : Nat)

include hsign

theorem unsigned_numeral : Tag.unsigned (sign ++ Nat.toDigits 10 n) = Nat.toDigits 10 n := by
  obtain rfl | rfl := hsign
  · obtain ⟨d, ds, hds, hd, -⟩ := exists_toDigits n
    have hten : ∀ x ∈ "0123456789".toList, Tag.unsigned (x :: ds) = x :: ds := by
      simp [Tag.unsigned]
    rw [List.nil_append, hds]
    exact of_isPlainDigit hten hd
  · rfl

/-- What a numeral starts with. -/
theorem exists_head_numeral :
    ∃ x ∈ "-0123456789".toList, ∃ rest, sign ++ Nat.toDigits 10 n = x :: rest := by
  obtain rfl | rfl := hsign
  · obtain ⟨d, ds, hds, hd, -⟩ := exists_toDigits n
    have hmem : ∀ x ∈ "0123456789".toList, x ∈ "-0123456789".toList :=
      fun x hx => List.mem_cons_of_mem '-' hx
    exact ⟨d, of_isPlainDigit hmem hd, ds, hds⟩
  · exact ⟨'-', by decide, _, rfl⟩

/-- No word starts like a numeral. -/
theorem any_word_eq_false {words : List String}
    (hwords : ∀ x ∈ "-0123456789".toList, ∀ w ∈ words, w.toList.head? ≠ some x) :
    words.any (fun w => w.toList == sign ++ Nat.toDigits 10 n) = false := by
  rw [List.any_eq_false]
  intro w hw h
  obtain ⟨x, hx, rest, hnumeral⟩ := exists_head_numeral hsign n
  refine hwords x hx w hw ?_
  rw [eq_of_beq h, hnumeral]
  rfl

theorem isFloat_numeral : Tag.isFloat (sign ++ Nat.toDigits 10 n) = false := by
  have hheads : ∀ x ∈ "-0123456789".toList,
      (∀ w ∈ [".inf", ".Inf", ".INF"], w.toList.head? ≠ some x) ∧
        ∀ w ∈ [".nan", ".NaN", ".NAN"], w.toList.head? ≠ some x :=
    List.all_iff_forall_prop.mp (by decide)
  have hdigits := any_word_eq_false (.inl rfl) n fun x hx => (hheads x hx).1
  have hwords := any_word_eq_false hsign n fun x hx => (hheads x hx).2
  obtain ⟨x, hx, rest, hnumeral⟩ := exists_head_numeral hsign n
  have hpoint : ∀ rest, sign ++ Nat.toDigits 10 n ≠ '.' :: rest := by
    intro rest' h
    rw [hnumeral] at h
    obtain ⟨rfl, -⟩ := List.cons.inj h
    revert hx
    decide
  rw [List.nil_append] at hdigits
  rw [Tag.isFloat, unsigned_numeral hsign, isPointed_toDigits, hdigits, hwords]
  · rfl
  · exact hpoint

end Sign

/-- Neither words nor points nor anything behind them start like a numeral. -/
theorem ofPlain_int (i : Int) : Tag.ofPlain (toString i).toList = .int := by
  obtain ⟨sign, hsign, htext⟩ := exists_sign i
  have hbreak : Tag.dropLastBreak (sign ++ Nat.toDigits 10 i.natAbs)
      = sign ++ Nat.toDigits 10 i.natAbs := by
    rw [Tag.dropLastBreak, if_neg fun h => getLast?_numeral _ _ h.2]
  have hempty : (sign ++ Nat.toDigits 10 i.natAbs).isEmpty = false := by
    obtain ⟨x, -, rest, hnumeral⟩ := exists_head_numeral hsign i.natAbs
    rw [hnumeral]
    rfl
  have hbool : Tag.boolWords.contains (sign ++ Nat.toDigits 10 i.natAbs) = false := by
    obtain ⟨x, hx, rest, hnumeral⟩ := exists_head_numeral hsign i.natAbs
    have hhead : ∀ x ∈ "-0123456789".toList, ∀ w ∈ Tag.boolWords, w.head? ≠ some x :=
      List.all_iff_forall_prop.mp (by decide)
    rw [List.contains_eq_mem, decide_eq_false_iff_not, hnumeral]
    exact fun h => hhead x hx _ h rfl
  have hint : Tag.isInt (sign ++ Nat.toDigits 10 i.natAbs) = true := by
    have hdigits := isInt_toDigits i.natAbs
    have hself := unsigned_numeral (.inl rfl) i.natAbs
    rw [List.nil_append] at hself
    rwa [Tag.isInt, hself, ← unsigned_numeral hsign, ← Tag.isInt] at hdigits
  rw [htext, Tag.ofPlain, hbreak, hempty, hbool, isFloat_numeral hsign, hint]
  rfl

theorem ofPlain_bool (b : Bool) : Tag.ofPlain (boolText b) = .bool := by
  cases b <;> decide +kernel

theorem ofPlain_null : Tag.ofPlain "null".toList = .null := by decide +kernel

/-! ## the value -/

theorem read_null (text : List Char) : Tag.read .null text = .ok .null := rfl

theorem read_text (s : String) : Tag.read .text s.toList = .ok (.text s) := by
  show Except.ok (Scalar.text (String.ofList s.toList)) = _
  rw [String.ofList_toList]

theorem read_bool (b : Bool) : Tag.read .bool (boolText b) = .ok (.bool b) := by
  cases b <;> decide +kernel

/-- Digits without anything between them are read one by one. -/
theorem groupedDigits_digits {cs : List Char} (hne : cs ≠ [])
    (h : ∀ x ∈ cs, Integer.isPlainDigit x = true) :
    Integer.groupedDigits .decimal cs = some (cs.map fun c => c.toNat - 48) := by
  have hdigit : ∀ x ∈ "0123456789".toList,
      Integer.Radix.decimal.digit? x = some (x.toNat - 48) ∧ x ≠ '_' :=
    List.all_iff_forall_prop.mp (by decide)
  induction cs with
  | nil => exact absurd rfl hne
  | cons c cs ih =>
      obtain ⟨hc, -⟩ := of_isPlainDigit hdigit (h c List.mem_cons_self)
      cases cs with
      | nil => simp [Integer.groupedDigits, hc]
      | cons d ds =>
          have hrest := ih (List.cons_ne_nil d ds) fun x hx => h x (List.mem_cons_of_mem c hx)
          obtain ⟨-, hmark⟩ :=
            of_isPlainDigit hdigit (h d (List.mem_cons_of_mem c List.mem_cons_self))
          unfold Integer.groupedDigits
          split
          · next hnone => rw [hc] at hnone; cases hnone
          · next hlast => cases hlast
          · next hgroup => exact absurd (List.cons.inj hgroup).1 hmark
          · next hsome _ _ => rw [← Option.some.inj (hc.symm.trans hsome), hrest]; rfl

/-- White space has no place in a numeral. -/
theorem trim_digits {cs : List Char} (h : ∀ x ∈ cs, Integer.isPlainDigit x = true) :
    Text.trim Text.isWhite cs = cs := by
  have hwhite : ∀ x ∈ "0123456789".toList, Text.isWhite x = false :=
    List.all_iff_forall_prop.mp (by decide)
  have hkeep (ds : List Char) (hds : ∀ x ∈ ds, Integer.isPlainDigit x = true) :
      ds.dropWhile Text.isWhite = ds := by
    cases ds with
    | nil => rfl
    | cons d ds =>
        have hd : Text.isWhite d = false := of_isPlainDigit hwhite (hds d List.mem_cons_self)
        rw [List.dropWhile_cons_of_neg (by simp [hd])]
  rw [Text.trim, hkeep cs h, Text.trimEnd, hkeep _ fun x hx => h x (List.mem_reverse.mp hx),
    List.reverse_reverse]

/-- The digits of a numeral are read as its value. -/
theorem unsignedInt_toDigits {n : Nat} (h : (Nat.toDigits 10 n).length ≤ Integer.digitLimit) :
    unsignedInt (Nat.toDigits 10 n) = .ok n := by
  have hvalue := digitsValue_toDigits n
  obtain hzero | ⟨d, ds, hds, hlow, hhigh⟩ := toDigits_cases n
  · rw [hzero] at hvalue ⊢
    rw [← hvalue]
    rfl
  · have hdigits {x : Char} (hx : x ∈ d :: ds) : Integer.isPlainDigit x = true :=
      isPlainDigit_of_mem_toDigits (hds ▸ hx)
    have hcolon : (d :: ds).contains ':' = false := by
      rw [List.contains_eq_mem, decide_eq_false_iff_not]
      exact fun hx => absurd (hdigits hx) (by decide)
    have hunsigned : ∀ x ∈ "123456789".toList, Integer.splitSign (x :: ds) = (false, x :: ds) ∧
        x ≠ '0' := by simp [Integer.splitSign]
    obtain ⟨hsplit, hnotZero⟩ := hunsigned d (mem_nine hlow hhigh)
    have hgrouped : Integer.grouped .decimal (d :: ds) = .ok n := by
      rw [Integer.grouped, trim_digits fun x hx => hdigits hx, hsplit]
      have hmark : Integer.dropMark .decimal (d :: ds) = d :: ds := rfl
      rw [hds] at h hvalue
      simp only [hmark, groupedDigits_digits (List.cons_ne_nil d ds) fun x hx => hdigits hx,
        List.length_map, Nat.not_lt.mpr h, and_false, if_false]
      rw [show Integer.Radix.decimal.base = 10 from rfl, hvalue]
      rfl
    rw [hds, unsignedInt]
    · rw [hcolon, intOf, hgrouped]
      rfl
    all_goals simp [hnotZero]

/-- An integer that can be printed is read from its numeral. -/
theorem read_int {i : Int} (h : Integer.isPrintable i = true) :
    Tag.read .int (toString i).toList = .ok (.int i) := by
  have hlength : (Nat.toDigits 10 i.natAbs).length ≤ Integer.digitLimit := by
    rw [← Nat.toList_repr, String.length_toList]
    exact of_decide_eq_true h
  have hplain : withoutUnderscores (toString i).toList = (toString i).toList := by
    obtain ⟨sign, hsign, htext⟩ := exists_sign i
    rw [withoutUnderscores, List.filter_eq_self, htext]
    intro x hx
    obtain hx | hx := List.mem_append.mp hx
    · obtain rfl | rfl := hsign
      · cases hx
      · rw [List.mem_singleton.mp hx]
        rfl
    · have hmark : ∀ d ∈ "0123456789".toList, (d != '_') = true :=
        List.all_iff_forall_prop.mp (by decide)
      exact of_isPlainDigit hmark (isPlainDigit_of_mem_toDigits hx)
  have hvalue : toInt (toString i).toList = .ok i := by
    rw [toInt, hplain, toList_toString_int]
    by_cases hneg : i < 0
    · rw [if_pos hneg]
      have habs : -(i.natAbs : Int) = i := by omega
      simp only [List.singleton_append, unsignedInt_toDigits hlength, Except.map, habs]
    · rw [if_neg hneg, List.nil_append]
      have habs : (i.natAbs : Int) = i := by omega
      have hdigits := unsignedInt_toDigits hlength
      obtain ⟨d, ds, hds, hd, -⟩ := exists_toDigits i.natAbs
      rw [hds] at hdigits ⊢
      rw [habs] at hdigits
      split
      · next hempty => cases hempty
      · next hsign => rw [(List.cons.inj hsign).1] at hd; cases hd
      · next hsign => rw [(List.cons.inj hsign).1] at hd; cases hd
      · exact hdigits
  rw [Tag.read, hvalue]
  rfl

end ControlPlane.Yaml
