import ControlPlane.Proofs.Reload.QuotedScalars
import Mathlib.Data.List.Basic

/-!
# Double quotes

In double quotes every character is written as itself or as an escape, and a line is split by a
backslash at its end.  An escape is read as its character (`escapeAt_escape`), and a split as
nothing, so that a text is read as it was before (`readsTo_doubleFrom`).  That takes lines that are
indented less than the line width: otherwise a line could be split right behind the backslash that
stands in front of a space.
-/

namespace ControlPlane.Yaml

/-! ## escapes -/

theorem radixValue?_hexChar {d : Nat} (h : d < 16) :
    Text.radixValue? 16 (Text.hexChar .upper d) = some d := by
  have : ∀ d < 16, Text.radixValue? 16 (Text.hexChar .upper d) = some d := by decide
  exact this d h

theorem lt_of_mem_hexValues {width n d : Nat} (h : d ∈ Text.hexValues width n) : d < 16 := by
  induction width generalizing n with
  | zero => cases h
  | succ width ih =>
      rw [Text.hexValues, List.mem_append, List.mem_singleton] at h
      obtain h | rfl := h
      · exact ih h
      · exact Nat.mod_lt _ (by decide)

theorem toNat_le (x : Char) : x.toNat ≤ 0x10FFFF := by
  have := x.valid
  simp only [Char.toNat, UInt32.isValidChar, Nat.isValidChar] at *
  omega

/-- The digits of a code point are read as its character. -/
theorem codePoint_hexText {width : Nat} {x : Char} (h : x.toNat < Nat.pow 16 width) :
    codePoint (Text.hexText .upper width x.toNat) = .ok x := by
  have hvalues : (Text.hexText .upper width x.toNat).filterMap (Text.radixValue? 16)
      = Text.hexValues width x.toNat := by
    rw [Text.hexText, List.filterMap_map]
    refine (List.filterMap_congr fun d hd => ?_).trans List.filterMap_some
    exact radixValue?_hexChar (lt_of_mem_hexValues hd)
  have hlimit := toNat_le x
  rw [codePoint, hvalues, Text.digitsValue_hexValues h]
  simp [Nat.not_lt.mpr hlimit, Nat.not_lt.mpr (Nat.le_trans hlimit (by decide : _ ≤ 0x7FFFFFFF)),
    Char.ofNat_toNat]

/-- The escapes by a letter. -/
theorem escapeLetter?_of_mem : ∀ e ∈ escapeLetters, escapeLetter? e.2 = some (Char.ofNat e.1) := by
  decide

/-- A code point is read behind the letter that asks for as many digits. -/
theorem escapeAt_hexText {width : Nat} {letter x : Char} {rest : List Char} {c : Cursor}
    (hletter : escapeLetter? letter = none) (hwidth : escapeWidth? letter = some width)
    (hx : x.toNat < Nat.pow 16 width)
    (hc : c.rest = '\\' :: letter :: (Text.hexText .upper width x.toNat ++ rest)) :
    escapeAt c.next = .ok ([x], c.skip (2 + width)) := by
  have hnext : c.next.rest = letter :: (Text.hexText .upper width x.toNat ++ rest) := by
    rw [Cursor.rest_next, hc]
    rfl
  have hdigits : c.next.next.rest.take width = Text.hexText .upper width x.toNat := by
    rw [Cursor.rest_next, hnext]
    exact List.take_left' (Text.length_hexText _ _ _)
  have hchar : c.next.char? = some letter := by rw [Cursor.char?, hnext]; rfl
  rw [escapeAt, hchar]
  simp only [hletter, hwidth, hdigits, Text.length_hexText, Nat.lt_irrefl, if_false,
    codePoint_hexText hx, Except.map]
  rw [Cursor.skip_add]
  rfl

/-- An escape is read as its character, up to its end. -/
theorem escapeAt_escape {x : Char} {rest : List Char} {c : Cursor}
    (hc : c.rest = escape x ++ rest) :
    escapeAt c.next = .ok ([x], c.skip (escape x).length) := by
  unfold escape at hc ⊢
  split at hc
  · next e he =>
    obtain ⟨hmem, hcode⟩ := And.intro (List.mem_of_find?_eq_some he) (List.find?_some he)
    have hletter : escapeLetter? e.2 = some x := by
      rw [escapeLetter?_of_mem e hmem, eq_of_beq hcode, Char.ofNat_toNat]
    have hchar : c.next.char? = some e.2 := by rw [Cursor.char?, Cursor.rest_next, hc]; rfl
    rw [escapeAt, hchar]
    simp only [hletter]
    rfl
  · split at hc
    · next hsmall =>
      rw [if_pos hsmall]
      have hx : x.toNat < Nat.pow 16 2 := Nat.lt_succ_of_le hsmall
      simpa using escapeAt_hexText (by decide) rfl hx hc
    · next hsmall =>
      rw [if_neg hsmall]
      split at hc
      · next hmiddle =>
        rw [if_pos hmiddle]
        have hx : x.toNat < Nat.pow 16 4 := Nat.lt_succ_of_le hmiddle
        simpa using escapeAt_hexText (by decide) rfl hx hc
      · next hmiddle =>
        rw [if_neg hmiddle]
        have hx : x.toNat < Nat.pow 16 8 := Nat.lt_of_le_of_lt (toNat_le x) (by decide)
        simpa using escapeAt_hexText (by decide) rfl hx hc

/-! ## pieces -/

section Pieces

variable {c : Cursor}

/-- An escape is read at once. -/
theorem quotedRound_escape {x : Char} {rest : List Char} (hc : c.rest = escape x ++ rest) :
    quotedRound true c = .ok (.piece [x] (c.skip (escape x).length)) := by
  have hchar : c.char? = some '\\' := by
    rw [Cursor.char?, hc, escape]
    split <;> [rfl; (split <;> [rfl; (split <;> rfl)])]
  rw [quotedRound, hchar, escapeAt_escape hc]
  rfl

/-- So is a space behind a backslash. -/
theorem quotedRound_slashSpace {rest : List Char} (hc : c.rest = '\\' :: ' ' :: rest) :
    quotedRound true c = .ok (.piece [' '] (c.skip 2)) := by
  have hchar : c.char? = some '\\' := by rw [Cursor.char?, hc]; rfl
  have hnext : c.next.char? = some ' ' := by rw [Cursor.char?, Cursor.rest_next, hc]; rfl
  rw [quotedRound, hchar, escapeAt, hnext]
  rfl

/-- A split stands for nothing. -/
theorem quotedRound_split {indent : Nat} {y : Char} {rest : List Char}
    (hc : c.rest = '\\' :: (newLine indent ++ y :: rest)) (hindent : 0 < indent)
    (hy : isAscii y = true) (hspace : y ≠ ' ') :
    quotedRound true c = .ok (.piece [] (c.skip (indent + 2))) := by
  have hchar : c.char? = some '\\' := by rw [Cursor.char?, hc]; rfl
  have hfeed : c.next.rest = '\n' :: (spaces indent ++ y :: rest) := by
    rw [Cursor.rest_next, hc]
    rfl
  have hnext : c.next.char? = some '\n' := by rw [Cursor.char?, hfeed]; rfl
  have hline : c.next.next.rest = List.replicate 0 '\n' ++ (spaces indent ++ y :: rest) := by
    rw [Cursor.rest_next, hfeed]
    rfl
  have hbreaks : quotedBreaks (c.next.next.rest.length + 1) [] c.next.next
      = .ok ([] ++ List.replicate 0 '\n', c.next.next.skip (0 + indent)) :=
    quotedBreaks_feeds hline hindent hy hspace (Nat.succ_pos _)
  have hescape : escapeAt c.next = .ok ([], c.skip (indent + 2)) := by
    rw [escapeAt, hnext]
    simp only [Cursor.lineBreak_feed hfeed, hbreaks]
    rw [Nat.zero_add]
    rfl
  rw [quotedRound, hchar, hescape]
  rfl

/-- A single quote is read alone. -/
theorem quotedRound_single {rest : List Char} (hc : c.rest = '\'' :: rest) :
    quotedRound true c = .ok (.piece ['\''] c.next) := by
  have hchar : c.char? = some '\'' := by rw [Cursor.char?, hc]; rfl
  rw [quotedRound, hchar, hc]
  rfl

/-- A double quote ends the text. -/
theorem quotedRound_ends_double {rest : List Char} (hc : c.rest = '"' :: rest) :
    quotedRound true c = .ok (.ends c.next) := by
  have hchar : c.char? = some '"' := by rw [Cursor.char?, hc]; rfl
  rw [quotedRound, hchar]
  rfl

end Pieces

/-! ## texts -/

section Text

variable {fold : Bool} {indent : Nat}

theorem isAscii_of_isUnescaped {x : Char} (h : isUnescaped x = true) :
    isAscii x = true ∧ x ≠ '"' ∧ x ≠ '\\' := by
  simp only [isUnescaped, Bool.and_eq_true, bne_iff_ne] at h
  exact ⟨Bool.and_eq_true_iff.mpr h.1.1, h.1.2, h.2⟩

theorem exists_escape_eq_cons (x : Char) : ∃ rest, escape x = '\\' :: rest := by
  unfold escape
  split
  · exact ⟨_, rfl⟩
  · split
    · exact ⟨_, rfl⟩
    · split <;> exact ⟨_, rfl⟩

/-- Behind the spaces that a text starts with comes something visible, be it the closing quote. -/
theorem exists_visible_doubleFrom (fold : Bool) (indent : Nat) (cs : List Char)
    (first fresh : Bool) (column : Nat) (tail : List Char) :
    ∃ n y rest, doubleFrom fold indent first fresh column cs ++ '"' :: tail
        = spaces n ++ y :: rest ∧ isAscii y = true ∧ y ≠ ' ' ∧ (cs.head? ≠ some ' ' → n = 0) := by
  induction cs generalizing first fresh column with
  | nil => exact ⟨0, '"', tail, rfl, by decide, by decide, fun _ => rfl⟩
  | cons x cs ih =>
      have hslash {w rest : List Char} (h : w = '\\' :: rest) : ∃ n y rest,
          w ++ '"' :: tail = spaces n ++ y :: rest ∧ isAscii y = true ∧ y ≠ ' ' ∧
            ((x :: cs).head? ≠ some ' ' → n = 0) :=
        ⟨0, '\\', rest ++ '"' :: tail, by rw [h]; rfl, by decide, by decide, fun _ => rfl⟩
      obtain ⟨digits, hescape⟩ := exists_escape_eq_cons x
      rw [doubleFrom]
      split
      · next hx =>
        split
        · exact hslash rfl
        · by_cases hspace : x = ' '
          · obtain ⟨n, y, rest, hrest, hascii, hy, -⟩ := ih false false (column + 1)
            refine ⟨n + 1, y, rest, ?_, hascii, hy, fun h => absurd (by rw [hspace]; rfl) h⟩
            rw [List.cons_append, hrest, hspace]
            rfl
          · exact ⟨0, x, _, rfl, (isAscii_of_isUnescaped hx).1, hspace, fun _ => rfl⟩
      · simp only [hescape]
        split <;> exact hslash rfl

section Reading

variable {before tail : List Char} {c : Cursor}

/-- A character that is written as it is, is read so. -/
theorem readsTo_unescaped {x : Char} {cs written : List Char} (hx : isUnescaped x = true)
    (hc : c.rest = x :: (written ++ '"' :: tail))
    (hvisible : ∃ n y rest, written ++ '"' :: tail = spaces n ++ y :: rest ∧ isAscii y = true ∧
      y ≠ ' ')
    (h : ReadsTo true (before ++ [x]) c.next
      (before ++ [x] ++ cs, c.next.skip (written.length + 1))) :
    ReadsTo true before c (before ++ x :: cs, c.skip (written.length + 2)) := by
  obtain ⟨hascii, hdouble, hslash⟩ := isAscii_of_isUnescaped hx
  obtain ⟨n, y, rest, hrest, hy, hspace⟩ := hvisible
  rw [List.append_assoc] at h
  by_cases hblank : x = ' '
  · subst hblank
    exact h.space (hrest ▸ hc) hy hspace
  · by_cases hsingle : x = '\''
    · subst hsingle
      refine h.piece (quotedRound_single hc) ?_
      rw [Cursor.rest_next, hc]
      exact Nat.lt_succ_self _
    · exact h.char hc (isQuotedRun_of_isAscii hascii hblank hsingle ⟨hslash, hdouble⟩)

theorem splitLine_space : splitLine indent (some ' ') = '\\' :: (newLine indent ++ ['\\']) := rfl

theorem splitLine_of_ne {next : Option Char} (h : next ≠ some ' ') :
    splitLine indent next = '\\' :: newLine indent := by
  rw [splitLine, if_neg h, List.append_nil]

theorem rest_skip_split {rest : List Char} (hc : c.rest = '\\' :: (newLine indent ++ rest)) :
    (c.skip (indent + 2)).rest = rest := by
  rw [Cursor.rest_skip, hc, ← List.cons_append]
  have hlength : ('\\' :: newLine indent).length = indent + 2 := by simp [newLine]
  exact List.drop_left' hlength

/-- Reading goes on behind a split. -/
theorem ReadsTo.split {y : Char} {rest more : List Char} {m count : Nat}
    (h : ReadsTo true before (c.skip (indent + 2)) (before ++ more, (c.skip (indent + 2)).skip m))
    (hc : c.rest = '\\' :: (newLine indent ++ y :: rest)) (hindent : 0 < indent)
    (hy : isAscii y = true) (hspace : y ≠ ' ') (hcount : count = indent + 2 + m) :
    ReadsTo true before c (before ++ more, c.skip count) := by
  have hround := quotedRound_split hc hindent hy hspace
  rw [← List.nil_append more]
  exact ReadsTo.behind (by rwa [List.append_nil]) hround (Nat.succ_pos _) hcount

/-- Reading goes on behind an escape. -/
theorem ReadsTo.escape {x : Char} {rest more : List Char} {m count : Nat}
    (h : ReadsTo true (before ++ [x]) (c.skip (escape x).length)
      (before ++ [x] ++ more, (c.skip (escape x).length).skip m))
    (hc : c.rest = Yaml.escape x ++ rest) (hcount : count = (Yaml.escape x).length + m) :
    ReadsTo true before c (before ++ x :: more, c.skip count) := by
  refine h.behind (quotedRound_escape hc) ?_ hcount
  obtain ⟨digits, hescape⟩ := exists_escape_eq_cons x
  rw [hescape]
  exact Nat.succ_pos _

end Reading

/-! ## the rest of a text -/

/-- The written rest of a text is read as it was before, wherever it is written. -/
def ReadsBack (fold : Bool) (indent : Nat) (tail cs : List Char) : Prop :=
  ∀ (first fresh : Bool) (column : Nat) (before : List Char) (c : Cursor),
    c.rest = doubleFrom fold indent first fresh column cs ++ '"' :: tail →
    ReadsTo true before c
      (before ++ cs, c.skip ((doubleFrom fold indent first fresh column cs).length + 1))

/-- So it is behind a backslash, if it starts with a space. -/
def ReadsBackSpace (fold : Bool) (indent : Nat) (tail cs : List Char) : Prop :=
  cs.head? = some ' ' → ∀ (column : Nat) (before : List Char) (c : Cursor), column ≤ lineWidth →
    c.rest = '\\' :: (doubleFrom fold indent false true column cs ++ '"' :: tail) →
    ReadsTo true before c
      (before ++ cs, c.skip ((doubleFrom fold indent false true column cs).length + 2))

section ReadsBack

variable {tail cs before : List Char} {c : Cursor} {column : Nat} {x : Char}

theorem ReadsBack.unescaped (h : ReadsBack fold indent tail cs) (hx : isUnescaped x = true)
    (hc : c.rest = x :: (doubleFrom fold indent false false column cs ++ '"' :: tail)) :
    ReadsTo true before c
      (before ++ x :: cs, c.skip ((doubleFrom fold indent false false column cs).length + 2)) := by
  obtain ⟨n, y, rest, hrest, hy, hspace, -⟩ :=
    exists_visible_doubleFrom fold indent cs false false column tail
  have hnext : c.next.rest = doubleFrom fold indent false false column cs ++ '"' :: tail := by
    rw [Cursor.rest_next, hc]
    rfl
  exact readsTo_unescaped hx hc ⟨n, y, rest, hrest, hy, hspace⟩ (h _ _ _ _ _ hnext)

theorem ReadsBack.slashSpace (h : ReadsBack fold indent tail cs)
    (hc : c.rest = '\\' :: ' ' :: (doubleFrom fold indent false false column cs ++ '"' :: tail)) :
    ReadsTo true before c
      (before ++ ' ' :: cs, c.skip ((doubleFrom fold indent false false column cs).length + 3)) := by
  have hrest : (c.skip 2).rest = doubleFrom fold indent false false column cs ++ '"' :: tail := by
    rw [Cursor.rest_skip, hc]
    rfl
  refine (h _ _ _ _ _ hrest).behind (quotedRound_slashSpace hc) Nat.two_pos ?_
  omega

/-- A split in front of a character that is written as it is. -/
theorem ReadsBack.splitBefore (h : ReadsBack fold indent tail cs) (hindent : 0 < indent)
    (hx : isUnescaped x = true)
    (hc : c.rest = splitLine indent (some x)
      ++ x :: (doubleFrom fold indent false false column cs ++ '"' :: tail)) :
    ReadsTo true before c (before ++ x :: cs, c.skip ((splitLine indent (some x)).length
      + (doubleFrom fold indent false false column cs).length + 2)) := by
  by_cases hspace : x = ' '
  · subst hspace
    have hline : c.rest = '\\' :: (newLine indent ++ '\\' :: ' ' ::
        (doubleFrom fold indent false false column cs ++ '"' :: tail)) := by
      rw [hc, splitLine_space]
      simp
    refine (h.slashSpace (rest_skip_split hline)).split hline hindent (by decide) (by decide) ?_
    rw [splitLine_space]
    simp [newLine]
    omega
  · have hnext : some x ≠ some ' ' := by simpa using hspace
    have hline : c.rest = '\\' :: (newLine indent ++
        x :: (doubleFrom fold indent false false column cs ++ '"' :: tail)) := by
      rw [hc, splitLine_of_ne hnext]
      simp
    refine (h.unescaped hx (rest_skip_split hline)).split hline hindent
      (isAscii_of_isUnescaped hx).1 hspace ?_
    rw [splitLine_of_ne hnext]
    simp [newLine]
    omega

/-- A split behind an escape. -/
theorem ReadsBack.splitBehind (h : ReadsBack fold indent tail cs)
    (hspaced : ReadsBackSpace fold indent tail cs) (hindent : 0 < indent)
    (hwidth : indent < lineWidth)
    (hc : c.rest = splitLine indent cs.head?
      ++ (doubleFrom fold indent false true (splitColumn indent cs.head?) cs ++ '"' :: tail)) :
    ReadsTo true before c (before ++ cs, c.skip ((splitLine indent cs.head?).length
      + (doubleFrom fold indent false true (splitColumn indent cs.head?) cs).length + 1)) := by
  by_cases hspace : cs.head? = some ' '
  · rw [hspace] at hc ⊢
    have hcolumn : splitColumn indent (some ' ') ≤ lineWidth := by
      rw [splitColumn, if_pos rfl]
      exact hwidth
    have hline : c.rest = '\\' :: (newLine indent ++ '\\' ::
        (doubleFrom fold indent false true (splitColumn indent (some ' ')) cs ++ '"' :: tail)) := by
      rw [hc, splitLine_space]
      simp
    refine (hspaced hspace _ _ _ hcolumn (rest_skip_split hline)).split hline hindent (by decide)
      (by decide) ?_
    rw [splitLine_space]
    simp [newLine]
    omega
  · obtain ⟨n, y, rest, hrest, hy, hvisible, hn⟩ :=
      exists_visible_doubleFrom fold indent cs false true (splitColumn indent cs.head?) tail
    obtain rfl := hn hspace
    have hline : c.rest = '\\' :: (newLine indent ++
        (doubleFrom fold indent false true (splitColumn indent cs.head?) cs ++ '"' :: tail)) := by
      rw [hc, splitLine_of_ne hspace]
      simp
    have hvisibleLine := hline
    rw [hrest] at hvisibleLine
    refine (h _ _ _ _ _ (rest_skip_split hline)).split hvisibleLine hindent hy hvisible ?_
    rw [splitLine_of_ne hspace]
    simp [newLine]
    omega

/-- A space at the start of a line is not in front of another split. -/
theorem ReadsBack.space_cons (h : ReadsBack fold indent tail cs) :
    ReadsBackSpace fold indent tail (x :: cs) := by
  intro hhead column before c hcolumn hc
  obtain rfl : x = ' ' := by simpa using hhead
  have hnoSplit : ¬ (fold && !false && !cs.isEmpty && (' ' == ' ' || true) &&
      decide (lineWidth < column)) = true := by simp [Nat.not_lt.mpr hcolumn]
  rw [doubleFrom, if_pos (by decide), if_neg hnoSplit] at hc ⊢
  exact h.slashSpace hc

theorem ReadsBack.cons (h : ReadsBack fold indent tail cs)
    (hspaced : ReadsBackSpace fold indent tail cs) (hindent : 0 < indent)
    (hwidth : indent < lineWidth) : ReadsBack fold indent tail (x :: cs) := by
  intro first fresh column before c hc
  rw [doubleFrom] at hc ⊢
  by_cases hx : isUnescaped x = true
  · rw [if_pos hx] at hc ⊢
    split at hc
    · next hsplit =>
      rw [if_pos hsplit]
      rw [List.append_assoc, List.cons_append] at hc
      rw [List.length_append, List.length_cons]
      exact h.splitBefore hindent hx hc
    · next hsplit =>
      rw [if_neg hsplit]
      exact h.unescaped hx hc
  · rw [if_neg hx] at hc ⊢
    dsimp only at hc ⊢
    have hbehind {written : List Char} (hwritten : c.rest = escape x ++ written) :
        (c.skip (escape x).length).rest = written := by
      rw [Cursor.rest_skip, hwritten, List.drop_left]
    split at hc
    · next hsplit =>
      rw [if_pos hsplit]
      rw [List.append_assoc, List.append_assoc] at hc
      refine (h.splitBehind hspaced hindent hwidth (hbehind hc)).escape hc ?_
      rw [List.length_append, List.length_append]
      omega
    · next hsplit =>
      rw [if_neg hsplit]
      rw [List.append_assoc] at hc
      refine (h _ _ _ _ _ (hbehind hc)).escape hc ?_
      rw [List.length_append, Nat.add_assoc]

/-- A split in front of a space puts a backslash there, so both statements go together. -/
theorem readsBack (hindent : 0 < indent) (hwidth : indent < lineWidth) (cs : List Char) :
    ReadsBack fold indent tail cs ∧ ReadsBackSpace fold indent tail cs := by
  induction cs with
  | nil =>
      refine ⟨fun _ _ _ before c hc => ?_, fun hhead => by cases hhead⟩
      rw [List.append_nil]
      exact readsTo_ends (quotedRound_ends_double hc)
  | cons x cs ih => exact ⟨ih.1.cons ih.2 hindent hwidth, ih.1.space_cons⟩

/-- A text in double quotes is read as it was before, however its lines are split. -/
theorem readsTo_doubleFrom (hindent : 0 < indent) (hwidth : indent < lineWidth)
    {first fresh : Bool}
    (hc : c.rest = doubleFrom fold indent first fresh column cs ++ '"' :: tail) :
    ReadsTo true before c
      (before ++ cs, c.skip ((doubleFrom fold indent first fresh column cs).length + 1)) :=
  (readsBack hindent hwidth cs).1 _ _ _ _ _ hc

end ReadsBack

end Text

end ControlPlane.Yaml
