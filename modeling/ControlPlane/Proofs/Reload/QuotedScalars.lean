import ControlPlane.Proofs.Reload.Passing
import ControlPlane.Yaml.Lexeme

/-!
# Quoted scalars

Reading a quoted scalar takes rounds (`quotedRound`), each of which passes a run of characters,
blanks, line breaks or an escape.  `ReadsTo` says how reading ends without the number of rounds, so
that a text can be gone through character by character although runs are read at once.  Texts in
single quotes are read as they were before, however their lines are folded (`readsBackFolded`).
-/

namespace ControlPlane.Yaml

/-! ## rounds -/

/-- What a round of reading finds: the closing quote, or a piece of the text. -/
inductive QuotedRound where
  | ends (c : Cursor)
  | piece (text : List Char) (c : Cursor)

/-- A character that is read together with others of its kind. -/
def isQuotedRun (c : Char) : Bool :=
  !(isBlankChar c || endsLine c || c == '\\' || c == '\'' || c == '"')

/-- One round of reading a quoted scalar. -/
def quotedRound (double : Bool) (c : Cursor) : Except Fault QuotedRound :=
  match c.char? with
  | none => .error .malformed
  | some x =>
    if isBlankChar x || endsLine x then (quotedGap c).map fun p => .piece p.1 p.2
    else if double && x == '\\' then (escapeAt c.next).map fun p => .piece p.1 p.2
    else if !double && x == '\'' && c.charAt? 1 == some '\'' then .ok (.piece ['\''] (c.skip 2))
    else if x == (if double then '"' else '\'') then .ok (.ends c.next)
    else if (c.rest.takeWhile isQuotedRun).isEmpty then .ok (.piece [x] c.next)
    else
      .ok (.piece (c.rest.takeWhile isQuotedRun) (c.skip (c.rest.takeWhile isQuotedRun).length))

/-- Reading is one round after the other. -/
theorem quotedFrom_succ (double : Bool) (fuel : Nat) (before : List Char) (c : Cursor) :
    quotedFrom double (fuel + 1) before c =
      match quotedRound double c with
      | .error f => .error f
      | .ok (.ends d) => .ok (before, d)
      | .ok (.piece text d) => quotedFrom double fuel (before ++ text) d := by
  rw [quotedFrom, quotedRound]
  cases c.char? with
  | none => rfl
  | some x =>
      dsimp only
      by_cases hgap : (isBlankChar x || endsLine x) = true
      · rw [if_pos hgap, if_pos hgap]
        cases quotedGap c <;> rfl
      · rw [if_neg hgap, if_neg hgap]
        by_cases hescape : (double && x == '\\') = true
        · rw [if_pos hescape, if_pos hescape]
          cases escapeAt c.next <;> rfl
        · rw [if_neg hescape, if_neg hescape]
          by_cases hquote : (!double && x == '\'' && c.charAt? 1 == some '\'') = true
          · rw [if_pos hquote, if_pos hquote]
          · rw [if_neg hquote, if_neg hquote]
            by_cases hend : (x == if double = true then '"' else '\'') = true
            · rw [if_pos hend, if_pos hend]
            · rw [if_neg hend, if_neg hend]
              by_cases hrun : (c.rest.takeWhile isQuotedRun).isEmpty = true
              · rw [if_pos hrun]; exact if_pos hrun
              · rw [if_neg hrun]; exact if_neg hrun

/-- More rounds do not change what is read. -/
theorem quotedFrom_mono {double : Bool} {fuel more : Nat} (hle : fuel ≤ more)
    {before : List Char} {c : Cursor} {result : List Char × Cursor}
    (h : quotedFrom double fuel before c = .ok result) :
    quotedFrom double more before c = .ok result := by
  induction fuel generalizing before c more with
  | zero => cases h
  | succ fuel ih =>
      obtain _ | more := more
      · cases hle
      · rw [quotedFrom_succ] at h ⊢
        cases hround : quotedRound double c with
        | error f => rw [hround] at h; cases h
        | ok round =>
            rw [hround] at h
            cases round with
            | ends d => exact h
            | piece text d => exact ih (Nat.le_of_succ_le_succ hle) h

/-- The rest of a quoted scalar is read with this result, behind the text so far.  There are no more
rounds than characters. -/
def ReadsTo (double : Bool) (before : List Char) (c : Cursor) (result : List Char × Cursor) :
    Prop :=
  ∃ fuel, fuel ≤ c.rest.length ∧ quotedFrom double fuel before c = .ok result

section ReadsTo

variable {double : Bool} {before : List Char} {c d : Cursor} {result : List Char × Cursor}

theorem quotedScalar_of_readsTo (h : ReadsTo double [] c.next result) :
    quotedScalar double c = .ok result := by
  obtain ⟨fuel, hfuel, hread⟩ := h
  refine quotedFrom_mono (Nat.le_trans hfuel ?_) hread
  rw [Cursor.rest_next, List.length_tail]
  omega

theorem rest_ne_nil_of_quotedRound {round : QuotedRound} (h : quotedRound double c = .ok round) :
    c.rest ≠ [] := by
  intro hc
  rw [quotedRound, Cursor.char?, hc] at h
  cases h

theorem readsTo_ends (h : quotedRound double c = .ok (.ends d)) :
    ReadsTo double before c (before, d) := by
  refine ⟨1, List.length_pos_iff.mpr (rest_ne_nil_of_quotedRound h), ?_⟩
  rw [quotedFrom_succ, h]

theorem ReadsTo.piece {text : List Char} (h : ReadsTo double (before ++ text) d result)
    (hround : quotedRound double c = .ok (.piece text d))
    (hlength : d.rest.length < c.rest.length) :
    ReadsTo double before c result := by
  obtain ⟨fuel, hfuel, hread⟩ := h
  refine ⟨fuel + 1, by omega, ?_⟩
  rw [quotedFrom_succ, hround]
  exact hread

/-- Reading goes on behind a piece of the text. -/
theorem ReadsTo.behind {text more : List Char} {m n count : Nat}
    (h : ReadsTo double (before ++ text) (c.skip n) (before ++ text ++ more, (c.skip n).skip m))
    (hround : quotedRound double c = .ok (.piece text (c.skip n))) (hn : 0 < n)
    (hcount : count = n + m) :
    ReadsTo double before c (before ++ (text ++ more), c.skip count) := by
  rw [hcount, Cursor.skip_add, ← List.append_assoc]
  refine h.piece hround ?_
  have := List.length_pos_iff.mpr (rest_ne_nil_of_quotedRound hround)
  rw [Cursor.rest_skip, List.length_drop]
  omega

/-! ## pieces of both styles -/

/-- A run is read at once. -/
theorem quotedRound_run (double : Bool) {x : Char} {rest : List Char} (hc : c.rest = x :: rest)
    (hx : isQuotedRun x = true) :
    quotedRound double c = .ok (.piece (x :: rest.takeWhile isQuotedRun)
      (c.next.skip (rest.takeWhile isQuotedRun).length)) := by
  have hchar : c.char? = some x := by rw [Cursor.char?, hc]; rfl
  have hrun : c.rest.takeWhile isQuotedRun = x :: rest.takeWhile isQuotedRun := by
    rw [hc, List.takeWhile_cons_of_pos hx]
  have hkind := hx
  simp only [isQuotedRun, Bool.not_eq_true', Bool.or_eq_false_iff, beq_eq_false_iff_ne] at hkind
  obtain ⟨⟨⟨⟨hblank, hline⟩, hslash⟩, hsingle⟩, hdouble⟩ := hkind
  rw [quotedRound, hchar, hrun]
  cases double <;> simp [hblank, hline, hslash, hsingle, hdouble, Cursor.skip]

theorem isQuotedRun_of_isAscii {x : Char} (hascii : isAscii x = true) (hspace : x ≠ ' ')
    (hsingle : x ≠ '\'') (hother : x ≠ '\\' ∧ x ≠ '"') : isQuotedRun x = true := by
  simp [isQuotedRun, isBlankChar_of_isAscii hascii, endsLine_of_isAscii hascii, hspace, hsingle,
    hother]

/-- A run may be read character by character. -/
theorem ReadsTo.char {x : Char} {rest : List Char}
    (h : ReadsTo double (before ++ [x]) c.next result) (hc : c.rest = x :: rest)
    (hx : isQuotedRun x = true) : ReadsTo double before c result := by
  have hnext : c.next.rest = rest := by rw [Cursor.rest_next, hc]; rfl
  have hround := quotedRound_run double hc hx
  have hlength : c.rest.length = rest.length + 1 := by rw [hc]; rfl
  by_cases hstop : rest.takeWhile isQuotedRun = []
  · rw [hstop] at hround
    exact h.piece hround (by rw [hnext, hlength]; exact Nat.lt_succ_self _)
  · obtain ⟨y, run, hrun⟩ := List.exists_cons_of_ne_nil hstop
    obtain ⟨more, rfl, hy⟩ : ∃ more, rest = y :: more ∧ isQuotedRun y = true := by
      obtain _ | ⟨z, more⟩ := rest
      · cases hrun
      · rw [List.takeWhile_cons] at hrun
        split at hrun
        · next hz => exact ⟨more, by rw [(List.cons.inj hrun).1], (List.cons.inj hrun).1 ▸ hz⟩
        · cases hrun
    obtain ⟨fuel, hfuel, hread⟩ := h
    obtain _ | fuel := fuel
    · cases hread
    · rw [quotedFrom_succ, quotedRound_run double hnext hy] at hread
      rw [List.takeWhile_cons_of_pos hy, List.length_cons, Cursor.skip] at hround
      refine ⟨fuel + 1, by rw [hnext] at hfuel; omega, ?_⟩
      rw [quotedFrom_succ, hround]
      simpa using hread

theorem takeWhile_isBlankChar_spaces {n : Nat} {y : Char} (rest : List Char)
    (hy : isAscii y = true) (hspace : y ≠ ' ') :
    (spaces n ++ y :: rest).takeWhile isBlankChar = spaces n := by
  refine Text.takeWhile_append_stop (fun z hz => by rw [List.eq_of_mem_replicate hz]; rfl) ?_
  rintro z ⟨⟩
  simpa [isBlankChar_of_isAscii hy] using hspace

/-- Spaces in front of anything visible stand for themselves. -/
theorem quotedRound_spaces (double : Bool) {n : Nat} {y : Char} {rest : List Char}
    (hc : c.rest = spaces (n + 1) ++ y :: rest) (hy : isAscii y = true) (hspace : y ≠ ' ') :
    quotedRound double c = .ok (.piece (spaces (n + 1)) (c.skip (n + 1))) := by
  have hchar : c.char? = some ' ' := by rw [Cursor.char?, hc]; rfl
  have hnext : (c.skip (n + 1)).char? = some y := Cursor.char?_skip hc (length_spaces _)
  have hgap : quotedGap c = .ok (spaces (n + 1), c.skip (n + 1)) := by
    rw [quotedGap, hc, takeWhile_isBlankChar_spaces rest hy hspace, length_spaces]
    simp only [hnext, endsLine_of_isAscii hy, Bool.false_eq_true, if_false]
  rw [quotedRound, hchar, hgap]
  rfl

/-- Spaces may be read one by one. -/
theorem ReadsTo.space {n : Nat} {y : Char} {rest : List Char}
    (h : ReadsTo double (before ++ [' ']) c.next result)
    (hc : c.rest = ' ' :: (spaces n ++ y :: rest))
    (hy : isAscii y = true) (hspace : y ≠ ' ') : ReadsTo double before c result := by
  have hnext : c.next.rest = spaces n ++ y :: rest := by rw [Cursor.rest_next, hc]; rfl
  have hlength : c.rest.length = c.next.rest.length + 1 := by rw [hnext, hc]; rfl
  have hround := quotedRound_spaces double (n := n) hc hy hspace
  obtain _ | n := n
  · exact h.piece hround (by rw [hlength]; exact Nat.lt_succ_self _)
  · obtain ⟨fuel, hfuel, hread⟩ := h
    obtain _ | fuel := fuel
    · cases hread
    · rw [quotedFrom_succ, quotedRound_spaces double hnext hy hspace] at hread
      refine ⟨fuel + 1, by omega, ?_⟩
      rw [quotedFrom_succ, hround]
      dsimp only at hread
      rw [List.append_assoc] at hread
      exact hread

/-- Line breaks and the indentation behind them. -/
theorem quotedBreaks_feeds {n indent fuel : Nat} {y : Char} {rest breaks : List Char} {c : Cursor}
    (hc : c.rest = List.replicate n '\n' ++ (spaces indent ++ y :: rest)) (hindent : 0 < indent)
    (hy : isAscii y = true) (hspace : y ≠ ' ') (hfuel : n < fuel) :
    quotedBreaks fuel breaks c = .ok (breaks ++ List.replicate n '\n', c.skip (n + indent)) := by
  induction n generalizing c fuel breaks with
  | zero =>
      obtain _ | fuel := fuel
      · cases hfuel
      · have hrest : c.rest = spaces indent ++ y :: rest := hc
        have hnext : (c.skip indent).char? = some y := Cursor.char?_skip hrest (length_spaces _)
        rw [quotedBreaks, Cursor.isAtSeparator_spaces hrest (.inl hindent), Cursor.skipWhile, hrest,
          takeWhile_isBlankChar_spaces rest hy hspace, length_spaces]
        simp [hnext, endsLine_of_isAscii hy]
  | succ n ih =>
      obtain _ | fuel := fuel
      · cases hfuel
      · have hfeed : c.rest = '\n' :: (List.replicate n '\n' ++ (spaces indent ++ y :: rest)) := hc
        have hnext : c.next.rest = List.replicate n '\n' ++ (spaces indent ++ y :: rest) := by
          rw [Cursor.rest_next, hfeed]
          rfl
        have hmark : (c.isAtSeparator '-' || c.isAtSeparator '.') = false := by
          simp [Cursor.isAtSeparator, hfeed]
        have htake : c.rest.takeWhile isBlankChar = [] := by rw [hfeed]; rfl
        have hline : c.char?.any endsLine = true := by rw [Cursor.char?, hfeed]; rfl
        rw [quotedBreaks, hmark, Cursor.skipWhile, htake]
        simp only [List.length_nil, Cursor.skip, hline, if_true, Bool.false_eq_true, if_false,
          Cursor.lineBreak_feed hfeed, ih hnext (Nat.lt_of_succ_lt_succ hfuel)]
        rw [Nat.add_right_comm, Cursor.skip]
        simp [List.replicate_succ]

/-- A line break stands for a space, and several stand for one less than there are. -/
def feedText (n : Nat) : List Char := if n = 0 then [' '] else List.replicate n '\n'

/-- Line breaks are read at once, with the indentation behind them. -/
theorem quotedRound_feeds (double : Bool) {n indent : Nat} {y : Char} {rest : List Char}
    (hc : c.rest = '\n' :: (List.replicate n '\n' ++ (spaces indent ++ y :: rest)))
    (hindent : 0 < indent) (hy : isAscii y = true) (hspace : y ≠ ' ') :
    quotedRound double c = .ok (.piece (feedText n) (c.skip (n + indent + 1))) := by
  have hchar : c.char? = some '\n' := by rw [Cursor.char?, hc]; rfl
  have hnext : c.next.rest = List.replicate n '\n' ++ (spaces indent ++ y :: rest) := by
    rw [Cursor.rest_next, hc]
    rfl
  have htake : c.rest.takeWhile isBlankChar = [] := by rw [hc]; rfl
  have hfuel : n < c.next.rest.length + 1 := by
    rw [hnext, List.length_append, List.length_replicate]
    omega
  have hgap : quotedGap c = .ok (feedText n, c.skip (n + indent + 1)) := by
    rw [quotedGap, htake]
    simp only [List.length_nil, Cursor.skip, hchar, Cursor.lineBreak_feed hc,
      quotedBreaks_feeds hnext hindent hy hspace hfuel]
    cases n <;> simp [feedText, foldedBreak, endsLine, Except.map, List.replicate_succ]
  rw [quotedRound, hchar, hgap]
  rfl

/-! ## single quotes -/

/-- A character that is no piece of a run in single quotes is read alone. -/
theorem quotedRound_alone {x : Char} {rest : List Char} (hc : c.rest = x :: rest)
    (hx : x = '\\' ∨ x = '"') : quotedRound false c = .ok (.piece [x] c.next) := by
  have hchar : c.char? = some x := by rw [Cursor.char?, hc]; rfl
  rw [quotedRound, hchar, hc]
  obtain rfl | rfl := hx <;> rfl

/-- A doubled quote is one. -/
theorem quotedRound_quote {rest : List Char} (hc : c.rest = '\'' :: '\'' :: rest) :
    quotedRound false c = .ok (.piece ['\''] (c.skip 2)) := by
  have hchar : c.char? = some '\'' := by rw [Cursor.char?, hc]; rfl
  have hnext : c.charAt? 1 = some '\'' := by rw [Cursor.charAt?, hc]; rfl
  rw [quotedRound, hchar, hnext]
  rfl

/-- A quote in front of none ends the text. -/
theorem quotedRound_ends_single {rest : List Char} (hc : c.rest = '\'' :: rest)
    (hrest : rest.head? ≠ some '\'') : quotedRound false c = .ok (.ends c.next) := by
  have hchar : c.char? = some '\'' := by rw [Cursor.char?, hc]; rfl
  have hnext : (c.charAt? 1 == some '\'') = false := by
    rw [Cursor.charAt?, hc]
    simpa using hrest
  rw [quotedRound, hchar, hnext]
  rfl

end ReadsTo

section Single

variable {fold : Bool} {indent : Nat}

/-- Spaces in single quotes are printed as they are, or one is folded. -/
theorem foldedFrom_spaces (fold : Bool) (indent n : Nat) (before : Option Char) (column : Nat)
    (rest : List Char) :
    ∃ column', foldedFrom fold indent before column (spaces (n + 1) ++ rest)
        = spaces (n + 1) ++ foldedFrom fold indent (some ' ') column' rest ∨
      n = 0 ∧ foldedFrom fold indent before column (spaces (n + 1) ++ rest)
        = newLine indent ++ foldedFrom fold indent (some ' ') column' rest := by
  have hmore (m column : Nat) :
      ∃ column', foldedFrom fold indent (some ' ') column (spaces m ++ rest)
      = spaces m ++ foldedFrom fold indent (some ' ') column' rest := by
    induction m generalizing column with
    | zero => exact ⟨column, rfl⟩
    | succ m ih =>
        obtain ⟨column', h⟩ := ih (column + 1)
        have hcons : spaces (m + 1) ++ rest = ' ' :: (spaces m ++ rest) := rfl
        have hfold : isFoldable (some ' ') (spaces m ++ rest) = false := by
          cases spaces m ++ rest <;> simp [isFoldable]
        refine ⟨column', ?_⟩
        rw [hcons, foldedFrom, if_pos rfl, if_neg (by simp [hfold]), h]
        rfl
  have hcons : spaces (n + 1) ++ rest = ' ' :: (spaces n ++ rest) := rfl
  rw [hcons, foldedFrom, if_pos rfl]
  split
  · next hfold =>
    obtain ⟨-, hfoldable⟩ := Bool.and_eq_true_iff.mp hfold
    obtain _ | n := n
    · exact ⟨indent, .inr ⟨rfl, rfl⟩⟩
    · have hcons : spaces (n + 1) ++ rest = ' ' :: (spaces n ++ rest) := rfl
      rw [hcons] at hfoldable
      cases before <;> simp [isFoldable] at hfoldable
  · obtain ⟨column', h⟩ := hmore n (column + 1)
    refine ⟨column', .inl ?_⟩
    rw [h]
    rfl

/-- Line breaks in single quotes are printed with one more in front of them and an indentation
behind them. -/
theorem foldedFrom_feeds (n column : Nat) {before : Option Char} (hbefore : before ≠ some '\n')
    {rest : List Char} (hrest : rest.head? ≠ some '\n') :
    foldedFrom fold indent before column (List.replicate (n + 1) '\n' ++ rest)
      = '\n' :: (List.replicate (n + 1) '\n' ++
          (spaces indent ++ foldedFrom fold indent (some '\n') indent rest)) := by
  have hone (before : Option Char) (column : Nat) (more : List Char) :
      foldedFrom fold indent before column ('\n' :: more)
        = (if before = some '\n' then ['\n'] else ['\n', '\n']) ++
          (if more.head? = some '\n' then [] else spaces indent) ++
          foldedFrom fold indent (some '\n') indent more := by
    rw [foldedFrom, if_neg (by decide), if_pos rfl]
  have hhead (m : Nat) : (List.replicate (m + 1) '\n' ++ rest).head? = some '\n' := rfl
  have hmore (m column : Nat) :
      foldedFrom fold indent (some '\n') column (List.replicate (m + 1) '\n' ++ rest)
        = List.replicate (m + 1) '\n' ++
          (spaces indent ++ foldedFrom fold indent (some '\n') indent rest) := by
    induction m generalizing column with
    | zero =>
        rw [List.replicate_one, List.singleton_append, hone, if_pos rfl, if_neg hrest]
        rfl
    | succ m ih =>
        rw [List.replicate_succ, List.cons_append, hone, if_pos rfl, if_pos (hhead m), ih]
        rfl
  rw [List.replicate_succ, List.cons_append, hone, if_neg hbefore]
  obtain _ | n := n
  · rw [List.replicate_zero, List.nil_append, if_neg hrest]
    rfl
  · rw [if_pos (hhead n), hmore]
    rfl

/-- A text by its blanks: behind a run of spaces or of line breaks comes something visible, or the
end. -/
inductive HasBlanksApart : List Char → Prop where
  | nil : HasBlanksApart []
  | char {x : Char} {rest : List Char} (hascii : isAscii x = true) (hspace : x ≠ ' ')
      (h : HasBlanksApart rest) : HasBlanksApart (x :: rest)
  | spaces {rest : List Char} (n : Nat) (hspace : rest.head? ≠ some ' ')
      (hfeed : rest.head? ≠ some '\n') (h : HasBlanksApart rest) :
      HasBlanksApart (spaces (n + 1) ++ rest)
  | feeds {rest : List Char} (n : Nat) (hspace : rest.head? ≠ some ' ')
      (hfeed : rest.head? ≠ some '\n') (h : HasBlanksApart rest) :
      HasBlanksApart (List.replicate (n + 1) '\n' ++ rest)

/-- Behind blanks comes something visible, be it the closing quote. -/
theorem exists_visible_foldedFrom (fold : Bool) (indent : Nat) {cs : List Char}
    (h : HasBlanksApart cs) (hhead : cs.head? ≠ some ' ') (hfeed : cs.head? ≠ some '\n')
    (prior : Option Char) (column : Nat) (tail : List Char) :
    ∃ y rest, foldedFrom fold indent prior column cs ++ '\'' :: tail = y :: rest ∧
      isAscii y = true ∧ y ≠ ' ' := by
  cases h with
  | nil => exact ⟨'\'', tail, rfl, by decide, by decide⟩
  | @char x rest hascii hspace h =>
      rw [foldedFrom, if_neg hspace, if_neg (by simpa using hfeed)]
      split
      · exact ⟨'\'', _, rfl, by decide, by decide⟩
      · exact ⟨x, _, rfl, hascii, hspace⟩
  | spaces n => exact absurd rfl hhead
  | feeds n => exact absurd rfl hfeed

/-- The written rest of a text is read as it was before, wherever it is written. -/
def ReadsBackFolded (fold : Bool) (indent : Nat) (tail cs : List Char) : Prop :=
  ∀ (prior : Option Char) (column : Nat) (before : List Char) (c : Cursor),
    (cs.head? = some '\n' → prior ≠ some '\n') →
    c.rest = foldedFrom fold indent prior column cs ++ '\'' :: tail →
    ReadsTo false before c
      (before ++ cs, c.skip ((foldedFrom fold indent prior column cs).length + 1))

section ReadsBackFolded

variable {tail rest : List Char}

theorem ReadsBackFolded.char {x : Char} (h : ReadsBackFolded fold indent tail rest)
    (hascii : isAscii x = true) (hspace : x ≠ ' ') :
    ReadsBackFolded fold indent tail (x :: rest) := by
  intro prior column before c _ hc
  have hfeed : x ≠ '\n' := fun hx => by rw [hx] at hascii; cases hascii
  have hprior : rest.head? = some '\n' → some x ≠ some '\n' := fun _ => by simpa using hfeed
  rw [foldedFrom, if_neg hspace, if_neg hfeed] at hc ⊢
  by_cases hquote : x = '\''
  · subst hquote
    rw [if_pos rfl] at hc ⊢
    have hrest : (c.skip 2).rest
        = foldedFrom fold indent (some '\'') (column + 2) rest ++ '\'' :: tail := by
      rw [Cursor.rest_skip, hc]
      rfl
    refine (h _ _ _ _ hprior hrest).behind (quotedRound_quote hc) Nat.two_pos ?_
    simp only [List.length_cons]
    omega
  · rw [if_neg hquote] at hc ⊢
    have hrest : c.next.rest
        = foldedFrom fold indent (some x) (column + 1) rest ++ '\'' :: tail := by
      rw [Cursor.rest_next, hc]
      rfl
    have hmore := h _ _ (before ++ [x]) _ hprior hrest
    rw [List.append_assoc] at hmore
    by_cases halone : x = '\\' ∨ x = '"'
    · refine hmore.piece (quotedRound_alone hc halone) ?_
      rw [hrest, hc]
      exact Nat.lt_succ_self _
    · exact hmore.char hc (isQuotedRun_of_isAscii hascii hspace hquote (not_or.mp halone))

theorem ReadsBackFolded.spaces (h : ReadsBackFolded fold indent tail rest)
    (hblanks : HasBlanksApart rest) (hspace : rest.head? ≠ some ' ')
    (hfeed : rest.head? ≠ some '\n') (hindent : 0 < indent) (n : Nat) :
    ReadsBackFolded fold indent tail (Yaml.spaces (n + 1) ++ rest) := by
  intro prior column before c _ hc
  have hprior : rest.head? = some '\n' → some ' ' ≠ some '\n' := fun _ => by simp
  obtain ⟨column', hprint⟩ := foldedFrom_spaces fold indent n prior column rest
  obtain ⟨y, more, hy, hascii, hvisible⟩ :=
    exists_visible_foldedFrom fold indent hblanks hspace hfeed (some ' ') column' tail
  obtain hprint | ⟨rfl, hprint⟩ := hprint
  · rw [hprint, List.append_assoc] at hc
    have hrest : (c.skip (n + 1)).rest
        = foldedFrom fold indent (some ' ') column' rest ++ '\'' :: tail := by
      rw [Cursor.rest_skip, hc]
      exact List.drop_left' (length_spaces _)
    have hround := quotedRound_spaces false (hy ▸ hc) hascii hvisible
    refine (h _ _ _ _ hprior hrest).behind hround (Nat.succ_pos n) ?_
    rw [hprint, List.length_append, length_spaces, Nat.add_assoc]
  · rw [hprint, List.append_assoc] at hc
    have hrest : (c.skip (indent + 1)).rest
        = foldedFrom fold indent (some ' ') column' rest ++ '\'' :: tail := by
      rw [Cursor.rest_skip, hc]
      exact List.drop_left' (by simp [newLine])
    have hround := quotedRound_feeds false (n := 0) (hy ▸ hc) hindent hascii hvisible
    rw [Nat.zero_add] at hround
    refine (h _ _ _ _ hprior hrest).behind hround (Nat.succ_pos indent) ?_
    rw [hprint, List.length_append, newLine, List.length_cons, length_spaces, Nat.add_assoc]

theorem ReadsBackFolded.feeds (h : ReadsBackFolded fold indent tail rest)
    (hblanks : HasBlanksApart rest) (hspace : rest.head? ≠ some ' ')
    (hfeed : rest.head? ≠ some '\n') (hindent : 0 < indent) (n : Nat) :
    ReadsBackFolded fold indent tail (List.replicate (n + 1) '\n' ++ rest) := by
  intro prior column before c hprior hc
  have hnotPrior : prior ≠ some '\n' := hprior rfl
  rw [foldedFrom_feeds n column hnotPrior hfeed] at hc ⊢
  obtain ⟨y, more, hy, hascii, hvisible⟩ :=
    exists_visible_foldedFrom fold indent hblanks hspace hfeed (some '\n') indent tail
  have hsplit : c.rest = ('\n' :: (List.replicate (n + 1) '\n' ++ Yaml.spaces indent)) ++
      (foldedFrom fold indent (some '\n') indent rest ++ '\'' :: tail) := by simp [hc]
  have hrest : (c.skip (n + 1 + indent + 1)).rest
      = foldedFrom fold indent (some '\n') indent rest ++ '\'' :: tail := by
    rw [Cursor.rest_skip, hsplit]
    exact List.drop_left' (by simp)
  have hfeeds : c.rest
      = '\n' :: (List.replicate (n + 1) '\n' ++ (Yaml.spaces indent ++ y :: more)) := by
    rw [hsplit, hy]
    simp
  have hround := quotedRound_feeds false hfeeds hindent hascii hvisible
  refine (h _ _ _ _ (fun h => absurd h hfeed) hrest).behind hround (Nat.succ_pos _) ?_
  simp only [List.length_cons, List.length_append, List.length_replicate, length_spaces]
  omega

/-- A text in single quotes is read as it was before, however its lines are folded. -/
theorem readsBackFolded (hindent : 0 < indent) {cs : List Char} (h : HasBlanksApart cs)
    (htail : tail.head? ≠ some '\'') : ReadsBackFolded fold indent tail cs := by
  induction h with
  | nil =>
      intro prior column before c _ hc
      rw [List.append_nil]
      exact readsTo_ends (quotedRound_ends_single hc htail)
  | char hascii hspace _ ih => exact ih.char hascii hspace
  | spaces n hspace hfeed h ih => exact ih.spaces h hspace hfeed hindent n
  | feeds n hspace hfeed h ih => exact ih.feeds h hspace hfeed hindent n

end ReadsBackFolded

theorem hasAdjacent_tail {p q : Char → Bool} {x : Char} {cs : List Char}
    (h : hasAdjacent p q (x :: cs) = false) : hasAdjacent p q cs = false := by
  cases cs with
  | nil => rfl
  | cons y cs => exact (Bool.or_eq_false_iff.mp h).2

/-- A text that is free of obstacles to single quotes has its blanks apart. -/
theorem hasBlanksApart_of_isSingleText {cs : List Char} (h : isSingleText cs = true) :
    HasBlanksApart cs := by
  simp only [isSingleText, Bool.and_eq_true, Bool.not_eq_true'] at h
  obtain ⟨⟨hordinary, hspaceFeed⟩, hfeedSpace⟩ := h
  induction cs with
  | nil => exact .nil
  | cons x cs ih =>
      simp only [List.all_cons, Bool.and_eq_true, isOrdinary_eq, Bool.or_eq_true, beq_iff_eq]
        at hordinary
      have hrest : HasBlanksApart cs :=
        ih (hasAdjacent_tail hfeedSpace) hordinary.2 (hasAdjacent_tail hspaceFeed)
      by_cases hspace : x = ' '
      · subst hspace
        cases hrest with
        | nil => exact .spaces 0 (by simp) (by simp) .nil
        | @char y rest hascii hy h =>
            have hfeed : y ≠ '\n' := fun hfeed => by rw [hfeed] at hascii; cases hascii
            exact .spaces 0 (by simpa using hy) (by simpa using hfeed) (.char hascii hy h)
        | spaces n hspace hfeed h => exact .spaces (n + 1) hspace hfeed h
        | feeds n => cases hspaceFeed
      · obtain ⟨rfl | hascii, -⟩ := hordinary
        · cases hrest with
          | nil => exact .feeds 0 (by simp) (by simp) .nil
          | @char y rest hascii hy h =>
              have hfeed : y ≠ '\n' := fun hfeed => by rw [hfeed] at hascii; cases hascii
              exact .feeds 0 (by simpa using hy) (by simpa using hfeed) (.char hascii hy h)
          | spaces n => cases hfeedSpace
          | feeds n hspace hfeed h => exact .feeds (n + 1) hspace hfeed h
        · exact .char hascii hspace hrest

end Single

end ControlPlane.Yaml
