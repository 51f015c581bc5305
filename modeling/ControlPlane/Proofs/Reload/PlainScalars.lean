import ControlPlane.Proofs.Reload.Passing
import ControlPlane.Yaml.Lexeme

/-!
# Plain scalars

A plain scalar is written run by run: characters without blanks, between them spaces or, where a
line is folded, a line break in the place of a single space.  `PlainLines` is that form.  What is
printed has it (`plainLines_plainFrom`), and what has it is read as the text that it was printed
from, whatever the folding (`plainFromCursor_lines`).
-/

namespace ControlPlane.Yaml

/-! ## the form -/

/-- A run of a plain scalar: no blank, no comment, and no colon at its end. -/
structure IsRun (run : List Char) : Prop where
  ne_nil : run ≠ []
  ascii : ∀ c ∈ run, isAscii c = true
  noSpace : ' ' ∉ run
  noComment : run.head? ≠ some '#'
  noColon : run.getLast? ≠ some ':'

/-- A text and a form in which it is written, with lines of an indentation. -/
inductive PlainLines (indent : Nat) : (text written : List Char) → Prop where
  | run {run : List Char} (hrun : IsRun run) : PlainLines indent run run
  | gap {run text written : List Char} (hrun : IsRun run) (n : Nat)
      (h : PlainLines indent text written) :
      PlainLines indent (run ++ (spaces (n + 1) ++ text)) (run ++ (spaces (n + 1) ++ written))
  | fold {run text written : List Char} (hrun : IsRun run) (h : PlainLines indent text written) :
      PlainLines indent (run ++ (spaces 1 ++ text)) (run ++ (newLine indent ++ written))

namespace IsRun

variable {run : List Char}

theorem startsVisibly (h : IsRun run) (rest : List Char) : StartsVisibly (run ++ rest) := by
  obtain _ | ⟨x, run⟩ := run
  · exact absurd rfl h.ne_nil
  · exact startsVisibly_cons ⟨h.ascii x List.mem_cons_self,
      fun hx => h.noSpace (hx ▸ List.mem_cons_self), fun hx => h.noComment (by rw [hx]; rfl)⟩

theorem head?_isSome (h : IsRun run) (rest : List Char) : ∃ x, (run ++ rest).head? = some x := by
  obtain _ | ⟨x, run⟩ := run
  · exact absurd rfl h.ne_nil
  · exact ⟨x, rfl⟩

end IsRun

namespace PlainLines

variable {indent : Nat} {text written : List Char}

theorem exists_run (h : PlainLines indent text written) :
    ∃ run rest, IsRun run ∧ written = run ++ rest := by
  cases h with
  | run hrun => exact ⟨_, [], hrun, (List.append_nil _).symm⟩
  | gap hrun n h => exact ⟨_, _, hrun, rfl⟩
  | fold hrun h => exact ⟨_, _, hrun, rfl⟩

theorem startsVisibly (h : PlainLines indent text written) (rest : List Char) :
    StartsVisibly (written ++ rest) := by
  obtain ⟨run, rest', hrun, rfl⟩ := h.exists_run
  rw [List.append_assoc]
  exact hrun.startsVisibly _

theorem head?_isSome (h : PlainLines indent text written) (rest : List Char) :
    ∃ x, (written ++ rest).head? = some x := by
  obtain ⟨run, rest', hrun, rfl⟩ := h.exists_run
  rw [List.append_assoc]
  exact hrun.head?_isSome _

end PlainLines

/-! ## reading -/

/-- A run ends where the next one cannot start. -/
theorem plainRun_append {run rest : List Char} (hascii : ∀ c ∈ run, isAscii c = true)
    (hspace : ' ' ∉ run) (hcolon : run.getLast? ≠ some ':') (hrest : plainRun false rest = []) :
    plainRun false (run ++ rest) = run := by
  induction run with
  | nil => exact hrest
  | cons c run ih =>
      have hc := hascii c List.mem_cons_self
      have hcspace : c ≠ ' ' := fun h => hspace (h ▸ List.mem_cons_self)
      have hkey : (c == ':' && endsKey false (run ++ rest).head?) = false := by
        obtain _ | ⟨d, run⟩ := run
        · have : c ≠ ':' := fun h => hcolon (by rw [h]; rfl)
          simp [this]
        · have hd := hascii d (List.mem_cons_of_mem c List.mem_cons_self)
          have hdspace : d ≠ ' ' := fun h => hspace (h ▸ List.mem_cons_of_mem c List.mem_cons_self)
          simp [endsKey, atGap, isBlankChar_of_isAscii hd, endsLine_of_isAscii hd, hdspace]
      have hlast : run.getLast? ≠ some ':' := by
        obtain _ | ⟨d, run⟩ := run
        · simp
        · rwa [List.getLast?_cons_cons] at hcolon
      rw [List.cons_append, plainRun]
      simp only [isBlankChar_of_isAscii hc, endsLine_of_isAscii hc, hkey, hcspace, beq_iff_eq,
        Bool.or_false, Bool.false_and, if_false]
      rw [ih (fun d hd => hascii d (List.mem_cons_of_mem c hd))
        (fun h => hspace (List.mem_cons_of_mem c h)) hlast]

/-- An indentation holds no empty lines. -/
theorem plainBreaks_spaces {n fuel : Nat} {row breaks : List Char} {c : Cursor}
    (h : c.rest = spaces n ++ row) (hrow : StartsVisibly row) (hfuel : n < fuel) :
    plainBreaks fuel breaks c = (some breaks, c.skip n) := by
  induction n generalizing c fuel with
  | zero =>
      obtain _ | fuel := fuel
      · cases hfuel
      · have hrest : c.rest = row := h
        have hvisible (x : Char) (hx : row.head? = some x) : x ≠ ' ' ∧ endsLine x = false :=
          ⟨(hrow x hx).2.1, endsLine_of_isAscii (hrow x hx).1⟩
        cases hhead : row.head? with
        | none => simp [plainBreaks, Cursor.isAt, Cursor.char?, hrest, hhead, Cursor.skip]
        | some x =>
            obtain ⟨hspace, hline⟩ := hvisible x hhead
            simp [plainBreaks, Cursor.isAt, Cursor.char?, hrest, hhead, hspace, hline, Cursor.skip]
  | succ n ih =>
      obtain _ | fuel := fuel
      · cases hfuel
      · have hspace : c.rest = ' ' :: (spaces n ++ row) := h
        have hat : c.isAt ' ' = true := by simp [Cursor.isAt, Cursor.char?, hspace]
        have hnext : c.next.rest = spaces n ++ row := by rw [Cursor.rest_next, hspace]; rfl
        rw [plainBreaks, if_pos hat, ih hnext (Nat.lt_of_succ_lt_succ hfuel), Cursor.skip]

/-- Between two lines of a scalar stands one space. -/
theorem plainGap_newLine {n : Nat} {row : List Char} {c : Cursor}
    (h : c.rest = newLine n ++ row) (hrow : StartsVisibly row)
    (hmark : 0 < n ∨ ¬ StartsWithMark row) :
    plainGap c = (([' '], true), c.skip (n + 1)) := by
  have hfeed : c.rest = '\n' :: (spaces n ++ row) := h
  have hnext : c.next.rest = spaces n ++ row := by rw [Cursor.rest_next, hfeed]; rfl
  have hspaces : c.rest.takeWhile (· == ' ') = [] := by rw [hfeed]; rfl
  have hline : c.char?.any endsLine = true := by rw [Cursor.char?, hfeed]; rfl
  have hfuel : n < c.next.rest.length + 1 := by
    rw [hnext, List.length_append, length_spaces]
    omega
  rw [plainGap, hspaces]
  simp only [List.length_nil, Cursor.skip, hline, if_true, Cursor.lineBreak_feed hfeed,
    Cursor.isAtSeparator_spaces hnext hmark, Bool.false_eq_true, if_false,
    plainBreaks_spaces hnext hrow hfuel]
  rfl

/-- Within a line, spaces stand for themselves. -/
theorem plainGap_spaces {n : Nat} {rest : List Char} {c : Cursor}
    (h : c.rest = spaces n ++ rest) (hrest : StartsVisibly rest)
    (hsome : ∃ x, rest.head? = some x) : plainGap c = ((spaces n, false), c.skip n) := by
  obtain ⟨x, hx⟩ := hsome
  have htake : c.rest.takeWhile (· == ' ') = spaces n := by
    rw [h]
    refine Text.takeWhile_append_stop (fun y hy => by rw [List.eq_of_mem_replicate hy]; rfl) ?_
    intro y hy
    simpa using (hrest y hy).2.1
  have hchar : (c.skip n).char? = some x := by
    rw [Cursor.char?, Cursor.rest_skip, h, List.drop_append_of_le_length (by simp),
      List.drop_eq_nil_of_le (by simp), List.nil_append, hx]
  rw [plainGap, htake]
  simp [hchar, endsLine_of_isAscii (hrest x hx).1]

/-- Reading takes one run at a time, with the gap behind it. -/
theorem plainFromCursor_run {least fuel : Nat} {run rest before gap : List Char} {onNewLine : Bool}
    {c : Cursor} (hrun : IsRun run) (hc : c.rest = run ++ rest) (hrest : plainRun false rest = []) :
    plainFromCursor false least (fuel + 1) before gap onNewLine c =
      let ((gap', onNewLine'), d) := plainGap (c.skip run.length)
      if gap'.isEmpty || d.isAt '#' || (!false && d.column < least) then
        ((before ++ gap ++ run, onNewLine'), d)
      else plainFromCursor false least fuel (before ++ gap ++ run) gap' onNewLine' d := by
  have hread : plainRun false c.rest = run := by
    rw [hc]
    exact plainRun_append hrun.ascii hrun.noSpace hrun.noColon hrest
  have hcomment : c.isAt '#' = false := by
    obtain ⟨x, hx⟩ := hrun.head?_isSome rest
    rw [Cursor.isAt, Cursor.char?, hc, hx]
    simpa using (hrun.startsVisibly rest x hx).2.2
  rw [plainFromCursor, hread]
  simp [hcomment, hrun.ne_nil]

/-- Reading goes on behind a gap with text that is indented enough. -/
theorem plainFromCursor_more {least fuel : Nat} {run rest before gap gap' : List Char}
    {onNewLine onNewLine' : Bool} {c d : Cursor} (hrun : IsRun run) (hc : c.rest = run ++ rest)
    (hrest : plainRun false rest = [])
    (hgap : plainGap (c.skip run.length) = ((gap', onNewLine'), d)) (hne : gap' ≠ [])
    (hd : StartsVisibly d.rest) (hcolumn : least ≤ d.column) :
    plainFromCursor false least (fuel + 1) before gap onNewLine c
      = plainFromCursor false least fuel (before ++ gap ++ run) gap' onNewLine' d := by
  have hcomment : d.isAt '#' = false := by
    rw [Cursor.isAt, Cursor.char?]
    cases hx : d.rest.head? with
    | none => rfl
    | some x => simpa using (hd x hx).2.2
  rw [plainFromCursor_run hrun hc hrest, hgap]
  simp [hne, hcomment, Nat.not_lt.mpr hcolumn]

/-- A plain scalar is read as the text that it was written for, if the gap behind it is none or
leads to a line that does not belong to it. -/
theorem plainFromCursor_lines {indent least fuel : Nat} {text written tail before gap : List Char}
    {onNewLine onNewLine' : Bool} {gap' : List Char} {c d : Cursor}
    (h : PlainLines indent text written) (hleast : least ≤ indent) (hindent : 0 < indent)
    (hc : c.rest = written ++ tail) (hcolumn : least ≤ c.column + 1)
    (hfuel : written.length < fuel) (htail : plainRun false tail = [])
    (hgap : plainGap (c.skip written.length) = ((gap', onNewLine'), d))
    (hend : gap' = [] ∨ d.column < least) :
    plainFromCursor false least fuel before gap onNewLine c
      = ((before ++ gap ++ text, onNewLine'), d) := by
  induction h generalizing c fuel before gap onNewLine with
  | @run run hrun =>
      obtain _ | fuel := fuel
      · cases hfuel
      · have hstop :
            (gap'.isEmpty || d.isAt '#' || (!false && decide (d.column < least))) = true := by
          obtain rfl | hd := hend
          · rfl
          · simp [hd]
        rw [plainFromCursor_run hrun hc htail, hgap]
        simp only [hstop, if_true]
  | @gap run text written hrun n h ih =>
      obtain _ | fuel := fuel
      · cases hfuel
      · have hrest : c.rest = run ++ (spaces (n + 1) ++ (written ++ tail)) := by simp [hc]
        have hspaces : (c.skip run.length).rest = spaces (n + 1) ++ (written ++ tail) := by
          rw [Cursor.skip_ascii hrest hrun.ascii]
        have hd : (c.skip run.length).skip (n + 1)
            = ⟨written ++ tail, c.index + run.length + (n + 1), c.line,
                c.column + run.length + (n + 1)⟩ := by
          have := Cursor.skip_ascii hspaces fun x hx => isAscii_of_mem_spaces hx
          rw [length_spaces, Cursor.skip_ascii hrest hrun.ascii] at this
          rw [Cursor.skip_ascii hrest hrun.ascii]
          exact this
        have hlength : (run ++ (spaces (n + 1) ++ written)).length
            = run.length + (n + 1) + written.length := by
          simp [Nat.add_assoc]
        rw [hlength] at hfuel hgap
        rw [Cursor.skip_add, Cursor.skip_add, hd] at hgap
        have hcolumn' : least ≤ c.column + run.length + (n + 1) := by omega
        rw [plainFromCursor_more hrun hrest rfl
          (plainGap_spaces hspaces (h.startsVisibly tail) (h.head?_isSome tail))
          (by simp [spaces]) (by rw [hd]; exact h.startsVisibly tail) (by rw [hd]; exact hcolumn'),
          hd, ih rfl (Nat.le_succ_of_le hcolumn') (by omega) hgap]
        simp
  | @fold run text written hrun h ih =>
      obtain _ | fuel := fuel
      · cases hfuel
      · have hrest : c.rest = run ++ (newLine indent ++ (written ++ tail)) := by simp [hc]
        have hline : (c.skip run.length).rest = newLine indent ++ (written ++ tail) := by
          rw [Cursor.skip_ascii hrest hrun.ascii]
        have hd : (c.skip run.length).skip (indent + 1)
            = ⟨written ++ tail, c.index + run.length + 1 + indent, c.line + 1, indent⟩ := by
          have := Cursor.skip_newLine hline
          rw [Cursor.skip_ascii hrest hrun.ascii] at this ⊢
          exact this
        have hlength : (run ++ (newLine indent ++ written)).length
            = run.length + (indent + 1) + written.length := by
          simp [newLine, Nat.add_assoc, Nat.add_comm 1]
        rw [hlength] at hfuel hgap
        rw [Cursor.skip_add, Cursor.skip_add, hd] at hgap
        rw [plainFromCursor_more hrun hrest rfl
          (plainGap_newLine hline (h.startsVisibly tail) (.inl hindent))
          (by simp) (by rw [hd]; exact h.startsVisibly tail) (by rw [hd]; exact hleast),
          hd, ih rfl (Nat.le_succ_of_le hleast) (by omega) hgap]
        simp [spaces]

/-! ## writing -/

/-- A text that can be written plain, from the start or from behind a space on. -/
structure IsPlainPart (cs : List Char) : Prop where
  ascii : ∀ c ∈ cs, isAscii c = true
  startsVisibly : cs.head? ≠ some ' '
  endsVisibly : ∃ c, cs.getLast? = some c ∧ c ≠ ' '
  noIndicator : hasInnerIndicator true cs = false

/-- Text without indicators ends in no colon, nor does it have one in front of a space. -/
theorem getLast?_of_noIndicator {run rest : List Char} {afterSpace : Bool}
    (hrest : rest = [] ∨ rest.head? = some ' ')
    (h : hasInnerIndicator afterSpace (run ++ rest) = false) : run.getLast? ≠ some ':' := by
  induction run generalizing afterSpace with
  | nil => simp
  | cons c run ih =>
      rw [List.cons_append, hasInnerIndicator, Bool.or_eq_false_iff, Bool.or_eq_false_iff] at h
      obtain ⟨⟨hcolon, -⟩, htail⟩ := h
      obtain _ | ⟨d, run⟩ := run
      · rintro hc
        obtain rfl : c = ':' := by simpa using hc
        obtain rfl | hrest := hrest <;> simp_all
      · rw [List.getLast?_cons_cons]
        exact ih htail

/-- Text behind a space has no indicators of its own. -/
theorem noIndicator_behind {run rest : List Char} {afterSpace : Bool}
    (h : hasInnerIndicator afterSpace (run ++ ' ' :: rest) = false) :
    hasInnerIndicator true rest = false := by
  induction run generalizing afterSpace with
  | nil => exact (Bool.or_eq_false_iff.mp h).2
  | cons c run ih => exact ih (Bool.or_eq_false_iff.mp h).2

/-- Text without spaces is printed as it is. -/
theorem plainFrom_run (fold : Bool) (indent : Nat) {run : List Char} (hspace : ' ' ∉ run)
    (before : Option Char) (column : Nat) (rest : List Char) :
    ∃ before', plainFrom fold indent before column (run ++ rest)
      = run ++ plainFrom fold indent before' (column + run.length) rest := by
  induction run generalizing before column with
  | nil => exact ⟨before, rfl⟩
  | cons c run ih =>
      have hc : c ≠ ' ' := fun hc => hspace (hc ▸ List.mem_cons_self)
      obtain ⟨before', h⟩ := ih (fun h => hspace (List.mem_cons_of_mem c h)) (some c) (column + 1)
      refine ⟨before', ?_⟩
      rw [List.cons_append, plainFrom, if_neg (by simp [hc]), h, List.length_cons,
        Nat.add_right_comm, Nat.add_assoc]
      rfl

/-- Behind a space, further spaces are printed as they are. -/
theorem plainFrom_spaces {fold : Bool} {indent : Nat} (n column : Nat) (rest : List Char) :
    plainFrom fold indent (some ' ') column (spaces n ++ rest)
      = spaces n ++ plainFrom fold indent (some ' ') (column + n) rest := by
  induction n generalizing column with
  | zero => rfl
  | succ n ih =>
      have hfold : isFoldable (some ' ') (spaces n ++ rest) = false := by
        cases spaces n ++ rest <;> simp [isFoldable]
      have hcons : spaces (n + 1) ++ rest = ' ' :: (spaces n ++ rest) := rfl
      rw [hcons, plainFrom, if_neg (by simp [hfold]), ih, Nat.add_assoc, Nat.add_comm 1]
      rfl

/-- A text up to its first space, the spaces there, and what follows them. -/
theorem exists_run_spaces (cs : List Char) :
    ∃ run n rest, ' ' ∉ run ∧ rest.head? ≠ some ' ' ∧ cs = run ++ (spaces n ++ rest) ∧
      (n = 0 → rest = []) := by
  induction cs with
  | nil => exact ⟨[], 0, [], by simp, by simp, rfl, fun _ => rfl⟩
  | cons c cs ih =>
      obtain ⟨run, n, rest, hrun, hrest, rfl, hn⟩ := ih
      by_cases hc : c = ' '
      · obtain _ | ⟨d, run⟩ := run
        · exact ⟨[], n + 1, rest, by simp, hrest, by rw [hc]; rfl, by simp⟩
        · have hd : d ≠ ' ' := fun hd => hrun (hd ▸ List.mem_cons_self)
          exact ⟨[], 1, d :: run ++ (spaces n ++ rest), by simp, by simpa using hd,
            by rw [hc]; rfl, by simp⟩
      · exact ⟨c :: run, n, rest, by simpa [Ne.symm hc] using hrun, hrest, rfl, hn⟩

namespace IsPlainPart

variable {cs : List Char}

/-- What stands in front of the first space is a run. -/
theorem isRun {run rest : List Char} (h : IsPlainPart (run ++ rest)) (hspace : ' ' ∉ run)
    (hrest : rest = [] ∨ rest.head? = some ' ') : IsRun run where
  ne_nil := by
    rintro rfl
    obtain rfl | hrest := hrest
    · obtain ⟨c, hc, -⟩ := h.endsVisibly
      cases hc
    · exact h.startsVisibly hrest
  ascii c hc := h.ascii c (List.mem_append_left rest hc)
  noSpace := hspace
  noComment := by
    intro hhead
    obtain ⟨tail, rfl⟩ := List.head?_eq_some_iff.mp hhead
    have := h.noIndicator
    simp [hasInnerIndicator] at this
  noColon := getLast?_of_noIndicator hrest h.noIndicator

/-- What stands behind the spaces there is such a text again. -/
theorem behind {run text : List Char} {n : Nat} (h : IsPlainPart (run ++ (spaces (n + 1) ++ text)))
    (hhead : text.head? ≠ some ' ') : IsPlainPart text where
  ascii c hc := h.ascii c (List.mem_append_right _ (List.mem_append_right _ hc))
  startsVisibly := hhead
  endsVisibly := by
    obtain ⟨c, hc, hspace⟩ := h.endsVisibly
    obtain _ | ⟨d, text⟩ := text
    · have hlast : (run ++ (spaces (n + 1) ++ [])).getLast? = some ' ' := by
        simp [spaces, List.replicate_succ']
      rw [hlast] at hc
      exact absurd (Option.some.inj hc).symm hspace
    · refine ⟨c, ?_, hspace⟩
      rwa [← List.append_assoc, List.getLast?_append,
        List.getLast?_eq_some_getLast (List.cons_ne_nil d text), Option.some_or,
        ← List.getLast?_eq_some_getLast] at hc
  noIndicator := by
    have h := h.noIndicator
    have hsplit : run ++ (spaces (n + 1) ++ text) = (run ++ spaces n) ++ ' ' :: text := by
      simp [spaces, List.replicate_succ']
    rw [hsplit] at h
    exact noIndicator_behind h

end IsPlainPart

/-- What is printed for a text is a form of it. -/
theorem plainLines_plainFrom {fold : Bool} {indent : Nat} {cs : List Char} (h : IsPlainPart cs)
    (before : Option Char) (column : Nat) :
    PlainLines indent cs (plainFrom fold indent before column cs) := by
  induction hlength : cs.length using Nat.strong_induction_on generalizing cs before column with
  | _ length ih =>
    obtain ⟨run, n, text, hspace, hhead, rfl, hn⟩ := exists_run_spaces cs
    obtain ⟨before', hprint⟩ := plainFrom_run fold indent hspace before column (spaces n ++ text)
    rw [hprint]
    obtain _ | n := n
    · obtain rfl := hn rfl
      have hrun := h.isRun hspace (.inl rfl)
      simpa [spaces, plainFrom] using PlainLines.run hrun
    · have hrun := h.isRun hspace (.inr rfl)
      have hshorter : text.length < length := by
        rw [← hlength]
        simp
        omega
      have hmore (before : Option Char) (column : Nat) :=
        ih _ hshorter (h.behind hhead) before column rfl
      have hcons : spaces (n + 1) ++ text = ' ' :: (spaces n ++ text) := rfl
      rw [hcons, plainFrom]
      split
      · next hfold =>
        obtain ⟨-, hfoldable⟩ := Bool.and_eq_true_iff.mp hfold.2
        obtain rfl : n = 0 := by
          obtain _ | n := n
          · rfl
          · have hcons : spaces (n + 1) ++ text = ' ' :: (spaces n ++ text) := rfl
            rw [hcons] at hfoldable
            cases before' <;> simp [isFoldable] at hfoldable
        exact .fold hrun (hmore _ _)
      · rw [plainFrom_spaces]
        exact .gap hrun n (hmore _ _)

/-- A text that is free of obstacles to the plain style can be written plain. -/
theorem isPlainPart_of_isPlainText {cs : List Char} (h : isPlainText cs = true) :
    IsPlainPart cs := by
  simp only [isPlainText, Bool.and_eq_true, Bool.not_eq_true'] at h
  obtain ⟨⟨⟨⟨hne, hordinary⟩, hmultiline⟩, hblank⟩, hindicator⟩ := h
  obtain _ | ⟨c, rest⟩ := cs
  · cases hne
  · simp only [hasOuterBlank, Bool.or_eq_false_iff] at hblank
    obtain ⟨hstart, hend⟩ := hblank
    simp only [hasIndicator, Bool.or_eq_false_iff] at hindicator
    obtain ⟨-, hleading, hinner⟩ := hindicator
    have hspace : c ≠ ' ' := by simpa using hstart.1
    constructor
    · intro d hd
      have hord := List.all_eq_true.mp hordinary d hd
      have hbreak : isBreak d = false := by simpa using List.any_eq_false.mp hmultiline d hd
      rw [isOrdinary_eq, Bool.or_eq_true, beq_iff_eq] at hord
      refine hord.resolve_left fun hd => ?_
      rw [hd] at hbreak
      cases hbreak
    · simpa using hspace
    · refine ⟨_, List.getLast?_eq_some_getLast (List.cons_ne_nil c rest), ?_⟩
      rw [List.getLast?_eq_some_getLast (List.cons_ne_nil c rest)] at hend
      simpa using hend.1
    · have hcomment : c ≠ '#' := by
        rintro rfl
        cases hleading
      have hcolon : (c == ':' && (rest.isEmpty || rest.head? == some ' ')) = false := by
        by_cases hc : c = ':'
        · simp only [hc, isLeadingIndicator, Bool.or_eq_false_iff] at hleading ⊢
          simpa using hleading.2
        · simp [hc]
      have hcspace : (c == ' ') = false := by simpa using hspace
      rw [hasInnerIndicator, hcolon, hinner]
      simpa using hcomment

end ControlPlane.Yaml
