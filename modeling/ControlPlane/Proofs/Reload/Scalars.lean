import ControlPlane.Proofs.Reload.DoubleQuotes
import ControlPlane.Proofs.Reload.Numerals
import ControlPlane.Proofs.Reload.Scanning

/-!
# Scalars in a document

A written scalar is one token, with the text that it was written for (`Stands.value`).  In front of
a colon it is a key, provided that the colon is near enough (`Stands.key`): what counts is the
length of the key as it is written, escapes and quotes included.
-/

namespace ControlPlane.Yaml

/-! ## written forms -/

/-- A text and a form in which it is written as a scalar, with lines of an indentation. -/
inductive WrittenAs (indent : Nat) : (plain : Bool) → (text written : List Char) → Prop where
  | plain {text : List Char} (h : isPlainText text = true) (fold : Bool) (column : Nat) :
      WrittenAs indent true text (plainFrom fold indent none column text)
  | single {text : List Char} (h : isSingleText text = true) (fold : Bool) (column : Nat) :
      WrittenAs indent false text ('\'' :: foldedFrom fold indent none column text ++ ['\''])
  | double (text : List Char) (fold : Bool) (column : Nat) :
      WrittenAs indent false text ('"' :: doubleFrom fold indent true true column text ++ ['"'])

section Written

variable {indent : Nat}

theorem plainFrom_false (before : Option Char) (column : Nat) (cs : List Char) :
    plainFrom false indent before column cs = cs := by
  induction cs generalizing before column with
  | nil => rfl
  | cons c cs ih => simp [plainFrom, ih]

/-- A text is written plain only if that reads as a text. -/
theorem of_style_plain {cs : List Char} (h : Style.ofText cs = .plain) :
    isPlainText cs = true ∧ Tag.ofPlain cs = .text := by
  unfold Style.ofText at h
  split at h
  · next hplain => simpa using hplain
  · split at h <;> cases h

theorem writtenAs_textScalar (indent : Nat) (fold : Bool) (column : Nat) (cs : List Char) :
    WrittenAs indent (Style.ofText cs == .plain) cs (textScalar fold indent column cs) := by
  unfold textScalar
  cases hstyle : Style.ofText cs with
  | plain => exact .plain (of_style_plain hstyle).1 fold column
  | single =>
      unfold Style.ofText at hstyle
      split at hstyle
      · cases hstyle
      · split at hstyle
        · next h => exact .single h fold (column + 1)
        · cases hstyle
  | double => exact .double cs fold (column + 1)

theorem writtenAs_plain {cs : List Char} (h : isPlainText cs = true) :
    WrittenAs indent true cs cs := by
  have hwritten : WrittenAs indent true cs (plainFrom false indent none 0 cs) := .plain h false 0
  rwa [plainFrom_false] at hwritten

end Written

/-! ## reading -/

section Reading

variable {indent : Nat} {cs tail : List Char} {c : Cursor}

theorem quotedScalar_single {fold : Bool} {column : Nat} (h : isSingleText cs = true)
    (hindent : 0 < indent)
    (hc : c.rest = '\'' :: foldedFrom fold indent none column cs ++ ['\''] ++ tail)
    (htail : tail.head? ≠ some '\'') :
    quotedScalar false c
      = .ok (cs, c.skip ('\'' :: foldedFrom fold indent none column cs ++ ['\'']).length) := by
  have hnext : c.next.rest = foldedFrom fold indent none column cs ++ '\'' :: tail := by
    rw [Cursor.rest_next, hc]
    simp
  have hread : ReadsTo false [] c.next
      ([] ++ cs, c.next.skip ((foldedFrom fold indent none column cs).length + 1)) :=
    readsBackFolded hindent (hasBlanksApart_of_isSingleText h) htail _ _ _ _ (by simp) hnext
  rw [quotedScalar_of_readsTo hread]
  simp [Cursor.skip]

theorem quotedScalar_double {fold : Bool} {column : Nat} (hindent : 0 < indent)
    (hwidth : indent < lineWidth)
    (hc : c.rest = '"' :: doubleFrom fold indent true true column cs ++ ['"'] ++ tail) :
    quotedScalar true c
      = .ok (cs, c.skip ('"' :: doubleFrom fold indent true true column cs ++ ['"']).length) := by
  have hnext : c.next.rest = doubleFrom fold indent true true column cs ++ '"' :: tail := by
    rw [Cursor.rest_next, hc]
    simp
  have hread : ReadsTo true [] c.next
      ([] ++ cs, c.next.skip ((doubleFrom fold indent true true column cs).length + 1)) :=
    readsTo_doubleFrom hindent hwidth hnext
  rw [quotedScalar_of_readsTo hread]
  simp [Cursor.skip]

/-- What a plain scalar starts with is no indicator, and what could be one is not alone. -/
theorem exists_start_plainFrom (fold : Bool) (indent column : Nat) (h : isPlainText cs = true) :
    ∃ x rest, plainFrom fold indent none column cs = x :: rest ∧ isAscii x = true ∧ x ≠ ' ' ∧
      leadingIndicators.contains x = false ∧
      (x = '-' ∨ x = '?' ∨ x = ':' → ∃ y more, rest = y :: more ∧ isAscii y = true ∧ y ≠ ' ') := by
  have hpart := isPlainPart_of_isPlainText h
  simp only [isPlainText, Bool.and_eq_true, Bool.not_eq_true'] at h
  obtain ⟨-, hindicator⟩ := h
  obtain _ | ⟨x, rest⟩ := cs
  · obtain ⟨c, hc, -⟩ := hpart.endsVisibly
    cases hc
  · have hspace : x ≠ ' ' := by simpa using hpart.startsVisibly
    simp only [hasIndicator, Bool.or_eq_false_iff] at hindicator
    obtain ⟨-, hleading, -⟩ := hindicator
    rw [isLeadingIndicator, Bool.or_eq_false_iff] at hleading
    obtain ⟨hleading, halone⟩ := hleading
    rw [plainFrom, if_neg (by simp [hspace])]
    refine ⟨x, _, rfl, hpart.ascii x List.mem_cons_self, hspace, hleading, fun hx => ?_⟩
    have hmark : (x == '?' || x == ':' || x == '-') = true := by
      obtain rfl | rfl | rfl := hx <;> rfl
    rw [hmark, Bool.true_and] at halone
    obtain _ | ⟨y, more⟩ := rest
    · cases halone
    · have hy : y ≠ ' ' := by simpa using halone
      rw [plainFrom, if_neg (by simp [hy])]
      exact ⟨y, _, rfl, hpart.ascii y (List.mem_cons_of_mem x List.mem_cons_self), hy⟩

theorem WrittenAs.length_pos {plain : Bool} {written : List Char}
    (h : WrittenAs indent plain cs written) : 0 < written.length := by
  cases h with
  | plain h fold column =>
      obtain ⟨x, rest, hstart, -⟩ := exists_start_plainFrom fold indent column h
      rw [hstart]
      exact Nat.succ_pos _
  | single => exact Nat.succ_pos _
  | double => exact Nat.succ_pos _

end Reading

/-! ## tokens -/

namespace Layout

section Tokens

variable {c d : Cursor} {tokens : List Token} {indents : List Nat} {keyAllowed : Bool}

/-- A node at the cursor as a possible key. -/
def keyAt (c : Cursor) (tokens : List Token) (indents : List Nat) : PossibleKey :=
  { before := tokens.length
    required := (front c tokens indents true).indent == c.column
    index := c.index, line := c.line, column := c.column }

/-- The layout behind a scalar. -/
def behindScalar (plain : Bool) (text : List Char) (c d : Cursor) (tokens : List Token)
    (indents : List Nat) (wasAllowed keyAllowed : Bool) : Layout :=
  { front d (.scalar plain text :: tokens) indents keyAllowed with
    key := if wasAllowed then some (keyAt c tokens indents) else none }

theorem markKey_front : (front c tokens indents keyAllowed).markKey
    = .ok { front c tokens indents keyAllowed with
        key := if keyAllowed then some (keyAt c tokens indents) else none } := by
  cases keyAllowed <;> rfl

/-- A line does not separate documents if it does not start like a mark that does. -/
theorem isAtSeparator_eq_false {mark : Char} (hmark : mark = '-' ∨ mark = '.')
    (h : 0 < c.column ∨ ¬ StartsWithMark c.rest) :
    (c.column == 0 && c.isAtSeparator mark) = false := by
  obtain h | h := h
  · rw [beq_false_of_ne (Nat.ne_of_gt h), Bool.false_and]
  · obtain ⟨hdashes, hpoints⟩ := not_or.mp h
    obtain rfl | rfl := hmark
    · simp [Cursor.isAtSeparator, hdashes]
    · simp [Cursor.isAtSeparator, hpoints]

theorem tokenAt_quoted (double : Bool) {rest cs : List Char}
    (hc : c.rest = (if double then '"' else '\'') :: rest)
    (hread : quotedScalar double c = .ok (cs, d)) :
    (front c tokens indents keyAllowed).tokenAt (if double then '"' else '\'')
      = .ok (behindScalar false cs c d tokens indents keyAllowed false) := by
  have hmark : ¬ StartsWithMark c.rest := by
    rw [hc]
    cases double <;> simp [StartsWithMark]
  have hdashes := isAtSeparator_eq_false (.inl rfl) (.inr hmark)
  have hpoints := isAtSeparator_eq_false (.inr rfl) (.inr hmark)
  have hnode : (front c tokens indents keyAllowed).node
        (fun c => (quotedScalar double c).map (·.map (.scalar false) id))
      = .ok (behindScalar false cs c d tokens indents keyAllowed false) := by
    rw [node, markKey_front]
    show (quotedScalar double c).map (·.map (Token.scalar false) id) >>= _ = _
    rw [hread]
    rfl
  unfold tokenAt
  cases double
  · simpa [front, hdashes, hpoints] using hnode
  · simpa [front, hdashes, hpoints] using hnode

theorem plain_of_markKey {s u : Layout} {cs : List Char} {newLine : Bool}
    (hmark : s.markKey = .ok u) (hflow : u.inFlow = false)
    (hread : plainScalar false u.indent u.cursor = ((cs, newLine), d)) :
    s.plain = .ok { u.advance (.scalar true cs) d with keyAllowed := newLine } := by
  have hbind : s.plain = .ok { u.advance (.scalar true (plainScalar u.inFlow u.indent u.cursor).1.1)
      (plainScalar u.inFlow u.indent u.cursor).2 with
      keyAllowed := (plainScalar u.inFlow u.indent u.cursor).1.2 } := by
    rw [plain, hmark]
    rfl
  rw [hbind, hflow, hread]

theorem tokenAt_plain {x : Char} {rest cs : List Char} {newLine : Bool} (hc : c.rest = x :: rest)
    (hascii : isAscii x = true) (hspace : x ≠ ' ') (hleading : leadingIndicators.contains x = false)
    (halone : x = '-' ∨ x = '?' ∨ x = ':' → atGap rest.head? = false)
    (hmark : 0 < c.column ∨ ¬ StartsWithMark c.rest)
    (hread : plainScalar false (front c tokens indents true).indent c = ((cs, newLine), d)) :
    (front c tokens indents keyAllowed).tokenAt x
      = .ok (behindScalar true cs c d tokens indents keyAllowed newLine) := by
  have hdashes := isAtSeparator_eq_false (.inl rfl) hmark
  have hpoints := isAtSeparator_eq_false (.inr rfl) hmark
  have hafter : c.charAt? 1 = rest.head? := by rw [Cursor.charAt?, hc]; rfl
  have hplain : (front c tokens indents keyAllowed).plain
      = .ok (behindScalar true cs c d tokens indents keyAllowed newLine) :=
    plain_of_markKey markKey_front rfl hread
  simp only [leadingIndicators, List.contains_eq_mem, List.mem_cons, List.not_mem_nil, or_false,
    decide_eq_false_iff_not, not_or] at hleading
  have hstarts : startsPlain false x rest.head? = true := by
    have hlist : "-?:,[]\x7b\x7d#&*!|>'\"%@\x60".toList.contains x
        = decide (x = '-' ∨ x = '?' ∨ x = ':') := by simp [hleading]
    rw [startsPlain, hlist, isBlankChar_of_isAscii hascii, endsLine_of_isAscii hascii,
      beq_false_of_ne hspace]
    by_cases hx : x = '-' ∨ x = '?' ∨ x = ':'
    · rw [halone hx]
      obtain rfl | rfl | rfl := hx <;> rfl
    · rw [decide_eq_false hx]
      rfl
  have hdash : (x == '-' && atGap rest.head?) = false := by
    by_cases hx : x = '-'
    · rw [halone (.inl hx), Bool.and_false]
    · rw [beq_false_of_ne hx, Bool.false_and]
  have hquestion : (x == '?' && atGap rest.head?) = false := by
    by_cases hx : x = '?'
    · rw [halone (.inr (.inl hx)), Bool.and_false]
    · rw [beq_false_of_ne hx, Bool.false_and]
  have hcolon : (x == ':' && atGap rest.head?) = false := by
    by_cases hx : x = ':'
    · rw [halone (.inr (.inr hx)), Bool.and_false]
    · rw [beq_false_of_ne hx, Bool.false_and]
  unfold tokenAt
  simpa [front, inFlow, hafter, hdashes, hpoints, hleading, hdash, hquestion, hcolon, hstarts]
    using hplain

/-- The first column in which a scalar goes on on another line. -/
def least (indents : List Nat) : Nat :=
  match indents with
  | [] => 0
  | i :: _ => i + 1

theorem toNat_indent_front :
    ((front c tokens indents keyAllowed).indent + 1).toNat = least indents := by
  cases indents with
  | nil => rfl
  | cons i is => exact Int.toNat_natCast (i + 1)

/-- What a scalar ends with: quotes end where they are closed, and plain text where the gap behind
it is nothing or leads to a line that does not belong to it. -/
structure EndsScalar (plain : Bool) (least : Nat) (tail : List Char) (c d : Cursor)
    (newLine : Bool) : Prop where
  quoted : plain = false → tail.head? ≠ some '\'' ∧ newLine = false ∧ d = c
  plain : plain = true → plainRun false tail = [] ∧ ∃ gap,
    plainGap c = ((gap, newLine), d) ∧ (gap = [] ∨ d.column < least)

/-- A written scalar is one token. -/
theorem tokenAt_written (tokens : List Token) (indents : List Nat) (keyAllowed : Bool)
    {indent : Nat} {plain newLine : Bool} {text written tail : List Char}
    (hw : WrittenAs indent plain text written) (hindent : 0 < indent) (hwidth : indent < lineWidth)
    (hc : c.rest = written ++ tail) (hmark : 0 < c.column ∨ ¬ StartsWithMark c.rest)
    (hleast : least indents ≤ indent) (hcolumn : least indents ≤ c.column + 1)
    (hend : EndsScalar plain (least indents) tail (c.skip written.length) d newLine) :
    ∃ x, c.char? = some x ∧ (front c tokens indents keyAllowed).tokenAt x
      = .ok (behindScalar plain text c d tokens indents keyAllowed newLine) := by
  cases hw with
  | plain h fold column =>
      obtain ⟨htail, gap, hgap, hstop⟩ := hend.plain rfl
      obtain ⟨x, rest, hstart, hascii, hspace, hleading, halone⟩ :=
        exists_start_plainFrom fold indent column h
      have hread : plainScalar false (front c tokens indents true).indent c
          = ((text, newLine), d) := by
        have hroom : (plainFrom fold indent none column text).length < c.rest.length + 1 := by
          rw [hc, List.length_append]
          omega
        rw [plainScalar, toNat_indent_front, plainFromCursor_lines
          (plainLines_plainFrom (isPlainPart_of_isPlainText h) none column) hleast hindent hc
          hcolumn hroom htail hgap hstop]
        rfl
      have hrest : c.rest = x :: (rest ++ tail) := by rw [hc, hstart]; rfl
      refine ⟨x, by rw [Cursor.char?, hrest]; rfl,
        tokenAt_plain hrest hascii hspace hleading ?_ hmark hread⟩
      intro hx
      obtain ⟨y, more, rfl, hy, hyspace⟩ := halone hx
      simp [atGap, isBlankChar_of_isAscii hy, endsLine_of_isAscii hy, hyspace]
  | single h fold column =>
      obtain ⟨htail, rfl, rfl⟩ := hend.quoted rfl
      have hrest :
          c.rest = '\'' :: (foldedFrom fold indent none column text ++ ['\''] ++ tail) := hc
      exact ⟨'\'', by rw [Cursor.char?, hrest]; rfl,
        tokenAt_quoted false hrest (quotedScalar_single h hindent hc htail)⟩
  | double _ fold column =>
      obtain ⟨-, rfl, rfl⟩ := hend.quoted rfl
      have hrest :
          c.rest = '"' :: (doubleFrom fold indent true true column text ++ ['"'] ++ tail) := hc
      exact ⟨'"', by rw [Cursor.char?, hrest]; rfl,
        tokenAt_quoted true hrest (quotedScalar_double hindent hwidth hc)⟩

theorem isOpen_behindScalar {plain wasAllowed : Bool} {text : List Char}
    (h : (front c tokens indents wasAllowed).IsOpen) :
    (behindScalar plain text c d tokens indents wasAllowed keyAllowed).IsOpen := by
  intro t ht
  obtain rfl | ht := List.mem_cons.mp ht
  · rfl
  · exact h t ht

end Tokens

/-! ## values -/

/-- A row of a block, or the end of the text, in a column. -/
structure IsRow (n : Nat) (row : List Char) : Prop where
  startsVisibly : StartsVisibly row
  noMark : 0 < n ∨ ¬ StartsWithMark row

/-- A layout stands at a row. -/
def StandsAt (s : Layout) (n : Nat) (row : List Char) (tokens : List Token) (indents : List Nat) :
    Prop :=
  ∃ c, c.rest = row ∧ c.column = n ∧ s.Stands (front c tokens indents true)

section Values

variable {c : Cursor} {tokens : List Token} {indents : List Nat} {keyAllowed : Bool} {s : Layout}
  {indent : Nat} {plain : Bool} {text written : List Char}

/-- A scalar that is further right than its block need not be a key. -/
theorem of_keyAt {top : Nat} {wasAllowed : Bool} (htop : top < c.column) {k : PossibleKey}
    (hk : (if wasAllowed then some (keyAt c tokens (top :: indents)) else none) = some k) :
    k.required = false ∧ k.line = c.line := by
  cases wasAllowed with
  | false => cases hk
  | true =>
      rw [← Option.some.inj hk]
      refine ⟨?_, rfl⟩
      have hne : (top : Int) ≠ c.column := by omega
      exact beq_false_of_ne hne

/-- A scalar that is further right than its block is a value, and the next row stands behind it. -/
theorem Stands.value {n top : Nat} {row : List Char}
    (h : s.Stands (front c tokens (top :: indents) keyAllowed))
    (hw : WrittenAs indent plain text written) (hwidth : indent < lineWidth)
    (hc : c.rest = written ++ (newLine n ++ row)) (htop : top < c.column) (hindent : top < indent)
    (hn : n ≤ top) (hrow : IsRow n row) :
    ∃ t, s.Leads t ∧ t.StandsAt n row (.scalar plain text :: tokens) (top :: indents) := by
  have hclosed : (front c tokens (top :: indents) keyAllowed).closeBlocks c.column
      = front c tokens (top :: indents) keyAllowed := by
    refine closeBlocks_self fun i hi => ?_
    rw [← Option.some.inj hi]
    exact Nat.le_of_lt htop
  have hbehind : (c.skip written.length).rest = newLine n ++ row := by
    rw [Cursor.rest_skip, hc, List.drop_left]
  have hnext := Cursor.skip_newLine hbehind
  have hlength := hw.length_pos
  have hline := Cursor.line_le_skip written.length c
  have hpositive : 0 < indent := Nat.lt_of_le_of_lt (Nat.zero_le top) hindent
  have hmark : 0 < c.column ∨ ¬ StartsWithMark c.rest :=
    .inl (Nat.lt_of_le_of_lt (Nat.zero_le top) htop)
  cases plain with
  | true =>
      have hend : EndsScalar true (least (top :: indents)) (newLine n ++ row)
          (c.skip written.length) ((c.skip written.length).skip (n + 1)) true := by
        refine ⟨fun hplain => Bool.noConfusion hplain, fun _ => ⟨rfl, [' '], ?_, .inr ?_⟩⟩
        · exact plainGap_newLine hbehind hrow.startsVisibly hrow.noMark
        · rw [hnext]
          exact Nat.lt_succ_of_le hn
      obtain ⟨x, hchar, htoken⟩ := tokenAt_written tokens (top :: indents) keyAllowed hw
        hpositive hwidth hc hmark hindent (Nat.succ_le_succ (Nat.le_of_lt htop)) hend
      refine ⟨_, h.leads hclosed hchar htoken isOpen_behindScalar ?_, _, ?_, ?_,
        stands_nextLine ?_ ?_⟩
      · show ((c.skip written.length).skip (n + 1)).rest.length < c.rest.length
        rw [hnext, hc]
        simp only [List.length_append]
        omega
      · rw [hnext]
      · rw [hnext]
      · rw [hnext]
        exact hrow.startsVisibly
      · intro k hk
        obtain ⟨hrequired, hkline⟩ := of_keyAt htop hk
        exact ⟨hrequired, by rw [hnext, hkline]; exact Nat.lt_succ_of_le hline⟩
  | false =>
      have hend : EndsScalar false (least (top :: indents)) (newLine n ++ row)
          (c.skip written.length) (c.skip written.length) false :=
        ⟨fun _ => ⟨by simp [newLine], rfl, rfl⟩, fun hplain => Bool.noConfusion hplain⟩
      obtain ⟨x, hchar, htoken⟩ := tokenAt_written tokens (top :: indents) keyAllowed hw
        hpositive hwidth hc hmark hindent (Nat.succ_le_succ (Nat.le_of_lt htop)) hend
      refine ⟨_, h.leads hclosed hchar htoken isOpen_behindScalar ?_, _, ?_, ?_,
        stands_newLine hbehind hrow.startsVisibly ?_⟩
      · show (c.skip written.length).rest.length < c.rest.length
        rw [hbehind, hc]
        simp only [List.length_append]
        omega
      · rw [hnext]
      · rw [hnext]
      · intro k hk
        obtain ⟨hrequired, hkline⟩ := of_keyAt htop hk
        exact ⟨hrequired, by rw [hkline]; exact hline⟩

end Values

/-! ## keys -/

/-- Whether a block in a column is deeper than the open ones. -/
def opens (indents : List Nat) (column : Nat) : Bool := indents.head?.all (· < column)

/-- The open blocks with one in a column. -/
def openIndents (indents : List Nat) (column : Nat) : List Nat :=
  if opens indents column then column :: indents else indents

/-- The tokens with the start of a block in a column, unless it is open. -/
def openTokens (start : Token) (indents : List Nat) (column : Nat) (tokens : List Token) :
    List Token :=
  if opens indents column then start :: tokens else tokens

theorem isInner_of_mem_openTokens {start : Token} {indents : List Nat} {column : Nat}
    {tokens : List Token} (hstart : start.isInner = true)
    (h : ∀ t ∈ tokens, t.isInner = true) :
    ∀ t ∈ openTokens start indents column tokens, t.isInner = true := by
  rw [openTokens]
  split
  · exact List.forall_mem_cons.mpr ⟨hstart, h⟩
  · exact h

theorem opensBlock_eq {s : Layout} (column : Nat) :
    s.opensBlock column = opens s.indents column := by
  rw [opensBlock, opens, indent]
  cases s.indents with
  | nil => simp; omega
  | cons i is => simp

section Keys

variable {c : Cursor} {tokens : List Token} {indents : List Nat} {s : Layout} {indent : Nat}
  {plain : Bool} {text written : List Char}

theorem tokenAt_colon {y : Char} {rest : List Char} (hc : s.cursor.rest = ':' :: y :: rest)
    (hy : y = ' ' ∨ y = '\n') : s.tokenAt ':' = s.value := by
  have hmark : ¬ StartsWithMark s.cursor.rest := by simp [StartsWithMark, hc]
  have hdashes := isAtSeparator_eq_false (.inl rfl) (.inr hmark)
  have hpoints := isAtSeparator_eq_false (.inr rfl) (.inr hmark)
  have hafter : atGap (s.cursor.charAt? 1) = true := by
    rw [Cursor.charAt?, hc]
    obtain rfl | rfl := hy <;> rfl
  unfold tokenAt
  simp only [hdashes, hpoints, hafter]
  simp

/-- A colon puts a mark in front of its key, and the start of a block that is not open yet. -/
theorem valueOf_behindScalar {d : Cursor} :
    (behindScalar plain text c d tokens indents true false).valueOf (keyAt c tokens indents)
      = front d.next (.value :: .scalar plain text :: .key ::
          openTokens .blockMappingStart indents c.column tokens) (openIndents indents c.column)
        false := by
  have hemit (between : List Token) (t : Token) (key : Option PossibleKey) :
      ({ front d (.scalar plain text :: (between ++ tokens)) indents false with key } :
          Layout).emitAt tokens.length t
        = { front d (.scalar plain text :: (between ++ t :: tokens)) indents false with key } := by
    have hcount : (Token.scalar plain text :: (between ++ tokens)).length - tokens.length
        = (Token.scalar plain text :: between).length := by
      simp only [List.length_cons, List.length_append]
      omega
    have hsplit : Token.scalar plain text :: (between ++ tokens)
        = (Token.scalar plain text :: between) ++ tokens := rfl
    rw [emitAt]
    simp only [front, hcount]
    rw [hsplit, List.take_left, List.drop_left]
    rfl
  have hkey : (behindScalar plain text c d tokens indents true false).emitAt
        (keyAt c tokens indents).before .key
      = { front d (.scalar plain text :: .key :: tokens) indents false with
          key := some (keyAt c tokens indents) } := hemit [] .key _
  have hstart : (front d (.scalar plain text :: .key :: tokens) indents false).emitAt
        (keyAt c tokens indents).before .blockMappingStart
      = front d (.scalar plain text :: .key :: .blockMappingStart :: tokens) indents false :=
    hemit [.key] .blockMappingStart none
  have hopens : (front d (.scalar plain text :: .key :: tokens) indents false).opensBlock
      (keyAt c tokens indents).column = opens indents c.column := opensBlock_eq _
  rw [valueOf, hkey, openTokens, openIndents]
  show (let s :=
      if (!false && (front d (.scalar plain text :: .key :: tokens) indents false).opensBlock
        (keyAt c tokens indents).column) = true
      then { (front d (.scalar plain text :: .key :: tokens) indents false).emitAt
          (keyAt c tokens indents).before .blockMappingStart with indents := c.column :: indents }
      else front d (.scalar plain text :: .key :: tokens) indents false
    { s.advance .value s.cursor.next with keyAllowed := false }) = _
  rw [hopens, hstart]
  cases opens indents c.column <;> rfl

/-- A written key in front of a colon is a scalar first. -/
theorem Stands.leads_key {y : Char} {rest : List Char} (h : s.Stands (front c tokens indents true))
    (hw : WrittenAs indent plain text written) (hascii : ∀ x ∈ written, isAscii x = true)
    (hpositive : 0 < indent) (hwidth : indent < lineWidth)
    (hc : c.rest = written ++ ':' :: y :: rest) (hy : y = ' ' ∨ y = '\n')
    (hclosed : ∀ i, indents.head? = some i → i ≤ c.column) (hleast : least indents ≤ indent)
    (hmark : 0 < c.column ∨ ¬ StartsWithMark c.rest) :
    s.Leads (behindScalar plain text c (c.skip written.length) tokens indents true false) := by
  have hbehind := Cursor.skip_ascii hc hascii
  have hlength := hw.length_pos
  have hcolon : StartsVisibly (':' :: y :: rest) := startsVisibly_cons (by decide)
  have hgap : plainGap (c.skip written.length) = (([], false), c.skip written.length) :=
    plainGap_spaces (n := 0) (by rw [hbehind]; rfl) hcolon ⟨':', rfl⟩
  have hend : EndsScalar plain (least indents) (':' :: y :: rest) (c.skip written.length)
      (c.skip written.length) false := by
    refine ⟨fun _ => ⟨by simp, rfl, rfl⟩, fun _ => ⟨?_, [], hgap, .inl rfl⟩⟩
    obtain rfl | rfl := hy <;> rfl
  have hcolumn : least indents ≤ c.column + 1 := by
    cases indents with
    | nil => exact Nat.zero_le _
    | cons i is => exact Nat.succ_le_succ (hclosed i rfl)
  obtain ⟨x, hchar, htoken⟩ :=
    tokenAt_written tokens indents true hw hpositive hwidth hc hmark hleast hcolumn hend
  refine h.leads (closeBlocks_self hclosed) hchar htoken isOpen_behindScalar ?_
  show (c.skip written.length).rest.length < c.rest.length
  rw [hbehind, hc]
  simp only [List.length_append]
  omega

section Colon

variable {d : Cursor} {y : Char} {rest : List Char} (hd : d.rest = ':' :: y :: rest)
  (hy : y = ' ' ∨ y = '\n') (hclosed : ∀ i, indents.head? = some i → i ≤ d.column)

include hd hy hclosed

/-- A colon that is near enough makes a key of what is in front of it. -/
theorem leads_colon (hfits : (keyAt c tokens indents).isStale d = false) :
    (behindScalar plain text c d tokens indents true false).Leads
      (front d.next (.value :: .scalar plain text :: .key ::
          openTokens .blockMappingStart indents c.column tokens) (openIndents indents c.column)
        false) := by
  have hvisible : StartsVisibly d.rest := by
    rw [hd]
    exact startsVisibly_cons (by decide)
  have hdrop : (behindScalar plain text c d tokens indents true false).dropStaleKeys
      = .ok (behindScalar plain text c d tokens indents true false) := by
    have hkey : withoutStale d (some (keyAt c tokens indents))
        = .ok (some (keyAt c tokens indents)) := by
      rw [withoutStale, Option.any_some, hfits]
      rfl
    unfold dropStaleKeys
    show (do
      let key ← withoutStale d (some (keyAt c tokens indents))
      .ok { behindScalar plain text c d tokens indents true false with key, outerKeys := [] }) = _
    rw [hkey]
    rfl
  have hstands := stands_visible hdrop hdrop hvisible
  have htoken : (behindScalar plain text c d tokens indents true false).tokenAt ':'
      = .ok (front d.next (.value :: .scalar plain text :: .key ::
          openTokens .blockMappingStart indents c.column tokens) (openIndents indents c.column)
        false) := by
    rw [tokenAt_colon hd hy, ← valueOf_behindScalar]
    rfl
  refine hstands.leads (closeBlocks_self hclosed) (by rw [Cursor.char?]; exact congrArg _ hd) htoken
    ?_ ?_
  · intro hopen t ht
    obtain rfl | rfl | rfl | ht : t = .value ∨ t = .scalar plain text ∨ t = .key ∨
        t ∈ openTokens .blockMappingStart indents c.column tokens := by simpa using ht
    · rfl
    · rfl
    · rfl
    · exact isInner_of_mem_openTokens rfl (fun t ht => hopen t (List.mem_cons_of_mem _ ht)) t ht
  · show d.next.rest.length < d.rest.length
    rw [Cursor.rest_next, hd]
    exact Nat.lt_succ_self _

/-- A colon that is too far away is at fault, or the key in front of it is. -/
theorem fails_colon (hfar : (keyAt c tokens indents).isStale d = true) :
    (behindScalar plain text c d tokens indents true false).Fails := by
  have hvisible : StartsVisibly d.rest := by
    rw [hd]
    exact startsVisibly_cons (by decide)
  have hkey : withoutStale d (some (keyAt c tokens indents))
      = withoutKey (some (keyAt c tokens indents)) := by
    rw [withoutStale, Option.any_some, hfar]
    rfl
  have hdrop : (behindScalar plain text c d tokens indents true false).dropStaleKeys
      = (do
        let key ← withoutKey (some (keyAt c tokens indents))
        .ok { behindScalar plain text c d tokens indents true false with
          key, outerKeys := [] }) := by
    rw [← hkey]
    rfl
  by_cases hrequired : (keyAt c tokens indents).required = true
  · refine fails_of_dropStaleKeys ?_
    rw [hdrop, withoutKey, Option.any_some, hrequired]
    rfl
  · have hnone : (behindScalar plain text c d tokens indents true false).dropStaleKeys
        = .ok (front d (.scalar plain text :: tokens) indents false) := by
      rw [hdrop, withoutKey, Option.any_some, if_neg hrequired]
      rfl
    refine (stands_visible hnone dropStaleKeys_front hvisible).fails (closeBlocks_self hclosed)
      (by rw [Cursor.char?]; exact congrArg _ hd) ?_
    rw [tokenAt_colon hd hy]
    rfl

end Colon

/-- A written key and the colon behind it are found if the colon is near enough. -/
theorem Stands.key {y : Char} {rest : List Char} (h : s.Stands (front c tokens indents true))
    (hw : WrittenAs indent plain text written) (hascii : ∀ x ∈ written, isAscii x = true)
    (hpositive : 0 < indent) (hwidth : indent < lineWidth)
    (hc : c.rest = written ++ ':' :: y :: rest) (hy : y = ' ' ∨ y = '\n')
    (hclosed : ∀ i, indents.head? = some i → i ≤ c.column) (hleast : least indents ≤ indent)
    (hmark : 0 < c.column ∨ ¬ StartsWithMark c.rest) :
    (written.length ≤ keyReach →
      s.Leads (front (c.skip (written.length + 1)) (.value :: .scalar plain text :: .key ::
          openTokens .blockMappingStart indents c.column tokens) (openIndents indents c.column)
        false)) ∧
    (keyReach < written.length → s.Fails) := by
  have hbehind := Cursor.skip_ascii hc hascii
  have hscalar := h.leads_key hw hascii hpositive hwidth hc hy hclosed hleast hmark
  have hnext : c.skip (written.length + 1) = (c.skip written.length).next :=
    Cursor.skip_add written.length 1 c
  have hstale : (keyAt c tokens indents).isStale (c.skip written.length)
      = decide (keyReach < written.length) := by
    rw [hbehind, PossibleKey.isStale]
    show (c.line != c.line || decide (keyReach < c.index + written.length - c.index)) = _
    rw [bne_self_eq_false, Bool.false_or, Nat.add_sub_cancel_left]
  have hrest : (c.skip written.length).rest = ':' :: y :: rest := by rw [hbehind]
  have hopen : ∀ i, indents.head? = some i → i ≤ (c.skip written.length).column := by
    intro i hi
    rw [hbehind]
    exact Nat.le_trans (hclosed i hi) (Nat.le_add_right _ _)
  constructor
  · intro hfits
    rw [hnext]
    exact hscalar.trans (leads_colon hrest hy hopen
      (by rw [hstale, decide_eq_false (Nat.not_lt.mpr hfits)]))
  · intro hfar
    exact hscalar.fails (fails_colon hrest hy hopen (by rw [hstale, decide_eq_true hfar]))

end Keys

end Layout

end ControlPlane.Yaml
