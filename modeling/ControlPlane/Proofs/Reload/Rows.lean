import ControlPlane.Proofs.Reload.Keys
import ControlPlane.Proofs.Reload.Marks

/-!
# Rows of a block

The rows of a block stand one under the other, and behind the last one there is a row of a block
around it or the end of the text (`behindRows`).  For every node there is a list of tokens
(`nodeTokens`); that these are what is read of a piece of text is said by `Reads`, which also says
when reading the piece fails.
-/

namespace ControlPlane.Yaml

/-! ## tokens of nodes -/

/-- The token of a text. -/
def textToken (s : String) : Token := .scalar (Style.ofText s.toList == .plain) s.toList

mutual

/-- The tokens of a node.  A list that is not indented has no tokens for its start and its end. -/
def nodeTokens (indented : Bool) : Wire → List Token
  | .null => [.scalar true "null".toList]
  | .bool b => [.scalar true (boolText b)]
  | .int i => [.scalar true (toString i).toList]
  | .text s => [textToken s]
  | .list [] => [.flowSequenceStart, .flowSequenceEnd]
  | .list (w :: ws) =>
    if indented then .blockSequenceStart :: (itemTokens (w :: ws) ++ [.blockEnd])
    else itemTokens (w :: ws)
  | .object [] => [.flowMappingStart, .flowMappingEnd]
  | .object (e :: es) => .blockMappingStart :: (entryTokens (e :: es) ++ [.blockEnd])

/-- The tokens of items. -/
def itemTokens : List Wire → List Token
  | [] => []
  | w :: ws => .blockEntry :: (nodeTokens true w ++ itemTokens ws)

/-- The tokens of entries. -/
def entryTokens : List (String × Wire) → List Token
  | [] => []
  | (k, w) :: es =>
    .key :: textToken k :: .value :: (nodeTokens (!isSimpleKey k.toList) w ++ entryTokens es)

end

/-! ## rows -/

/-- Rows of a block and a row behind them: the column and the text of the first one. -/
def behindRows (indent : Nat) (next : Nat × List Char) : List (List Char) → Nat × List Char
  | [] => next
  | row :: rows =>
    let more := behindRows indent next rows
    (indent, row ++ (newLine more.1 ++ more.2))

section BehindRows

variable {indent : Nat} {next : Nat × List Char}

theorem joinRows_cons_cons (row row' : List Char) (rows : List (List Char)) :
    joinRows indent (row :: row' :: rows)
      = row ++ (newLine indent ++ joinRows indent (row' :: rows)) := by
  simp [joinRows, List.intercalate, List.intersperse]

theorem joinRows_append (row : List Char) (rows : List (List Char)) :
    joinRows indent (row :: rows) ++ (newLine next.1 ++ next.2)
      = (behindRows indent next (row :: rows)).2 := by
  induction rows generalizing row with
  | nil => simp [joinRows, behindRows]
  | cons row' rows ih =>
      rw [joinRows_cons_cons, behindRows, List.append_assoc, List.append_assoc, ih]
      rfl

theorem fst_behindRows_le (h : next.1 ≤ indent) (rows : List (List Char)) :
    (behindRows indent next rows).1 ≤ indent := by
  cases rows with
  | nil => exact h
  | cons row rows => exact Nat.le_refl _

end BehindRows

/-! ## how rows start -/

section Starts

variable {indent column : Nat} {cs rest : List Char}

theorem WrittenAs.startsVisibly {plain : Bool} {text written : List Char}
    (h : WrittenAs indent plain text written) (rest : List Char) :
    StartsVisibly (written ++ rest) := by
  cases h with
  | plain htext fold column =>
      have hlines : PlainLines indent text (plainFrom fold indent none column text) :=
        plainLines_plainFrom (isPlainPart_of_isPlainText htext) none column
      exact hlines.startsVisibly rest
  | single => exact startsVisibly_cons (by decide)
  | double => exact startsVisibly_cons (by decide)

/-- A key is no mark that separates documents, since it ends with a colon. -/
theorem not_startsWithMark_key :
    ¬ StartsWithMark (textScalar false indent column cs ++ ':' :: rest) := by
  unfold textScalar
  cases hstyle : Style.ofText cs with
  | plain =>
      have htext := (of_style_plain hstyle).1
      simp only [isPlainText, hasIndicator, Bool.and_eq_true, Bool.not_eq_true',
        Bool.or_eq_false_iff, beq_eq_false_iff_ne] at htext
      obtain ⟨-, ⟨hdashes, hpoints⟩, -⟩ := htext
      dsimp only
      rw [plainFrom_false]
      -- A mark has three characters, so a shorter key ends with its colon too early.
      obtain _ | ⟨x, _ | ⟨y, _ | ⟨z, cs⟩⟩⟩ := cs
      · simp [StartsWithMark]
      · simp [StartsWithMark]
      · simp [StartsWithMark]
      · exact not_or.mpr ⟨hdashes, hpoints⟩
  | single => simp [StartsWithMark]
  | double => simp [StartsWithMark]

theorem exists_behindDash (i : Nat) (w : Wire) : ∃ rest, behindDash i w = ' ' :: rest := by
  unfold behindDash
  split <;> exact ⟨_, rfl⟩

theorem exists_behindKey (i column : Nat) (w : Wire) :
    ∃ y rest, behindKey i column w = y :: rest ∧ (y = ' ' ∨ y = '\n') := by
  unfold behindKey
  split
  all_goals first
    | exact ⟨' ', _, rfl, .inl rfl⟩
    | exact ⟨'\n', _, rfl, .inr rfl⟩

end Starts

/-! ## statements -/

namespace Layout

/-- Behind a layout some tokens are found up to a row, provided that keys fit; otherwise a fault. -/
def Reads (fits : Prop) (s : Layout) (next : Nat × List Char) (tokens : List Token)
    (indents : List Nat) : Prop :=
  (fits → ∃ t, s.Leads t ∧ t.StandsAt next.1 next.2 tokens indents) ∧ (¬ fits → s.Fails)

section Reads

variable {p q : Prop} {s t : Layout} {next next' : Nat × List Char} {tokens tokens' : List Token}
  {indents indents' : List Nat}

theorem Reads.of_leads (hp : p)
    (h : ∃ t, s.Leads t ∧ t.StandsAt next.1 next.2 tokens indents) :
    Reads p s next tokens indents :=
  ⟨fun _ => h, fun hnot => absurd hp hnot⟩

theorem Leads.reads (h : s.Leads t) (ht : Reads p t next tokens indents) :
    Reads p s next tokens indents := by
  refine ⟨fun hp => ?_, fun hp => h.fails (ht.2 hp)⟩
  obtain ⟨u, hu, hstands⟩ := ht.1 hp
  exact ⟨u, h.trans hu, hstands⟩

theorem Reads.congr (h : Reads p s next tokens indents) (hpq : p ↔ q) :
    Reads q s next tokens indents :=
  ⟨fun hq => h.1 (hpq.mpr hq), fun hq => h.2 fun hp => hq (hpq.mp hp)⟩

/-- One piece behind another. -/
theorem Reads.bind (hp : Reads p s next tokens indents)
    (hq : ∀ t : Layout, t.StandsAt next.1 next.2 tokens indents →
      Reads q t next' tokens' indents') :
    Reads (p ∧ q) s next' tokens' indents' := by
  by_cases h : p
  · obtain ⟨t, hst, ht⟩ := hp.1 h
    exact (hst.reads (hq t ht)).congr (by simp [h])
  · exact ⟨fun hpq => absurd hpq.1 h, fun _ => hp.2 h⟩

/-- A block that ends in front of the row behind it. -/
theorem Reads.close {i : Nat} (h : Reads p s next tokens (i :: indents)) (hi : next.1 < i) :
    Reads p s next (.blockEnd :: tokens) indents := by
  refine ⟨fun hp => ?_, h.2⟩
  obtain ⟨t, hst, c, hrest, hcolumn, hstands⟩ := h.1 hp
  exact ⟨t, hst, c, hrest, hcolumn, hstands.close (hcolumn ▸ hi)⟩

end Reads

/-! ## rows of blocks -/

section Rows

variable {i : Nat} {cs rest : List Char}

theorem isRow_nil : IsRow i [] := ⟨startsVisibly_nil, .inr not_startsWithMark_nil⟩

/-- A mark of a block starts a row. -/
theorem isRow_mark {x : Char} (hx : x = '-' ∨ x = '?' ∨ x = ':') :
    IsRow i (x :: ' ' :: rest) := by
  obtain rfl | rfl | rfl := hx
  all_goals exact ⟨startsVisibly_cons (by decide), .inr (by simp [StartsWithMark])⟩

theorem isRow_itemRows {ws : List Wire} {row : List Char} (h : row ∈ itemRows i ws) :
    IsRow i (row ++ rest) := by
  induction ws with
  | nil => cases h
  | cons w ws ih =>
      obtain rfl | h := List.mem_cons.mp h
      · obtain ⟨more, hmore⟩ := exists_behindDash i w
        rw [hmore]
        exact isRow_mark (.inl rfl)
      · exact ih h

theorem isRow_keyRow {simple : Nat → List Char} {complex : List Char} :
    IsRow i (keyRow i cs simple complex ++ rest) := by
  unfold keyRow
  split
  · have hwritten := writtenAs_textScalar (i + 2) false i cs
    rw [List.append_assoc]
    exact ⟨hwritten.startsVisibly _, .inr not_startsWithMark_key⟩
  · exact isRow_mark (.inr (.inl rfl))

theorem isRow_entryRows {es : List (String × Wire)} {row : List Char} (h : row ∈ entryRows i es) :
    IsRow i (row ++ rest) := by
  induction es with
  | nil => cases h
  | cons e es ih =>
      obtain rfl | h := List.mem_cons.mp h
      · exact isRow_keyRow
      · exact ih h

end Rows

end Layout

end ControlPlane.Yaml
