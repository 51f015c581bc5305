import ControlPlane.Proofs.Reload.Scalars
import ControlPlane.Yaml.Node

/-!
# Marks of a block

The marks between the scalars of a block: the dash of an item, the question mark and the colon of a
key with an indicator, and the brackets of a collection that is empty.  A mark at the start of a row
opens the block of that row, if it is not open yet.
-/

namespace ControlPlane.Yaml.Layout

variable {c : Cursor} {tokens : List Token} {indents : List Nat} {keyAllowed : Bool} {s : Layout}

/-! ## marks of rows -/

theorem openBlock_front (start : Token) :
    (front c tokens indents keyAllowed).openBlock start
      = front c (openTokens start indents c.column tokens) (openIndents indents c.column)
          keyAllowed := by
  have hopens : (front c tokens indents keyAllowed).opensBlock c.column
      = opens indents c.column := opensBlock_eq _
  rw [openBlock, cursor_front, hopens, openTokens, openIndents]
  cases opens indents c.column <;> rfl

theorem blockEntry_front :
    (front c tokens indents true).blockEntry
      = .ok (front c.next (.blockEntry :: openTokens .blockSequenceStart indents c.column tokens)
          (openIndents indents c.column) true) := by
  have hentry : (front c tokens indents true).blockEntry = (do
      let s ← ((front c tokens indents true).openBlock .blockSequenceStart).dropKey
      .ok { s.advance .blockEntry s.cursor.next with keyAllowed := true }) := rfl
  rw [hentry, openBlock_front]
  rfl

theorem explicitKey_front :
    (front c tokens indents true).explicitKey
      = .ok (front c.next (.key :: openTokens .blockMappingStart indents c.column tokens)
          (openIndents indents c.column) true) := by
  have hkey : (front c tokens indents true).explicitKey = (do
      let s ← ((front c tokens indents true).openBlock .blockMappingStart).dropKey
      .ok { s.advance .key s.cursor.next with keyAllowed := !s.inFlow }) := rfl
  rw [hkey, openBlock_front]
  rfl

theorem value_front :
    (front c tokens indents true).value
      = .ok (front c.next (.value :: openTokens .blockMappingStart indents c.column tokens)
          (openIndents indents c.column) true) := by
  have hvalue : (front c tokens indents true).value
      = (let s := (front c tokens indents true).openBlock .blockMappingStart
        .ok { s.advance .value s.cursor.next with keyAllowed := !s.inFlow }) := rfl
  rw [hvalue, openBlock_front]
  rfl

section Rows

variable {x : Char} {rest : List Char}

theorem tokenAt_dash (hc : s.cursor.rest = '-' :: ' ' :: rest) : s.tokenAt '-' = s.blockEntry := by
  have hmark : ¬ StartsWithMark s.cursor.rest := by simp [StartsWithMark, hc]
  have hdashes := isAtSeparator_eq_false (.inl rfl) (.inr hmark)
  have hpoints := isAtSeparator_eq_false (.inr rfl) (.inr hmark)
  have hafter : s.cursor.charAt? 1 = some ' ' := by rw [Cursor.charAt?, hc]; rfl
  unfold tokenAt
  simp only [hdashes, hpoints, hafter]
  simp [atGap, isBlankChar]

theorem tokenAt_question (hc : s.cursor.rest = '?' :: ' ' :: rest) :
    s.tokenAt '?' = s.explicitKey := by
  have hmark : ¬ StartsWithMark s.cursor.rest := by simp [StartsWithMark, hc]
  have hdashes := isAtSeparator_eq_false (.inl rfl) (.inr hmark)
  have hpoints := isAtSeparator_eq_false (.inr rfl) (.inr hmark)
  have hafter : s.cursor.charAt? 1 = some ' ' := by rw [Cursor.charAt?, hc]; rfl
  unfold tokenAt
  simp only [hdashes, hpoints, hafter]
  simp [atGap, isBlankChar]

/-- A mark at the start of a row leads behind it. -/
theorem Stands.leads_mark {t start : Token} (h : s.Stands (front c tokens indents true))
    (hc : c.rest = x :: rest) (hclosed : ∀ i, indents.head? = some i → i ≤ c.column)
    (ht : t.isInner = true) (hstart : start.isInner = true)
    (htoken : (front c tokens indents true).tokenAt x
      = .ok (front c.next (t :: openTokens start indents c.column tokens)
          (openIndents indents c.column) true)) :
    s.Leads (front c.next (t :: openTokens start indents c.column tokens)
      (openIndents indents c.column) true) := by
  have hchar : (front c tokens indents true).cursor.char? = some x := by
    rw [cursor_front, Cursor.char?, hc]
    rfl
  refine h.leads (closeBlocks_self hclosed) hchar htoken ?_ ?_
  · intro hopen
    exact List.forall_mem_cons.mpr ⟨ht, isInner_of_mem_openTokens hstart hopen⟩
  · rw [cursor_front, cursor_front, Cursor.rest_next, hc]
    exact Nat.lt_succ_self _

theorem Stands.dash (h : s.Stands (front c tokens indents true)) (hc : c.rest = '-' :: ' ' :: rest)
    (hclosed : ∀ i, indents.head? = some i → i ≤ c.column) :
    s.Leads (front c.next (.blockEntry :: openTokens .blockSequenceStart indents c.column tokens)
      (openIndents indents c.column) true) :=
  h.leads_mark hc hclosed rfl rfl ((tokenAt_dash hc).trans blockEntry_front)

theorem Stands.question (h : s.Stands (front c tokens indents true))
    (hc : c.rest = '?' :: ' ' :: rest) (hclosed : ∀ i, indents.head? = some i → i ≤ c.column) :
    s.Leads (front c.next (.key :: openTokens .blockMappingStart indents c.column tokens)
      (openIndents indents c.column) true) :=
  h.leads_mark hc hclosed rfl rfl ((tokenAt_question hc).trans explicitKey_front)

theorem Stands.colon (h : s.Stands (front c tokens indents true))
    (hc : c.rest = ':' :: ' ' :: rest) (hclosed : ∀ i, indents.head? = some i → i ≤ c.column) :
    s.Leads (front c.next (.value :: openTokens .blockMappingStart indents c.column tokens)
      (openIndents indents c.column) true) :=
  h.leads_mark hc hclosed rfl rfl ((tokenAt_colon hc (.inl rfl)).trans value_front)

end Rows

/-! ## empty collections -/

/-- The bracket that opens a flow collection. -/
def openingMark : Kind → Char
  | .list => '['
  | .map => '\x7b'

/-- The bracket that closes a flow collection. -/
def closingMark : Kind → Char
  | .list => ']'
  | .map => '\x7d'

/-- The token of the opening bracket. -/
def flowStart : Kind → Token
  | .list => .flowSequenceStart
  | .map => .flowMappingStart

/-- The token of the closing bracket. -/
def flowEnd : Kind → Token
  | .list => .flowSequenceEnd
  | .map => .flowMappingEnd

section Empty

variable {kind : Kind} {rest : List Char}

theorem tokenAt_openingMark (hc : s.cursor.rest = openingMark kind :: rest) :
    s.tokenAt (openingMark kind) = s.openFlow (flowStart kind) := by
  have hmark : ¬ StartsWithMark s.cursor.rest := by
    rw [hc]
    cases kind <;> simp [StartsWithMark, openingMark]
  have hdashes := isAtSeparator_eq_false (.inl rfl) (.inr hmark)
  have hpoints := isAtSeparator_eq_false (.inr rfl) (.inr hmark)
  unfold tokenAt
  cases kind <;> simp [openingMark, flowStart, hdashes, hpoints]

theorem tokenAt_closingMark (hc : s.cursor.rest = closingMark kind :: rest) :
    s.tokenAt (closingMark kind) = s.closeFlow (flowEnd kind) := by
  have hmark : ¬ StartsWithMark s.cursor.rest := by
    rw [hc]
    cases kind <;> simp [StartsWithMark, closingMark]
  have hdashes := isAtSeparator_eq_false (.inl rfl) (.inr hmark)
  have hpoints := isAtSeparator_eq_false (.inr rfl) (.inr hmark)
  unfold tokenAt
  cases kind <;> simp [closingMark, flowEnd, hdashes, hpoints]

/-- The layout within an empty collection. -/
def within (kind : Kind) (d : Cursor) (tokens : List Token) (indents : List Nat)
    (key : Option PossibleKey) : Layout :=
  { cursor := d, tokens := flowStart kind :: tokens, indents, outerKeys := [key] }

/-- The bracket right behind an opening one closes it. -/
theorem leads_closingMark {d : Cursor} {key : Option PossibleKey}
    (hd : d.rest = closingMark kind :: rest) (hkey : key.any (·.isStale d) = false) :
    (within kind d tokens indents key).Leads
      { front d.next (flowEnd kind :: flowStart kind :: tokens) indents false with key } := by
  have hvisible : StartsVisibly d.rest := by
    rw [hd]
    exact startsVisibly_cons (by cases kind <;> decide)
  have hstale : withoutStale d key = .ok key := by
    rw [withoutStale, hkey]
    rfl
  have hdrop : (within kind d tokens indents key).dropStaleKeys
      = .ok (within kind d tokens indents key) := by
    have houter : [key].mapM (withoutStale d) = .ok [key] := by
      rw [List.mapM_cons, hstale]
      rfl
    unfold dropStaleKeys
    show (do
      let outerKeys ← [key].mapM (withoutStale d)
      .ok { within kind d tokens indents key with key := none, outerKeys }) = _
    rw [houter]
    rfl
  have hchar : (within kind d tokens indents key).cursor.char? = some (closingMark kind) :=
    congrArg List.head? hd
  refine (stands_visible hdrop hdrop hvisible).leads (by rfl) hchar (tokenAt_closingMark hd) ?_ ?_
  · intro hopen
    have hend : (flowEnd kind).isInner = true := by cases kind <;> rfl
    exact List.forall_mem_cons.mpr ⟨hend, hopen⟩
  · show d.next.rest.length < d.rest.length
    rw [Cursor.rest_next, hd]
    exact Nat.lt_succ_self _

/-- A written collection without content is a value. -/
theorem Stands.empty {n top : Nat} {row : List Char}
    (h : s.Stands (front c tokens (top :: indents) keyAllowed))
    (hc : c.rest = openingMark kind :: closingMark kind :: (newLine n ++ row))
    (htop : top < c.column) (hrow : IsRow n row) :
    ∃ t, s.Leads t ∧
      t.StandsAt n row (flowEnd kind :: flowStart kind :: tokens) (top :: indents) := by
  have hascii : isAscii (openingMark kind) = true ∧ isAscii (closingMark kind) = true := by
    cases kind <;> decide
  have hnext := Cursor.next_ascii hc hascii.1
  have hrest1 : c.next.rest = closingMark kind :: (newLine n ++ row) := by rw [hnext]
  have hnext2 := Cursor.next_ascii hrest1 hascii.2
  obtain ⟨key, hkey⟩ : ∃ key, key = if keyAllowed then some (keyAt c tokens (top :: indents))
      else none := ⟨_, rfl⟩
  have hclosed : (front c tokens (top :: indents) keyAllowed).closeBlocks c.column
      = front c tokens (top :: indents) keyAllowed := by
    refine closeBlocks_self fun i hi => ?_
    rw [← Option.some.inj hi]
    exact Nat.le_of_lt htop
  have htoken : (front c tokens (top :: indents) keyAllowed).tokenAt (openingMark kind)
      = .ok (within kind c.next tokens (top :: indents) key) := by
    rw [tokenAt_openingMark hc, openFlow, markKey_front, hkey]
    rfl
  have hopened : s.Leads (within kind c.next tokens (top :: indents) key) := by
    refine h.leads hclosed (by rw [cursor_front, Cursor.char?, hc]; rfl) htoken ?_ ?_
    · intro hopen
      have hstart : (flowStart kind).isInner = true := by cases kind <;> rfl
      exact List.forall_mem_cons.mpr ⟨hstart, hopen⟩
    · show c.next.rest.length < c.rest.length
      rw [hnext, hc]
      exact Nat.lt_succ_self _
  have hnear : key.any (·.isStale c.next) = false := by
    rw [hkey, hnext]
    cases keyAllowed with
    | false => rfl
    | true => simp [PossibleKey.isStale, keyAt, keyReach]
  have hrest : c.next.next.rest = newLine n ++ row := by rw [hnext2]
  refine ⟨_, hopened.trans (leads_closingMark hrest1 hnear), _, ?_, ?_,
    stands_newLine hrest hrow.startsVisibly ?_⟩
  · rw [Cursor.skip_newLine hrest]
  · rw [Cursor.skip_newLine hrest]
  · intro k hk
    rw [hkey] at hk
    obtain ⟨hrequired, hline⟩ := of_keyAt htop hk
    exact ⟨hrequired, by rw [hline, hnext2, hnext]⟩

end Empty

end ControlPlane.Yaml.Layout
