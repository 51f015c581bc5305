import ControlPlane.Proofs.Reload.Keys
import ControlPlane.Proofs.Reload.Marks
import ControlPlane.Proofs.Reload.Rows

/-!
# Reading blocks

What is printed of a node is read as the tokens of that node, up to the row behind it, or as a fault
if one of the keys within it does not fit (`reads_node`).  What a node is printed behind decides how
its rows are indented: a list behind a key stays where the key is, and one behind a dash starts a
block of its own.  Both are read by one recursion over nodes, items and entries.
-/

namespace ControlPlane.Yaml

namespace Layout

variable {c : Cursor} {s : Layout} {tokens : List Token} {i : Nat} {is : List Nat}
  {next : Nat × List Char} {keyAllowed : Bool}

/-! ## room -/

/-- Lines are wide enough for a node in a column, and a row that does not belong to it stands behind
it. -/
structure HasRoom (i depth : Nat) (next : Nat × List Char) : Prop where
  width : i + 2 * depth + 2 < lineWidth
  le : next.1 ≤ i
  row : IsRow next.1 next.2

namespace HasRoom

variable {depth : Nat}

/-- There is room for what lies within a node. -/
theorem within (h : HasRoom i depth next) {i' depth' : Nat} (hi : i ≤ i')
    (hdepth : i' + 2 * depth' ≤ i + 2 * depth) : HasRoom i' depth' next where
  width := by have := h.width; omega
  le := Nat.le_trans h.le hi
  row := h.row

/-- There is room in front of other rows. -/
theorem behindRows (h : HasRoom i depth next) {rows : List (List Char)}
    (hrows : ∀ row ∈ rows, ∀ rest, IsRow i (row ++ rest)) :
    HasRoom i depth (behindRows i next rows) where
  width := h.width
  le := fst_behindRows_le h.le rows
  row := by
    cases rows with
    | nil => exact h.row
    | cons row rows => exact hrows row List.mem_cons_self _

theorem items (h : HasRoom i depth next) (ws : List Wire) :
    HasRoom i depth (Yaml.behindRows i next (itemRows i ws)) :=
  h.behindRows fun _ hrow _ => isRow_itemRows hrow

theorem entries (h : HasRoom i depth next) (es : List (String × Wire)) :
    HasRoom i depth (Yaml.behindRows i next (entryRows i es)) :=
  h.behindRows fun _ hrow _ => isRow_entryRows hrow

end HasRoom

/-! ## open blocks -/

section Open

variable {indents : List Nat}

/-- No block is opened where one is open. -/
theorem opens_self : opens (i :: is) i = false := by simp [opens]

theorem openIndents_self : openIndents (i :: is) i = i :: is := by rw [openIndents, opens_self]; rfl

theorem openTokens_self (start : Token) : openTokens start (i :: is) i tokens = tokens := by
  rw [openTokens, opens_self]
  rfl

/-- The open blocks around a row do not lie behind it. -/
theorem le_of_openIndents (h : openIndents indents i = i :: is) :
    ∀ j, indents.head? = some j → j ≤ i := by
  intro j hj
  unfold openIndents at h
  split at h
  · next hopens =>
    rw [opens, hj] at hopens
    exact Nat.le_of_lt (of_decide_eq_true hopens)
  · rw [h] at hj
    rw [← Option.some.inj hj]

theorem least_le_of_openIndents (h : openIndents indents i = i :: is) : least indents ≤ i + 1 := by
  cases indents with
  | nil => exact Nat.zero_le _
  | cons j js => exact Nat.succ_le_succ (le_of_openIndents h j rfl)

end Open

/-! ## scalars and empty collections -/

/-- The layout behind a colon or a dash, and a space. -/
theorem stands_space {rest : List Char} (hc : c.rest = ' ' :: rest) (hrest : StartsVisibly rest) :
    (front c tokens is keyAllowed).Stands (front c.next tokens is keyAllowed) ∧
      c.next.rest = rest ∧ c.next.column = c.column + 1 := by
  have hnext := Cursor.next_ascii hc (by decide)
  exact ⟨stands_spaces (n := 1) hc hrest, by rw [hnext], by rw [hnext]⟩

theorem reads_scalar {plain : Bool} {text written : List Char} (hroom : HasRoom i 0 next)
    (hw : WrittenAs (i + 2) plain text written)
    (hc : c.rest = ' ' :: (written ++ (newLine next.1 ++ next.2))) (hcolumn : i < c.column) :
    Reads (KeysFit []) (front c tokens (i :: is) keyAllowed) next (.scalar plain text :: tokens)
      (i :: is) := by
  obtain ⟨hstands, hrest, hnext⟩ := stands_space hc (hw.startsVisibly _)
  exact .of_leads keysFit_nil
    (hstands.value hw hroom.width hrest (by omega) (by omega) hroom.le hroom.row)

theorem reads_empty (kind : Kind) (hroom : HasRoom i 0 next)
    (hc : c.rest = ' ' :: openingMark kind :: closingMark kind :: (newLine next.1 ++ next.2))
    (hcolumn : i < c.column) :
    Reads (KeysFit []) (front c tokens (i :: is) keyAllowed) next
      (flowEnd kind :: flowStart kind :: tokens) (i :: is) := by
  have hvisible :
      StartsVisibly (openingMark kind :: closingMark kind :: (newLine next.1 ++ next.2)) :=
    startsVisibly_cons (by cases kind <;> decide)
  obtain ⟨hstands, hrest, hnext⟩ := stands_space hc hvisible
  exact .of_leads keysFit_nil (hstands.empty hrest (by omega) hroom.row)

/-! ## statements -/

/-- A node is read behind a dash and behind a key. -/
structure ReadsNode (w : Wire) : Prop where
  behindDash {c : Cursor} {tokens : List Token} {i : Nat} {is : List Nat} {next : Nat × List Char}
    (hroom : HasRoom i w.depth next)
    (hc : c.rest = behindDash i w ++ (newLine next.1 ++ next.2)) (hcolumn : c.column = i + 1) :
    Reads (KeysFit w.keys) (front c tokens (i :: is) true) next
      ((nodeTokens true w).reverse ++ tokens) (i :: is)
  behindKey {c : Cursor} {tokens : List Token} {i : Nat} {is : List Nat} {next : Nat × List Char}
    (hroom : HasRoom i w.depth next)
    (hc : c.rest = behindKey i c.column w ++ (newLine next.1 ++ next.2)) (hcolumn : i < c.column) :
    Reads (KeysFit w.keys) (front c tokens (i :: is) false) next
      ((nodeTokens false w).reverse ++ tokens) (i :: is)

/-- The rows of a block are read, whether the block is open or not. -/
def ReadsRows (start : Token) (rows : (i : Nat) → List (List Char)) (found : List Token)
    (depth : Nat) (fits : Prop) : Prop :=
  ∀ {s : Layout} {tokens : List Token} {indents : List Nat} {i : Nat} {is : List Nat}
    {next : Nat × List Char}, HasRoom i depth next → openIndents indents i = i :: is →
    (rows i = [] → opens indents i = false) →
    s.StandsAt (behindRows i next (rows i)).1 (behindRows i next (rows i)).2 tokens indents →
    Reads fits s next (found.reverse ++ openTokens start indents i tokens) (i :: is)

/-- The rows of a list are read. -/
def ReadsItems (ws : List Wire) : Prop :=
  ReadsRows .blockSequenceStart (itemRows · ws) (itemTokens ws) (Wire.depthOfItems ws)
    (KeysFit (Wire.keysOfItems ws))

/-- The rows of an object are read. -/
def ReadsEntries (es : List (String × Wire)) : Prop :=
  ReadsRows .blockMappingStart (entryRows · es) (entryTokens es) (Wire.depthOfEntries es)
    (KeysFit (Wire.keysOfEntries es))

/-! ## nodes without parts -/

theorem ReadsNode.of_scalar {w : Wire} {plain : Bool} {text : List Char}
    (hkeys : w.keys = []) (hdepth : w.depth = 0)
    (htokens : ∀ indented, nodeTokens indented w = [.scalar plain text])
    (hdash : ∀ i, ∃ written, WrittenAs (i + 2) plain text written ∧
      Yaml.behindDash i w = ' ' :: written)
    (hkey : ∀ i column, ∃ written, WrittenAs (i + 2) plain text written ∧
      Yaml.behindKey i column w = ' ' :: written) : ReadsNode w where
  behindDash {c tokens i is next} hroom hc hcolumn := by
    obtain ⟨written, hw, hprint⟩ := hdash i
    rw [hkeys, htokens]
    exact reads_scalar (hdepth ▸ hroom) hw (hc.trans (by rw [hprint]; rfl)) (by omega)
  behindKey {c tokens i is next} hroom hc hcolumn := by
    obtain ⟨written, hw, hprint⟩ := hkey i c.column
    rw [hkeys, htokens]
    exact reads_scalar (hdepth ▸ hroom) hw (hc.trans (by rw [hprint]; rfl)) hcolumn

theorem readsNode_null : ReadsNode .null :=
  have hw (i : Nat) : WrittenAs i true "null".toList "null".toList :=
    writtenAs_plain isPlainText_null
  .of_scalar rfl rfl (fun _ => rfl) (fun _ => ⟨_, hw _, rfl⟩) (fun _ _ => ⟨_, hw _, rfl⟩)

theorem readsNode_bool (b : Bool) : ReadsNode (.bool b) :=
  have hw (i : Nat) : WrittenAs i true (boolText b) (boolText b) :=
    writtenAs_plain (isPlainText_bool b)
  .of_scalar rfl rfl (fun _ => rfl) (fun _ => ⟨_, hw _, rfl⟩) (fun _ _ => ⟨_, hw _, rfl⟩)

theorem readsNode_int (n : Int) : ReadsNode (.int n) :=
  have hw (i : Nat) : WrittenAs i true (toString n).toList (toString n).toList :=
    writtenAs_plain (isPlainText_int n)
  .of_scalar rfl rfl (fun _ => rfl) (fun _ => ⟨_, hw _, rfl⟩) (fun _ _ => ⟨_, hw _, rfl⟩)

theorem readsNode_text (s : String) : ReadsNode (.text s) :=
  .of_scalar rfl rfl (fun _ => rfl)
    (fun i => ⟨_, writtenAs_textScalar (i + 2) true (i + 2) s.toList, rfl⟩)
    (fun i column => ⟨_, writtenAs_textScalar (i + 2) true (column + 1) s.toList, rfl⟩)

theorem readsNode_noItems : ReadsNode (.list []) where
  behindDash hroom hc hcolumn :=
    reads_empty .list (hroom.within (Nat.le_refl _) (by omega)) hc (by omega)
  behindKey hroom hc hcolumn :=
    reads_empty .list (hroom.within (Nat.le_refl _) (by omega)) hc hcolumn

theorem readsNode_noEntries : ReadsNode (.object []) where
  behindDash hroom hc hcolumn :=
    reads_empty .map (hroom.within (Nat.le_refl _) (by omega)) hc (by omega)
  behindKey hroom hc hcolumn :=
    reads_empty .map (hroom.within (Nat.le_refl _) (by omega)) hc hcolumn

/-! ## blocks -/

section Blocks

variable {rest : List Char}

/-- The first row of a block behind a dash. -/
theorem standsAt_space (hc : c.rest = ' ' :: rest) (hcolumn : c.column = i + 1)
    (hrow : IsRow (i + 2) rest) : (front c tokens is true).StandsAt (i + 2) rest tokens is := by
  obtain ⟨hstands, hrest, hnext⟩ := stands_space hc hrow.startsVisibly
  exact ⟨c.next, hrest, by omega, hstands⟩

/-- The first row of a block behind a key. -/
theorem standsAt_newLine {n : Nat} (hc : c.rest = newLine n ++ rest) (hrow : IsRow n rest) :
    (front c tokens is keyAllowed).StandsAt n rest tokens is := by
  have hnext := Cursor.skip_newLine hc
  have hstands : (front c tokens is keyAllowed).Stands (front (c.skip (n + 1)) tokens is true) :=
    stands_newLine hc hrow.startsVisibly fun k (hk : none = some k) => by cases hk
  exact ⟨c.skip (n + 1), by rw [hnext], by rw [hnext], hstands⟩

/-- A block that is deeper than the open ones is opened by its first row, and closed behind its last
one. -/
theorem ReadsRows.block {start : Token} {rows : Nat → List (List Char)} {found : List Token}
    {depth : Nat} {fits : Prop} (h : ReadsRows start rows found depth fits)
    (hroom : HasRoom i (depth + 1) next) (hrows : rows (i + 2) ≠ [])
    (hs : s.StandsAt (behindRows (i + 2) next (rows (i + 2))).1
      (behindRows (i + 2) next (rows (i + 2))).2 tokens (i :: is)) :
    Reads fits s next ((start :: (found ++ [.blockEnd])).reverse ++ tokens) (i :: is) := by
  have hopens : opens (i :: is) (i + 2) = true := by simp [opens]
  have hindents : openIndents (i :: is) (i + 2) = (i + 2) :: i :: is := by
    rw [openIndents, if_pos hopens]
  have hread := h (hroom.within (by omega) (by omega)) hindents (fun hnil => absurd hnil hrows) hs
  have hclosed := hread.close (by have := hroom.le; omega)
  rw [openTokens, if_pos hopens] at hclosed
  simpa using hclosed

theorem itemRows_ne_nil (i : Nat) (w : Wire) (ws : List Wire) : itemRows i (w :: ws) ≠ [] := by
  rw [itemRows]
  exact List.cons_ne_nil _ _

theorem entryRows_ne_nil (i : Nat) (e : String × Wire) (es : List (String × Wire)) :
    entryRows i (e :: es) ≠ [] := by
  rw [entryRows]
  exact List.cons_ne_nil _ _

theorem readsNode_list {w : Wire} {ws : List Wire} (h : ReadsItems (w :: ws)) :
    ReadsNode (.list (w :: ws)) where
  behindDash {c tokens i is next} hroom hc hcolumn := by
    have hblock : HasRoom (i + 2) (Wire.depthOfItems (w :: ws)) next :=
      hroom.within (by omega) (by rw [Wire.depth]; omega)
    have hrow := (hblock.items (w :: ws)).row
    have hrest : c.rest = ' ' :: (behindRows (i + 2) next (itemRows (i + 2) (w :: ws))).2 := by
      rw [hc, itemRows, ← joinRows_append]
      rfl
    exact h.block hroom (itemRows_ne_nil _ w ws) (standsAt_space hrest hcolumn hrow)
  behindKey {c tokens i is next} hroom hc hcolumn := by
    have hrows : HasRoom i (Wire.depthOfItems (w :: ws)) next :=
      hroom.within (Nat.le_refl _) (by rw [Wire.depth]; omega)
    have hrow := (hrows.items (w :: ws)).row
    have hrest : c.rest = newLine i ++ (behindRows i next (itemRows i (w :: ws))).2 := by
      rw [hc, itemRows, ← joinRows_append]
      exact List.append_assoc _ _ _
    have hs : (front c tokens (i :: is) false).StandsAt _ _ tokens (i :: is) :=
      standsAt_newLine hrest hrow
    have hread := h hrows openIndents_self (fun _ => opens_self) hs
    rw [openTokens_self] at hread
    exact hread

theorem readsNode_object {e : String × Wire} {es : List (String × Wire)}
    (h : ReadsEntries (e :: es)) : ReadsNode (.object (e :: es)) where
  behindDash {c tokens i is next} hroom hc hcolumn := by
    have hblock : HasRoom (i + 2) (Wire.depthOfEntries (e :: es)) next :=
      hroom.within (by omega) (by rw [Wire.depth]; omega)
    have hrow := (hblock.entries (e :: es)).row
    have hrest : c.rest = ' ' :: (behindRows (i + 2) next (entryRows (i + 2) (e :: es))).2 := by
      rw [hc, entryRows, ← joinRows_append]
      rfl
    exact h.block hroom (entryRows_ne_nil _ e es) (standsAt_space hrest hcolumn hrow)
  behindKey {c tokens i is next} hroom hc hcolumn := by
    have hblock : HasRoom (i + 2) (Wire.depthOfEntries (e :: es)) next :=
      hroom.within (by omega) (by rw [Wire.depth]; omega)
    have hrow := (hblock.entries (e :: es)).row
    have hrest : c.rest
        = newLine (i + 2) ++ (behindRows (i + 2) next (entryRows (i + 2) (e :: es))).2 := by
      rw [hc, entryRows, ← joinRows_append]
      exact List.append_assoc _ _ _
    exact h.block hroom (entryRows_ne_nil _ e es) (standsAt_newLine hrest hrow)

end Blocks

/-! ## rows -/

section Rows

variable {indents : List Nat}

/-- A row of a list. -/
theorem reads_item {w : Wire} (hw : ReadsNode w) (hroom : HasRoom i w.depth next)
    (hindents : openIndents indents i = i :: is)
    (hs : s.StandsAt i ('-' :: behindDash i w ++ (newLine next.1 ++ next.2)) tokens indents) :
    Reads (KeysFit w.keys) s next
      ((.blockEntry :: nodeTokens true w).reverse
        ++ openTokens .blockSequenceStart indents i tokens)
      (i :: is) := by
  obtain ⟨c, hc, hcolumn, hstands⟩ := hs
  obtain ⟨rest, hrest⟩ := exists_behindDash i w
  have hdash : c.rest = '-' :: ' ' :: (rest ++ (newLine next.1 ++ next.2)) := by rw [hc, hrest]; rfl
  have hnext := Cursor.next_ascii hdash (by decide)
  have hlead := hstands.dash hdash (hcolumn ▸ le_of_openIndents hindents)
  rw [hcolumn, hindents] at hlead
  have hread :=
    hlead.reads (hw.behindDash hroom (by rw [hnext, hrest]; rfl) (by rw [hnext, hcolumn]))
  simpa using hread

/-- A key without an indicator, and what is behind it. -/
theorem reads_simpleKey {k : String} {w : Wire} (hw : ReadsNode w) (hroom : HasRoom i w.depth next)
    (hindents : openIndents indents i = i :: is) (hsimple : isSimpleKey k.toList = true)
    (hs : s.StandsAt i (keyRow i k.toList (fun column => behindKey i column w) (behindDash i w) ++
      (newLine next.1 ++ next.2)) tokens indents) :
    Reads (KeyFits k ∧ KeysFit w.keys) s next
      ((.key :: textToken k :: .value :: nodeTokens false w).reverse ++
        openTokens .blockMappingStart indents i tokens) (i :: is) := by
  obtain ⟨c, hc, hcolumn, hstands⟩ := hs
  have hfits := keyFits_iff hsimple (i + 2) i
  have hform := writtenAs_textScalar (i + 2) false i k.toList
  have hascii : ∀ x ∈ textScalar false (i + 2) i k.toList, isAscii x = true :=
    fun x => isAscii_of_mem_textScalar (not_isMultiline_of_isSimpleKey hsimple)
  have hmark {rest : List Char} :
      ¬ StartsWithMark (textScalar false (i + 2) i k.toList ++ ':' :: rest) :=
    not_startsWithMark_key
  rw [keyRow, if_pos hsimple] at hc
  generalize textScalar false (i + 2) i k.toList = written at hc hfits hform hascii hmark
  obtain ⟨y, rest, hbehind, hy⟩ := exists_behindKey i (i + written.length + 1) w
  have hrest : c.rest = written ++ ':' :: y :: (rest ++ (newLine next.1 ++ next.2)) := by
    dsimp only at hc
    rw [hc, hbehind]
    simp
  have hskip : c.skip (written.length + 1) = ⟨y :: (rest ++ (newLine next.1 ++ next.2)),
      c.index + written.length + 1, c.line, i + written.length + 1⟩ := by
    have hkey := Cursor.skip_ascii hrest hascii
    have hcolon := Cursor.next_ascii (c := c.skip written.length) (by rw [hkey]) (by decide)
    rw [Cursor.skip_add, Cursor.skip, Cursor.skip, hcolon, hkey, hcolumn]
  have hkey := hstands.key hform hascii (by omega) (by have := hroom.width; omega) hrest hy
    (hcolumn ▸ le_of_openIndents hindents)
    (Nat.le_succ_of_le (least_le_of_openIndents hindents)) (.inr (hrest ▸ hmark))
  rw [hcolumn, hindents, hskip] at hkey
  by_cases hlength : written.length ≤ keyReach
  · have hread := (hkey.1 hlength).reads
      (hw.behindKey hroom (by rw [hbehind]; rfl) (Nat.lt_succ_of_le (Nat.le_add_right _ _)))
    refine Reads.congr ?_ (and_iff_right (hfits.mpr hlength)).symm
    simpa [textToken] using hread
  · exact ⟨fun h => absurd (hfits.mp h.1) hlength, fun _ => hkey.2 (Nat.lt_of_not_le hlength)⟩

/-- A key with an indicator, and what is behind it. -/
theorem reads_complexKey {k : String} {w : Wire} (hw : ReadsNode w) (hroom : HasRoom i w.depth next)
    (hindents : openIndents indents i = i :: is) (hcomplex : isSimpleKey k.toList = false)
    (hs : s.StandsAt i (keyRow i k.toList (fun column => behindKey i column w) (behindDash i w) ++
      (newLine next.1 ++ next.2)) tokens indents) :
    Reads (KeyFits k ∧ KeysFit w.keys) s next
      ((.key :: textToken k :: .value :: nodeTokens true w).reverse ++
        openTokens .blockMappingStart indents i tokens) (i :: is) := by
  obtain ⟨c, hc, hcolumn, hstands⟩ := hs
  have hfits : KeyFits k := fun hsimple => absurd hsimple (by rw [hcomplex]; decide)
  have hform := writtenAs_textScalar (i + 2) true (i + 2) k.toList
  obtain ⟨rest, hbehind⟩ := exists_behindDash i w
  obtain ⟨row, hrow⟩ : ∃ row, row = ':' :: (behindDash i w ++ (newLine next.1 ++ next.2)) :=
    ⟨_, rfl⟩
  have hcolon : row = ':' :: ' ' :: (rest ++ (newLine next.1 ++ next.2)) := by
    rw [hrow, hbehind]
    rfl
  have hisRow : IsRow i row := by
    rw [hcolon]
    exact isRow_mark (.inr (.inr rfl))
  have hquestion : c.rest = '?' :: ' ' ::
      (textScalar true (i + 2) (i + 2) k.toList ++ (newLine i ++ row)) := by
    rw [hc, keyRow, if_neg (by rw [hcomplex]; decide), hrow]
    simp
  have hnext := Cursor.next_ascii hquestion (by decide)
  have hlead := hstands.question hquestion (hcolumn ▸ le_of_openIndents hindents)
  rw [hcolumn, hindents] at hlead
  have hbehindMark : c.next.rest = ' ' :: (textScalar true (i + 2) (i + 2) k.toList ++
      (newLine i ++ row)) := by rw [hnext]
  obtain ⟨hspace, hrest, hcolumn'⟩ := stands_space hbehindMark (hform.startsVisibly _)
  obtain ⟨t, hkey, d, hd, hdcolumn, hdstands⟩ := hspace.value hform (by have := hroom.width; omega)
    hrest (by rw [hcolumn', hnext]; show i < c.column + 1 + 1; omega) (by omega) (Nat.le_refl i)
    hisRow
  have hdrest := hd.trans hcolon
  have hdnext := Cursor.next_ascii hdrest (by decide)
  have hvalue := hdstands.colon hdrest fun j hj => by rw [hdcolumn, ← Option.some.inj hj]
  rw [hdcolumn, openIndents_self, openTokens_self] at hvalue
  have hread := ((hlead.trans hkey).trans hvalue).reads (hw.behindDash hroom
    (by rw [hdnext, hbehind]; rfl) (by rw [hdnext, hdcolumn]))
  refine Reads.congr ?_ (and_iff_right hfits).symm
  simpa [textToken] using hread

/-- The first row of an object. -/
theorem reads_entry {k : String} {w : Wire} (hw : ReadsNode w) (hroom : HasRoom i w.depth next)
    (hindents : openIndents indents i = i :: is)
    (hs : s.StandsAt i (keyRow i k.toList (fun column => behindKey i column w) (behindDash i w) ++
      (newLine next.1 ++ next.2)) tokens indents) :
    Reads (KeyFits k ∧ KeysFit w.keys) s next
      ((.key :: textToken k :: .value :: nodeTokens (!isSimpleKey k.toList) w).reverse ++
        openTokens .blockMappingStart indents i tokens) (i :: is) := by
  cases hsimple : isSimpleKey k.toList with
  | true => exact reads_simpleKey hw hroom hindents hsimple hs
  | false => exact reads_complexKey hw hroom hindents hsimple hs

/-- No rows are nothing. -/
theorem ReadsRows.nil (start : Token) : ReadsRows start (fun _ => []) [] 0 (KeysFit []) := by
  intro s tokens indents i is next _ hindents hopen hs
  have hopens := hopen rfl
  rw [openIndents, hopens] at hindents
  rw [openTokens, hopens]
  exact .of_leads keysFit_nil ⟨s, Leads.refl s, (show indents = i :: is from hindents) ▸ hs⟩

/-- The rows of a block behind the first one. -/
theorem ReadsRows.more {start : Token} {rows : Nat → List (List Char)} {found before : List Token}
    {depth : Nat} {p q : Prop} (h : ReadsRows start rows found depth q)
    (hroom : HasRoom i depth next)
    (hs : Reads p s (behindRows i next (rows i)) (before.reverse ++ tokens) (i :: is)) :
    Reads (p ∧ q) s next ((before ++ found).reverse ++ tokens) (i :: is) := by
  have hread := hs.bind fun t ht => h hroom openIndents_self (fun _ => opens_self) ht
  rw [openTokens_self] at hread
  simpa using hread

theorem readsItems_cons {w : Wire} {ws : List Wire} (hw : ReadsNode w) (hws : ReadsItems ws) :
    ReadsItems (w :: ws) := by
  intro s tokens indents i is next hroom hindents _ hs
  have hfirst : HasRoom i w.depth next :=
    hroom.within (Nat.le_refl i) (by rw [Wire.depthOfItems]; omega)
  have hrest : HasRoom i (Wire.depthOfItems ws) next :=
    hroom.within (Nat.le_refl i) (by rw [Wire.depthOfItems]; omega)
  exact (hws.more hrest (reads_item hw (hfirst.items ws) hindents hs)).congr keysFit_append.symm

theorem readsEntries_cons {k : String} {w : Wire} {es : List (String × Wire)} (hw : ReadsNode w)
    (hes : ReadsEntries es) : ReadsEntries ((k, w) :: es) := by
  intro s tokens indents i is next hroom hindents _ hs
  have hfirst : HasRoom i w.depth next :=
    hroom.within (Nat.le_refl i) (by rw [Wire.depthOfEntries]; omega)
  have hrest : HasRoom i (Wire.depthOfEntries es) next :=
    hroom.within (Nat.le_refl i) (by rw [Wire.depthOfEntries]; omega)
  refine (hes.more hrest (reads_entry hw (hfirst.entries es) hindents hs)).congr ?_
  rw [Wire.keysOfEntries, keysFit_cons, keysFit_append, and_assoc]

end Rows

/-! ## all nodes -/

mutual

/-- Every node is read as its tokens. -/
theorem reads_node : ∀ w, ReadsNode w
  | .null => readsNode_null
  | .bool b => readsNode_bool b
  | .int n => readsNode_int n
  | .text s => readsNode_text s
  | .list [] => readsNode_noItems
  | .list (w :: ws) => readsNode_list (readsItems_cons (reads_node w) (reads_items ws))
  | .object [] => readsNode_noEntries
  | .object ((_, w) :: es) => readsNode_object (readsEntries_cons (reads_node w) (reads_entries es))

/-- Every list is read as the tokens of its items. -/
theorem reads_items : ∀ ws, ReadsItems ws
  | [] => ReadsRows.nil .blockSequenceStart
  | w :: ws => readsItems_cons (reads_node w) (reads_items ws)

/-- Every object is read as the tokens of its entries. -/
theorem reads_entries : ∀ es, ReadsEntries es
  | [] => ReadsRows.nil .blockMappingStart
  | (_, w) :: es => readsEntries_cons (reads_node w) (reads_entries es)

end

/-! ## documents -/

/-- The rows of an object from the start of a text to its end. -/
theorem reads_start {e : String × Wire} {es : List (String × Wire)} {text : List Char}
    (hdepth : 2 * Wire.depthOfEntries (e :: es) + 2 < lineWidth)
    (htext : text = joinRows 0 (entryRows 0 (e :: es)) ++ ['\n']) :
    Reads (KeysFit (Wire.keysOfEntries (e :: es))) { cursor := .start text } (0, [])
      ((entryTokens (e :: es)).reverse ++ [.blockMappingStart]) [0] := by
  have hroom : HasRoom 0 (Wire.depthOfEntries (e :: es)) (0, []) :=
    ⟨by omega, Nat.le_refl 0, isRow_nil⟩
  have hrows : text = (behindRows 0 (0, []) (entryRows 0 (e :: es))).2 := by
    rw [htext, entryRows, ← joinRows_append]
    rfl
  have hvisible : StartsVisibly text := hrows ▸ (hroom.entries (e :: es)).row.startsVisibly
  have hstands : (front (.start text) [] [] true).Stands (front (.start text) [] [] true) :=
    stands_visible rfl rfl hvisible
  exact reads_entries (e :: es) hroom rfl (fun h => absurd h (entryRows_ne_nil 0 e es))
    ⟨_, hrows, rfl, hstands⟩

end Layout

/-- The tokens of an object as a document. -/
theorem tokens_object {e : String × Wire} {es : List (String × Wire)}
    (hdepth : 2 * Wire.depthOfEntries (e :: es) + 2 < lineWidth) :
    (KeysFit (Wire.keysOfEntries (e :: es)) →
      tokens (printNode (.object (e :: es)) ++ ['\n'])
        = .blockMappingStart :: (entryTokens (e :: es) ++ [.blockEnd, .streamEnd])) ∧
    (¬ KeysFit (Wire.keysOfEntries (e :: es)) →
      IsBroken (tokens (printNode (.object (e :: es)) ++ ['\n']))) := by
  obtain ⟨text, htext⟩ : ∃ text, text = printNode (.object (e :: es)) ++ ['\n'] := ⟨_, rfl⟩
  have hread := Layout.reads_start hdepth htext
  rw [← htext]
  constructor
  · intro hfits
    obtain ⟨t, hleads, c, hrest, -, hstands⟩ := hread.1 hfits
    obtain ⟨fuel, hfuel, hcomplete⟩ := hleads.2 (text.length + 1) (Nat.lt_succ_self _)
    rw [tokens, hcomplete, hstands.complete_end hrest (Nat.lt_of_le_of_lt (Nat.zero_le _) hfuel)]
    simp
  · intro hfits
    exact hread.2 hfits (fun t ht => by cases ht) (text.length + 1) (Nat.lt_succ_self _)

end ControlPlane.Yaml
