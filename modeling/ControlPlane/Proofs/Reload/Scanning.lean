import ControlPlane.Proofs.Reload.Passing
import ControlPlane.Yaml.Layout

/-!
# From token to token

Finding the tokens of a text takes rounds, and each round one token.  `Leads` says that the tokens
behind one layout are those behind another, and `Fails` that they end in a fault; a text is gone
through piece by piece by putting such statements in a row.  Between two tokens lies a gap: `Stands`
says which layout the next token is read in.
-/

namespace ControlPlane.Yaml

/-- Whether a token is neither the end of a text nor a fault. -/
def Token.isInner : Token → Bool
  | .streamEnd => false
  | .fault _ => false
  | _ => true

/-- Tokens that do not reach the end of their text, and tell no fault but that it is malformed. -/
def IsBroken (ts : List Token) : Prop :=
  .streamEnd ∉ ts ∧ ∀ f, .fault f ∈ ts → f = .malformed

namespace Layout

/-- A layout within a block; no node in front of the cursor may be a key. -/
def front (c : Cursor) (tokens : List Token) (indents : List Nat) (keyAllowed : Bool) : Layout :=
  { cursor := c, tokens, indents, keyAllowed }

section Front

variable {c : Cursor} {tokens : List Token} {indents : List Nat} {keyAllowed : Bool}

@[simp] theorem cursor_front : (front c tokens indents keyAllowed).cursor = c := rfl

@[simp] theorem tokens_front : (front c tokens indents keyAllowed).tokens = tokens := rfl

end Front

/-- All tokens so far are inner ones. -/
def IsOpen (s : Layout) : Prop := ∀ t ∈ s.tokens, t.isInner = true

/-! ## rounds -/

/-- The layout behind the token at the cursor. -/
def token (s : Layout) : Except Fault (Layout × Bool) :=
  match s.cursor.char? with
  | none => s.atEnd.map fun t => (t, true)
  | some x => (s.tokenAt x).map fun t => (t, false)

/-- The layout in front of the next token, before blocks are closed. -/
def ahead (s : Layout) : Except Fault Layout := do
  let s ← s.dropStaleKeys
  s.toNextToken.dropStaleKeys

/-- The tokens behind one layout are those behind another. -/
def Leads (s t : Layout) : Prop :=
  (s.IsOpen → t.IsOpen) ∧ ∀ fuel, s.cursor.rest.length < fuel →
    ∃ fuel', t.cursor.rest.length < fuel' ∧ complete fuel s = complete fuel' t

/-- The tokens behind the layout end in a fault. -/
def Fails (s : Layout) : Prop :=
  s.IsOpen → ∀ fuel, s.cursor.rest.length < fuel → IsBroken (complete fuel s)

/-- The next token behind one layout is the one that another stands at. -/
structure Stands (s t : Layout) : Prop where
  ahead : ∃ u, s.ahead = .ok u ∧
    u.closeBlocks u.cursor.column = t.closeBlocks t.cursor.column
  isOpen : s.IsOpen → t.IsOpen
  length : t.cursor.rest.length ≤ s.cursor.rest.length

section Rounds

variable {s t u : Layout}

theorem Leads.refl (s : Layout) : s.Leads s := ⟨id, fun fuel h => ⟨fuel, h, rfl⟩⟩

theorem Leads.trans (hst : s.Leads t) (htu : t.Leads u) : s.Leads u := by
  refine ⟨fun h => htu.1 (hst.1 h), fun fuel h => ?_⟩
  obtain ⟨fuel', h', heq⟩ := hst.2 fuel h
  obtain ⟨fuel'', h'', heq'⟩ := htu.2 fuel' h'
  exact ⟨fuel'', h'', heq.trans heq'⟩

theorem Leads.fails (hst : s.Leads t) (ht : t.Fails) : s.Fails := by
  intro hopen fuel h
  obtain ⟨fuel', h', heq⟩ := hst.2 fuel h
  rw [heq]
  exact ht (hst.1 hopen) fuel' h'

theorem isBroken_endingIn (h : s.IsOpen) : IsBroken (s.endingIn .malformed) := by
  have hmem {t : Token} (ht : t ∈ s.endingIn .malformed) :
      t.isInner = true ∨ t = .fault .malformed := by
    rw [endingIn, List.mem_append, List.mem_singleton] at ht
    exact ht.imp_left fun ht => h t (List.mem_reverse.mp (List.mem_of_mem_take ht))
  constructor
  · intro hend
    obtain h | h := hmem hend <;> cases h
  · intro f hf
    obtain h | h := hmem hf
    · cases h
    · exact Token.fault.inj h

theorem step_eq (s : Layout) :
    s.step = s.toNextToken.dropStaleKeys >>= fun u => (u.closeBlocks u.cursor.column).token := by
  unfold step token
  refine bind_congr fun u => ?_
  dsimp only
  cases (u.closeBlocks u.cursor.column).cursor.char? with
  | none => rfl
  | some x => rfl

theorem exists_keys_of_dropStaleKeys (h : s.dropStaleKeys = .ok t) :
    ∃ key outerKeys, t = { s with key, outerKeys } := by
  unfold dropStaleKeys at h
  cases houter : s.outerKeys.mapM (withoutStale s.cursor) with
  | error f => rw [houter] at h; cases h
  | ok outerKeys =>
      cases hkey : withoutStale s.cursor s.key with
      | error f => rw [houter, hkey] at h; cases h
      | ok key =>
          rw [houter, hkey] at h
          exact ⟨key, outerKeys, (Except.ok.inj h).symm⟩

/-- A round finds the token that the layout stands in front of. -/
theorem Stands.complete_succ (h : s.Stands t) (fuel : Nat) : ∃ s' : Layout, s'.tokens = s.tokens ∧
    complete (fuel + 1) s =
      match (t.closeBlocks t.cursor.column).token with
      | .error f => s'.endingIn f
      | .ok (u, true) => u.tokens.reverse
      | .ok (u, false) => complete fuel u := by
  obtain ⟨u, hahead, hclose⟩ := h.ahead
  unfold Layout.ahead at hahead
  cases hdrop : s.dropStaleKeys with
  | error f => rw [hdrop] at hahead; cases hahead
  | ok s' =>
      rw [hdrop] at hahead
      have hnext : s'.toNextToken.dropStaleKeys = .ok u := hahead
      have htokens : s'.tokens = s.tokens := by
        obtain ⟨key, outerKeys, rfl⟩ := exists_keys_of_dropStaleKeys hdrop
        rfl
      refine ⟨s', htokens, ?_⟩
      rw [complete, hdrop]
      dsimp only
      rw [step_eq, hnext, ← hclose]
      rfl

/-- A token that can be read leads behind it. -/
theorem Stands.leads {x : Char} (h : s.Stands t)
    (hclosed : t.closeBlocks t.cursor.column = t) (hchar : t.cursor.char? = some x)
    (htoken : t.tokenAt x = .ok u) (hopen : t.IsOpen → u.IsOpen)
    (hlength : u.cursor.rest.length < t.cursor.rest.length) : s.Leads u := by
  have hresult : (t.closeBlocks t.cursor.column).token = .ok (u, false) := by
    rw [hclosed, token, hchar]
    dsimp only
    rw [htoken]
    rfl
  refine ⟨fun hs => hopen (h.isOpen hs), fun fuel hfuel => ?_⟩
  obtain _ | fuel := fuel
  · cases hfuel
  · obtain ⟨s', -, hcomplete⟩ := h.complete_succ fuel
    rw [hresult] at hcomplete
    have := h.length
    exact ⟨fuel, by omega, hcomplete⟩

/-- A token that cannot be read is a fault. -/
theorem Stands.fails {x : Char} (h : s.Stands t)
    (hclosed : t.closeBlocks t.cursor.column = t) (hchar : t.cursor.char? = some x)
    (htoken : t.tokenAt x = .error .malformed) : s.Fails := by
  have hresult : (t.closeBlocks t.cursor.column).token = .error .malformed := by
    rw [hclosed, token, hchar]
    dsimp only
    rw [htoken]
    rfl
  intro hs fuel hfuel
  obtain _ | fuel := fuel
  · cases hfuel
  · obtain ⟨s', htokens, hcomplete⟩ := h.complete_succ fuel
    rw [hresult] at hcomplete
    rw [hcomplete]
    exact isBroken_endingIn (by rwa [IsOpen, htokens])

/-- A required key that is stale is a fault. -/
theorem fails_of_dropStaleKeys (h : s.dropStaleKeys = .error .malformed) : s.Fails := by
  intro hs fuel hfuel
  obtain _ | fuel := fuel
  · cases hfuel
  · rw [complete, h]
    exact isBroken_endingIn hs

end Rounds

/-! ## gaps -/

section Gaps

variable {c : Cursor} {tokens : List Token} {indents : List Nat} {keyAllowed : Bool}

@[simp] theorem dropStaleKeys_front :
    (front c tokens indents keyAllowed).dropStaleKeys = .ok (front c tokens indents keyAllowed) :=
  rfl

/-- Spaces are passed up to something visible. -/
theorem skipGaps_spaces {n fuel : Nat} {row : List Char} {s : Layout} (hs : s.cursor = c)
    (hc : c.rest = spaces n ++ row) (hrow : StartsVisibly row) :
    skipGaps (fuel + 1) s = { s with cursor := c.skip n } := by
  have htake : c.rest.takeWhile (· == ' ') = spaces n := by
    rw [hc]
    refine Text.takeWhile_append_stop (fun y hy => by rw [List.eq_of_mem_replicate hy]; rfl) ?_
    intro y hy
    simpa using (hrow y hy).2.1
  have hrest : (c.skip n).rest = row := by
    rw [Cursor.rest_skip, hc]
    exact List.drop_left' (length_spaces n)
  have hspaces : c.skipSpaces = c.skip n := by
    rw [Cursor.skipSpaces, Cursor.skipWhile, htake, length_spaces]
  have hcomment : (c.skip n).skipComment = c.skip n := by
    rw [Cursor.skipComment, if_neg]
    rw [Cursor.isAt, Cursor.char?, hrest, beq_iff_eq]
    intro h
    exact (hrow _ h).2.2 rfl
  have hline : (c.skip n).char?.any endsLine = false := by
    rw [Cursor.char?, hrest]
    cases hhead : row.head? with
    | none => rfl
    | some x => exact endsLine_of_isAscii (hrow x hhead).1
  subst hs
  rw [skipGaps, hspaces, hcomment, hline]
  rfl

/-- A line break is passed up to something visible on the next line. -/
theorem skipGaps_newLine {n fuel : Nat} {row : List Char} {s : Layout} (hs : s.cursor = c)
    (hflow : s.inFlow = false) (hc : c.rest = newLine n ++ row) (hrow : StartsVisibly row) :
    skipGaps (fuel + 2) s = { s with cursor := c.skip (n + 1), keyAllowed := true } := by
  have hfeed : c.rest = '\n' :: (spaces n ++ row) := hc
  have hspaces : c.skipSpaces = c := by
    rw [Cursor.skipSpaces, Cursor.skipWhile, hfeed]
    rfl
  have hcomment : c.skipComment = c := by
    rw [Cursor.skipComment, Cursor.isAt, Cursor.char?, hfeed]
    rfl
  have hline : c.char?.any endsLine = true := by
    rw [Cursor.char?, hfeed]
    rfl
  have hnext : c.next.rest = spaces n ++ row := by
    rw [Cursor.rest_next, hfeed]
    rfl
  subst hs
  rw [skipGaps, hspaces, hcomment, if_pos hline, Cursor.lineBreak_feed hfeed, hflow,
    Bool.not_false, Bool.or_true, skipGaps_spaces rfl hnext hrow]
  rfl

theorem toNextToken_eq {s : Layout} (h : ∀ x, s.cursor.char? = some x → isOrdinary x = true) :
    s.toNextToken = skipGaps (s.cursor.rest.length + 1) s := by
  have hmark : ¬ (s.cursor.index = 0 ∧ s.cursor.char?.any (fun x => x.toNat == 0xFEFF) = true) := by
    rintro ⟨-, hmark⟩
    cases hchar : s.cursor.char? with
    | none => rw [hchar] at hmark; cases hmark
    | some x =>
        rw [hchar] at hmark
        have hx := h x hchar
        rw [isOrdinary_eq, Bool.or_eq_true, beq_iff_eq] at hx
        have hcode : x.toNat = 0xFEFF := by simpa using hmark
        obtain rfl | hascii := hx
        · cases hcode
        · have := (isAscii_iff.mp hascii).2
          omega
  rw [toNextToken, if_neg hmark]

/-- Spaces and something visible behind them. -/
theorem toNextToken_spaces {n : Nat} {row : List Char} {s : Layout}
    (hs : s.cursor.rest = spaces n ++ row) (hrow : StartsVisibly row) :
    s.toNextToken = { s with cursor := s.cursor.skip n } := by
  rw [toNextToken_eq, skipGaps_spaces rfl hs hrow]
  intro x hx
  rw [Cursor.char?, hs] at hx
  obtain _ | n := n
  · exact isOrdinary_of_isAscii (hrow x hx).1
  · rw [← Option.some.inj hx]
    decide

/-- A line break and something visible on the next line. -/
theorem toNextToken_newLine {n : Nat} {row : List Char} {s : Layout} (hflow : s.inFlow = false)
    (hs : s.cursor.rest = newLine n ++ row) (hrow : StartsVisibly row) :
    s.toNextToken = { s with cursor := s.cursor.skip (n + 1), keyAllowed := true } := by
  have hfuel : s.cursor.rest.length + 1 = (spaces n ++ row).length + 2 := by rw [hs]; rfl
  rw [toNextToken_eq, hfuel, skipGaps_newLine rfl hflow hs hrow]
  intro x hx
  rw [Cursor.char?, hs] at hx
  rw [← Option.some.inj hx]
  decide

section Key

variable {key : Option PossibleKey}

/-- A key that need not be one is kept or dropped. -/
theorem exists_dropStaleKeys (c : Cursor) (tokens : List Token) (indents : List Nat)
    (keyAllowed : Bool) (h : ∀ k, key = some k → k.required = false) : ∃ key',
    ({ front c tokens indents keyAllowed with key } : Layout).dropStaleKeys
      = .ok { front c tokens indents keyAllowed with key := key' } ∧
    ∀ k, key' = some k → key = some k := by
  cases key with
  | none => exact ⟨none, rfl, fun k hk => hk⟩
  | some k =>
      by_cases hstale : k.isStale c = true
      · refine ⟨none, ?_, fun k hk => by cases hk⟩
        simp [dropStaleKeys, withoutStale, withoutKey, front, hstale, h k rfl]
      · refine ⟨some k, ?_, fun k hk => hk⟩
        simp [dropStaleKeys, withoutStale, front, hstale]

/-- It is dropped on the next line. -/
theorem dropStaleKeys_of_line (h : ∀ k, key = some k → k.required = false ∧ k.line ≠ c.line) :
    ({ front c tokens indents keyAllowed with key } : Layout).dropStaleKeys
      = .ok (front c tokens indents keyAllowed) := by
  cases key with
  | none => rfl
  | some k =>
      obtain ⟨hrequired, hline⟩ := h k rfl
      simp [dropStaleKeys, withoutStale, withoutKey, front, PossibleKey.isStale, hrequired, hline]

end Key

/-- A layout in front of something visible stands there, without its stale keys. -/
theorem stands_visible {s t : Layout} (hdrop : s.dropStaleKeys = .ok t)
    (hkeep : t.dropStaleKeys = .ok t) (hvisible : StartsVisibly s.cursor.rest) : s.Stands t := by
  obtain ⟨key, outerKeys, rfl⟩ := exists_keys_of_dropStaleKeys hdrop
  have hgap : ({ s with key, outerKeys } : Layout).toNextToken = { s with key, outerKeys } :=
    toNextToken_spaces (n := 0) rfl hvisible
  refine ⟨⟨_, ?_, rfl⟩, id, Nat.le_refl _⟩
  rw [ahead, hdrop]
  show ({ s with key, outerKeys } : Layout).toNextToken.dropStaleKeys = _
  rw [hgap, hkeep]

/-- A layout in front of spaces stands at what they lead to. -/
theorem stands_spaces {n : Nat} {row : List Char} (hc : c.rest = spaces n ++ row)
    (hrow : StartsVisibly row) :
    (front c tokens indents keyAllowed).Stands (front (c.skip n) tokens indents keyAllowed) where
  ahead := by
    refine ⟨front (c.skip n) tokens indents keyAllowed, ?_, rfl⟩
    have hgap : (front c tokens indents keyAllowed).toNextToken
        = front (c.skip n) tokens indents keyAllowed := toNextToken_spaces hc hrow
    rw [ahead, dropStaleKeys_front]
    show (front c tokens indents keyAllowed).toNextToken.dropStaleKeys = _
    rw [hgap, dropStaleKeys_front]
  isOpen := id
  length := by
    show (c.skip n).rest.length ≤ c.rest.length
    rw [Cursor.rest_skip, List.length_drop]
    exact Nat.sub_le _ _

/-- A layout in front of a line break stands at the next line, whatever node was in front of it,
unless that had to be a key. -/
theorem stands_newLine {n : Nat} {row : List Char} {key : Option PossibleKey}
    (hc : c.rest = newLine n ++ row) (hrow : StartsVisibly row)
    (hkey : ∀ k, key = some k → k.required = false ∧ k.line ≤ c.line) :
    ({ front c tokens indents keyAllowed with key } : Layout).Stands
      (front (c.skip (n + 1)) tokens indents true) where
  ahead := by
    refine ⟨front (c.skip (n + 1)) tokens indents true, ?_, rfl⟩
    obtain ⟨key', hdrop, hkey'⟩ :=
      exists_dropStaleKeys c tokens indents keyAllowed fun k hk => (hkey k hk).1
    have hgap : ({ front c tokens indents keyAllowed with key := key' } : Layout).toNextToken
        = { front (c.skip (n + 1)) tokens indents true with key := key' } :=
      toNextToken_newLine rfl hc hrow
    have hline : (c.skip (n + 1)).line = c.line + 1 := by rw [Cursor.skip_newLine hc]
    rw [ahead, hdrop]
    show ({ front c tokens indents keyAllowed with key := key' } : Layout).toNextToken.dropStaleKeys
      = _
    rw [hgap, dropStaleKeys_of_line]
    intro k hk
    obtain ⟨hrequired, hle⟩ := hkey k (hkey' k hk)
    exact ⟨hrequired, by omega⟩
  isOpen := id
  length := by
    show (c.skip (n + 1)).rest.length ≤ c.rest.length
    rw [Cursor.rest_skip, List.length_drop]
    exact Nat.sub_le _ _

/-- So does a layout on that line already. -/
theorem stands_nextLine {key : Option PossibleKey} (hrow : StartsVisibly c.rest)
    (hkey : ∀ k, key = some k → k.required = false ∧ k.line < c.line) :
    ({ front c tokens indents keyAllowed with key } : Layout).Stands
      (front c tokens indents keyAllowed) :=
  stands_visible (dropStaleKeys_of_line fun k hk => ⟨(hkey k hk).1, Nat.ne_of_lt (hkey k hk).2⟩)
    dropStaleKeys_front hrow

theorem closeBlocks_front (column : Int) :
    (front c tokens indents keyAllowed).closeBlocks column =
      front c (List.replicate (indents.takeWhile fun (i : Nat) => column < i).length .blockEnd
        ++ tokens) (indents.drop (indents.takeWhile fun (i : Nat) => column < i).length)
        keyAllowed := rfl

/-- Blocks stay open that do not lie behind the cursor. -/
theorem closeBlocks_self {s : Layout} (h : ∀ i, s.indents.head? = some i → i ≤ s.cursor.column) :
    s.closeBlocks s.cursor.column = s := by
  have hnone : s.indents.takeWhile (fun (i : Nat) => (s.cursor.column : Int) < i) = [] := by
    cases hindents : s.indents with
    | nil => rfl
    | cons i is =>
        rw [hindents] at h
        have := h i rfl
        rw [List.takeWhile_cons_of_neg]
        simpa using this
  rw [closeBlocks, hnone]
  split <;> rfl

/-- A block that ends in front of what comes next. -/
theorem Stands.close {s : Layout} {i : Nat}
    (h : s.Stands (front c tokens (i :: indents) keyAllowed)) (hi : c.column < i) :
    s.Stands (front c (.blockEnd :: tokens) indents keyAllowed) where
  ahead := by
    obtain ⟨u, hahead, hclose⟩ := h.ahead
    refine ⟨u, hahead, hclose.trans ?_⟩
    have hi' : ((front c tokens (i :: indents) keyAllowed).cursor.column : Int) < i :=
      Int.ofNat_lt.mpr hi
    rw [closeBlocks_front, closeBlocks_front, List.takeWhile_cons_of_pos (by simpa using hi'),
      List.length_cons, List.replicate_succ', List.append_assoc]
    rfl
  isOpen hs t ht := by
    obtain rfl | ht := List.mem_cons.mp ht
    · rfl
    · exact h.isOpen hs t ht
  length := h.length

/-- At the end of the text all blocks end. -/
theorem Stands.complete_end {s : Layout} (h : s.Stands (front c tokens indents keyAllowed))
    (hc : c.rest = []) {fuel : Nat} (hfuel : 0 < fuel) :
    complete fuel s
      = (.streamEnd :: (List.replicate indents.length .blockEnd ++ tokens)).reverse := by
  obtain _ | fuel := fuel
  · cases hfuel
  · obtain ⟨s', -, hcomplete⟩ := h.complete_succ fuel
    have hchar : c.char? = none := by rw [Cursor.char?, hc]; rfl
    have hall (is : List Nat) :
        (is.takeWhile fun (i : Nat) => (-1 : Int) < i).length = is.length := by
      rw [List.takeWhile_eq_self_iff.mpr fun i _ => by simp; omega]
    have hend (is : List Nat) (ts : List Token) : (front c ts is keyAllowed).token
        = .ok ((front c (List.replicate is.length .blockEnd ++ ts) [] keyAllowed).emit .streamEnd,
            true) := by
      rw [token]
      show (match c.char? with
        | none => (front c ts is keyAllowed).atEnd.map fun t => (t, true)
        | some x => _) = _
      rw [hchar]
      dsimp only
      rw [atEnd, closeBlocks_front, hall, List.drop_length]
      rfl
    rw [hcomplete, closeBlocks_front, hend]
    show (.streamEnd :: (List.replicate _ .blockEnd
      ++ (List.replicate _ .blockEnd ++ tokens))).reverse = _
    have hclosed (column : Int) : (indents.takeWhile fun (i : Nat) => column < i).length
        ≤ indents.length := (List.takeWhile_prefix _).length_le
    rw [← List.append_assoc, List.replicate_append_replicate, List.length_drop,
      Nat.sub_add_cancel (hclosed _)]

end Gaps

end Layout

end ControlPlane.Yaml
