import ControlPlane.Proofs.Parsing
import ControlPlane.Proofs.Reload.Rows
import ControlPlane.Yaml.Document

/-!
# From tokens to nodes

The tokens of a wire form are read as one node for each of its parts, numbered in the order in which
the parts are written (`nodeAt`).  No part has an anchor or a tag, so the numbers are all that
reading keeps of what is behind it (`reader`).

Tokens that do not reach the end of their text are no document (`streamEnd_mem_of_document?`).
-/

namespace ControlPlane.Yaml

/-! ## nodes of wire forms -/

mutual

/-- The number of nodes of a wire form. -/
def nodeCount : Wire → Nat
  | .list ws => itemCount ws + 1
  | .object es => entryCount es + 1
  | _ => 1

/-- The number of nodes of items. -/
def itemCount : List Wire → Nat
  | [] => 0
  | w :: ws => nodeCount w + itemCount ws

/-- The number of nodes of entries. -/
def entryCount : List (String × Wire) → Nat
  | [] => 0
  | (_, w) :: es => nodeCount w + 1 + entryCount es

end

mutual

/-- The node of a wire form, numbered from a number on. -/
def nodeAt (i : Nat) : Wire → Node
  | .null => .scalar i .null "null".toList
  | .bool b => .scalar i .bool (boolText b)
  | .int n => .scalar i .int (toString n).toList
  | .text s => .scalar i .text s.toList
  | .list ws => .list i .list (itemsAt (i + 1) ws)
  | .object es => .map i .map (entriesAt (i + 1) es)

/-- The nodes of items. -/
def itemsAt (i : Nat) : List Wire → List Node
  | [] => []
  | w :: ws => nodeAt i w :: itemsAt (i + nodeCount w) ws

/-- The nodes of entries. -/
def entriesAt (i : Nat) : List (String × Wire) → List (Node × Node)
  | [] => []
  | (k, w) :: es =>
    (.scalar i .text k.toList, nodeAt (i + 1) w) :: entriesAt (i + 1 + nodeCount w) es

end

/-- A collection without content. -/
def emptyNode (kind : Kind) (i : Nat) : Node :=
  match kind with
  | .list => .list i .list []
  | .map => .map i .map []

/-! ## steps of reading -/

namespace Read

variable {α β : Type} {t : Token} {ts rest : List Token} {fuel i : Nat}

/-- A reader of a document without anchors. -/
def reader (ts : List Token) (i : Nat) : Reader :=
  { tokens := ts, handles := standardHandles, serial := i }

/-- A step behind one that succeeds. -/
theorem run_bind {x : Read α} {k : α → Read β} {r r' : Reader} {a : α} (h : x r = .ok (a, r')) :
    (x >>= k) r = k a r' := by
  show (x r >>= fun p => k p.1 p.2) = k a r'
  rw [h]
  rfl

theorem peek_reader (ht : t.isInner = true) :
    peek (reader (t :: ts) i) = .ok (t, reader (t :: ts) i) := by
  cases t with
  | fault f => cases ht
  | _ => rfl

theorem skipIf_self (ht : t.isInner = true) :
    skipIf t (reader (t :: ts) i) = .ok (true, reader ts i) := by
  rw [skipIf, run_bind (peek_reader ht), if_pos rfl]
  rfl

/-- Where a node starts it is not left out. -/
theorem orEmpty_of_not_mem {marks : List Token} {x : Read Node} (ht : t.isInner = true)
    (hmarks : t ∉ marks) : orEmpty marks x (reader (t :: ts) i) = x (reader (t :: ts) i) := by
  have hat : atOneOf marks (reader (t :: ts) i) = .ok (false, reader (t :: ts) i) := by
    rw [atOneOf, run_bind (peek_reader ht), List.contains_eq_mem, decide_eq_false hmarks]
    rfl
  rw [orEmpty, run_bind hat]
  rfl

/-- What a collection without an anchor and a tag is put together from. -/
theorem listOf_reader {items : Read (List Node)} {ns : List Node} {r : Reader}
    (h : items (reader ts (i + 1)) = .ok (ns, r)) :
    listOf {} items (reader ts i) = .ok (.list i .list ns, r) := by
  show (items (reader ts (i + 1)) >>= _) = _
  rw [h]
  rfl

theorem mapOf_reader {entries : Read (List (Node × Node))} {es : List (Node × Node)} {r : Reader}
    (h : entries (reader ts (i + 1)) = .ok (es, r)) :
    mapOf {} entries (reader ts i) = .ok (.map i .map es, r) := by
  show (entries (reader ts (i + 1)) >>= _) = _
  rw [h]
  rfl

/-! ## single nodes -/

variable {position : Position}

theorem node_scalar (fuel : Nat) (position : Position) (plain : Bool) (text : List Char) :
    node (fuel + 1) position (reader (.scalar plain text :: ts) i)
      = .ok (.scalar i (scalarTag plain none text) text, reader ts (i + 1)) := rfl

theorem node_empty (fuel : Nat) (position : Position) (kind : Kind) :
    node (fuel + 2) position (reader (Layout.flowStart kind :: Layout.flowEnd kind :: ts) i)
      = .ok (emptyNode kind i, reader ts (i + 1)) := by
  cases kind <;> rfl

theorem node_blockSequenceStart (h : position ≠ .flow) :
    node (fuel + 1) position (reader (.blockSequenceStart :: ts) i)
      = listOf {} (blockItems fuel) (reader ts i) := by
  cases position with
  | flow => exact absurd rfl h
  | _ => rfl

theorem node_blockMappingStart (h : position ≠ .flow) :
    node (fuel + 1) position (reader (.blockMappingStart :: ts) i)
      = mapOf {} (blockEntries fuel) (reader ts i) := by
  cases position with
  | flow => exact absurd rfl h
  | _ => rfl

theorem node_blockEntry :
    node (fuel + 1) .entry (reader (.blockEntry :: ts) i)
      = listOf {} (plainItems fuel) (reader (.blockEntry :: ts) i) := rfl

/-! ## statements -/

/-- What follows a value of an entry. -/
def EndsEntry (rest : List Token) : Prop :=
  ∃ t ts, rest = t :: ts ∧ (t = .key ∨ t = .blockEnd)

/-- A node is read from its tokens, with two steps for each of them.  A list without a start and an
end is read as the value of an entry only. -/
def ParsesNode (w : Wire) : Prop :=
  ∀ {fuel i : Nat} {position : Position} {indented : Bool} {rest : List Token},
    2 * (nodeTokens indented w).length + 2 ≤ fuel → position ≠ .flow →
    (indented = false → position = .entry ∧ EndsEntry rest) →
    node fuel position (reader (nodeTokens indented w ++ rest) i)
      = .ok (nodeAt i w, reader rest (i + nodeCount w))

/-- Items are read from their tokens, up to the end of a list or behind it. -/
structure ParsesItems (ws : List Wire) : Prop where
  indented {fuel i : Nat} {rest : List Token} (hfuel : 2 * (itemTokens ws).length + 1 ≤ fuel) :
    blockItems fuel (reader (itemTokens ws ++ .blockEnd :: rest) i)
      = .ok (itemsAt i ws, reader rest (i + itemCount ws))
  plain {fuel i : Nat} {rest : List Token} (hfuel : 2 * (itemTokens ws).length + 1 ≤ fuel)
    (hrest : EndsEntry rest) :
    plainItems fuel (reader (itemTokens ws ++ rest) i)
      = .ok (itemsAt i ws, reader rest (i + itemCount ws))

/-- Entries are read from their tokens. -/
def ParsesEntries (es : List (String × Wire)) : Prop :=
  ∀ {fuel i : Nat} {rest : List Token}, 2 * (entryTokens es).length + 1 ≤ fuel →
    blockEntries fuel (reader (entryTokens es ++ .blockEnd :: rest) i)
      = .ok (entriesAt i es, reader rest (i + entryCount es))

/-! ## nodes -/

/-- The first token of a node is none that would leave it out. -/
theorem exists_nodeTokens (indented : Bool) (w : Wire) : ∃ t ts, nodeTokens indented w = t :: ts ∧
    t.isInner = true ∧ t ∉ [.key, .value, .blockEnd] ∧ (indented = true → t ≠ .blockEntry) := by
  unfold nodeTokens
  split
  case h_6 w ws =>
    cases indented with
    | true => exact ⟨_, _, rfl, rfl, by simp, by simp⟩
    | false => exact ⟨.blockEntry, _, rfl, rfl, by simp, by simp⟩
  all_goals exact ⟨_, _, rfl, rfl, by simp [textToken], by simp [textToken]⟩

theorem scalarTag_text (cs : List Char) :
    scalarTag (Style.ofText cs == .plain) none cs = .text := by
  cases hstyle : (Style.ofText cs == .plain) with
  | true => exact (of_style_plain (eq_of_beq hstyle)).2
  | false => rfl

theorem ParsesNode.of_scalar {w : Wire} {plain : Bool} {text : List Char} {tag : Tag}
    (htokens : ∀ indented, nodeTokens indented w = [.scalar plain text])
    (htag : scalarTag plain none text = tag) (hnode : ∀ i, nodeAt i w = .scalar i tag text)
    (hcount : nodeCount w = 1) : ParsesNode w := by
  intro fuel i position indented rest hfuel _ _
  obtain ⟨fuel, rfl⟩ : ∃ m, fuel = m + 1 := ⟨fuel - 1, by omega⟩
  rw [htokens, hnode, hcount, ← htag]
  exact node_scalar fuel position plain text

theorem parsesNode_null : ParsesNode .null :=
  have htag : scalarTag true none "null".toList = .null := ofPlain_null
  ParsesNode.of_scalar (fun _ => rfl) htag (fun _ => rfl) rfl

theorem parsesNode_bool (b : Bool) : ParsesNode (.bool b) :=
  have htag : scalarTag true none (boolText b) = .bool := ofPlain_bool b
  ParsesNode.of_scalar (fun _ => rfl) htag (fun _ => rfl) rfl

theorem parsesNode_int (n : Int) : ParsesNode (.int n) :=
  have htag : scalarTag true none (toString n).toList = .int := ofPlain_int n
  ParsesNode.of_scalar (fun _ => rfl) htag (fun _ => rfl) rfl

theorem ParsesNode.of_empty {w : Wire} (kind : Kind)
    (htokens : ∀ indented, nodeTokens indented w = [Layout.flowStart kind, Layout.flowEnd kind])
    (hnode : ∀ i, nodeAt i w = emptyNode kind i)
    (hcount : nodeCount w = 1) : ParsesNode w := by
  intro fuel i position indented rest hfuel _ _
  obtain ⟨fuel, rfl⟩ : ∃ m, fuel = m + 2 := ⟨fuel - 2, by omega⟩
  rw [htokens, hnode, hcount]
  exact node_empty fuel position kind

theorem parsesNode_list {w : Wire} {ws : List Wire} (h : ParsesItems (w :: ws)) :
    ParsesNode (.list (w :: ws)) := by
  intro fuel i position indented rest hfuel hposition hentry
  obtain ⟨fuel, rfl⟩ : ∃ m, fuel = m + 1 := ⟨fuel - 1, by omega⟩
  rw [nodeCount, Nat.add_comm (itemCount _), ← Nat.add_assoc]
  cases indented with
  | true =>
      have htokens : nodeTokens true (.list (w :: ws)) ++ rest
          = .blockSequenceStart :: (itemTokens (w :: ws) ++ .blockEnd :: rest) := by
        simp [nodeTokens]
      have hlength : (nodeTokens true (.list (w :: ws))).length
          = (itemTokens (w :: ws)).length + 2 := by simp [nodeTokens]
      rw [htokens, node_blockSequenceStart hposition]
      exact listOf_reader (h.indented (by omega))
  | false =>
      obtain ⟨rfl, hrest⟩ := hentry rfl
      have hlength :
          (nodeTokens false (.list (w :: ws))).length = (itemTokens (w :: ws)).length := by
        simp [nodeTokens]
      have hplain := listOf_reader (h.plain (i := i + 1) (by omega : _ ≤ fuel) hrest)
      exact node_blockEntry.trans hplain

theorem parsesNode_object {e : String × Wire} {es : List (String × Wire)}
    (h : ParsesEntries (e :: es)) : ParsesNode (.object (e :: es)) := by
  intro fuel i position indented rest hfuel hposition _
  obtain ⟨fuel, rfl⟩ : ∃ m, fuel = m + 1 := ⟨fuel - 1, by omega⟩
  have htokens : nodeTokens indented (.object (e :: es)) ++ rest
      = .blockMappingStart :: (entryTokens (e :: es) ++ .blockEnd :: rest) := by simp [nodeTokens]
  have hlength : (nodeTokens indented (.object (e :: es))).length
      = (entryTokens (e :: es)).length + 2 := by simp [nodeTokens]
  rw [htokens, nodeCount, Nat.add_comm (entryCount _), ← Nat.add_assoc,
    node_blockMappingStart hposition]
  exact mapOf_reader (h (by omega))

/-! ## items and entries -/

theorem parsesItems_nil : ParsesItems [] where
  indented {fuel i rest} hfuel := by
    obtain ⟨fuel, rfl⟩ : ∃ m, fuel = m + 1 := ⟨fuel - 1, by omega⟩
    rfl
  plain {fuel i rest} hfuel hrest := by
    obtain ⟨fuel, rfl⟩ : ∃ m, fuel = m + 1 := ⟨fuel - 1, by omega⟩
    obtain ⟨t, ts, rfl, rfl | rfl⟩ := hrest
    · rfl
    · rfl

/-- An item in front of others, in one kind of sequence or the other. -/
theorem read_item {w : Wire} (hw : ParsesNode w) {marks : List Token} {more : Read (List Node)}
    {ns : List Node} {r : Reader} (hmarks : ∀ t ∈ marks, t ∈ [.blockEntry, .key, .value, .blockEnd])
    (hfuel : 2 * (nodeTokens true w).length + 2 ≤ fuel)
    (hmore : more (reader rest (i + nodeCount w)) = .ok (ns, r)) :
    (do
      let item ← orEmpty marks (node fuel .block)
      return item :: (← more)) (reader (nodeTokens true w ++ rest) i)
        = .ok (nodeAt i w :: ns, r) := by
  obtain ⟨t, ts, htokens, ht, hends, hentry⟩ := exists_nodeTokens true w
  have hmem : t ∉ marks := by
    intro hmem
    obtain rfl | hmem := List.mem_cons.mp (hmarks t hmem)
    · exact hentry rfl rfl
    · exact hends hmem
  have hnode : node fuel .block (reader (nodeTokens true w ++ rest) i)
      = .ok (nodeAt i w, reader rest (i + nodeCount w)) :=
    hw hfuel (by decide) fun hindented => Bool.noConfusion hindented
  have hitem : orEmpty marks (node fuel .block) (reader (nodeTokens true w ++ rest) i)
      = .ok (nodeAt i w, reader rest (i + nodeCount w)) := by
    rw [← hnode, htokens]
    exact orEmpty_of_not_mem ht hmem
  rw [run_bind hitem, run_bind hmore]
  rfl

theorem parsesItems_cons {w : Wire} {ws : List Wire} (hw : ParsesNode w) (hws : ParsesItems ws) :
    ParsesItems (w :: ws) where
  indented {fuel i rest} hfuel := by
    have hlength : (itemTokens (w :: ws)).length
        = (nodeTokens true w).length + (itemTokens ws).length + 1 := by simp [itemTokens]
    obtain ⟨fuel, rfl⟩ : ∃ m, fuel = m + 1 := ⟨fuel - 1, by omega⟩
    have htokens : itemTokens (w :: ws) ++ .blockEnd :: rest
        = .blockEntry :: (nodeTokens true w ++ (itemTokens ws ++ .blockEnd :: rest)) := by
      simp [itemTokens]
    rw [htokens, blockItems, run_bind (skipIf_self rfl), if_pos rfl, itemCount, ← Nat.add_assoc]
    exact read_item hw (by simp) (by omega) (hws.indented (by omega))
  plain {fuel i rest} hfuel hrest := by
    have hlength : (itemTokens (w :: ws)).length
        = (nodeTokens true w).length + (itemTokens ws).length + 1 := by simp [itemTokens]
    obtain ⟨fuel, rfl⟩ : ∃ m, fuel = m + 1 := ⟨fuel - 1, by omega⟩
    have htokens : itemTokens (w :: ws) ++ rest
        = .blockEntry :: (nodeTokens true w ++ (itemTokens ws ++ rest)) := by
      simp [itemTokens]
    rw [htokens, plainItems, run_bind (skipIf_self rfl), if_pos rfl, itemCount, ← Nat.add_assoc]
    exact read_item hw (by simp) (by omega) (hws.plain (by omega) hrest)

theorem parsesEntries_nil : ParsesEntries [] := by
  intro fuel i rest hfuel
  obtain ⟨fuel, rfl⟩ : ∃ m, fuel = m + 1 := ⟨fuel - 1, by omega⟩
  rfl

theorem parsesEntries_cons {k : String} {w : Wire} {es : List (String × Wire)} (hw : ParsesNode w)
    (hes : ParsesEntries es) : ParsesEntries ((k, w) :: es) := by
  intro fuel i rest hfuel
  obtain ⟨indented, hindented⟩ : ∃ b, b = !isSimpleKey k.toList := ⟨_, rfl⟩
  have hlength : (entryTokens ((k, w) :: es)).length
      = (nodeTokens indented w).length + (entryTokens es).length + 3 := by
    simp [entryTokens, hindented]
  obtain ⟨fuel, rfl⟩ : ∃ m, fuel = m + 2 := ⟨fuel - 2, by omega⟩
  have htokens : entryTokens ((k, w) :: es) ++ .blockEnd :: rest
      = .key :: textToken k :: .value :: (nodeTokens indented w ++
          (entryTokens es ++ .blockEnd :: rest)) := by simp [entryTokens, hindented]
  have hends : EndsEntry (entryTokens es ++ .blockEnd :: rest) := by
    obtain _ | ⟨e, es⟩ := es
    · exact ⟨_, _, rfl, .inr rfl⟩
    · exact ⟨_, _, rfl, .inl rfl⟩
  obtain ⟨marks, hmarks⟩ : ∃ marks : List Token, marks = [.key, .value, .blockEnd] := ⟨_, rfl⟩
  have hkey {ts : List Token} :
      orEmpty marks (node (fuel + 1) .entry) (reader (textToken k :: ts) i)
      = .ok (.scalar i .text k.toList, reader ts (i + 1)) := by
    rw [textToken, orEmpty_of_not_mem rfl (by simp [hmarks]), node_scalar, scalarTag_text]
  have hnode : node (fuel + 1) .entry (reader (nodeTokens indented w ++
        (entryTokens es ++ .blockEnd :: rest)) (i + 1))
      = .ok (nodeAt (i + 1) w, reader (entryTokens es ++ .blockEnd :: rest)
          (i + 1 + nodeCount w)) :=
    hw (by omega) (by decide) fun _ => ⟨rfl, hends⟩
  have hvalue : valueUnless marks (node (fuel + 1) .entry)
        (reader (.value :: (nodeTokens indented w ++ (entryTokens es ++ .blockEnd :: rest)))
          (i + 1))
      = .ok (nodeAt (i + 1) w, reader (entryTokens es ++ .blockEnd :: rest)
          (i + 1 + nodeCount w)) := by
    obtain ⟨t, ts, htokens, ht, hmem, -⟩ := exists_nodeTokens indented w
    rw [valueUnless, run_bind (skipIf_self rfl), if_pos rfl, ← hnode, htokens]
    exact orEmpty_of_not_mem ht (hmarks ▸ hmem)
  rw [htokens, blockEntries, run_bind (skipIf_self rfl), if_pos rfl, ← hmarks]
  rw [run_bind hkey, run_bind hvalue, run_bind (hes (by omega))]
  have hcount : i + entryCount ((k, w) :: es) = i + 1 + nodeCount w + entryCount es := by
    rw [entryCount]
    omega
  rw [hcount]
  rfl

/-! ## all nodes -/

mutual

/-- Every node is read from its tokens. -/
theorem parses_node : ∀ w, ParsesNode w
  | .null => parsesNode_null
  | .bool b => parsesNode_bool b
  | .int n => parsesNode_int n
  | .text s => ParsesNode.of_scalar (fun _ => rfl) (scalarTag_text s.toList) (fun _ => rfl) rfl
  | .list [] => ParsesNode.of_empty .list (fun _ => rfl) (fun _ => rfl) rfl
  | .list (w :: ws) => parsesNode_list (parsesItems_cons (parses_node w) (parses_items ws))
  | .object [] => ParsesNode.of_empty .map (fun _ => rfl) (fun _ => rfl) rfl
  | .object ((_, w) :: es) =>
    parsesNode_object (parsesEntries_cons (parses_node w) (parses_entries es))

theorem parses_items : ∀ ws, ParsesItems ws
  | [] => parsesItems_nil
  | w :: ws => parsesItems_cons (parses_node w) (parses_items ws)

theorem parses_entries : ∀ es, ParsesEntries es
  | [] => parsesEntries_nil
  | (_, w) :: es => parsesEntries_cons (parses_node w) (parses_entries es)

end

/-! ## ends of texts -/

section Ends

variable {α β : Type} {ts : List Token}

/-- A step from some tokens that succeeds only if the end of the text is one of them. -/
def Ends (ts : List Token) (x : Read α) : Prop :=
  ∀ r p, r.tokens ⊆ ts → x.run r = .ok p → .streamEnd ∈ ts

theorem Ends.before {x : Read α} {k : α → Read β} (hx : Keeps ts x) (hk : ∀ a, Ends ts (k a)) :
    Ends ts (x >>= k) := by
  intro r p hr hrun
  have hkeep := hx r hr
  rw [StateT.run_bind] at hrun
  cases hstep : x.run r with
  | error f => rw [hstep] at hrun; cases hrun
  | ok q =>
      rw [hstep] at hkeep hrun
      exact hk q.1 q.2 p hkeep hrun

theorem Ends.bind {x : Read α} {k : α → Read β} (hx : Ends ts x) : Ends ts (x >>= k) := by
  intro r p hr hrun
  rw [StateT.run_bind] at hrun
  cases hstep : x.run r with
  | error f => rw [hstep] at hrun; cases hrun
  | ok q => exact hx r q hr hstep

theorem ends_fail (f : Fault) : Ends ts (fail f : Read α) := fun _ _ _ h => by cases h

theorem ends_peek {k : Token → Read β} (hk : ∀ t, t ≠ .streamEnd → Ends ts (k t)) :
    Ends ts (peek >>= k) := by
  intro r p hr hrun
  obtain ⟨tokens, handles, anchors, anchored, serial⟩ := r
  cases tokens with
  | nil => cases hrun
  | cons t rest =>
      by_cases hend : t = .streamEnd
      · exact hr (hend ▸ List.mem_cons_self)
      · cases t with
        | fault f => cases hrun
        | streamEnd => exact absurd rfl hend
        | _ => exact hk _ hend _ p hr hrun

theorem ends_expect : Ends ts (expect .streamEnd) := by
  unfold expect skipIf
  rw [bind_assoc]
  refine ends_peek fun t ht => ?_
  rw [if_neg ht, pure_bind]
  exact ends_fail .malformed

theorem ends_document (fuel : Nat) : Ends ts (document fuel) := by
  have hrest (n : Node) : Ends ts (do document.ended fuel; return some n) :=
    (Ends.before (keeps_skipEnds fuel) fun _ => ends_expect).bind
  have hnode {x : Read Node} (hx : Keeps ts x) : Ends ts (do
      let n ← x
      document.ended fuel
      return some n) := Ends.before hx hrest
  have hexplicit : Ends ts (document.explicit fuel) := by
    refine Ends.before (keeps_directives fuel false) fun _ =>
      Ends.before (keeps_expect .documentStart) fun _ => ends_peek fun t _ => ?_
    dsimp only
    split
    all_goals first
      | exact hnode (keeps_pure Node.empty)
      | exact hnode (keeps_node fuel .block)
  refine ends_peek fun t ht => ?_
  split
  · exact absurd rfl ht
  · exact hexplicit
  · exact hexplicit
  · exact Ends.before (keeps_modify fun _ => rfl) fun _ => hnode (keeps_node fuel .block)

end Ends

end Read

/-! ## main results -/

/-- The document of an object. -/
theorem document?_object {e : String × Wire} {es : List (String × Wire)} {text : List Char}
    (h : tokens text = .blockMappingStart :: (entryTokens (e :: es) ++ [.blockEnd, .streamEnd])) :
    document? text = .ok (some
      { root := nodeAt 1 (.object (e :: es))
        anchored := []
        size := 1 + nodeCount (.object (e :: es)) }) := by
  have htokens : tokens text = nodeTokens true (.object (e :: es)) ++ [.streamEnd] := by
    rw [h]
    simp [nodeTokens]
  obtain ⟨fuel, hfuel⟩ : ∃ fuel, fuel = 2 * (tokens text).length + 4 := ⟨_, rfl⟩
  have henough : 2 * (nodeTokens true (.object (e :: es))).length + 2 ≤ fuel := by
    rw [hfuel, htokens, List.length_append]
    omega
  have hnode : Read.node fuel .block (Read.reader (tokens text) 1)
      = .ok (nodeAt 1 (.object (e :: es)),
          Read.reader [.streamEnd] (1 + nodeCount (.object (e :: es)))) := by
    rw [htokens]
    exact Read.parses_node _ henough (by decide) fun hindented => Bool.noConfusion hindented
  have hended (i : Nat) : Read.document.ended fuel (Read.reader [.streamEnd] i)
      = .ok ((), Read.reader [] i) := by cases fuel <;> rfl
  have hdocument : (Read.document fuel).run { tokens := tokens text, handles := [] }
      = (Read.node fuel .block >>= fun n => do
          Read.document.ended fuel
          return some n) (Read.reader (tokens text) 1) := by
    rw [h]
    rfl
  unfold document?
  dsimp only
  rw [← hfuel, hdocument, Read.run_bind hnode, Read.run_bind (hended _)]
  rfl

/-- The tokens of a document reach the end of its text. -/
theorem streamEnd_mem_of_document? {text : List Char} {d : Option Document}
    (h : document? text = .ok d) : .streamEnd ∈ tokens text := by
  have hends : Read.Ends (tokens text) (Read.document (2 * (tokens text).length + 4)) :=
    Read.ends_document _
  cases hrun : (Read.document (2 * (tokens text).length + 4)).run
      { tokens := tokens text, handles := [] } with
  | error f => simp [document?, hrun, bind, Except.bind] at h
  | ok p => exact hends _ p (List.Subset.refl _) hrun

/-- A text whose tokens end in a fault is malformed. -/
theorem document?_of_isBroken {text : List Char} (h : IsBroken (tokens text)) :
    document? text = .error .malformed := by
  cases hdocument : document? text with
  | ok d => exact absurd (streamEnd_mem_of_document? hdocument) h.1
  | error f =>
      obtain hfault | hfault := fault_of_document? hdocument
      · rw [hfault]
      · rw [h.2 f hfault]

end ControlPlane.Yaml
