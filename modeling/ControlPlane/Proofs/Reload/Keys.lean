import ControlPlane.Proofs.Reload.Scalars
import ControlPlane.Wire
import Mathlib.Data.Bool.AllAny

/-!
# Keys

A key without an indicator of its own has one line, which is never folded, so its written form does
not depend on the place where it is written.  It is decided by the text of a key whether it is such
a key, but by its written form whether it can be read as one (`KeysFit`): a character may take up to
ten of those 1024 that the reader looks back from a colon.
-/

namespace ControlPlane

namespace Yaml

/-! ## characters -/

section Ordinary

variable {fold : Bool} {indent : Nat} {x : Char}

theorem isOrdinary_of_mem_newLine (h : x ∈ newLine indent) : isOrdinary x = true := by
  obtain rfl | h := List.mem_cons.mp h
  · decide
  · exact isOrdinary_of_isAscii (isAscii_of_mem_spaces h)

theorem isAscii_of_mem_hexText {width n : Nat} (h : x ∈ Text.hexText .upper width n) :
    isAscii x = true := by
  obtain ⟨d, hd, rfl⟩ := List.mem_map.mp h
  have hdigits : ∀ d < 16, isAscii (Text.hexChar .upper d) = true := by decide
  exact hdigits d (lt_of_mem_hexValues hd)

/-- An escape has a letter of its own or one that is followed by digits. -/
theorem escape_cases (y : Char) : (∃ e ∈ escapeLetters, escape y = ['\\', e.2]) ∨
    ∃ letter ∈ ['x', 'u', 'U'], ∃ width,
      escape y = '\\' :: letter :: Text.hexText .upper width y.toNat := by
  unfold escape
  split
  · next e he => exact .inl ⟨e, List.mem_of_find?_eq_some he, rfl⟩
  · split
    · exact .inr ⟨'x', by decide, 2, rfl⟩
    · split
      · exact .inr ⟨'u', by decide, 4, rfl⟩
      · exact .inr ⟨'U', by decide, 8, rfl⟩

theorem isAscii_of_mem_escape {y : Char} (h : x ∈ escape y) : isAscii x = true := by
  have hletters : (∀ e ∈ escapeLetters, isAscii e.2 = true) ∧
      ∀ letter ∈ ['x', 'u', 'U'], isAscii letter = true :=
    ⟨List.all_iff_forall_prop.mp (by decide), List.all_iff_forall_prop.mp (by decide)⟩
  obtain ⟨e, he, hescape⟩ | ⟨letter, hletter, width, hescape⟩ := escape_cases y
  · rw [hescape] at h
    obtain rfl | h := List.mem_cons.mp h
    · decide
    · rw [List.mem_singleton.mp h]
      exact hletters.1 e he
  · rw [hescape] at h
    obtain rfl | h := List.mem_cons.mp h
    · decide
    · obtain rfl | h := List.mem_cons.mp h
      · exact hletters.2 x hletter
      · exact isAscii_of_mem_hexText h

theorem isOrdinary_of_mem_plainFrom {before : Option Char} {column : Nat} {cs : List Char}
    (hcs : cs.all isOrdinary = true) (h : x ∈ plainFrom fold indent before column cs) :
    isOrdinary x = true := by
  induction cs generalizing before column with
  | nil => cases h
  | cons c cs ih =>
      obtain ⟨hc, hcs⟩ := Bool.and_eq_true_iff.mp (List.all_cons ▸ hcs)
      rw [plainFrom] at h
      split at h
      · exact (List.mem_append.mp h).elim isOrdinary_of_mem_newLine (ih hcs)
      · obtain rfl | h := List.mem_cons.mp h
        · exact hc
        · exact ih hcs h

theorem isOrdinary_of_mem_foldedFrom {before : Option Char} {column : Nat} {cs : List Char}
    (hcs : cs.all isOrdinary = true) (h : x ∈ foldedFrom fold indent before column cs) :
    isOrdinary x = true := by
  induction cs generalizing before column with
  | nil => cases h
  | cons c cs ih =>
      obtain ⟨hc, hcs⟩ := Bool.and_eq_true_iff.mp (List.all_cons ▸ hcs)
      have hmore {before : Option Char} {column : Nat}
          (h : x ∈ foldedFrom fold indent before column cs) : isOrdinary x = true := ih hcs h
      rw [foldedFrom] at h
      split at h
      · split at h
        · exact (List.mem_append.mp h).elim isOrdinary_of_mem_newLine hmore
        · obtain rfl | h := List.mem_cons.mp h
          · exact hc
          · exact hmore h
      · split at h
        · obtain h | h := List.mem_append.mp h
          · obtain h | h := List.mem_append.mp h
            · have hfeed : x = '\n' := by split at h <;> simpa using h
              rw [hfeed]
              decide
            · split at h
              · cases h
              · exact isOrdinary_of_isAscii (isAscii_of_mem_spaces h)
          · exact hmore h
        · split at h
          · obtain rfl | rfl | h : x = '\'' ∨ x = '\'' ∨ x ∈ _ := by simpa using h
            · decide
            · decide
            · exact hmore h
          · obtain rfl | h := List.mem_cons.mp h
            · exact hc
            · exact hmore h

theorem isOrdinary_of_mem_doubleFrom {first fresh : Bool} {column : Nat} {cs : List Char}
    (h : x ∈ doubleFrom fold indent first fresh column cs) : isOrdinary x = true := by
  induction cs generalizing first fresh column with
  | nil => cases h
  | cons c cs ih =>
      have hsplit {next : Option Char} (h : x ∈ splitLine indent next) : isOrdinary x = true := by
        obtain h | h := List.mem_append.mp h
        · obtain rfl | h := List.mem_cons.mp h
          · decide
          · exact isOrdinary_of_mem_newLine h
        · split at h
          · rw [List.mem_singleton.mp h]
            decide
          · cases h
      have hescape (h : x ∈ escape c) : isOrdinary x = true :=
        isOrdinary_of_isAscii (isAscii_of_mem_escape h)
      have hself (hc : isUnescaped c = true) (h : x = c) : isOrdinary x = true :=
        h ▸ isOrdinary_of_isAscii (isAscii_of_isUnescaped hc).1
      rw [doubleFrom] at h
      split at h
      · next hc =>
        split at h
        · obtain h | h := List.mem_append.mp h
          · exact hsplit h
          · exact (List.mem_cons.mp h).elim (hself hc) ih
        · exact (List.mem_cons.mp h).elim (hself hc) ih
      · dsimp only at h
        split at h
        · obtain h | h := List.mem_append.mp h
          · exact (List.mem_append.mp h).elim hescape hsplit
          · exact ih h
        · exact (List.mem_append.mp h).elim hescape ih

/-- A written scalar is made of printable ASCII and line feeds. -/
theorem isOrdinary_of_mem_textScalar {column : Nat} {cs : List Char}
    (h : x ∈ textScalar fold indent column cs) : isOrdinary x = true := by
  have hquote : isOrdinary '\'' = true ∧ isOrdinary '"' = true := by decide
  obtain ⟨plain, hwritten⟩ :
      ∃ plain, WrittenAs indent plain cs (textScalar fold indent column cs) :=
    ⟨_, writtenAs_textScalar indent fold column cs⟩
  generalize textScalar fold indent column cs = written at h hwritten
  cases hwritten with
  | plain htext =>
      simp only [isPlainText, Bool.and_eq_true] at htext
      exact isOrdinary_of_mem_plainFrom htext.1.1.1.2 h
  | single htext =>
      simp only [isSingleText, Bool.and_eq_true] at htext
      obtain h | h := List.mem_append.mp h
      · obtain rfl | h := List.mem_cons.mp h
        · exact hquote.1
        · exact isOrdinary_of_mem_foldedFrom htext.1.1 h
      · rw [List.mem_singleton.mp h]
        exact hquote.1
  | double =>
      obtain h | h := List.mem_append.mp h
      · obtain rfl | h := List.mem_cons.mp h
        · exact hquote.2
        · exact isOrdinary_of_mem_doubleFrom h
      · rw [List.mem_singleton.mp h]
        exact hquote.2

end Ordinary

/-! ## keys without an indicator -/

section Simple

variable {indent column : Nat} {cs : List Char}

theorem foldedFrom_false (h : '\n' ∉ cs) (before : Option Char) :
    foldedFrom false indent before column cs
      = cs.flatMap fun c => if c = '\'' then ['\'', '\''] else [c] := by
  induction cs generalizing before column with
  | nil => rfl
  | cons c cs ih =>
      have hc : c ≠ '\n' := fun hc => h (hc ▸ List.mem_cons_self)
      have hcs : '\n' ∉ cs := fun hcs => h (List.mem_cons_of_mem c hcs)
      rw [foldedFrom, List.flatMap_cons]
      by_cases hspace : c = ' '
      · subst hspace
        rw [if_pos rfl, if_neg (by simp), ih hcs]
        rfl
      · rw [if_neg hspace, if_neg hc]
        split <;> rw [ih hcs] <;> rfl

theorem doubleFrom_false (first fresh : Bool) :
    doubleFrom false indent first fresh column cs
      = cs.flatMap fun c => if isUnescaped c then [c] else escape c := by
  induction cs generalizing first fresh column with
  | nil => rfl
  | cons c cs ih =>
      rw [doubleFrom, List.flatMap_cons]
      split
      · rw [if_neg (by simp), ih]
        rfl
      · dsimp only
        rw [if_neg (by simp), ih]

theorem feed_notMem_of_line (h : isMultiline cs = false) : '\n' ∉ cs :=
  fun hmem => by simpa [isBreak] using List.any_eq_false.mp h '\n' hmem

/-- A text of one line is written in one way only where lines are not folded. -/
theorem textScalar_of_line (h : isMultiline cs = false) :
    textScalar false indent column cs = textScalar false 0 0 cs := by
  have hfeed := feed_notMem_of_line h
  unfold textScalar
  cases Style.ofText cs with
  | plain => simp only [plainFrom_false]
  | single => simp only [foldedFrom_false hfeed]
  | double => simp only [doubleFrom_false]

/-- It stays on its line. -/
theorem isAscii_of_mem_textScalar (h : isMultiline cs = false) {x : Char}
    (hx : x ∈ textScalar false indent column cs) : isAscii x = true := by
  have hordinary := isOrdinary_of_mem_textScalar hx
  rw [isOrdinary_eq, Bool.or_eq_true, beq_iff_eq] at hordinary
  refine hordinary.resolve_left ?_
  rintro rfl
  have hfeed := feed_notMem_of_line h
  have hpiece (c : Char) (hc : c ∈ cs) : '\n' ∉ (if c = '\'' then ['\'', '\''] else [c]) ∧
      '\n' ∉ (if isUnescaped c then [c] else escape c) := by
    have hne : '\n' ≠ c := fun hmem => hfeed (hmem ▸ hc)
    constructor
    · split <;> simp [hne]
    · split
      · simp [hne]
      · exact fun hmem => absurd (isAscii_of_mem_escape hmem) (by decide)
  unfold textScalar at hx
  cases hstyle : Style.ofText cs with
  | plain =>
      rw [hstyle] at hx
      simp only [plainFrom_false] at hx
      exact hfeed hx
  | single =>
      rw [hstyle] at hx
      simp only [foldedFrom_false hfeed] at hx
      obtain ⟨c, hc, hmem⟩ : ∃ c ∈ cs, '\n' ∈ (if c = '\'' then ['\'', '\''] else [c]) := by
        simpa using hx
      exact (hpiece c hc).1 hmem
  | double =>
      rw [hstyle] at hx
      simp only [doubleFrom_false] at hx
      obtain ⟨c, hc, hmem⟩ : ∃ c ∈ cs, '\n' ∈ (if isUnescaped c then [c] else escape c) := by
        simpa using hx
      exact (hpiece c hc).2 hmem

end Simple

/-! ## keys in reach -/

/-- A key can be read: what is written of it without an indicator is short enough. -/
def KeyFits (key : String) : Prop :=
  isSimpleKey key.toList = true → (textScalar false 0 0 key.toList).length ≤ keyReach

instance (key : String) : Decidable (KeyFits key) := inferInstanceAs (Decidable (_ → _))

theorem not_isMultiline_of_isSimpleKey {cs : List Char} (h : isSimpleKey cs = true) :
    isMultiline cs = false := by
  simp only [isSimpleKey, Bool.and_eq_true, Bool.not_eq_true'] at h
  exact h.1.2

/-- Where a key is written does not matter. -/
theorem keyFits_iff {key : String} (h : isSimpleKey key.toList = true) (indent column : Nat) :
    KeyFits key ↔ (textScalar false indent column key.toList).length ≤ keyReach := by
  have hwritten : textScalar false indent column key.toList = textScalar false 0 0 key.toList :=
    textScalar_of_line (not_isMultiline_of_isSimpleKey h)
  rw [hwritten]
  exact ⟨fun hfits => hfits h, fun hfits _ => hfits⟩

theorem length_escape_le (c : Char) : (escape c).length ≤ 10 := by
  unfold escape
  split
  · exact Nat.le_add_left 2 8
  · split
    · simp
    · split <;> simp

theorem length_flatMap_le {f : Char → List Char} (h : ∀ c, (f c).length ≤ 10) (cs : List Char) :
    (cs.flatMap f).length ≤ 10 * cs.length := by
  induction cs with
  | nil => exact Nat.le_refl 0
  | cons c cs ih =>
      have hc := h c
      rw [List.flatMap_cons, List.length_append, List.length_cons]
      omega

/-- A character of a key is written as ten characters at most. -/
theorem length_textScalar_le {cs : List Char} (h : isMultiline cs = false) (indent column : Nat) :
    (textScalar false indent column cs).length ≤ 10 * cs.length + 2 := by
  have hfeed := feed_notMem_of_line h
  unfold textScalar
  cases Style.ofText cs with
  | plain =>
      simp only [plainFrom_false]
      omega
  | single =>
      have hquoted := length_flatMap_le (f := fun c => if c = '\'' then ['\'', '\''] else [c])
        (fun c => by split <;> simp) cs
      simp only [foldedFrom_false hfeed, List.length_append, List.length_cons, List.length_nil]
      omega
  | double =>
      have hquoted := length_flatMap_le (f := fun c => if isUnescaped c then [c] else escape c)
        (fun c => by split <;> simp [length_escape_le]) cs
      simp only [doubleFrom_false, List.length_append, List.length_cons, List.length_nil]
      omega

/-- A key with an indicator can be read, and so can a short one, even if each character of it is
written as an escape. -/
theorem keyFits_of_length {key : String} (h : key.toList.length ≤ 102 ∨ 122 < key.toList.length) :
    KeyFits key := by
  intro hsimple
  have hwritten := length_textScalar_le (not_isMultiline_of_isSimpleKey hsimple) 0 0
  simp only [isSimpleKey, Bool.and_eq_true, decide_eq_true_eq] at hsimple
  rw [keyReach]
  omega

/-- A text with other characters than printable ASCII and line feeds is written in double quotes. -/
theorem style_double {cs : List Char} {c : Char} (hc : c ∈ cs) (h : isOrdinary c = false) :
    Style.ofText cs = .double := by
  have hall : cs.all isOrdinary = false := List.all_eq_false.mpr ⟨c, hc, by simp [h]⟩
  simp [Style.ofText, isPlainText, isSingleText, hall]

/-- A character that is written as an escape, again and again. -/
theorem length_textScalar_replicate {c : Char} (h : isOrdinary c = false) {n : Nat} (hn : 0 < n)
    (indent column : Nat) :
    (textScalar false indent column (List.replicate n c)).length
      = n * (escape c).length + 2 := by
  have hescaped : isUnescaped c = false := by
    cases hc : isUnescaped c with
    | false => rfl
    | true => rw [isOrdinary_of_isAscii (isAscii_of_isUnescaped hc).1] at h; cases h
  have hstyle : Style.ofText (List.replicate n c) = .double :=
    style_double (List.mem_replicate.mpr ⟨Nat.ne_of_gt hn, rfl⟩) h
  rw [textScalar, hstyle]
  simp [doubleFrom_false, List.length_flatMap, hescaped]

/-- All keys can be read. -/
def KeysFit (keys : List String) : Prop := ∀ k ∈ keys, KeyFits k

instance (keys : List String) : Decidable (KeysFit keys) :=
  inferInstanceAs (Decidable (∀ k ∈ keys, _))

theorem keysFit_nil : KeysFit [] := fun k hk => by cases hk

theorem keysFit_cons {key : String} {keys : List String} :
    KeysFit (key :: keys) ↔ KeyFits key ∧ KeysFit keys := List.forall_mem_cons

theorem keysFit_append {keys more : List String} :
    KeysFit (keys ++ more) ↔ KeysFit keys ∧ KeysFit more := List.forall_mem_append

end Yaml

namespace Wire

mutual

/-- The keys of all objects within a wire form. -/
def keys : Wire → List String
  | .list items => keysOfItems items
  | .object entries => keysOfEntries entries
  | _ => []

/-- The keys of all objects within items. -/
def keysOfItems : List Wire → List String
  | [] => []
  | w :: ws => w.keys ++ keysOfItems ws

/-- The keys of entries and of all objects within them. -/
def keysOfEntries : List (String × Wire) → List String
  | [] => []
  | (k, w) :: es => k :: (w.keys ++ keysOfEntries es)

end

mutual

/-- How deep collections lie in each other. -/
def depth : Wire → Nat
  | .list items => depthOfItems items + 1
  | .object entries => depthOfEntries entries + 1
  | _ => 0

/-- How deep the deepest item is. -/
def depthOfItems : List Wire → Nat
  | [] => 0
  | w :: ws => max w.depth (depthOfItems ws)

/-- How deep the deepest value is. -/
def depthOfEntries : List (String × Wire) → Nat
  | [] => 0
  | (_, w) :: es => max w.depth (depthOfEntries es)

end

end Wire

end ControlPlane
