import ControlPlane.Text.Split
import ControlPlane.Yaml.Cursor
import ControlPlane.Yaml.Print
import Mathlib.Data.List.TakeWhile

/-!
# Passing written text

A document in block style is made of printable ASCII and line feeds, and a cursor counts these in
one way only: a character takes one column, and a line feed starts the next line.  So the place
behind a piece of the document is known from the piece (`Cursor.skip_ascii`,
`Cursor.skip_newLine`).
-/

namespace ControlPlane.Yaml

/-! ## characters -/

/-- A printable character of ASCII. -/
def isAscii (c : Char) : Bool := ' ' ≤ c && c ≤ '~'

theorem isOrdinary_eq (c : Char) : isOrdinary c = (c == '\n' || isAscii c) := rfl

section Ascii

variable {c : Char}

theorem isAscii_iff : isAscii c = true ↔ 0x20 ≤ c.toNat ∧ c.toNat ≤ 0x7E := by
  rw [isAscii, Bool.and_eq_true, decide_eq_true_iff, decide_eq_true_iff]
  exact Iff.rfl

theorem endsLine_of_isAscii (h : isAscii c = true) : endsLine c = false := by
  obtain ⟨hlow, hhigh⟩ := isAscii_iff.mp h
  have hreturn : c ≠ '\r' := by
    rintro rfl
    exact absurd hlow (by decide)
  have hfeed : c ≠ '\n' := by
    rintro rfl
    exact absurd hlow (by decide)
  have h85 : c.toNat ≠ 0x85 := by omega
  have h2028 : c.toNat ≠ 0x2028 := by omega
  have h2029 : c.toNat ≠ 0x2029 := by omega
  simp [endsLine, hreturn, hfeed, h85, h2028, h2029]

theorem isOrdinary_of_isAscii (h : isAscii c = true) : isOrdinary c = true := by
  rw [isOrdinary_eq, h, Bool.or_true]

/-- The only blank among the printable characters is the space. -/
theorem isBlankChar_of_isAscii (h : isAscii c = true) : isBlankChar c = (c == ' ') := by
  have htab : c ≠ '\t' := by
    rintro rfl
    exact absurd (isAscii_iff.mp h).1 (by decide)
  simp [isBlankChar, htab]

theorem isAllowed_of_isOrdinary (h : isOrdinary c = true) : isAllowed c = true := by
  rw [isOrdinary_eq, Bool.or_eq_true, beq_iff_eq] at h
  obtain rfl | h := h
  · decide
  · obtain ⟨hlow, hhigh⟩ := isAscii_iff.mp h
    simp [isAllowed, hlow, hhigh]

end Ascii

@[simp] theorem length_spaces (n : Nat) : (spaces n).length = n := List.length_replicate

theorem isAscii_of_mem_spaces {n : Nat} {c : Char} (h : c ∈ spaces n) : isAscii c = true := by
  rw [List.eq_of_mem_replicate h]
  decide

/-- The first character, if there is one, is neither a blank nor the start of a comment. -/
def StartsVisibly (row : List Char) : Prop :=
  ∀ x, row.head? = some x → isAscii x = true ∧ x ≠ ' ' ∧ x ≠ '#'

/-- The line starts like a mark that separates documents. -/
def StartsWithMark (row : List Char) : Prop :=
  row.take 3 = ['-', '-', '-'] ∨ row.take 3 = ['.', '.', '.']

theorem startsVisibly_nil : StartsVisibly [] := fun x hx => by cases hx

theorem startsVisibly_cons {x : Char} {rest : List Char}
    (h : isAscii x = true ∧ x ≠ ' ' ∧ x ≠ '#') : StartsVisibly (x :: rest) :=
  fun _ hx => Option.some.inj hx ▸ h

theorem not_startsWithMark_nil : ¬ StartsWithMark [] := by simp [StartsWithMark]

/-! ## cursors -/

namespace Cursor

variable {c : Cursor}

theorem skip_add (m n : Nat) (c : Cursor) : c.skip (m + n) = (c.skip m).skip n := by
  induction m generalizing c with
  | zero => rw [Nat.zero_add, skip]
  | succ m ih => rw [Nat.succ_add, skip, skip, ih]

theorem rest_next (c : Cursor) : c.next.rest = c.rest.tail := by
  unfold next
  split
  · next h => rw [h]; rfl
  · next x rest h => rw [h]; split <;> [rfl; split <;> rfl]

@[simp] theorem rest_skip (n : Nat) (c : Cursor) : (c.skip n).rest = c.rest.drop n := by
  induction n generalizing c with
  | zero => rfl
  | succ n ih => rw [skip, ih, rest_next, List.drop_tail]

/-- The character behind a piece of the text. -/
theorem char?_skip {cs rest : List Char} {x : Char} {n : Nat} (h : c.rest = cs ++ x :: rest)
    (hn : cs.length = n) : (c.skip n).char? = some x := by
  rw [char?, rest_skip, h, ← hn, List.drop_left]
  rfl

theorem line_le_next (c : Cursor) : c.line ≤ c.next.line := by
  unfold next
  split
  · exact Nat.le_refl _
  · split
    · exact Nat.le_succ _
    · split <;> exact Nat.le_refl _

theorem line_le_skip (n : Nat) (c : Cursor) : c.line ≤ (c.skip n).line := by
  induction n generalizing c with
  | zero => exact Nat.le_refl _
  | succ n ih => exact Nat.le_trans (line_le_next c) (ih c.next)

theorem next_ascii {x : Char} {rest : List Char} (h : c.rest = x :: rest)
    (hx : isAscii x = true) : c.next = ⟨rest, c.index + 1, c.line, c.column + 1⟩ := by
  have hmark : x.toNat ≠ 0xFEFF := by
    have := (isAscii_iff.mp hx).2
    omega
  unfold next
  rw [h]
  simp [startsLine, endsLine_of_isAscii hx, hmark]

theorem next_feed {rest : List Char} (h : c.rest = '\n' :: rest) :
    c.next = ⟨rest, c.index + 1, c.line + 1, 0⟩ := by
  unfold next
  rw [h]
  rfl

/-- The place behind printable characters is on the same line. -/
theorem skip_ascii {cs rest : List Char} (h : c.rest = cs ++ rest)
    (hcs : ∀ x ∈ cs, isAscii x = true) :
    c.skip cs.length = ⟨rest, c.index + cs.length, c.line, c.column + cs.length⟩ := by
  induction cs generalizing c with
  | nil => rw [List.length_nil, skip, ← (show c.rest = rest from h)]; rfl
  | cons x cs ih =>
      rw [List.length_cons, skip, next_ascii h (hcs x List.mem_cons_self),
        ih rfl fun y hy => hcs y (List.mem_cons_of_mem x hy)]
      simp only [Cursor.mk.injEq, true_and]
      omega

/-- The place behind a new line and its indentation. -/
theorem skip_newLine {n : Nat} {rest : List Char} (h : c.rest = newLine n ++ rest) :
    c.skip (n + 1) = ⟨rest, c.index + 1 + n, c.line + 1, n⟩ := by
  have hfeed : c.rest = '\n' :: (spaces n ++ rest) := h
  have hspaces := skip_ascii (c := ⟨spaces n ++ rest, c.index + 1, c.line + 1, 0⟩) rfl
    fun x hx => isAscii_of_mem_spaces hx
  rw [length_spaces, Nat.zero_add] at hspaces
  rw [skip, next_feed hfeed, hspaces]

theorem lineBreak_feed {rest : List Char} (h : c.rest = '\n' :: rest) :
    c.lineBreak = (['\n'], c.next) := by
  unfold lineBreak
  rw [h]
  rfl

/-- No mark is hidden in an indentation. -/
theorem isAtSeparator_spaces {n : Nat} {row : List Char} (h : c.rest = spaces n ++ row)
    (hmark : 0 < n ∨ ¬ StartsWithMark row) :
    (c.isAtSeparator '-' || c.isAtSeparator '.') = false := by
  obtain _ | n := n
  · have hrest : c.rest = row := h
    obtain ⟨hstart, hend⟩ := not_or.mp (hmark.resolve_left (Nat.lt_irrefl 0))
    simp [isAtSeparator, hrest, hstart, hend]
  · have hspace : c.rest = ' ' :: (spaces n ++ row) := h
    simp [isAtSeparator, hspace]

end Cursor

end ControlPlane.Yaml
