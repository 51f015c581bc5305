/-!
# Texts cut at a character

`List.splitOn` cuts a text wherever a character stands, `splitFirst?` where it stands first.  Texts
that were joined by the character are the parts again unless they hold it themselves; if they do,
there is one part more for each time (`length_splitOn_intercalate`).  A run of a class of characters
is cut off in front of the first other character.
-/

namespace ControlPlane.Text

/-! ## runs of a class -/

section Run

variable {p : Char → Bool} {run rest : List Char}

/-- A run of a class ends with the first character outside of it. -/
theorem takeWhile_append_stop (hrun : ∀ c ∈ run, p c = true)
    (hrest : ∀ c, rest.head? = some c → p c = false) : (run ++ rest).takeWhile p = run := by
  rw [List.takeWhile_append_of_pos hrun]
  cases rest with
  | nil => simp
  | cons c rest => simp [hrest c rfl]

theorem dropWhile_append_stop (hrun : ∀ c ∈ run, p c = true)
    (hrest : ∀ c, rest.head? = some c → p c = false) : (run ++ rest).dropWhile p = rest := by
  rw [List.dropWhile_append_of_pos hrun]
  cases rest with
  | nil => simp
  | cons c rest => simp [hrest c rfl]

end Run

/-! ## texts cut at a character -/

/-- What is in front of the first of a character and what is behind it, if it is there. -/
def splitFirst? (c : Char) : List Char → Option (List Char × List Char)
  | [] => none
  | d :: rest =>
    if d = c then some ([], rest) else (splitFirst? c rest).map fun p => (d :: p.1, p.2)

theorem splitFirst?_append {c : Char} {front : List Char} (h : c ∉ front) (back : List Char) :
    splitFirst? c (front ++ c :: back) = some (front, back) := by
  induction front with
  | nil => simp [splitFirst?]
  | cons d front ih =>
      have hne : d ≠ c := fun heq => h (heq ▸ List.mem_cons_self)
      have hfront : c ∉ front := fun hmem => h (List.mem_cons_of_mem d hmem)
      rw [List.cons_append, splitFirst?, if_neg hne, ih hfront]
      rfl

/-- A text has one part more than it has places to cut. -/
theorem length_splitOn (c : Char) (cs : List Char) : (cs.splitOn c).length = cs.count c + 1 := by
  induction cs with
  | nil => simp
  | cons d cs ih =>
      rw [List.splitOn_cons_eq_if_modifyHead, List.count_cons]
      split
      · rw [List.length_cons, ih]
      · rw [List.length_modifyHead, ih, Nat.add_zero]

/-- Joined texts are cut where they were joined, and wherever one of them holds the character. -/
theorem length_splitOn_intercalate (c : Char) {parts : List (List Char)} (h : parts ≠ []) :
    (([c].intercalate parts).splitOn c).length =
      parts.length + parts.flatten.count c := by
  induction parts with
  | nil => exact absurd rfl h
  | cons part rest ih =>
      cases rest with
      | nil => simp [length_splitOn, Nat.add_comm]
      | cons next rest =>
          have hrest := ih (List.cons_ne_nil next rest)
          rw [List.intercalate_cons_cons, List.append_assoc, List.singleton_append,
            List.splitOn_append_cons_self, List.length_append, length_splitOn, hrest]
          simp only [List.length_cons, List.flatten_cons, List.count_append]
          omega

end ControlPlane.Text
