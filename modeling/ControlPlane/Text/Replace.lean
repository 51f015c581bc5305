import Mathlib.Data.List.Infix

/-!
# Texts with a word replaced

`replaceAll` goes through a text from left to right and puts one word in the place of another
wherever that stands; what it has put in is not looked at again.  It can be followed piece by piece:

* where the word cannot begin, nothing happens (`replaceAll_append_of_notMem`);
* where it stands, it is replaced (`replaceAll_append_self`);
* no occurrence reaches across a character that the word does not have (`replaceAll_append_cons`),
  so joined texts are replaced each by itself (`replaceAll_intercalate`).
-/

namespace ControlPlane.Text

/-- A text behind its next `skip` characters, with a word replaced. -/
def replaceAfter (old new : List Char) : (skip : Nat) → List Char → List Char
  | _, [] => []
  | skip + 1, _ :: cs => replaceAfter old new skip cs
  | 0, c :: cs =>
    if old.isPrefixOf (c :: cs) then new ++ replaceAfter old new (old.length - 1) cs
    else c :: replaceAfter old new 0 cs

/-- A text with a word, which is not empty, replaced wherever it stands. -/
def replaceAll (old new cs : List Char) : List Char := replaceAfter old new 0 cs

variable {old : List Char} (new : List Char)

theorem replaceAfter_eq_drop (skip : Nat) (cs : List Char) :
    replaceAfter old new skip cs = replaceAll old new (cs.drop skip) := by
  induction cs generalizing skip with
  | nil => cases skip <;> rfl
  | cons c cs ih =>
      cases skip with
      | zero => rfl
      | succ skip => exact ih skip

theorem replaceAll_cons_of_start {c : Char} {cs : List Char} (h : old <+: c :: cs) :
    replaceAll old new (c :: cs) = new ++ replaceAll old new (cs.drop (old.length - 1)) := by
  rw [replaceAll, replaceAfter, if_pos (List.isPrefixOf_iff_prefix.mpr h), replaceAfter_eq_drop]

theorem replaceAll_cons_of_elsewhere {c : Char} {cs : List Char} (h : ¬ old <+: c :: cs) :
    replaceAll old new (c :: cs) = c :: replaceAll old new cs := by
  rw [replaceAll, replaceAfter, if_neg fun hp => h (List.isPrefixOf_iff_prefix.mp hp)]
  rfl

/-- Nothing happens where the first character of the word does not stand. -/
theorem replaceAll_append_of_notMem {first : Char} {rest front : List Char} (h : first ∉ front)
    (cs : List Char) :
    replaceAll (first :: rest) new (front ++ cs) = front ++ replaceAll (first :: rest) new cs := by
  induction front with
  | nil => rfl
  | cons c front ih =>
      have hne : ¬ (first :: rest) <+: c :: (front ++ cs) := by
        intro hp
        exact h ((List.cons_prefix_cons.mp hp).1 ▸ List.mem_cons_self)
      rw [List.cons_append, replaceAll_cons_of_elsewhere new hne,
        ih fun hmem => h (List.mem_cons_of_mem c hmem), List.cons_append]

/-- The word itself is replaced. -/
theorem replaceAll_append_self (h : old ≠ []) (cs : List Char) :
    replaceAll old new (old ++ cs) = new ++ replaceAll old new cs := by
  cases old with
  | nil => exact absurd rfl h
  | cons first rest =>
      rw [List.cons_append, replaceAll_cons_of_start new (List.prefix_append _ cs)]
      simp

/-- What begins in front of a character that the word does not have ends in front of it. -/
theorem prefix_append_cons_iff {c : Char} (h : c ∉ old) (front back : List Char) :
    old <+: front ++ c :: back ↔ old <+: front := by
  constructor
  · intro hp
    rcases Nat.lt_or_ge front.length old.length with hlong | hshort
    · have hfront : front ++ [c] <+: front ++ c :: back := by simp
      have hlength : (front ++ [c]).length ≤ old.length := by
        rw [List.length_append]
        exact hlong
      have hinner := List.prefix_of_prefix_length_le hfront hp hlength
      exact absurd (hinner.subset (by simp)) h
    · exact List.prefix_of_prefix_length_le hp (List.prefix_append front _) hshort
  · intro hp
    exact hp.trans (List.prefix_append front _)

/-- The skip stays within the part in front of such a character, since occurrences do. -/
theorem replaceAfter_append_cons {c : Char} (h : c ∉ old) (hne : old ≠ []) {skip : Nat}
    {front : List Char} (hskip : skip ≤ front.length) (back : List Char) :
    replaceAfter old new skip (front ++ c :: back) =
      replaceAfter old new skip front ++ c :: replaceAll old new back := by
  induction front generalizing skip with
  | nil =>
      obtain rfl : skip = 0 := Nat.le_zero.mp hskip
      refine replaceAll_cons_of_elsewhere new ?_
      intro hp
      have hnil := (prefix_append_cons_iff h [] back).mp hp
      exact hne (List.prefix_nil.mp hnil)
  | cons d front ih =>
      cases skip with
      | succ skip => exact ih (Nat.le_of_succ_le_succ hskip)
      | zero =>
          have hiff : old <+: d :: (front ++ c :: back) ↔ old <+: d :: front :=
            prefix_append_cons_iff h (d :: front) back
          show replaceAll old new (d :: (front ++ c :: back)) =
            replaceAll old new (d :: front) ++ c :: replaceAll old new back
          by_cases hp : old <+: d :: front
          · have hlength : old.length - 1 ≤ front.length := by
              have := hp.length_le
              rw [List.length_cons] at this
              omega
            rw [replaceAll_cons_of_start new (hiff.mpr hp), replaceAll_cons_of_start new hp,
              ← replaceAfter_eq_drop, ← replaceAfter_eq_drop, ih hlength, List.append_assoc]
          · rw [replaceAll_cons_of_elsewhere new (mt hiff.mp hp),
              replaceAll_cons_of_elsewhere new hp]
            exact congrArg (d :: ·) (ih (Nat.zero_le _))

/-- No occurrence reaches across a character that the word does not have. -/
theorem replaceAll_append_cons {c : Char} (h : c ∉ old) (hne : old ≠ []) (front back : List Char) :
    replaceAll old new (front ++ c :: back) =
      replaceAll old new front ++ c :: replaceAll old new back :=
  replaceAfter_append_cons new h hne (Nat.zero_le _) back

/-- Joined texts are replaced each by itself. -/
theorem replaceAll_intercalate {c : Char} (h : c ∉ old) (hne : old ≠ [])
    (parts : List (List Char)) :
    replaceAll old new ([c].intercalate parts) =
      [c].intercalate (parts.map (replaceAll old new)) := by
  induction parts with
  | nil => rfl
  | cons part rest ih =>
      cases rest with
      | nil => simp
      | cons next rest =>
          rw [List.intercalate_cons_cons, List.append_assoc, List.singleton_append,
            replaceAll_append_cons new h hne, ih]
          simp

end ControlPlane.Text
