/-!
# Mappings in order

Mappings as lists of entries in the order in which their keys were first given.  `put` keeps the
place of a key that is there already.  When two keys are the same is a parameter.
-/

namespace ControlPlane

/-- The entries of a mapping. -/
abbrev Entries (κ α : Type) := List (κ × α)

namespace Entries

variable {κ α : Type}

/-- The value of a key. -/
def get? (same : κ → κ → Bool) (k : κ) : Entries κ α → Option α
  | [] => none
  | (j, v) :: rest => if same j k then some v else get? same k rest

/-- The mapping with a key set: in its place if it is there, at the end otherwise. -/
def put (same : κ → κ → Bool) (k : κ) (v : α) : Entries κ α → Entries κ α
  | [] => [(k, v)]
  | (j, w) :: rest => if same j k then (j, v) :: rest else (j, w) :: put same k v rest

/-- The mapping with every entry of a list set, one after the other. -/
def putAll (same : κ → κ → Bool) (new : List (κ × α)) (old : Entries κ α) : Entries κ α :=
  new.foldl (fun m e => put same e.1 e.2 m) old

/-! ## small laws -/

variable {same : κ → κ → Bool} {k : κ} {v : α}

@[simp] theorem get?_nil : get? same k ([] : Entries κ α) = none := rfl

/-- A key that was set has the value it was set to. -/
theorem get?_put_self (hk : same k k = true) (m : Entries κ α) :
    get? same k (put same k v m) = some v := by
  induction m with
  | nil => simp [put, get?, hk]
  | cons e m ih =>
    obtain ⟨j, w⟩ := e
    by_cases h : same j k <;> simp [put, get?, h, ih]

/-- Setting a key leaves the keys as they are, but for one that was not there. -/
theorem keys_put (m : Entries κ α) :
    (put same k v m).map Prod.fst =
      if (m.map Prod.fst).any (same · k) then m.map Prod.fst else m.map Prod.fst ++ [k] := by
  induction m with
  | nil => rfl
  | cons e m ih =>
    obtain ⟨j, w⟩ := e
    by_cases h : same j k = true
    · simp [put, h]
    · simp only [put, h, Bool.false_eq_true, if_false, List.map_cons, ih, List.any_cons,
        Bool.false_or]
      split <;> rfl

@[simp] theorem putAll_nil (m : Entries κ α) : putAll same [] m = m := rfl

@[simp] theorem putAll_cons (e : κ × α) (new : List (κ × α)) (m : Entries κ α) :
    putAll same (e :: new) m = putAll same new (put same e.1 e.2 m) := rfl

/-- What is in front of other entries is found first. -/
theorem get?_append (m n : Entries κ α) :
    get? same k (m ++ n) = (get? same k m).or (get? same k n) := by
  induction m with
  | nil => rfl
  | cons e m ih =>
    obtain ⟨j, w⟩ := e
    by_cases h : same j k <;> simp [get?, h, ih]

/-! ## keys that are compared as they are -/

section

variable [BEq κ] [LawfulBEq κ] {m n : Entries κ α}

@[simp] theorem get?_cons_self : get? (· == ·) k ((k, v) :: m) = some v := by simp [get?]

theorem get?_cons_of_ne {e : κ × α} (h : e.1 ≠ k) :
    get? (· == ·) k (e :: m) = get? (· == ·) k m := by
  simp [get?, h]

theorem get?_eq_none_iff : get? (· == ·) k m = none ↔ k ∉ m.map Prod.fst := by
  induction m with
  | nil => simp
  | cons e m ih =>
    obtain ⟨j, w⟩ := e
    by_cases h : j = k
    · subst h
      simp
    · rw [get?_cons_of_ne h, ih]
      simp [Ne.symm h]

/-- If no key is there twice, what is found is what is there. -/
theorem get?_eq_some_iff (h : (m.map Prod.fst).Nodup) :
    get? (· == ·) k m = some v ↔ (k, v) ∈ m := by
  induction m with
  | nil => simp
  | cons e m ih =>
    obtain ⟨j, w⟩ := e
    obtain ⟨hnew, hrest⟩ := List.nodup_cons.mp h
    by_cases hj : j = k
    · subst hj
      have hnone : (j, v) ∉ m := fun hmem => hnew (List.mem_map.mpr ⟨(j, v), hmem, rfl⟩)
      simp [hnone, eq_comm]
    · rw [get?_cons_of_ne hj, ih hrest]
      simp [Ne.symm hj]

/-- If no key is there twice, the order of the entries does not matter. -/
theorem get?_of_perm (hdistinct : (m.map Prod.fst).Nodup) (h : m.Perm n) :
    get? (· == ·) k m = get? (· == ·) k n := by
  have hdistinct' : (n.map Prod.fst).Nodup := (h.map Prod.fst).nodup_iff.mp hdistinct
  apply Option.ext
  intro v
  rw [get?_eq_some_iff hdistinct, get?_eq_some_iff hdistinct', h.mem_iff]

/-- A key that was not set has the value that it had. -/
theorem get?_put_of_ne {j k : κ} (h : j ≠ k) (v : α) (m : Entries κ α) :
    get? (· == ·) j (put (· == ·) k v m) = get? (· == ·) j m := by
  have hkj : (k == j) = false := by simpa using fun hkj : k = j => h hkj.symm
  induction m with
  | nil => simp [put, get?, hkj]
  | cons e m ih =>
    obtain ⟨i, w⟩ := e
    by_cases hik : (i == k) = true
    · have hij : (i == j) = false := by rw [eq_of_beq hik]; exact hkj
      simp [put, get?, hik, hij]
    · simp only [put, hik, get?, Bool.false_eq_true, if_false, ih]

end

end Entries

end ControlPlane
