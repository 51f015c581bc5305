import ControlPlane.Files.Tree
import ControlPlane.Manifest.Saving
import Mathlib.Order.Defs.Unbundled

/-!
# What saving changes

A program that works on a tree of files goes from one tree to another, and what its steps do to the
tree its runs do as well (`FileTree.Moves`).  Making directories leaves all files as they are
(`FileTree.moves_makeDirectories`), and writing a file changes the one at its place
(`FileTree.Replaced`).
-/

namespace ControlPlane

namespace FileTree

/-! ## places of a tree -/

/-- The contents of the file at a place, if there is one. -/
def fileAt? (t : FileTree) (l : Location) : Option (List UInt8) :=
  match t.node? l with
  | some (.file content) => some content
  | _ => none

section Put

variable {t : FileTree} {l : Location} (content : Option (List UInt8))

theorem node?_put_of_ne {k : Location} (h : k ≠ l) : (t.put l content).node? k = t.node? k := by
  unfold node? put
  rw [Entries.get?_put_of_ne h]

theorem node?_put_self (h : isStart l = false) :
    (t.put l content).node? l = some (match content with
      | some content => .file content
      | none => .directory) := by
  unfold node? put
  rw [if_neg (by simp [h]), Entries.get?_put_self (by simp)]
  rfl

theorem fileAt?_put_of_ne {k : Location} (h : k ≠ l) :
    (t.put l content).fileAt? k = t.fileAt? k := by
  rw [fileAt?, fileAt?, node?_put_of_ne content h]

end Put

/-- What is there is not one of the places that are always there, unless it is a directory. -/
theorem isStart_of_node? {t : FileTree} {l : Location} (h : t.node? l ≠ some .directory) :
    isStart l = false := by
  rw [Bool.eq_false_iff]
  intro hstart
  exact h (by rw [node?, if_pos hstart])

/-- The files of two trees are the same. -/
def SameFiles (t u : FileTree) : Prop := ∀ l, u.fileAt? l = t.fileAt? l

instance : Std.Refl SameFiles where
  refl _ _ := rfl

instance : IsTrans FileTree SameFiles where
  trans _ _ _ htu huv l := (huv l).trans (htu l)

/-! ## programs on a tree -/

/-- Every tree is taken by a program to a related one. -/
def Moves {α : Type} (R : FileTree → FileTree → Prop) (x : StateM FileTree α) : Prop :=
  ∀ t, R t (x.run t).2

section Moves

variable {α β : Type} {R : FileTree → FileTree → Prop}

/-- A program goes on with the result and the tree of its first part. -/
theorem run_bind_of_run {x : StateM FileTree α} {t u : FileTree} {a : α}
    (h : x.run t = (a, u)) (f : α → StateM FileTree β) : (x >>= f).run t = (f a).run u := by
  rw [StateT.run_bind, h]
  rfl

theorem moves_pure [Std.Refl R] (a : α) : Moves R (pure a) := fun t => Std.Refl.refl t

theorem Moves.bind [IsTrans FileTree R] {x : StateM FileTree α} {f : α → StateM FileTree β}
    (hx : Moves R x) (hf : ∀ a, Moves R (f a)) : Moves R (x >>= f) := fun t =>
  IsTrans.trans _ _ _ (hx t) (hf _ _)

theorem moves_read [Std.Refl R] (path : String) : Moves R (access.read path) := fun t =>
  Std.Refl.refl t

theorem moves_kind? [Std.Refl R] (path : String) : Moves R (access.kind? path) := fun t =>
  Std.Refl.refl t

end Moves

/-! ## directories -/

/-- A new directory takes a place where there was nothing. -/
theorem sameFiles_of_makeDirectory {t u : FileTree} {path : String}
    (h : t.makeDirectory path = .ok u) : SameFiles t u := by
  unfold makeDirectory at h
  split at h
  · cases h
  · next l hl =>
    split at h
    · cases h
    · next hnone =>
      rw [← Except.ok.inj h]
      have hnode : t.node? l = none := by simpa using hnone
      intro k
      by_cases hk : k = l
      · have hne : t.node? l ≠ some .directory := by simp [hnode]
        rw [hk, fileAt?, fileAt?, node?_put_self none (isStart_of_node? hne), hnode]
      · exact fileAt?_put_of_ne none hk

theorem moves_makeDirectory (path : String) : Moves SameFiles (access.makeDirectory path) := by
  intro t
  change SameFiles t (change (fun t => t.makeDirectory path) t).2
  unfold change
  cases h : t.makeDirectory path with
  | error e => simp only [h]; exact Std.Refl.refl t
  | ok u => simp only [h]; exact sameFiles_of_makeDirectory h

theorem moves_ensureDirectory (path : String) :
    Moves SameFiles (access.ensureDirectory path) := by
  refine (moves_makeDirectory path).bind fun made => ?_
  split
  · exact moves_pure _
  · exact (moves_kind? path).bind fun _ => moves_pure _

theorem moves_ensureDirectories (fuel : Nat) (path : List Char) :
    Moves SameFiles (access.ensureDirectories fuel path) := by
  induction fuel generalizing path with
  | zero => exact moves_ensureDirectory _
  | succ fuel ih =>
      have hlast (name : List Char) : Moves SameFiles
          (if name = ['.'] then pure (.ok ()) else access.ensureDirectory (String.ofList path)) := by
        split
        · exact moves_pure _
        · exact moves_ensureDirectory _
      unfold FileAccess.ensureDirectories
      refine (moves_kind? _).bind fun kind => ?_
      split
      · exact moves_ensureDirectory _
      · refine (ih _).bind fun made => ?_
        split
        · split
          · exact hlast _
          · exact moves_pure _
        · exact hlast _

/-- Directories are made without a change to any file. -/
theorem moves_makeDirectories (path : String) :
    Moves SameFiles (access.makeDirectories path) :=
  moves_ensureDirectories path.length path.toList

/-! ## files -/

/-- A file that is written is at the place that its path leads to. -/
theorem write_eq_ok_iff {t u : FileTree} {path : String} {content : List UInt8} :
    t.write path content = .ok u ↔
      ∃ l, t.locate path = .ok l ∧ t.node? l ≠ some .directory ∧ endsInSlash path = false ∧
        u = t.put l (some content) := by
  unfold write
  cases hl : t.locate path with
  | error e => simp
  | ok l =>
      simp only [Except.ok.injEq, exists_eq_left']
      cases hn : t.node? l with
      | none => cases endsInSlash path <;> simp [eq_comm]
      | some node => cases node <;> cases endsInSlash path <;> simp [eq_comm]

/-- The same names lead to the same place in a tree that has at least the same directories. -/
theorem walk_of_directories {t u : FileTree}
    (h : ∀ k, t.node? k = some .directory → u.node? k = some .directory) {l k : Location}
    {names : List String} (hwalk : t.walk l names = .ok k) : u.walk l names = .ok k := by
  induction names generalizing l with
  | nil => exact hwalk
  | cons name rest ih =>
      unfold walk at hwalk ⊢
      cases hl : t.node? l with
      | none => simp [hl] at hwalk
      | some node =>
          cases node with
          | file content => simp [hl] at hwalk
          | directory =>
              rw [h l hl]
              simp only [hl] at hwalk
              dsimp only
              split
              · next hdot => exact ih (by simpa [hdot] using hwalk)
              · next hdot =>
                simp only [hdot, if_false] at hwalk
                split
                · next hup => exact ih (by simpa [hup] using hwalk)
                · next hup =>
                  simp only [hup, if_false] at hwalk
                  split at hwalk
                  · cases hwalk
                  · next hlong => rw [if_neg hlong]; exact ih hwalk

/-- A tree in which the file at a path is another one: it has these contents, which are read at the
path, and all other files are as they were. -/
structure Replaced (t u : FileTree) (path : String) (content : List UInt8) : Prop where
  read : u.read path = .ok content
  others : ∃ l, u.locate path = .ok l ∧ u.fileAt? l = some content ∧
    ∀ k, k ≠ l → u.fileAt? k = t.fileAt? k

theorem replaced_of_write {t u : FileTree} {path : String} {content : List UInt8}
    (h : t.write path content = .ok u) : Replaced t u path content := by
  obtain ⟨l, hl, hnode, hslash, rfl⟩ := write_eq_ok_iff.mp h
  have hput : (t.put l (some content)).node? l = some (.file content) :=
    node?_put_self (some content) (isStart_of_node? hnode)
  have hdirectories (k : Location) (hk : t.node? k = some .directory) :
      (t.put l (some content)).node? k = some .directory := by
    rw [node?_put_of_ne (some content) fun hkl : k = l => hnode (hkl ▸ hk)]
    exact hk
  have hlocate : (t.put l (some content)).locate path = .ok l := by
    unfold locate at hl ⊢
    split at hl
    · cases hl
    · split at hl
      · cases hl
      · split at hl
        · cases hl
        · simp only [*, if_false, Bool.false_eq_true]
          exact walk_of_directories hdirectories hl
  exact
    { read := by simp [read, find, hlocate, hput, hslash]
      others := ⟨l, hlocate, by simp [fileAt?, hput], fun k hk => fileAt?_put_of_ne _ hk⟩ }

/-- Whether a file can be written depends on its path only. -/
theorem isOk_write {t : FileTree} {path : String} {before : List UInt8}
    (h : (t.write path before).isOk = true) (content : List UInt8) :
    ∃ u, t.write path content = .ok u := by
  cases hwrite : t.write path before with
  | error e =>
      rw [hwrite] at h
      cases h
  | ok u =>
      obtain ⟨l, hl, hnode, hslash, rfl⟩ := write_eq_ok_iff.mp hwrite
      exact ⟨_, write_eq_ok_iff.mpr ⟨l, hl, hnode, hslash, rfl⟩⟩

theorem Replaced.of_sameFiles {t u v : FileTree} {path : String} {content : List UInt8}
    (h : Replaced u v path content) (htu : SameFiles t u) : Replaced t v path content := by
  obtain ⟨l, hl, hcontent, hothers⟩ := h.others
  exact ⟨h.read, l, hl, hcontent, fun k hk => (hothers k hk).trans (htu k)⟩

/-! ## manifests -/

/-- A directory can be made, if it is missing, and then a file at a path. -/
def IsWritable (t : FileTree) (directory path : String) : Prop :=
  ((access.makeDirectories directory).run t).1.isOk = true ∧
    (((access.makeDirectories directory).run t).2.write path []).isOk = true

instance {t : FileTree} {directory path : String} : Decidable (t.IsWritable directory path) :=
  inferInstanceAs (Decidable (_ ∧ _))

/-- A manifest is saved in a directory that can hold its file, and nothing else changes. -/
theorem run_save {t : FileTree} {m : Manifest} {directory : String}
    (h : t.IsWritable directory (m.filePath directory)) :
    ∃ u, (m.save access directory).run t = (.ok (m.filePath directory), u) ∧
      Replaced t u (m.filePath directory) (Text.encodeUtf8 m.toYaml) := by
  have hsame := moves_makeDirectories directory t
  obtain ⟨hisOk, hempty⟩ := h
  have hmade : ((access.makeDirectories directory).run t).1 = .ok () := by
    cases hmade : ((access.makeDirectories directory).run t).1 with
    | error e =>
        rw [hmade] at hisOk
        cases hisOk
    | ok => rfl
  obtain ⟨w, hw⟩ := isOk_write hempty (Text.encodeUtf8 m.toYaml)
  have hwrite : (access.write (m.filePath directory) (Text.encodeUtf8 m.toYaml)).run
      ((access.makeDirectories directory).run t).2 = (.ok (), w) := by
    change change (fun t => t.write _ _) _ = _
    simp only [change, hw]
  refine ⟨w, ?_, (replaced_of_write hw).of_sameFiles hsame⟩
  unfold Manifest.save
  rw [run_bind_of_run (Prod.ext hmade rfl)]
  exact run_bind_of_run hwrite _

end FileTree

end ControlPlane
