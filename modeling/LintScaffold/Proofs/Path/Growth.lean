import LintScaffold.Path.FileTree

/-!
# How file trees change

Saving a file first makes the directories above it and then writes.  Making directories
only ever puts a directory where nothing stood: the tree grows, and every file stays what it
is, also when a later directory cannot be made.  Writing changes what stands at the one
place that its path leads to, and no directory is lost by it, so that the path still leads
there afterwards.
-/

namespace LintScaffold.FileTree

/-- The content of the file at a place, if a file is there. -/
def file? (tree : FileTree) (place : Place) : Option Bytes :=
  match tree.node? place with
  | some (.file content) => some content
  | _ => none

theorem file?_eq_some {tree : FileTree} {place : Place} {content : Bytes} :
    tree.file? place = some content ↔ tree.node? place = some (.file content) := by
  unfold file?
  split
  · rename_i found hnode
    simp [hnode]
  · rename_i hnode
    simp only [reduceCtorEq, false_iff]
    exact hnode content

/-- Every file of the first tree is in the second one, and no other. -/
def SameFiles (tree other : FileTree) : Prop := ∀ place, other.file? place = tree.file? place

/-- The second tree is the first one with further directories. -/
structure Grows (tree made : FileTree) : Prop where
  keeps : ∀ {place node}, tree.node? place = some node → made.node? place = some node
  adds : ∀ {place node}, tree.node? place = none → made.node? place = some node →
    node = .directory

/-! ## Growing -/

namespace Grows

variable {tree made later : FileTree}

protected theorem refl (tree : FileTree) : Grows tree tree where
  keeps := id
  adds := by
    intro place node hnone hsome
    rw [hnone] at hsome
    exact absurd hsome (by simp)

protected theorem trans (hmade : Grows tree made) (hlater : Grows made later) :
    Grows tree later where
  keeps := fun hnode => hlater.keeps (hmade.keeps hnode)
  adds := by
    intro place node hnone hnode
    cases hmiddle : made.node? place with
    | none => exact hlater.adds hmiddle hnode
    | some middle =>
        have hsame := hlater.keeps hmiddle
        rw [hnode] at hsame
        rw [Option.some.inj hsame]
        exact hmade.adds hnone hmiddle

protected theorem put {place : Place} (hplace : tree.node? place = none) :
    Grows tree (tree.put place .directory) := by
  have hroot : place ≠ [] := by
    rintro rfl
    simp [node?] at hplace
  refine ⟨fun {other node} hnode => ?_, fun {other node} hnone hnode => ?_⟩
  · rw [node?_put tree other .directory hroot, if_neg]
    · exact hnode
    · rintro rfl
      rw [hplace] at hnode
      exact absurd hnode (by simp)
  · rw [node?_put tree other .directory hroot] at hnode
    split at hnode
    · exact (Option.some.inj hnode).symm
    · rw [hnone] at hnode
      exact absurd hnode (by simp)

theorem file?_eq (h : Grows tree made) (place : Place) : made.file? place = tree.file? place := by
  cases hnode : tree.node? place with
  | some node => rw [file?, file?, hnode, h.keeps hnode]
  | none =>
      cases hmade : made.node? place with
      | none => rw [file?, file?, hnode, hmade]
      | some node => rw [file?, file?, hnode, hmade, h.adds hnode hmade]

theorem sameFiles (h : Grows tree made) : SameFiles tree made := h.file?_eq

end Grows

/-! ## Making directories -/

theorem makeDirectory_eq_ok {tree made : FileTree} {cwd : Place} {path : FilePath} :
    tree.makeDirectory cwd path = .ok made ↔
      ∃ place, tree.locate cwd path = .ok place ∧ tree.node? place = none ∧
        made = tree.put place .directory := by
  unfold makeDirectory
  cases hplace : tree.locate cwd path with
  | error fault => simp [bind, Except.bind]
  | ok place =>
      cases hnode : tree.node? place with
      | some node => simp [bind, Except.bind, hnode]
      | none => simp [bind, Except.bind, hnode, pure, Except.pure, eq_comm]

theorem grows_of_makeDirectory {tree made : FileTree} {cwd : Place} {path : FilePath}
    (h : tree.makeDirectory cwd path = .ok made) : Grows tree made := by
  obtain ⟨place, -, hnode, rfl⟩ := makeDirectory_eq_ok.mp h
  exact .put hnode

/-- What making one directory on the way keeps, making several keeps, even if there is a fault
before all of them are made. -/
theorem makeDirectoriesUpTo_keeps {holds : FileTree → Prop} {tree : FileTree} {cwd : Place}
    {path : FilePath} (htree : holds tree)
    (hstep : ∀ {before made : FileTree} {names : List Text}, names <+: path.names →
      holds before → before.makeDirectory cwd ⟨path.anchor, names⟩ = .ok made → holds made)
    (count : Nat) : holds (tree.makeDirectoriesUpTo cwd path count).1 := by
  induction count with
  | zero =>
      unfold makeDirectoriesUpTo
      dsimp only
      split
      · rename_i made hmade
        exact hstep List.nil_prefix htree hmade
      · exact htree
  | succ count ih =>
      have hprefix : path.names.take (count + 1) <+: path.names := List.take_prefix _ _
      unfold makeDirectoriesUpTo
      dsimp only
      split
      · rename_i made hmade
        exact hstep hprefix htree hmade
      · -- the directory above is missing: it is made first, and then this one
        split
        · rename_i above fault habove
          rw [habove] at ih
          exact ih
        · rename_i above habove
          rw [habove] at ih
          split
          · rename_i made hmade
            exact hstep hprefix ih hmade
          · exact ih
          · exact ih
      · exact htree

theorem grows_makeDirectories (tree : FileTree) (cwd : Place) (path : FilePath) :
    Grows tree (tree.makeDirectories cwd path).1 :=
  makeDirectoriesUpTo_keeps (.refl tree)
    (fun _ hbefore hmade => hbefore.trans (grows_of_makeDirectory hmade)) path.names.length

/-! ## Where a path leads -/

/-- Every directory of the first tree is one of the second. -/
def KeepsDirectories (tree other : FileTree) : Prop :=
  ∀ place, tree.node? place = some .directory → other.node? place = some .directory

theorem enter_eq_ok {tree : FileTree} {place next : Place} {name : Text} :
    tree.enter place name = .ok next ↔
      tree.node? place = some .directory ∧
        if name = FilePath.up then next = place.dropLast
        else (Utf8.encode name).length ≤ maxNameBytes ∧ next = place ++ [name] := by
  unfold enter
  cases hnode : tree.node? place with
  | none => simp
  | some node =>
      cases node with
      | file content => simp
      | directory =>
          by_cases hup : name = FilePath.up
          · simp [hup, eq_comm]
          · by_cases hlong : maxNameBytes < (Utf8.encode name).length
            · simp [hup, hlong, Nat.not_le_of_lt hlong]
            · simp [hup, hlong, Nat.le_of_not_lt hlong, eq_comm]

theorem foldlM_enter_mono {tree other : FileTree} (h : KeepsDirectories tree other)
    {names : List Text} {start place : Place}
    (hplace : names.foldlM tree.enter start = .ok place) :
    names.foldlM other.enter start = .ok place := by
  induction names generalizing start with
  | nil => exact hplace
  | cons name rest ih =>
      rw [List.foldlM_cons] at hplace ⊢
      cases hnext : tree.enter start name with
      | error fault =>
          rw [hnext] at hplace
          simp [bind, Except.bind] at hplace
      | ok next =>
          have hother : other.enter start name = .ok next := by
            rw [enter_eq_ok] at hnext ⊢
            exact ⟨h start hnext.1, hnext.2⟩
          rw [hnext] at hplace
          rw [hother]
          exact ih hplace

theorem locate_eq_ok {tree : FileTree} {cwd place : Place} {path : FilePath}
    (h : tree.locate cwd path = .ok place) :
    path.names.foldlM tree.enter (if path.isAbsolute then [] else cwd) = .ok place := by
  unfold locate at h
  split at h
  · simp at h
  · split at h
    · simp at h
    · exact h

/-- A path that leads somewhere in one tree does so in any other in which its names can be
followed. -/
theorem locate_of_foldlM {tree other : FileTree} {cwd place : Place} {path : FilePath}
    (hplace : tree.locate cwd path = .ok place)
    (hfold : path.names.foldlM other.enter (if path.isAbsolute then [] else cwd) = .ok place) :
    other.locate cwd path = .ok place := by
  unfold locate at hplace ⊢
  split at hplace
  · simp at hplace
  · split at hplace
    · simp at hplace
    · -- the path is neither refused nor too long, which does not depend on the tree
      rename_i hnul hlong
      rw [if_neg hnul, if_neg hlong]
      exact hfold

/-- A path leads where it did, as long as no directory is lost. -/
theorem locate_mono {tree other : FileTree} (h : KeepsDirectories tree other) {cwd : Place}
    {path : FilePath} {place : Place} (hplace : tree.locate cwd path = .ok place) :
    other.locate cwd path = .ok place :=
  locate_of_foldlM hplace (foldlM_enter_mono h (locate_eq_ok hplace))

/-! ## Writing -/

theorem write_eq_ok {tree written : FileTree} {cwd : Place} {path : FilePath} {content : Bytes} :
    tree.write cwd path content = .ok written ↔
      ∃ place, tree.locate cwd path = .ok place ∧ tree.node? place ≠ some .directory ∧
        written = tree.put place (.file content) := by
  unfold write
  cases hplace : tree.locate cwd path with
  | error fault => simp
  | ok place =>
      by_cases hnode : tree.node? place = some .directory
      · simp [hnode]
      · simp only [hnode, if_false, Except.ok.injEq, ne_eq, exists_eq_left', not_false_eq_true,
          true_and]
        exact eq_comm

theorem ne_root_of_node? {tree : FileTree} {place : Place}
    (h : tree.node? place ≠ some .directory) : place ≠ [] := by
  rintro rfl
  exact h rfl

theorem file?_put_file (tree : FileTree) {place : Place} (other : Place) (content : Bytes)
    (h : place ≠ []) :
    (tree.put place (.file content)).file? other =
      if other = place then some content else tree.file? other := by
  rw [file?, node?_put tree other _ h]
  by_cases hother : other = place
  · rw [if_pos hother, if_pos hother]
  · rw [if_neg hother, if_neg hother, file?]

theorem keepsDirectories_put_file {tree : FileTree} {place : Place} {content : Bytes}
    (h : tree.node? place ≠ some .directory) :
    KeepsDirectories tree (tree.put place (.file content)) := by
  intro other hother
  rw [node?_put tree other _ (ne_root_of_node? h), if_neg]
  · exact hother
  · rintro rfl
    exact h hother

/-! ## Saving -/

/-- What saving a file comes to: some directories are made, and then either there is a
fault, or the file is written to the place that its path now leads to. -/
theorem save_cases (tree : FileTree) (cwd : Place) (path : FilePath) (content : Bytes) :
    (∃ fault, (tree.save cwd path content).2 = some fault ∧
      Grows tree (tree.save cwd path content).1) ∨
    (∃ made place, tree.makeDirectories cwd path.parent = (made, none) ∧
      made.locate cwd path = .ok place ∧ made.node? place ≠ some .directory ∧
      tree.save cwd path content = (made.put place (.file content), none)) := by
  have hgrows := grows_makeDirectories tree cwd path.parent
  unfold save
  cases hmade : tree.makeDirectories cwd path.parent with
  | mk made fault? =>
      rw [hmade] at hgrows
      cases fault? with
      | some fault => exact .inl ⟨fault, rfl, hgrows⟩
      | none =>
          dsimp only
          cases hwritten : made.write cwd path content with
          | error fault => exact .inl ⟨fault, rfl, hgrows⟩
          | ok written =>
              obtain ⟨place, hplace, hnode, rfl⟩ := write_eq_ok.mp hwritten
              exact .inr ⟨made, place, rfl, hplace, hnode, rfl⟩

/-- A file that could be saved is found under its path, and no other file is changed. -/
theorem save_frame {tree files : FileTree} {cwd : Place} {path : FilePath} {content : Bytes}
    (h : tree.save cwd path content = (files, none)) :
    ∃ place, files.locate cwd path = .ok place ∧ files.file? place = some content ∧
      ∀ other, other ≠ place → files.file? other = tree.file? other := by
  obtain ⟨fault, hfault, -⟩ | ⟨made, place, hmade, hplace, hnode, hsaved⟩ :=
    save_cases tree cwd path content
  · rw [h] at hfault
    simp at hfault
  · have hgrows := grows_makeDirectories tree cwd path.parent
    rw [hmade] at hgrows
    rw [h] at hsaved
    obtain rfl : files = made.put place (.file content) := congrArg Prod.fst hsaved
    have hroot := ne_root_of_node? hnode
    -- no directory is lost by the writing, so the path still leads to the place
    refine ⟨place, locate_mono (keepsDirectories_put_file hnode) hplace, ?_, ?_⟩
    · rw [file?_put_file made place content hroot, if_pos rfl]
    · intro other hother
      rw [file?_put_file made other content hroot, if_neg hother]
      exact hgrows.file?_eq other

end LintScaffold.FileTree
