import LintScaffold.Proofs.Path.Growth
import Mathlib.Data.List.Induction

/-!
# Paths that lead nowhere yet

A file tree is closed if everything in it stands in a directory, and no name in it is that of
a step up.  Saving under an absolute path keeps a tree closed.

In a closed tree a path without steps up leads to a file as soon as its names are those of
the file: all directories on its way are there.  With a step up this is different.  The path
`/gone/../x` leads nowhere while `/gone` is missing, although `/x` is there, and it leads to
`/x` once the directory `/gone` is made.  `Appears` says of a path and a place that this
happens when the directories above the path are made, and `up_mem_of_appears` that it takes
a step up.
-/

namespace LintScaffold.FileTree

/-- Everything stands in a directory, and no name is that of a step up. -/
structure IsClosed (tree : FileTree) : Prop where
  enclosed : ∀ {place name node}, tree.node? (place ++ [name]) = some node →
    tree.node? place = some .directory
  named : ∀ {place node}, tree.node? place = some node → FilePath.up ∉ place

/-- A tree is closed if all that it has stands directly in the root. -/
theorem isClosed_of_flat {tree : FileTree}
    (hflat : ∀ {place node}, place ≠ [] → tree.node? place = some node →
      ∃ name, place = [name] ∧ name ≠ FilePath.up) : tree.IsClosed where
  enclosed := by
    intro place name node hnode
    obtain ⟨only, honly, -⟩ := hflat (by simp) hnode
    obtain rfl : place = [] := by simpa using congrArg List.length honly
    rfl
  named := by
    intro place node hnode
    by_cases hplace : place = []
    · simp [hplace]
    · obtain ⟨only, rfl, hup⟩ := hflat hplace hnode
      simpa using Ne.symm hup

/-! ## Closed trees stay closed -/

/-- A place in a directory: something can be put there. -/
structure HasParent (tree : FileTree) (place : Place) : Prop where
  parent : ∀ above name, place = above ++ [name] → tree.node? above = some .directory
  named : FilePath.up ∉ place

theorem hasParent_root (tree : FileTree) : tree.HasParent [] where
  parent := fun _ _ h => absurd h (by simp)
  named := by simp

theorem IsClosed.hasParent {tree : FileTree} (hclosed : tree.IsClosed) {place : Place}
    {node : Node} (hnode : tree.node? place = some node) : tree.HasParent place where
  parent := fun _ _ h => hclosed.enclosed (h ▸ hnode)
  named := hclosed.named hnode

theorem IsClosed.hasParent_enter {tree : FileTree} (hclosed : tree.IsClosed)
    {place next : Place} {name : Text} (h : tree.enter place name = .ok next) :
    tree.HasParent next := by
  obtain ⟨hplace, hnext⟩ := enter_eq_ok.mp h
  split at hnext
  · -- a step up leads to a directory, which stands in another one
    subst hnext
    rcases List.eq_nil_or_concat place with rfl | ⟨above, last, rfl⟩
    · exact hasParent_root tree
    · rw [List.concat_eq_append] at hplace ⊢
      rw [List.dropLast_concat]
      exact hclosed.hasParent (hclosed.enclosed hplace)
  · rename_i hup
    obtain ⟨-, rfl⟩ := hnext
    refine ⟨fun above last hlast => ?_, ?_⟩
    · obtain ⟨rfl, -⟩ := List.append_inj' hlast rfl
      exact hplace
    · simp only [List.mem_append, List.mem_singleton, not_or]
      exact ⟨hclosed.named hplace, fun hname => hup hname.symm⟩

theorem IsClosed.hasParent_foldlM {tree : FileTree} (hclosed : tree.IsClosed)
    {names : List Text} {start place : Place} (hstart : tree.HasParent start)
    (h : names.foldlM tree.enter start = .ok place) : tree.HasParent place := by
  induction names generalizing start with
  | nil =>
      obtain rfl : start = place := by simpa [pure, Except.pure] using h
      exact hstart
  | cons name rest ih =>
      rw [List.foldlM_cons] at h
      cases hnext : tree.enter start name with
      | error fault =>
          rw [hnext] at h
          simp [bind, Except.bind] at h
      | ok next =>
          rw [hnext] at h
          exact ih (hclosed.hasParent_enter hnext) h

theorem IsClosed.hasParent_locate {tree : FileTree} (hclosed : tree.IsClosed)
    {cwd place : Place} {path : FilePath} (hpath : path.isAbsolute = true)
    (h : tree.locate cwd path = .ok place) : tree.HasParent place := by
  have hfold := locate_eq_ok h
  rw [if_pos hpath] at hfold
  exact hclosed.hasParent_foldlM (hasParent_root tree) hfold

theorem IsClosed.put {tree : FileTree} (hclosed : tree.IsClosed) {place : Place} {node : Node}
    (hroot : place ≠ []) (hparent : tree.HasParent place)
    (hnode : tree.node? place = some .directory → node = .directory) :
    (tree.put place node).IsClosed := by
  refine ⟨fun {above name found} hfound => ?_, fun {other found} hfound => ?_⟩
  · -- what stands above was a directory, and it still is one if it is what has been put
    rw [node?_put tree _ node hroot] at hfound ⊢
    have habove : tree.node? above = some .directory := by
      split at hfound
      · rename_i hplace
        exact hparent.parent above name hplace.symm
      · exact hclosed.enclosed hfound
    split
    · rename_i hplace
      rw [hnode (hplace ▸ habove)]
    · exact habove
  · rw [node?_put tree _ node hroot] at hfound
    split at hfound
    · rename_i hplace
      exact hplace ▸ hparent.named
    · exact hclosed.named hfound

theorem IsClosed.makeDirectory {tree made : FileTree} (hclosed : tree.IsClosed) {cwd : Place}
    (path : FilePath) (hpath : path.isAbsolute = true)
    (h : tree.makeDirectory cwd path = .ok made) : made.IsClosed := by
  obtain ⟨place, hplace, hnode, rfl⟩ := makeDirectory_eq_ok.mp h
  have hfree : tree.node? place ≠ some .directory := by simp [hnode]
  have hroot : place ≠ [] := ne_root_of_node? hfree
  exact hclosed.put hroot (hclosed.hasParent_locate hpath hplace) fun _ => rfl

theorem IsClosed.makeDirectories {tree : FileTree} (hclosed : tree.IsClosed) (cwd : Place)
    (path : FilePath) (hpath : path.isAbsolute = true) :
    (tree.makeDirectories cwd path).1.IsClosed :=
  makeDirectoriesUpTo_keeps hclosed
    (fun {_ _ names} _ hbefore hmade =>
      hbefore.makeDirectory ⟨path.anchor, names⟩ hpath hmade) path.names.length

theorem IsClosed.save {tree : FileTree} (hclosed : tree.IsClosed) (cwd : Place)
    {path : FilePath} (hpath : path.isAbsolute = true) (content : Bytes) :
    (tree.save cwd path content).1.IsClosed := by
  have hmade : (tree.makeDirectories cwd path.parent).1.IsClosed :=
    hclosed.makeDirectories cwd path.parent hpath
  unfold FileTree.save
  split
  · rename_i made fault hfault
    rw [hfault] at hmade
    exact hmade
  · rename_i made hnone
    rw [hnone] at hmade
    split
    · rename_i written hwritten
      obtain ⟨place, hplace, hnode, rfl⟩ := write_eq_ok.mp hwritten
      exact hmade.put (ne_root_of_node? hnode) (hmade.hasParent_locate hpath hplace)
        fun hdirectory => absurd hdirectory hnode
    · exact hmade

/-! ## Paths that come to lead somewhere -/

/-- The path leads nowhere, but to a certain place once the directories above it are
made. -/
structure Appears (tree : FileTree) (cwd : Place) (path : FilePath) (place : Place) : Prop where
  missing : ∀ node, tree.find cwd path ≠ .ok node
  made : ∃ made, tree.makeDirectories cwd path.parent = (made, none) ∧
    made.locate cwd path = .ok place

theorem find_eq_ok {tree : FileTree} {cwd : Place} {path : FilePath} {node : Node} :
    tree.find cwd path = .ok node ↔
      ∃ place, tree.locate cwd path = .ok place ∧ tree.node? place = some node := by
  unfold find
  cases hplace : tree.locate cwd path with
  | error fault => simp [bind, Except.bind]
  | ok place =>
      cases hnode : tree.node? place <;> simp [bind, Except.bind, hnode, pure, Except.pure]

private theorem foldlM_enter_concat (tree : FileTree) (names : List Text) (name : Text)
    (start : Place) :
    (names ++ [name]).foldlM tree.enter start =
      names.foldlM tree.enter start >>= fun middle => tree.enter middle name := by
  simp [List.foldlM_append]

/-- Names without steps up can be followed to whatever stands at their end, if they can be
followed in some other tree. -/
theorem IsClosed.foldlM_enter_of_node? {tree made : FileTree} (hclosed : tree.IsClosed)
    {names : List Text} (hnames : FilePath.up ∉ names) {start place : Place} {node : Node}
    (hplace : names.foldlM made.enter start = .ok place)
    (hnode : tree.node? place = some node) : names.foldlM tree.enter start = .ok place := by
  -- from the end of the names: something stands at the end, and so a directory in front of it
  induction names using List.reverseRecOn generalizing place node with
  | nil => exact hplace
  | append_singleton names name ih =>
      simp only [List.mem_append, List.mem_singleton, not_or] at hnames
      rw [foldlM_enter_concat] at hplace ⊢
      cases hmiddle : names.foldlM made.enter start with
      | error fault =>
          rw [hmiddle] at hplace
          simp [bind, Except.bind] at hplace
      | ok middle =>
          have hlast : made.enter middle name = .ok place := by
            rw [hmiddle] at hplace
            exact hplace
          obtain ⟨-, hsteps⟩ := enter_eq_ok.mp hlast
          rw [if_neg (Ne.symm hnames.2)] at hsteps
          obtain ⟨hlength, rfl⟩ := hsteps
          have hdirectory := hclosed.enclosed hnode
          have htree : tree.enter middle name = .ok (middle ++ [name]) :=
            enter_eq_ok.mpr ⟨hdirectory, by rw [if_neg (Ne.symm hnames.2)]; exact ⟨hlength, rfl⟩⟩
          rw [ih hnames.1 hmiddle hdirectory]
          exact htree

/-- A path that comes to lead to something that is there already has a step up. -/
theorem up_mem_of_appears {tree : FileTree} (hclosed : tree.IsClosed) {cwd place : Place}
    {path : FilePath} (happears : tree.Appears cwd path place) {node : Node}
    (hnode : tree.node? place = some node) : FilePath.up ∈ path.names := by
  by_contra hup
  obtain ⟨made, -, hplace⟩ := happears.made
  apply happears.missing node
  have hfold := hclosed.foldlM_enter_of_node? hup (locate_eq_ok hplace) hnode
  exact find_eq_ok.mpr ⟨place, locate_of_foldlM hplace hfold, hnode⟩

end LintScaffold.FileTree
