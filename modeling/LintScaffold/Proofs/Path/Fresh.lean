import LintScaffold.Path.Inquiry
import LintScaffold.Proofs.Path.Growth
import LintScaffold.Proofs.Text.ControlSequence

/-!
# Fresh paths

A path is fresh if a file can be made under it: nothing is there, the directories above it can be
made, and then it leads to a place where no directory stands.  `isFresh_of_isPlain` shows that
nothing more is needed of a plain path, an absolute one without steps up and with names that are
not too long, than that neither anything stands under it nor a file on its way.
-/

namespace LintScaffold

namespace FileTree

variable {tree : FileTree} {cwd : Place} {path : FilePath}

/-- A file can be made under the path. -/
structure IsFresh (tree : FileTree) (cwd : Place) (path : FilePath) : Prop where
  missing : (Inquiry.isThere path).answer tree cwd = .ok false
  reachable : ∃ made place, tree.makeDirectories cwd path.parent = (made, none) ∧
    made.locate cwd path = .ok place ∧ made.node? place ≠ some .directory

theorem IsFresh.hasNul (h : tree.IsFresh cwd path) : path.hasNul = false := by
  obtain ⟨made, place, -, hplace, -⟩ := h.reachable
  unfold locate at hplace
  split at hplace
  · simp at hplace
  · rename_i hnul
    simpa using hnul

theorem IsFresh.save (h : tree.IsFresh cwd path) (content : Bytes) :
    ∃ files, tree.save cwd path content = (files, none) := by
  obtain ⟨made, place, hmade, hplace, hnode⟩ := h.reachable
  have hwrite : made.write cwd path content = .ok (made.put place (.file content)) :=
    write_eq_ok.mpr ⟨place, hplace, hnode, rfl⟩
  refine ⟨made.put place (.file content), ?_⟩
  unfold FileTree.save
  rw [hmade]
  dsimp only
  rw [hwrite]

/-! ## Following plain names -/

theorem enter_of_directory {place : Place} {name : Text} (hup : name ≠ FilePath.up)
    (hshort : (Utf8.encode name).length ≤ maxNameBytes)
    (hnode : tree.node? place = some .directory) : tree.enter place name = .ok (place ++ [name]) :=
  enter_eq_ok.mpr ⟨hnode, by rw [if_neg hup]; exact ⟨hshort, rfl⟩⟩

theorem enter_of_missing {place : Place} {name : Text} (hnode : tree.node? place = none) :
    tree.enter place name = .error .noEntry := by
  rw [enter, hnode]

variable {names : List Text}

/-- Names are followed to their end through directories. -/
theorem foldlM_enter_of_directories {start : Place}
    (hnames : ∀ name ∈ names, name ≠ FilePath.up ∧ (Utf8.encode name).length ≤ maxNameBytes)
    (hway : ∀ count < names.length, tree.node? (start ++ names.take count) = some .directory) :
    names.foldlM tree.enter start = .ok (start ++ names) := by
  induction names generalizing start with
  | nil => simp [pure, Except.pure]
  | cons name rest ih =>
      obtain ⟨⟨hup, hshort⟩, hrest⟩ := List.forall_mem_cons.mp hnames
      have hstart : tree.node? start = some .directory := by simpa using hway 0 (by simp)
      rw [List.foldlM_cons, enter_of_directory hup hshort hstart]
      refine (ih hrest fun count hcount => ?_).trans (by simp)
      simpa using hway (count + 1) (by simpa using hcount)

/-- Names cannot be followed where something is missing on the way. -/
theorem foldlM_enter_of_missing {start : Place}
    (hnames : ∀ name ∈ names, name ≠ FilePath.up ∧ (Utf8.encode name).length ≤ maxNameBytes)
    (hfree : ∀ count < names.length, ∀ content,
      tree.node? (start ++ names.take count) ≠ some (.file content))
    (hmissing : ∃ count < names.length,
      tree.node? (start ++ names.take count) ≠ some .directory) :
    names.foldlM tree.enter start = .error .noEntry := by
  induction names generalizing start with
  | nil => simp at hmissing
  | cons name rest ih =>
      obtain ⟨⟨hup, hshort⟩, hrest⟩ := List.forall_mem_cons.mp hnames
      have hnofile : ∀ content, tree.node? start ≠ some (.file content) := by
        simpa using hfree 0 (by simp)
      rw [List.foldlM_cons]
      cases hstart : tree.node? start with
      | none => rw [enter_of_missing hstart]; rfl
      | some node =>
          cases node with
          | file content => exact absurd hstart (hnofile content)
          | directory =>
              -- the first name is there, so that what is missing is missing behind it
              rw [enter_of_directory hup hshort hstart]
              refine ih hrest (fun count hcount content => ?_) ?_
              · simpa using hfree (count + 1) (by simpa using hcount) content
              · obtain ⟨count, hcount, hnode⟩ := hmissing
                cases count with
                | zero => exact absurd hstart (by simpa using hnode)
                | succ count =>
                    exact ⟨count, by simpa using hcount, by simpa using hnode⟩

end FileTree

/-! ## Plain paths -/

theorem Text.sublist_join_take (mark : Text) (texts : List Text) (count : Nat) :
    (Text.join mark (texts.take count)).Sublist (Text.join mark texts) := by
  induction texts generalizing count with
  | nil => simp [Text.join]
  | cons text rest ih =>
      cases count with
      | zero => simp [Text.join]
      | succ count =>
          cases rest with
          | nil => simp
          | cons next more =>
              cases count with
              | zero => simp [Text.join, List.append_assoc]
              | succ count =>
                  have hlater := ih (count + 1)
                  rw [List.take_succ_cons] at hlater ⊢
                  rw [List.take_succ_cons]
                  exact List.Sublist.append_left hlater (text ++ mark)

namespace FilePath

/-- The path is absolute and has no steps up, and neither a name nor the whole is too long. -/
structure IsPlain (path : FilePath) : Prop where
  absolute : path.isAbsolute = true
  named : ∀ name ∈ path.names, name ≠ up ∧ (Utf8.encode name).length ≤ FileTree.maxNameBytes
  noNul : path.hasNul = false
  short : (Utf8.encode path.text).length ≤ FileTree.maxPathBytes

theorem text_of_isAbsolute {path : FilePath} (h : path.isAbsolute = true) :
    path.text = path.anchor.text ++ Text.join ['/'] path.names := by
  obtain ⟨anchor, names⟩ := path
  cases anchor with
  | relative => exact absurd h (by simp [isAbsolute])
  | root => rfl
  | doubleRoot => rfl

/-- The first names of a plain path make a plain path. -/
theorem IsPlain.take {path : FilePath} (h : path.IsPlain) (count : Nat) :
    IsPlain ⟨path.anchor, path.names.take count⟩ where
  absolute := h.absolute
  named := fun name hname => h.named name (List.mem_of_mem_take hname)
  noNul := by
    have hnul := h.noNul
    rw [hasNul, List.any_eq_false] at hnul ⊢
    exact fun name hname => hnul name (List.mem_of_mem_take hname)
  short := by
    refine Nat.le_trans (Utf8.length_encode_le ?_) h.short
    rw [text_of_isAbsolute h.absolute,
      @text_of_isAbsolute ⟨path.anchor, path.names.take count⟩ h.absolute]
    exact List.Sublist.append_left (Text.sublist_join_take _ _ _) _

end FilePath

namespace FileTree

variable {tree : FileTree} {cwd : Place} {path : FilePath}

theorem locate_of_isPlain (h : path.IsPlain) :
    tree.locate cwd path = path.names.foldlM tree.enter [] := by
  unfold locate
  rw [h.noNul, if_neg Bool.false_ne_true, if_neg (Nat.not_lt.mpr h.short), h.absolute]
  rfl

/-- All directories above the last name are there. -/
def HasWay (tree : FileTree) (names : List Text) : Prop :=
  ∀ count < names.length, tree.node? (names.take count) = some .directory

/-- No file is on the way. -/
def HasFreeWay (tree : FileTree) (names : List Text) : Prop :=
  ∀ count < names.length, ∀ content, tree.node? (names.take count) ≠ some (.file content)

theorem locate_of_hasWay (h : path.IsPlain) (hway : tree.HasWay path.names) :
    tree.locate cwd path = .ok path.names := by
  rw [locate_of_isPlain h, foldlM_enter_of_directories h.named, List.nil_append]
  simpa [HasWay] using hway

theorem locate_of_not_hasWay (h : path.IsPlain) (hfree : tree.HasFreeWay path.names)
    (hway : ¬ tree.HasWay path.names) : tree.locate cwd path = .error .noEntry := by
  rw [locate_of_isPlain h, foldlM_enter_of_missing h.named]
  · simpa [HasFreeWay] using hfree
  · simpa [HasWay] using hway

/-! ## Making the directories -/

/-- Where the directories above it are there and no file is, a directory is made, unless it is
there already.  Then it is there, and nothing else has changed. -/
theorem makeDirectory_of_hasWay (h : path.IsPlain) (hway : tree.HasWay path.names)
    (hfile : ∀ content, tree.node? path.names ≠ some (.file content)) :
    ∃ made, (tree.makeDirectory cwd path = .ok made ∨
        tree.makeDirectory cwd path = .error .exists ∧ made = tree ∧
          ∀ fault, tree.unlessThere cwd path fault = none) ∧
      made.node? path.names = some .directory ∧
      ∀ place, place ≠ path.names → made.node? place = tree.node? place := by
  have hplace := @locate_of_hasWay tree cwd path h hway
  cases hnode : tree.node? path.names with
  | none =>
      have hroot : path.names ≠ [] := fun hroot => by simp [hroot, node?] at hnode
      refine ⟨tree.put path.names .directory,
        .inl (makeDirectory_eq_ok.mpr ⟨path.names, hplace, hnode, rfl⟩), ?_, fun place hother => ?_⟩
      · rw [node?_put _ _ _ hroot, if_pos rfl]
      · rw [node?_put _ _ _ hroot, if_neg hother]
  | some node =>
      cases node with
      | file content => exact absurd hnode (hfile content)
      | directory =>
          refine ⟨tree, .inr ⟨?_, rfl, fun fault => ?_⟩, hnode, fun _ _ => rfl⟩
          · simp [makeDirectory, hplace, hnode, bind, Except.bind]
          · simp [unlessThere, find, hplace, hnode, bind, Except.bind, pure, Except.pure]

/-- The same holds of the directories up to one of the names of the path. -/
theorem makeDirectoriesUpTo_of_hasWay (h : path.IsPlain) {count : Nat}
    (hway : tree.HasWay (path.names.take count))
    (hfile : ∀ content, tree.node? (path.names.take count) ≠ some (.file content)) :
    ∃ made, tree.makeDirectoriesUpTo cwd path count = (made, none) ∧
      made.node? (path.names.take count) = some .directory ∧
      ∀ place, place ≠ path.names.take count → made.node? place = tree.node? place := by
  obtain ⟨made, hmade, hnode, hkept⟩ :=
    @makeDirectory_of_hasWay tree cwd _ (h.take count) hway hfile
  refine ⟨made, ?_, hnode, hkept⟩
  obtain hmade | ⟨hexists, rfl, hthere⟩ := hmade
  · cases count with
    | zero => simp_all [makeDirectoriesUpTo]
    | succ count => simp [makeDirectoriesUpTo, hmade]
  · cases count with
    | zero => simp_all [makeDirectoriesUpTo]
    | succ count => simp [makeDirectoriesUpTo, hexists, hthere]

/-- Where a directory is missing on the way, those above are made first, and then it goes on as
if they had been there. -/
theorem makeDirectoriesUpTo_succ (h : path.IsPlain) {count : Nat} {above : FileTree}
    (hfree : tree.HasFreeWay (path.names.take (count + 1)))
    (hway : ¬ tree.HasWay (path.names.take (count + 1)))
    (habove : tree.makeDirectoriesUpTo cwd path count = (above, none))
    (hmade : above.HasWay (path.names.take (count + 1))) :
    tree.makeDirectoriesUpTo cwd path (count + 1) =
      above.makeDirectoriesUpTo cwd path (count + 1) := by
  have hlost := @locate_of_not_hasWay tree cwd _ (h.take (count + 1)) hfree hway
  have hplace := @locate_of_hasWay above cwd _ (h.take (count + 1)) hmade
  have hmissing : tree.makeDirectory cwd ⟨path.anchor, path.names.take (count + 1)⟩ =
      .error .noEntry := by
    simp [makeDirectory, hlost, bind, Except.bind]
  have hfound : above.makeDirectory cwd ⟨path.anchor, path.names.take (count + 1)⟩ ≠
      .error .noEntry := by
    simp only [makeDirectory, hplace, bind, Except.bind, pure, Except.pure]
    split <;> simp
  rw [makeDirectoriesUpTo, hmissing]
  dsimp only
  rw [habove]
  dsimp only
  unfold makeDirectoriesUpTo
  dsimp only
  cases hmake : above.makeDirectory cwd ⟨path.anchor, path.names.take (count + 1)⟩ with
  | ok made => rfl
  | error fault =>
      cases fault with
      | noEntry => exact absurd hmake hfound
      | _ => rfl

/-- What the directories up to one of the names of a path are made to. -/
structure MadeUpTo (tree : FileTree) (names : List Text) (count : Nat) (made : FileTree) :
    Prop where
  there : ∀ k ≤ count, made.node? (names.take k) = some .directory
  kept : ∀ place, count < place.length → made.node? place = tree.node? place

theorem MadeUpTo.succ {names : List Text} {count : Nat} {above made : FileTree}
    (h : tree.MadeUpTo names count above) (hcount : count < names.length)
    (hthere : made.node? (names.take (count + 1)) = some .directory)
    (hkept : ∀ place, place ≠ names.take (count + 1) → made.node? place = above.node? place) :
    tree.MadeUpTo names (count + 1) made where
  there := by
    intro k hk
    by_cases hlast : k = count + 1
    · rw [hlast, hthere]
    · have hne : names.take k ≠ names.take (count + 1) := by
        intro hsame
        have hlength := congrArg List.length hsame
        rw [List.length_take, List.length_take] at hlength
        omega
      rw [hkept _ hne, h.there k (by omega)]
  kept := by
    intro place hplace
    have hne : place ≠ names.take (count + 1) := by
      rintro rfl
      rw [List.length_take] at hplace
      omega
    rw [hkept place hne, h.kept place (by omega)]

/-- Directories are made up to any of the names of a plain path, if no file is on the way. -/
theorem makeDirectoriesUpTo_of_isPlain (h : path.IsPlain) {count : Nat}
    (hcount : count ≤ path.names.length)
    (hfree : ∀ k ≤ count, ∀ content, tree.node? (path.names.take k) ≠ some (.file content)) :
    ∃ made, tree.makeDirectoriesUpTo cwd path count = (made, none) ∧
      tree.MadeUpTo path.names count made := by
  induction count with
  | zero =>
      obtain ⟨made, hmade, hnode, hkept⟩ := @makeDirectoriesUpTo_of_hasWay tree cwd _ h 0
        (by simp [HasWay]) (by simp [node?])
      refine ⟨made, hmade, fun k hk => ?_, fun place hplace => hkept place ?_⟩
      · obtain rfl : k = 0 := by omega
        exact hnode
      · rintro rfl
        simp at hplace
  | succ count ih =>
      have hlength : (path.names.take (count + 1)).length = count + 1 := by
        rw [List.length_take]
        omega
      have htake : ∀ k < count + 1, (path.names.take (count + 1)).take k = path.names.take k := by
        intro k hk
        rw [List.take_take, Nat.min_eq_left (by omega)]
      by_cases hway : tree.HasWay (path.names.take (count + 1))
      · -- this directory is the only one that may be missing
        obtain ⟨made, hmade, hnode, hkept⟩ :=
          makeDirectoriesUpTo_of_hasWay h hway (hfree (count + 1) (Nat.le_refl _))
        have hbefore : tree.MadeUpTo path.names count tree := by
          refine ⟨fun k hk => ?_, fun _ _ => rfl⟩
          rw [← htake k (by omega)]
          exact hway k (by omega)
        exact ⟨made, hmade, hbefore.succ (by omega) hnode hkept⟩
      · -- one above it is missing too, and they are made first
        obtain ⟨above, habove, hmadeUp⟩ := ih (by omega) fun k hk => hfree k (by omega)
        have hfreeWay : tree.HasFreeWay (path.names.take (count + 1)) := by
          intro k hk content
          rw [htake k (by omega)]
          exact hfree k (by omega) content
        have haboveWay : above.HasWay (path.names.take (count + 1)) := by
          intro k hk
          rw [htake k (by omega)]
          exact hmadeUp.there k (by omega)
        have hfile : ∀ content, above.node? (path.names.take (count + 1)) ≠
            some (.file content) := by
          intro content
          rw [hmadeUp.kept _ (by omega)]
          exact hfree (count + 1) (Nat.le_refl _) content
        obtain ⟨made, hmade, hnode, hkept⟩ :=
          @makeDirectoriesUpTo_of_hasWay above cwd _ h (count + 1) haboveWay hfile
        refine ⟨made, ?_, hmadeUp.succ (by omega) hnode hkept⟩
        rw [makeDirectoriesUpTo_succ h hfreeWay hway habove haboveWay, hmade]

/-- The directories above a plain path can be made if no file is on its way, and then it leads to
what stands under it. -/
theorem reachable_of_isPlain (h : path.IsPlain) (hfree : tree.HasFreeWay path.names)
    (hnode : tree.node? path.names ≠ some .directory) :
    ∃ made place, tree.makeDirectories cwd path.parent = (made, none) ∧
      made.locate cwd path = .ok place ∧ made.node? place ≠ some .directory := by
  have hpos : 0 < path.names.length := List.length_pos_iff.mpr (ne_root_of_node? hnode)
  have hparent : path.parent = ⟨path.anchor, path.names.take (path.names.length - 1)⟩ := by
    rw [FilePath.parent, List.dropLast_eq_take]
  have hlength : (path.names.take (path.names.length - 1)).length = path.names.length - 1 := by
    rw [List.length_take]
    omega
  have htake : ∀ k ≤ path.names.length - 1,
      (path.names.take (path.names.length - 1)).take k = path.names.take k := by
    intro k hk
    rw [List.take_take, Nat.min_eq_left hk]
  obtain ⟨made, hmade, hmadeUp⟩ := @makeDirectoriesUpTo_of_isPlain tree cwd _
    (h.take (path.names.length - 1)) (path.names.length - 1) (Nat.le_of_eq hlength.symm)
    fun k hk => by
      rw [htake k hk]
      exact hfree k (by omega)
  have hway : made.HasWay path.names := by
    intro k hk
    rw [← htake k (by omega)]
    exact hmadeUp.there k (by omega)
  refine ⟨made, path.names, ?_, locate_of_hasWay h hway, ?_⟩
  · rw [makeDirectories, hparent]
    dsimp only
    rw [hlength]
    exact hmade
  · rw [hmadeUp.kept _ (by omega)]
    exact hnode

/-- A path whose way is free leads to what stands under its names, or nowhere. -/
theorem find_of_isPlain (h : path.IsPlain) (hfree : tree.HasFreeWay path.names) :
    tree.find cwd path = .error .noEntry ∨
      tree.locate cwd path = .ok path.names := by
  by_cases hway : tree.HasWay path.names
  · exact .inr (locate_of_hasWay h hway)
  · refine .inl ?_
    simp [find, locate_of_not_hasWay h hfree hway, bind, Except.bind]

/-- A plain path is fresh if nothing stands under it and no file is on its way. -/
theorem isFresh_of_isPlain (h : path.IsPlain) (hmissing : tree.node? path.names = none)
    (hfree : tree.HasFreeWay path.names) : tree.IsFresh cwd path := by
  refine ⟨?_, reachable_of_isPlain h hfree (by simp [hmissing])⟩
  have hfind : tree.find cwd path = .error .noEntry := by
    obtain hfind | hplace := @find_of_isPlain tree cwd path h hfree
    · exact hfind
    · simp [find, hplace, hmissing, bind, Except.bind]
  simp [Inquiry.isThere, hfind]

end FileTree
end LintScaffold
