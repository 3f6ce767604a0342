import LintScaffold.Proofs.Command.Frame
import LintScaffold.Proofs.Path.Appearance

/-!
# Sessions

A session is a row of runs on the same files.  A run that is not to overwrite anything asks
whether something stands at its target, and only then makes the directories above it.  It
asks too early: a target with a step up can lead nowhere at first and to an existing file
afterwards, because a directory on its way has been made in between.  Such a run slips, and
the file is overwritten.

This is the only way to lose a file.  `session_keeps_files_iff` says that a run, wherever in
a session, keeps all files exactly if it does not slip.  Every tree that a session goes
through is closed, which is why a target without steps up that leads nowhere leads to no file
later on either.  In particular a run cannot slip if its target is given by an option and
relative, since such a target is resolved first.
-/

namespace LintScaffold

/-! ## Runs in a row -/

/-- A run that is to be made: the current directory, the level that the environment names,
and the command line. -/
structure Launch where
  cwd : Place
  environment : Option Text
  line : List Text

namespace Launch

/-- The run on a file tree. -/
def run (launch : Launch) (tree : FileTree) : Run :=
  runLine tree launch.cwd launch.environment launch.line

/-- Overwriting is asked for, by an option or by the configuration that is loaded. -/
def MayOverwrite (launch : Launch) (tree : FileTree) : Prop :=
  ∃ call request config, Call.read launch.environment launch.line = .ok call ∧
    call.command = .new ∧
    (NewRequest.read launch.cwd call.arguments).outcome tree launch.cwd = .ok request ∧
    request.loadConfig.outcome tree launch.cwd = .ok config ∧
    (request.force = true ∨ config.output.overwrite.isTruthy = true)

/-- The run decides to save a text at a target with a step up that leads nowhere, but to an
existing file with something else in it once the directories above the target are made. -/
def Slips (launch : Launch) (tree : FileTree) : Prop :=
  ∃ call request config name text target place content,
    Call.read launch.environment launch.line = .ok call ∧
    call.Decides tree launch.cwd request config name text target ∧
    FilePath.up ∈ target.names ∧ tree.Appears launch.cwd target place ∧
    tree.file? place = some content ∧ content ≠ Utf8.encode text

end Launch

/-- The files that a row of runs leaves behind. -/
def session (tree : FileTree) (launches : List Launch) : FileTree :=
  launches.foldl (fun files launch => (launch.run files).files) tree

/-! ## What a run comes to -/

theorem Call.Decides.files_run {call : Call} {tree : FileTree} {cwd : Place}
    {request : NewRequest} {config : Config} {name : RuleName} {text : Text}
    {target : FilePath} (h : call.Decides tree cwd request config name text target) :
    (call.run tree cwd).files = (tree.save cwd target (Utf8.encode text)).1 := by
  obtain ⟨report, hdecided⟩ := h.decided
  obtain ⟨halt, hhalt, -⟩ | ⟨deed, hdeed, -, hfiles⟩ := call.run_cases tree cwd
  · rw [hdecided] at hhalt
    simp at hhalt
  · obtain rfl := Except.ok.inj (hdecided.symm.trans hdeed)
    rw [hfiles]
    dsimp only [Deed.perform]
    split
    · rename_i hsave
      rw [hsave]
    · rename_i hsave
      rw [hsave]

theorem Launch.run_eq {launch : Launch} {call : Call}
    (h : Call.read launch.environment launch.line = .ok call) (tree : FileTree) :
    launch.run tree = call.run tree launch.cwd := by
  unfold run runLine
  rw [h]

/-- What a run comes to: it leaves the tree as it is, or it carries out a decision to save
something. -/
theorem Launch.run_cases (launch : Launch) (tree : FileTree) :
    (launch.run tree).files = tree ∨
    ∃ call request config name text target,
      Call.read launch.environment launch.line = .ok call ∧
      call.Decides tree launch.cwd request config name text target := by
  cases hread : Call.read launch.environment launch.line with
  | error fault =>
      left
      unfold run runLine
      rw [hread]
  | ok call =>
      rw [run_eq hread]
      obtain ⟨halt, -, -, hfiles⟩ | ⟨deed, hdeed, -, hfiles⟩ := call.run_cases tree launch.cwd
      · exact .inl hfiles
      · obtain ⟨⟨text, rfl⟩, -⟩ | ⟨-, request, config, name, text, target, report, -,
          hdecides⟩ := Call.deed_cases hdeed
        · exact .inl hfiles
        · exact .inr ⟨call, request, config, name, text, target, rfl, hdecides⟩

/-! ## Sessions keep trees closed -/

theorem Call.Decides.isAbsolute {call : Call} {tree : FileTree} {cwd : Place}
    {request : NewRequest} {config : Config} {name : RuleName} {text : Text}
    {target : FilePath} (h : call.Decides tree cwd request config name text target) :
    target.isAbsolute = true := by
  obtain ⟨arguments, operand, -, rfl, -⟩ := NewRequest.read_yields (Task.yields_of_outcome h.reads)
  exact NewRequest.isAbsolute_of_targetIs h.leadsTo

theorem Launch.isClosed_run (launch : Launch) {tree : FileTree} (hclosed : tree.IsClosed) :
    (launch.run tree).files.IsClosed := by
  obtain hsame | ⟨call, request, config, name, text, target, hcall, hdecides⟩ :=
    launch.run_cases tree
  · rw [hsame]
    exact hclosed
  · rw [Launch.run_eq hcall, hdecides.files_run]
    exact hclosed.save launch.cwd hdecides.isAbsolute (Utf8.encode text)

theorem isClosed_session {tree : FileTree} (hclosed : tree.IsClosed) (launches : List Launch) :
    (session tree launches).IsClosed := by
  induction launches generalizing tree with
  | nil => exact hclosed
  | cons launch rest ih => exact ih (launch.isClosed_run hclosed)

/-! ## What is kept -/

/-- Every file of the first tree is in the second one as it was. -/
def FileTree.KeepsFiles (tree other : FileTree) : Prop :=
  ∀ place content, tree.file? place = some content → other.file? place = some content

namespace FileTree

variable {tree : FileTree} {cwd : Place} {target : FilePath}

/-- Saving at a target that leads nowhere keeps all files, unless the target comes to lead to
one of them. -/
theorem save_keepsFiles_or (hmissing : ∀ node, tree.find cwd target ≠ .ok node)
    (content : Bytes) :
    tree.KeepsFiles (tree.save cwd target content).1 ∨
    ∃ place old, tree.Appears cwd target place ∧ tree.file? place = some old ∧
      old ≠ content := by
  obtain ⟨fault, -, hgrows⟩ | ⟨made, place, hmade, hplace, hnode, hsave⟩ :=
    tree.save_cases cwd target content
  · exact .inl fun other old hold => (hgrows.file?_eq other).trans hold
  · have hgrows := grows_makeDirectories tree cwd target.parent
    rw [hmade] at hgrows
    by_cases hold : ∃ old, tree.file? place = some old ∧ old ≠ content
    · obtain ⟨old, hold, hother⟩ := hold
      exact .inr ⟨place, old, ⟨hmissing, made, hmade, hplace⟩, hold, hother⟩
    · -- if the path leads to a file, then that file has this content already
      left
      intro other old hfile
      rw [hsave, file?_put_file made other content (ne_root_of_node? hnode), hgrows.file?_eq]
      split
      · rename_i hother
        subst hother
        by_contra hne
        exact hold ⟨old, hfile, fun hsame => hne (congrArg some hsame.symm)⟩
      · exact hfile

/-- Where a target comes to lead to a file, saving overwrites that file. -/
theorem Appears.file?_save {place : Place} (happears : tree.Appears cwd target place)
    {old : Bytes} (hold : tree.file? place = some old) (content : Bytes) :
    (tree.save cwd target content).1.file? place = some content := by
  obtain ⟨made, hmade, hplace⟩ := happears.made
  have hgrows := grows_makeDirectories tree cwd target.parent
  rw [hmade] at hgrows
  have hnode : made.node? place = some (.file old) := hgrows.keeps (file?_eq_some.mp hold)
  have hfile : made.node? place ≠ some .directory := by simp [hnode]
  have hwrite : made.write cwd target content = .ok (made.put place (.file content)) :=
    write_eq_ok.mpr ⟨place, hplace, hfile, rfl⟩
  unfold save
  rw [hmade]
  dsimp only
  rw [hwrite]
  exact (file?_put_file made place content (ne_root_of_node? hfile)).trans (if_pos rfl)

end FileTree

/-- A run in a session that is not asked to overwrite anything keeps all files exactly if it
does not slip. -/
theorem session_keeps_files_iff {tree : FileTree} (hclosed : tree.IsClosed)
    (earlier : List Launch) (launch : Launch)
    (hforce : ¬ launch.MayOverwrite (session tree earlier)) :
    (session tree earlier).KeepsFiles (session tree (earlier ++ [launch])) ↔
      ¬ launch.Slips (session tree earlier) := by
  have hbefore := isClosed_session hclosed earlier
  have hafter : session tree (earlier ++ [launch]) =
      (launch.run (session tree earlier)).files := by
    unfold session
    rw [List.foldl_append]
    rfl
  rw [hafter]
  generalize session tree earlier = before at hforce hbefore ⊢
  constructor
  · -- a run that slips overwrites a file with something else
    rintro hkeeps ⟨call, request, config, name, text, target, place, old, hcall, hdecides, -,
      happears, hold, hother⟩
    have hkept := hkeeps place old hold
    rw [launch.run_eq hcall, hdecides.files_run, happears.file?_save hold] at hkept
    exact hother (Option.some.inj hkept).symm
  · -- the target was found free, and only with a step up can it come to lead to a file
    intro hslip
    obtain hsame | ⟨call, request, config, name, text, target, hcall, hdecides⟩ :=
      launch.run_cases before
    · rw [hsame]
      exact fun _ _ hfile => hfile
    · have hasks : (request.force || config.output.overwrite.isTruthy) = false := by
        by_contra hasks
        rw [Bool.not_eq_false, Bool.or_eq_true] at hasks
        exact hforce ⟨call, request, config, hcall, hdecides.makesRule, hdecides.reads,
          hdecides.finds.loaded, hasks⟩
      rw [launch.run_eq hcall, hdecides.files_run]
      obtain hkeeps | ⟨place, old, happears, hold, hother⟩ :=
        FileTree.save_keepsFiles_or (hdecides.free hasks) (Utf8.encode text)
      · exact hkeeps
      · refine absurd ⟨call, request, config, name, text, target, place, old, hcall, hdecides,
          ?_, happears, hold, hother⟩ hslip
        exact FileTree.up_mem_of_appears hbefore happears (FileTree.file?_eq_some.mp hold)

/-- A run with a relative target does not slip. -/
theorem Launch.not_slips_of_relative {launch : Launch} {tree : FileTree}
    (hclosed : tree.IsClosed) (hcwd : tree.node? launch.cwd = some .directory)
    (hrelative : ∀ {call request}, Call.read launch.environment launch.line = .ok call →
      (NewRequest.read launch.cwd call.arguments).outcome tree launch.cwd = .ok request →
      ∃ path, request.output = some path ∧ path.isAbsolute = false) : ¬ launch.Slips tree := by
  rintro ⟨call, request, config, name, text, target, place, old, hcall, hdecides, hup, -⟩
  obtain ⟨path, houtput, hpath⟩ := hrelative hcall hdecides.reads
  exact NewRequest.up_not_mem_of_relative (hclosed.named hcwd) houtput hpath hdecides.leadsTo hup

/-! ## A run that slips -/

/-- A file `x`, and a file `c` that configures a short template. -/
def twoFiles : FileTree :=
  (FileTree.empty.put [['x']] (.file (Utf8.encode "old".toList))).put [['c']]
    (.file (Utf8.encode "template.text = \"new\"".toList))

/-- A run with a target that leads to `x`, but through a directory that is not there. -/
def throughGone : Launch where
  cwd := []
  environment := none
  line := ["new".toList, "no-foo".toList, "--config".toList, "/c".toList, "--output".toList,
    "/gone/../x".toList]

theorem isClosed_twoFiles : twoFiles.IsClosed := by
  refine FileTree.isClosed_of_flat fun {place node} hplace hnode => ?_
  rw [twoFiles, FileTree.node?_put _ _ _ (by simp)] at hnode
  split at hnode
  · rename_i hc
    exact ⟨_, hc, by decide⟩
  · rw [FileTree.node?_put _ _ _ (by simp)] at hnode
    split at hnode
    · rename_i hx
      exact ⟨_, hx, by decide⟩
    · cases place with
      | nil => exact absurd rfl hplace
      | cons name names => simp [FileTree.node?, FileTree.empty] at hnode

/-- The target of this run. -/
def throughGoneTarget : FilePath := ⟨.root, ["gone".toList, FilePath.up, ['x']]⟩

/-- What this run is asked for. -/
def throughGoneRequest : NewRequest :=
  ⟨"no-foo".toList, some ⟨.root, [['c']]⟩, none, [], [], none, false, some throughGoneTarget,
    false, false⟩

theorem read_throughGone :
    Call.read none throughGone.line = .ok ⟨20, .new, throughGone.line.drop 1⟩ ∧
    (NewRequest.read [] (throughGone.line.drop 1)).outcome twoFiles [] =
      .ok throughGoneRequest := by
  decide +kernel

theorem not_mayOverwrite_throughGone : ¬ throughGone.MayOverwrite twoFiles := by
  rintro ⟨call, request, config, hcall, -, hreads, hloaded, hasks⟩
  obtain rfl := Except.ok.inj (read_throughGone.1.symm.trans hcall)
  obtain rfl := Except.ok.inj (read_throughGone.2.symm.trans hreads)
  rcases hasks with hforce | htruthy
  · exact absurd hforce (by decide)
  · have hloaded' := congrArg
      (Except.map fun config : Config => config.output.overwrite.isTruthy) hloaded
    rw [Except.map, htruthy] at hloaded'
    exact absurd hloaded' (by decide +kernel)

/-- The run overwrites `x` although it is not asked to. -/
theorem throughGone_overwrites : twoFiles.IsClosed ∧ ¬ throughGone.MayOverwrite twoFiles ∧
    twoFiles.file? [['x']] = some (Utf8.encode "old".toList) ∧
    (session twoFiles [throughGone]).file? [['x']] = some (Utf8.encode "new\n".toList) :=
  ⟨isClosed_twoFiles, not_mayOverwrite_throughGone, by decide +kernel, by decide +kernel⟩

/-- Hence it slips. -/
theorem throughGone_slips : twoFiles.IsClosed ∧ ¬ throughGone.MayOverwrite twoFiles ∧
    throughGone.Slips twoFiles := by
  refine ⟨isClosed_twoFiles, not_mayOverwrite_throughGone, ?_⟩
  by_contra hslip
  have hkeeps := (session_keeps_files_iff isClosed_twoFiles [] throughGone
    not_mayOverwrite_throughGone).mpr hslip
  have hkept := hkeeps [['x']] (Utf8.encode "old".toList) (by decide +kernel)
  exact absurd hkept (by decide +kernel)

end LintScaffold
