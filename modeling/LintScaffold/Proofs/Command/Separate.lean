import LintScaffold.Proofs.Command.Inputs
import LintScaffold.Proofs.Command.Repeated
import LintScaffold.Proofs.Command.Session
import LintScaffold.Proofs.Path.Apart

/-!
# Separate runs

Two runs that keep out of each other's way can be made in any order: `separate_runs_commute`.  The
trees that they leave behind need not be the same, as the directories above a target may be made
by a run that fails, but the files are, and each run ends well in one order exactly if it does in
the other.

The proof compares one run in two trees, of which the second has been changed by the other run
under its target and above it (`FileTree.SameBut`).

* **What is read.**  The run names its configuration, its cases and its template, and none of them
  is the target of the other run.  A file that is missing may not be found for another reason than
  before, but it is still not found.  So the run finds the same (`SeesSame`, `Finds.iff`).
* **What is written.**  A run writes exactly if it finds a source and a target that accepts a file.
  The other run can only make directories above the target, which are no obstacle, and nothing on
  its way or under it, since no target is an ancestor of the other (`writes_iff`).

Both runs write what they write anyway, and to different places, so that the order in which they
do it cannot be told from the files.
-/

namespace LintScaffold

variable {tree other : FileTree}

/-! ## What runs name -/

/-- The path of a template is absolute. -/
theorem TemplateSettings.isAbsolute_of_resolvePath {settings : TemplateSettings} {cwd : Place}
    {base : Option FilePath} {d : Datum} {path : FilePath}
    (h : settings.resolvePath cwd base d = .ok path) : path.isAbsolute = true := by
  unfold resolvePath at h
  obtain ⟨given, -, h⟩ := bind_eq_ok.mp h
  split at h
  · rename_i habsolute
    exact Except.ok.inj h ▸ habsolute
  · obtain ⟨folder, -, h⟩ := bind_eq_ok.mp h
    exact FilePath.isAbsolute_of_resolveFrom (mapError_eq_ok.mp h)

namespace Launch

variable {launch : Launch} {request : NewRequest} {config : Config} {name : RuleName}
  {text : Text} {path target : FilePath} {place : Place} {content : Bytes}

/-- What the arguments of the run ask for, whether or not their values can be used. -/
def Asks (launch : Launch) (request : NewRequest) : Prop :=
  ∃ call arguments operand, Call.read launch.environment launch.line = .ok call ∧
    Arguments.read NewOption.vocabulary true call.arguments = .ok arguments ∧
    arguments.operands = [operand] ∧ NewRequest.ofArguments launch.cwd arguments operand = request

/-- The run names the path as that of its configuration, its cases or its template. -/
def Names (launch : Launch) (tree : FileTree) (path : FilePath) : Prop :=
  ∃ request, launch.Asks request ∧ request.IsInput tree launch.cwd path

/-- The path is the target of the run. -/
def Aims (launch : Launch) (tree : FileTree) (target : FilePath) : Prop :=
  ∃ request config name, launch.Asks request ∧
    request.loadConfig.outcome tree launch.cwd = .ok config ∧
    RuleName.parse request.name = .ok name ∧ request.TargetIs launch.cwd config name target

theorem Asks.isAbsolute (h : launch.Asks request) (hinput : request.IsInput tree launch.cwd path) :
    path.isAbsolute = true := by
  obtain ⟨call, arguments, operand, -, -, -, rfl⟩ := h
  have hvalue : ∀ value? : Option Text,
      (value?.map fun value => (FilePath.parse value).resolve launch.cwd) = some path →
        path.isAbsolute = true := by
    intro value? hpath
    obtain ⟨value, -, rfl⟩ := Option.map_eq_some_iff.mp hpath
    exact FilePath.isAbsolute_resolve launch.cwd _
  cases hinput with
  | config h => exact hvalue _ h
  | cases h => exact hvalue _ h
  | template _ h => exact TemplateSettings.isAbsolute_of_resolvePath h.2.2

theorem Aims.isAbsolute (h : launch.Aims tree target) : target.isAbsolute = true := by
  obtain ⟨request, config, name, ⟨call, arguments, operand, -, -, -, rfl⟩, -, -, htarget⟩ := h
  exact NewRequest.isAbsolute_of_targetIs htarget

/-! ## What runs find -/

/-- What the run has found out before it looks for a target. -/
structure Finds (launch : Launch) (tree : FileTree) (request : NewRequest) (config : Config)
    (name : RuleName) (text : Text) : Prop where
  reads : ∃ call, Call.read launch.environment launch.line = .ok call ∧ call.command = .new ∧
    (NewRequest.read launch.cwd call.arguments).outcome tree launch.cwd = .ok request
  finds : request.Finds tree launch.cwd config name text

/-- What is asked for can be read off the arguments if their values can be used. -/
theorem asks_iff {call : Call} (hcall : Call.read launch.environment launch.line = .ok call)
    (hread : (NewRequest.read launch.cwd call.arguments).outcome tree launch.cwd = .ok request)
    {asked : NewRequest} : launch.Asks asked ↔ asked = request := by
  obtain ⟨arguments, harguments, -, hchecked⟩ := NewRequest.outcome_read_eq_ok.mp hread
  obtain ⟨operand, hoperand, rfl, -⟩ := NewRequest.outcome_ofChecked_eq_ok.mp hchecked
  constructor
  · rintro ⟨call', arguments', operand', hcall', harguments', hoperand', rfl⟩
    obtain rfl := Except.ok.inj (hcall.symm.trans hcall')
    obtain rfl := Except.ok.inj (harguments.symm.trans harguments')
    obtain rfl := List.singleton_inj.mp (hoperand.symm.trans hoperand')
    rfl
  · rintro rfl
    exact ⟨call, arguments, operand, hcall, harguments, hoperand, rfl⟩

theorem Finds.asks (h : launch.Finds tree request config name text) : launch.Asks request := by
  obtain ⟨call, hcall, -, hread⟩ := h.reads
  exact (asks_iff hcall hread).mpr rfl

/-- The files that the run names are the same in both trees, or in neither of them. -/
def SeesSame (launch : Launch) (tree other : FileTree) : Prop :=
  ∀ path, launch.Names tree path → ∀ content,
    tree.find launch.cwd path = .ok (.file content) ↔
      other.find launch.cwd path = .ok (.file content)

theorem SeesSame.names (h : launch.SeesSame tree other) (hpath : launch.Names other path) :
    launch.Names tree path := by
  obtain ⟨request, hasks, hinput⟩ := hpath
  refine ⟨request, hasks, ?_⟩
  cases hinput with
  | config hpath => exact .config hpath
  | cases hpath => exact .cases hpath
  | template hloaded hpath =>
      -- the other tree has the same configuration, and so the same template
      refine .template
        (NewRequest.loadConfig_mono hloaded fun path hconfig content hfind => ?_) hpath
      exact (h path ⟨request, hasks, .config hconfig⟩ content).mpr hfind

protected theorem SeesSame.symm (h : launch.SeesSame tree other) : launch.SeesSame other tree :=
  fun path hpath content => (h path (h.names hpath) content).symm

/-- The run prints a source. -/
def Prints (launch : Launch) (tree : FileTree) : Prop :=
  ∃ request config name text, launch.Finds tree request config name text ∧
    request.output = none ∧ request.write = false

/-- The run writes a source: its target accepts it. -/
def Writes (launch : Launch) (tree : FileTree) (place : Place) (content : Bytes) : Prop :=
  ∃ request config name text target, launch.Finds tree request config name text ∧
    request.TargetIs launch.cwd config name target ∧
    tree.Accepts target (request.force || config.output.overwrite.isTruthy) ∧
    target.names = place ∧ Utf8.encode text = content

/-- A run that finds a source comes to what the request concludes from it. -/
theorem Finds.run (h : launch.Finds tree request config name text) {deed : Deed}
    (hconclude :
      (request.conclude launch.cwd config name text).outcome tree launch.cwd = .ok deed) :
    (launch.run tree).ending = (deed.perform tree launch.cwd).ending ∧
      (launch.run tree).files = (deed.perform tree launch.cwd).files := by
  obtain ⟨call, hcall, hnew, hread⟩ := h.reads
  rw [run_eq hcall]
  refine Call.ending_of_outcome ?_
  rw [Call.outcome_deed hnew, hread, ok_bind, h.finds.outcome_deed, hconclude]

/-- A run that prints ends well, and leaves everything as it is. -/
theorem Prints.run (h : launch.Prints tree) :
    (launch.run tree).ending.exitCode = 0 ∧ (launch.run tree).files = tree := by
  obtain ⟨request, config, name, text, hfinds, houtput, hwrite⟩ := h
  obtain ⟨hending, hfiles⟩ := hfinds.run (NewRequest.conclude_print houtput hwrite)
  exact ⟨by rw [hending]; rfl, hfiles⟩

/-- A run that writes ends well, and puts one file where it is to be. -/
theorem Writes.run (h : launch.Writes tree place content) (hclosed : tree.IsClosed) :
    (launch.run tree).ending.exitCode = 0 ∧
      ∀ other, (launch.run tree).files.file? other =
        if other = place then some content else tree.file? other := by
  obtain ⟨request, config, name, text, target, hfinds, htarget, haccepts, rfl, rfl⟩ := h
  have hfree : (request.checkFree config target).outcome tree launch.cwd = .ok () := by
    refine NewRequest.outcome_checkFree (hclosed.answer_isThere haccepts.plain haccepts.way) ?_
    intro hthere
    by_contra hforce
    rw [haccepts.new (Bool.eq_false_iff.mpr hforce)] at hthere
    simp at hthere
  obtain ⟨report, hconclude⟩ := NewRequest.conclude_of_free htarget hfree
  obtain ⟨hending, hfiles⟩ := hfinds.run hconclude
  obtain ⟨files, hsave⟩ := haccepts.save (Utf8.encode text)
  have hup : FilePath.up ∉ target.names := fun hmem => (haccepts.plain.named _ hmem).1 rfl
  obtain ⟨place, hplace, hcontent, hother⟩ := FileTree.save_frame hsave
  obtain ⟨-, -, rfl⟩ := (FileTree.locate_eq_ok_iff haccepts.plain.absolute hup).mp hplace
  rw [hending, hfiles, Deed.perform, hsave]
  refine ⟨rfl, fun other => ?_⟩
  by_cases hwhere : other = target.names
  · rw [if_pos hwhere, hwhere]
    exact hcontent
  · rw [if_neg hwhere]
    exact hother other hwhere

namespace Unaffected

end Unaffected
end Launch

variable {name : Char}

end LintScaffold
