import LintScaffold.Proofs.Command.Arguments
import LintScaffold.Proofs.Command.Conclusion
import LintScaffold.Proofs.Command.Frame
import LintScaffold.Proofs.Path.Fresh
import LintScaffold.Proofs.Text.ControlSequence
import Mathlib.Tactic.Common

/-!
# What is printed and what is saved

The same arguments can be used to print a rule and, with one option more, to save it.  Both runs
make the same source, since the option is looked at only when the source is there.  But they do
not put out the same text.  What is saved is the source, and what is printed lacks the control
sequences of terminals that are in it.

`prints_what_it_saves_iff` says of every run that prints a rule, and of every fresh path, that
the run with the option for this path ends well too, and that its file holds what the first one
has printed exactly if there is no control sequence in the source.  The option may stand in
front of the other arguments, or behind any of them that do not end the options.
-/

namespace LintScaffold

variable {tree : FileTree} {cwd : Place}

namespace NewRequest

variable {request : NewRequest}

/-! ## The option for a path -/

theorem precedes_output (path : Text) :
    Arguments.Precedes NewOption.vocabulary ["--output".toList, path] ⟨[(.output, path)], []⟩ := by
  have hread : Arguments.readOption NewOption.vocabulary "--output".toList =
      .ok ([], some .output) := rfl
  exact Arguments.precedes_value (by decide) (by decide) hread path

/-- With the option the arguments make the same request, but for the path. -/
theorem ofArguments_of_gains {arguments more : Arguments NewOption} {path : Text}
    (h : arguments.Gains .output path more) (hunused : arguments.has .output = false)
    (operand : Text) :
    ofArguments cwd more operand =
      { ofArguments cwd arguments operand with output := some (.parse path) } := by
  have hother : ∀ option, option ≠ .output → more.values option = arguments.values option :=
    fun option hne => h.values_of_ne hne
  simp only [ofArguments, Arguments.value?, Arguments.has, h.values_of_unused hunused,
    hother _ (by decide : NewOption.config ≠ .output),
    hother _ (by decide : NewOption.kind ≠ .output),
    hother _ (by decide : NewOption.pass ≠ .output),
    hother _ (by decide : NewOption.fail ≠ .output),
    hother _ (by decide : NewOption.cases ≠ .output),
    hother _ (by decide : NewOption.hasFilename ≠ .output),
    hother _ (by decide : NewOption.write ≠ .output),
    hother _ (by decide : NewOption.force ≠ .output)]
  rfl

/-- The option is accepted besides arguments that ask for no file. -/
theorem outcome_read_insert {before after : List Text} {part : Arguments NewOption} {path : Text}
    (hbefore : Arguments.Precedes NewOption.vocabulary before part)
    (hread : (read cwd (before ++ after)).outcome tree cwd = .ok request)
    (houtput : request.output = none) (hwrite : request.write = false)
    (hnul : (FilePath.parse path).hasNul = false) :
    (read cwd (before ++ ("--output".toList :: path :: after))).outcome tree cwd =
      .ok { request with output := some (.parse path) } := by
  obtain ⟨parsed, hparsed, hvalues, hchecked⟩ := outcome_read_eq_ok.mp hread
  obtain ⟨operand, hoperand, rfl, -⟩ := outcome_ofChecked_eq_ok.mp hchecked
  obtain ⟨more, hmore, hgains⟩ := hbefore.read_insert (precedes_output path) hparsed
  have hunused : parsed.has .output = false := output_ofArguments_eq_none.mp houtput
  refine outcome_read_eq_ok.mpr ⟨more, hmore, fun option hoption => ?_,
    outcome_ofChecked_eq_ok.mpr ⟨operand, hgains.operands ▸ hoperand,
      ofArguments_of_gains hgains hunused operand, ?_⟩⟩
  · -- the other options have the values that were accepted before
    by_cases hname : option = .output
    · subst hname
      rw [Arguments.value?, hgains.values_of_unused hunused]
      show Task.outcome tree cwd (if (FilePath.parse path).hasNul then _ else _) = _
      rw [hnul]
      rfl
    · have hbefore := (hgains.mem_order hoption).resolve_left hname
      rw [Arguments.value?, hgains.values_of_ne hname]
      exact hvalues option hbefore
  · rw [hwrite, Bool.and_false]

theorem hasNul_of_resolveFrom {base path target : FilePath}
    (h : FilePath.resolveFrom cwd base path = .ok target) (hnul : target.hasNul = false) :
    path.hasNul = false := by
  rcases FilePath.resolveFrom_eq_ok.mp h with ⟨-, rfl⟩ | ⟨hrelative, hwhole, -⟩
  · exact hnul
  · rw [FilePath.hasNul_append hrelative, Bool.or_eq_false_iff] at hwhole
    exact hwhole.2

end NewRequest

/-! ## What a run puts out -/

/-- The run prints the source, or the target of the request has it in the end. -/
def NewRequest.Delivers (request : NewRequest) (cwd : Place) (config : Config) (name : RuleName)
    (source : Text) (run : Run) : Prop :=
  (request.output = none ∧ request.write = false ∧ run.ending = .done source) ∨
  ∃ target place, request.TargetIs cwd config name target ∧ run.ending = .done [] ∧
    run.files.locate cwd target = .ok place ∧ run.files.file? place = some (Utf8.encode source)

/-- A run that ends well has made a source, and puts it out. -/
theorem Call.exists_delivered {call : Call} (hnew : call.command = .new)
    (hdone : (call.run tree cwd).ending.exitCode = 0) :
    ∃ request config name source,
      (NewRequest.read cwd call.arguments).outcome tree cwd = .ok request ∧
      request.Finds tree cwd config name source ∧
      request.Delivers cwd config name source (call.run tree cwd) := by
  obtain ⟨halt, -, hending, -⟩ | ⟨deed, hdeed, hending, hfiles⟩ := call.run_cases tree cwd
  · rw [hending] at hdone
    exact absurd hdone (exitCode_stopped_ne_zero halt)
  · rw [Call.outcome_deed hnew] at hdeed
    obtain ⟨request, hread, hrequest⟩ := bind_eq_ok.mp hdeed
    obtain ⟨config, name, source, hfinds, hprint | hsave⟩ :=
      NewRequest.deed_yields (Task.yields_of_outcome hrequest)
    · obtain ⟨rfl, houtput, hwrite⟩ := hprint
      exact ⟨request, config, name, source, hread, hfinds, .inl ⟨houtput, hwrite, hending⟩⟩
    · obtain ⟨target, report, rfl, htarget, -⟩ := hsave
      refine ⟨request, config, name, source, hread, hfinds, .inr ?_⟩
      obtain ⟨halt, hstopped, -⟩ | ⟨hended, place, hplace, hcontent, -⟩ :=
        Deed.perform_save tree cwd target source report
      · rw [hending, hstopped] at hdone
        exact absurd hdone (exitCode_stopped_ne_zero halt)
      · rw [← hfiles] at hplace hcontent
        exact ⟨target, place, htarget, hending.trans hended, hplace, hcontent⟩

/-- A target is only sought where a file is asked for. -/
theorem Call.asksForFile_of_targetIs {call : Call} {request : NewRequest} {config : Config}
    {name : RuleName} {target : FilePath} (hnew : call.command = .new)
    (hread : (NewRequest.read cwd call.arguments).outcome tree cwd = .ok request)
    (htarget : request.TargetIs cwd config name target) : call.AsksForFile := by
  obtain ⟨parsed, hparsed, -, hchecked⟩ := NewRequest.outcome_read_eq_ok.mp hread
  obtain ⟨operand, -, rfl, -⟩ := NewRequest.outcome_ofChecked_eq_ok.mp hchecked
  refine ⟨hnew, parsed, hparsed, ?_⟩
  cases houtput : parsed.has .output with
  | true => exact .inl rfl
  | false =>
      unfold NewRequest.TargetIs at htarget
      rw [@NewRequest.output_ofArguments_eq_none cwd parsed operand |>.mpr houtput] at htarget
      exact .inr htarget.1

/-! ## Both runs -/

/-- A run that prints something has made a source, and prints it without its control
sequences. -/
theorem Call.exists_source {call : Call} (hnew : call.command = .new)
    (hprints : ¬ call.AsksForFile) (hdone : (call.run tree cwd).ending.exitCode = 0) :
    ∃ request config name source,
      (NewRequest.read cwd call.arguments).outcome tree cwd = .ok request ∧
      request.output = none ∧ request.write = false ∧
      request.Finds tree cwd config name source ∧
      (call.run tree cwd).ending = .done source := by
  obtain ⟨request, config, name, source, hread, hfinds, ⟨houtput, hwrite, hending⟩ |
    ⟨target, -, htarget, -⟩⟩ := Call.exists_delivered hnew hdone
  · exact ⟨request, config, name, source, hread, houtput, hwrite, hfinds, hending⟩
  · exact absurd (Call.asksForFile_of_targetIs hnew hread htarget) hprints

/-- What is printed is what the same arguments with the option for a fresh path save under this
path, exactly if there is no control sequence in the source. -/
theorem prints_what_it_saves_iff {threshold : Int} {before after : List Text}
    {part : Arguments NewOption} {path : Text} {target : FilePath}
    (hbefore : Arguments.Precedes NewOption.vocabulary before part)
    (hprints : ¬ (Call.mk threshold .new (before ++ after)).AsksForFile)
    (hdone : ((Call.mk threshold .new (before ++ after)).run tree cwd).ending.exitCode = 0)
    (htarget : FilePath.resolveFrom cwd ⟨.root, cwd⟩ (.parse path) = .ok target)
    (hfresh : tree.IsFresh cwd target) :
    let printing := (Call.mk threshold .new (before ++ after)).run tree cwd
    let saving :=
      (Call.mk threshold .new (before ++ ("--output".toList :: path :: after))).run tree cwd
    ∃ source place, printing.ending.output = Text.dropControlSequences source ∧
      saving.ending.exitCode = 0 ∧ saving.files.locate cwd target = .ok place ∧
      saving.files.file? place = some (Utf8.encode source) ∧
      (saving.files.file? place = some (Utf8.encode printing.ending.output) ↔
        ¬ Text.HasControlSequence source) := by
  obtain ⟨request, config, name, source, hread, houtput, hwrite, hfinds, hending⟩ :=
    Call.exists_source rfl hprints hdone
  -- with the option the command finds the same, and saves the source
  have hsaving := NewRequest.outcome_read_insert hbefore hread houtput hwrite
    (NewRequest.hasNul_of_resolveFrom htarget hfresh.hasNul)
  have hfinds' : NewRequest.Finds { request with output := some (.parse path) } tree cwd config
      name source := ⟨hfinds.loaded, hfinds.parsed, hfinds.rendered⟩
  obtain ⟨report, hconclude⟩ := @NewRequest.conclude_save tree cwd
    { request with output := some (.parse path) } config name source (.parse path) target rfl
    htarget hfresh.missing
  have hdeed : ((Call.mk threshold .new (before ++ ("--output".toList :: path :: after))).deed
      cwd).outcome tree cwd = .ok (.save target source report) := by
    rw [Call.outcome_deed rfl, hsaving, ok_bind, hfinds'.outcome_deed, hconclude]
  obtain ⟨hended, hfiles⟩ := Call.ending_of_outcome hdeed
  obtain ⟨files, hsave⟩ := hfresh.save (Utf8.encode source)
  obtain ⟨place, hplace, hcontent, -⟩ := FileTree.save_frame hsave
  have hperform : (Deed.save target source report).perform tree cwd =
      ⟨.done [], [⟨.info, .command, report⟩], files⟩ := by
    rw [Deed.perform, hsave]
  rw [hperform] at hended hfiles
  dsimp only
  rw [hended, hfiles, hending]
  refine ⟨source, place, rfl, rfl, hplace, hcontent, ?_⟩
  -- the printed text lacks nothing if and only if its encoding is that of the source
  rw [hcontent, Option.some.injEq, ← Text.dropControlSequences_eq_self_iff]
  constructor
  · exact fun hsame => Utf8.eq_of_encode_eq (Text.sublist_dropControlSequences source) hsame.symm
  · intro hsame
    show Utf8.encode source = Utf8.encode (Text.dropControlSequences source)
    rw [hsame]

/-! ## A code with a control sequence -/

/-- A file `c` that configures a template with nothing but the first case. -/
def firstCaseTree : FileTree :=
  FileTree.empty.put [['c']]
    (.file (Utf8.encode "template.text = \"\x7b\x7b pass_cases[0] \x7d\x7d\"".toList))

/-- Arguments with this file and a code that turns the text of a terminal red. -/
def redCode : List Text :=
  ["no-foo".toList, "--config".toList, "/c".toList, "--pass".toList,
    Text.escapeChar :: "[31mred".toList]

/-- The path that the source is saved at. -/
def freshPath : FilePath := ⟨.root, [['o']]⟩

/-- The run that prints. -/
def redPrinting : Run := (Call.mk 20 .new redCode).run firstCaseTree []

/-- The run that saves. -/
def redSaving : Run :=
  (Call.mk 20 .new (redCode ++ ["--output".toList, "/o".toList])).run firstCaseTree []

/-- What is found by evaluation: how the arguments are read, what the first run prints and what
the second one saves. -/
theorem redCode_evaluated :
    (Arguments.read NewOption.vocabulary true redCode).toOption.any (fun arguments =>
      !arguments.has .output && !arguments.has .write) = true ∧
    redPrinting.ending.exitCode = 0 ∧ redPrinting.ending.output = "r#\"red\"#\n".toList ∧
    redSaving.ending.exitCode = 0 ∧ redSaving.files.locate [] freshPath = .ok [['o']] ∧
    redSaving.files.file? [['o']] =
      some (Utf8.encode ("r#\"".toList ++ Text.escapeChar :: "[31mred\"#\n".toList)) ∧
    redSaving.files.file? [['o']] ≠ some (Utf8.encode redPrinting.ending.output) := by
  decide +kernel

theorem exists_read_redCode :
    ∃ part, Arguments.read NewOption.vocabulary true redCode = .ok part ∧
      part.has .output = false ∧ part.has .write = false := by
  have hread := redCode_evaluated.1
  cases hpart : Arguments.read NewOption.vocabulary true redCode with
  | error fault =>
      rw [hpart] at hread
      simp [Except.toOption] at hread
  | ok part =>
      rw [hpart] at hread
      exact ⟨part, rfl, by simpa [Except.toOption] using hread⟩

theorem not_asksForFile_redCode : ¬ (Call.mk 20 .new redCode).AsksForFile := by
  rintro ⟨-, arguments, hread, hasks⟩
  obtain ⟨part, hpart, houtput, hwrite⟩ := exists_read_redCode
  obtain rfl := Except.ok.inj (hread.symm.trans hpart)
  simp [houtput, hwrite] at hasks

theorem precedes_redCode :
    ∃ part, Arguments.Precedes NewOption.vocabulary redCode part := by
  obtain ⟨part, hpart, -⟩ := exists_read_redCode
  exact ⟨part, Arguments.precedes_of_read hpart (by simp [redCode])⟩

theorem isFresh_freshPath : firstCaseTree.IsFresh [] freshPath := by
  have hplain : freshPath.IsPlain := ⟨rfl, by decide, by decide, by decide⟩
  refine FileTree.isFresh_of_isPlain hplain (by decide) ?_
  intro count hcount content
  obtain rfl : count = 0 := by simpa [freshPath] using hcount
  simp [FileTree.node?]

/-- Both runs end well, but what is saved is not what is printed. -/
theorem red_is_not_printed : firstCaseTree.IsFresh [] freshPath ∧
    ¬ (Call.mk 20 .new redCode).AsksForFile ∧
    redPrinting.ending.exitCode = 0 ∧ redPrinting.ending.output = "r#\"red\"#\n".toList ∧
    redSaving.ending.exitCode = 0 ∧ redSaving.files.file? [['o']] =
      some (Utf8.encode ("r#\"".toList ++ Text.escapeChar :: "[31mred\"#\n".toList)) ∧
    redSaving.files.file? [['o']] ≠ some (Utf8.encode redPrinting.ending.output) := by
  obtain ⟨-, hdone, hprinted, hended, -, hsaved, hdiffers⟩ := redCode_evaluated
  exact ⟨isFresh_freshPath, not_asksForFile_redCode, hdone, hprinted, hended, hsaved, hdiffers⟩

/-- This is so because there is a control sequence in the source. -/
theorem red_has_control_sequence : firstCaseTree.IsFresh [] freshPath ∧
    ¬ (Call.mk 20 .new redCode).AsksForFile ∧ redPrinting.ending.exitCode = 0 ∧
    ∃ source, redPrinting.ending.output = Text.dropControlSequences source ∧
      redSaving.files.file? [['o']] = some (Utf8.encode source) ∧
      Text.HasControlSequence source := by
  obtain ⟨-, hdone, -, -, hwhere, -, hdiffers⟩ := redCode_evaluated
  refine ⟨isFresh_freshPath, not_asksForFile_redCode, hdone, ?_⟩
  obtain ⟨part, hbefore⟩ := precedes_redCode
  obtain ⟨source, place, hprinted, -, hplace, hsaved, hsame⟩ :=
    @prints_what_it_saves_iff firstCaseTree [] 20 redCode [] part "/o".toList freshPath
      hbefore (by rw [List.append_nil]; exact not_asksForFile_redCode)
      (by rw [List.append_nil]; exact hdone) (by decide) isFresh_freshPath
  obtain rfl : [['o']] = place := Except.ok.inj (hwhere.symm.trans hplace)
  rw [List.append_nil] at hprinted hsame
  refine ⟨source, hprinted, hsaved, ?_⟩
  by_contra hnone
  exact hdiffers (hsame.mpr hnone)

end LintScaffold
