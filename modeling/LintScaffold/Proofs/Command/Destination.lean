import LintScaffold.Proofs.Command.Inputs
import LintScaffold.Proofs.Command.Printed
import LintScaffold.Proofs.Config.RulePath

/-!
# Where rules are saved

A run that is to save a rule where the configuration says takes the kind of the rule from its
arguments, in any spelling, or else from the configuration.  Both have been read before the run
needs them: the arguments are refused if they name no kind, and so is the configuration.  From
there on the kind cannot be at fault.

The path of the rule is then known: `Call.SavesRule` says which one it is and that it leads to the
source in the end, and `saves_in_directory_of_kind` what is true of every such path.
-/

namespace LintScaffold

variable {tree : FileTree} {cwd : Place}

/-! ## What the arguments say -/

deriving instance DecidableEq for Arguments

namespace Arguments

theorem mem_order_of_value? {α : Type} [DecidableEq α] {arguments : Arguments α} {option : α}
    {value : Text} (h : arguments.value? option = some value) : option ∈ arguments.order := by
  have hmem : value ∈ arguments.values option := List.mem_of_getLast? h
  obtain ⟨⟨used, found⟩, huse, hvalue⟩ := List.mem_filterMap.mp hmem
  dsimp only at hvalue
  split at hvalue
  · rename_i hoption
    exact mem_order.mpr ⟨found, hoption ▸ huse⟩
  · simp at hvalue

/-- The kind that the arguments ask for, in some spelling, or that they leave to the
configuration. -/
def KindIs (arguments : Arguments NewOption) (config : Config) (kind : RuleKind) : Prop :=
  match arguments.value? .kind with
  | some spelling => RuleKind.parse spelling = .ok kind
  | none => kind = config.rule.kind

/-- The configuration that the arguments name, and the directory that it stands in; or the
standard one and the current directory. -/
def ConfigIs (arguments : Arguments NewOption) (tree : FileTree) (cwd : Place) (config : Config)
    (base : FilePath) : Prop :=
  match arguments.value? .config with
  | some value =>
      ∃ content, base = ((FilePath.parse value).resolve cwd).parent ∧
        tree.find cwd ((FilePath.parse value).resolve cwd) = .ok (.file content) ∧
        Config.ofBytes base content = .ok config
  | none => config = .standard ∧ base = ⟨.root, cwd⟩

end Arguments

namespace NewRequest

variable {arguments : Arguments NewOption} {operand : Text} {config : Config}

theorem kindIs_ofArguments
    (hchecks : ∀ option ∈ arguments.order, (NewOption.check cwd option
      ((arguments.value? option).getD [])).outcome tree cwd = .ok ()) :
    arguments.KindIs config ((ofArguments cwd arguments operand).kind.getD config.rule.kind) := by
  unfold Arguments.KindIs ofArguments
  cases hvalue : arguments.value? .kind with
  | none => simp
  | some spelling =>
      have hcheck := hchecks .kind (Arguments.mem_order_of_value? hvalue)
      rw [hvalue, Option.getD_some] at hcheck
      -- a spelling of no kind would have been refused
      cases hkind : RuleKind.parse spelling with
      | ok kind => simp [hkind, Except.toOption]
      | error unknown => simp [NewOption.check, hkind] at hcheck

theorem configIs_ofArguments
    (h : (ofArguments cwd arguments operand).loadConfig.outcome tree cwd = .ok config) :
    arguments.ConfigIs tree cwd config
      ((ofArguments cwd arguments operand).folder?.getD ⟨.root, cwd⟩) := by
  have hconfig : (ofArguments cwd arguments operand).config =
      (arguments.value? .config).map fun value => (FilePath.parse value).resolve cwd := rfl
  rw [outcome_loadConfig_eq_ok] at h
  unfold Arguments.ConfigIs folder?
  rw [hconfig] at h ⊢
  cases hvalue : arguments.value? .config with
  | none =>
      obtain ⟨-, hstandard⟩ | ⟨path, content, hpath, -⟩ := h
      · exact ⟨hstandard, rfl⟩
      · simp [hvalue] at hpath
  | some value =>
      obtain ⟨hnone, -⟩ | ⟨path, content, hpath, hfind, hbytes⟩ := h
      · simp [hvalue] at hnone
      · obtain rfl := Option.some.inj ((hvalue ▸ hpath :) : some _ = some path)
        exact ⟨content, rfl, hfind, hbytes⟩

end NewRequest

/-! ## What a run has saved -/

/-- The run has saved a rule of this kind and this name: with this configuration, whose paths start
at `base`, it has come to the target, and the target leads to the source. -/
structure Call.SavesRule (call : Call) (tree : FileTree) (cwd : Place)
    (arguments : Arguments NewOption) (config : Config) (base : FilePath) (kind : RuleKind)
    (name : RuleName) (target : FilePath) : Prop where
  named : ∃ operand, arguments.operands = [operand] ∧ RuleName.parse operand = .ok name
  configured : arguments.ConfigIs tree cwd config base
  asked : arguments.KindIs config kind
  path : config.output.rulePath base kind name = .ok target
  saved : ∃ request source place, (NewRequest.read cwd call.arguments).outcome tree cwd =
      .ok request ∧ request.Finds tree cwd config name source ∧
    (call.run tree cwd).files.locate cwd target = .ok place ∧
    (call.run tree cwd).files.file? place = some (Utf8.encode source)

/-- A run that ends well and was to save a rule where the configuration says has done so. -/
theorem Call.exists_savesRule {call : Call} {arguments : Arguments NewOption}
    (hnew : call.command = .new)
    (hread : Arguments.read NewOption.vocabulary true call.arguments = .ok arguments)
    (hwrite : arguments.has .write = true)
    (hdone : (call.run tree cwd).ending.exitCode = 0) :
    ∃ config base kind name target,
      call.SavesRule tree cwd arguments config base kind name target := by
  obtain ⟨request, config, name, source, hrequest, hfinds, hdelivers⟩ :=
    Call.exists_delivered hnew hdone
  obtain ⟨parsed, hparsed, hchecks, hchecked⟩ := NewRequest.outcome_read_eq_ok.mp hrequest
  obtain rfl := Except.ok.inj (hread.symm.trans hparsed)
  obtain ⟨operand, hoperand, rfl, hboth⟩ := NewRequest.outcome_ofChecked_eq_ok.mp hchecked
  have hasked : (NewRequest.ofArguments cwd arguments operand).write = true := hwrite
  have houtput : (NewRequest.ofArguments cwd arguments operand).output = none := by
    rw [hasked, Bool.and_true] at hboth
    simpa using hboth
  obtain ⟨-, hunasked, -⟩ | ⟨target, place, htarget, -, hplace, hcontent⟩ := hdelivers
  · exact absurd (hasked.symm.trans hunasked) (by simp)
  · unfold NewRequest.TargetIs at htarget
    rw [houtput] at htarget
    exact ⟨config, _, _, name, target, ⟨operand, hoperand, hfinds.parsed⟩,
      NewRequest.configIs_ofArguments hfinds.loaded, NewRequest.kindIs_ofArguments hchecks,
      htarget.2, _, source, place, hrequest, hfinds, hplace, hcontent⟩

/-- The file of a rule lies in the directory of its kind, whatever its name and wherever the
directory of all rules; its path tells the kind and the snake form.  A run that is to save a rule
there, and ends well, has saved it there: the kind is the one that is asked for, or else that of
the configuration, which can be resolved again. -/
theorem saves_in_directory_of_kind :
    (∀ {settings : OutputSettings} {dir : Text} (base : FilePath), settings.rulesDir = .text dir →
      let root : FilePath := if (FilePath.parse dir).isAbsolute then .parse dir
        else ⟨base.anchor, base.names ++ (FilePath.parse dir).names⟩
      (∀ {given : Text} {name : RuleName} (kind : RuleKind), RuleName.parse given = .ok name →
        ∃ path, settings.rulePath base kind name = .ok path ∧
          path.parent = ⟨root.anchor, root.names ++ [kind.directory]⟩ ∧
          path.names.getLast? = some (name.snake ++ ".rs".toList) ∧
          '/' ∉ name.snake ++ ".rs".toList ∧ name.snake ++ ".rs".toList ≠ ['.'] ∧
          name.snake ++ ".rs".toList ≠ FilePath.up ∧
          ∀ {spelling}, RuleKind.parse spelling = .ok kind →
            settings.rulePathNamed base spelling name = .ok path) ∧
      ∀ (kind other : RuleKind) (name next : RuleName),
        settings.rulePath base kind name = settings.rulePath base other next ↔
          kind = other ∧ name.snake = next.snake) ∧
    ∀ {tree : FileTree} {cwd : Place} {environment : Option Text} {line : List Text} {call : Call}
      {arguments : Arguments NewOption}, Call.read environment line = .ok call →
      call.command = .new →
      Arguments.read NewOption.vocabulary true call.arguments = .ok arguments →
      arguments.has .write = true → (runLine tree cwd environment line).ending.exitCode = 0 →
      ∃ config base kind name target,
        call.SavesRule tree cwd arguments config base kind name target ∧
        runLine tree cwd environment line = call.run tree cwd ∧
        RuleKind.parse config.rule.kind.name = .ok config.rule.kind ∧
        config.output.rulePathNamed base kind.name name =
          (config.output.rulePath base kind name).mapError .noPath := by
  refine ⟨fun {settings dir} base hdir => ⟨fun {given name} kind hname => ?_, ?_⟩, ?_⟩
  · have hroot := OutputSettings.rulePath_of_text hdir base kind name
    refine ⟨_, hroot, OutputSettings.parent_ruleFile _ kind name, ?_,
      RuleName.slash_not_mem_fileName hname, name.fileName_ne_point, name.fileName_ne_up,
      fun hspelling => ?_⟩
    · rw [OutputSettings.ruleFile_eq]
      simp [RuleName.fileName]
    · rw [settings.rulePathNamed_of_parse base hspelling, hroot]
      rfl
  · intro kind other name next
    rw [OutputSettings.rulePath_of_text hdir, OutputSettings.rulePath_of_text hdir,
      Except.ok.injEq, OutputSettings.ruleFile_inj]
  · intro tree cwd environment line call arguments hcall hnew hread hwrite hdone
    have hrun : runLine tree cwd environment line = call.run tree cwd := by
      rw [runLine, hcall]
    rw [hrun] at hdone
    obtain ⟨config, base, kind, name, target, hsaves⟩ :=
      Call.exists_savesRule hnew hread hwrite hdone
    exact ⟨config, base, kind, name, target, hsaves, hrun, config.rule.kind.parse_name,
      config.output.rulePathNamed_of_parse base kind.parse_name name⟩

/-! ## A kind in another spelling -/

/-- A file `c` that configures a directory outside its own, another kind, and a short template. -/
def asideTree : FileTree :=
  FileTree.empty.put [['a']] .directory |>.put [['a'], ['c']] (.file (Utf8.encode
    "rule.kind = \"node\"\noutput.rules_dir = \"../r\"\ntemplate.text = \"new\"".toList))

/-- A line for a rule of a kind that is spelled in its own way. -/
def asideLine : List Text :=
  ["new".toList, "noFooBar".toList, "--kind= JSX_a11y".toList, "-c".toList, "/a/c".toList,
    "--write".toList]

/-- What its arguments say. -/
def asideArguments : Arguments NewOption where
  uses := [(.kind, " JSX_a11y".toList), (.config, "/a/c".toList), (.write, [])]
  operands := ["noFooBar".toList]

/-- What is found by evaluation: how the line is read and how its run ends. -/
theorem aside_evaluated :
    Call.read none asideLine = .ok ⟨20, .new, asideLine.drop 1⟩ ∧
    Arguments.read NewOption.vocabulary true (asideLine.drop 1) = .ok asideArguments ∧
    (runLine asideTree [] none asideLine).ending.exitCode = 0 ∧
    RuleKind.parse " JSX_a11y".toList = .ok .jsxA11y := by
  decide +kernel

/-- The rule is saved in the directory of the kind that is spelled, and a name with a letter from
another script has its file there as well. -/
theorem aside_is_saved :
    (∃ path, (OutputSettings.mk (.text "../r".toList) (.bool false)).rulePath ⟨.relative, []⟩
        .jsxA11y RuleName.sharp = .ok path ∧
      path.parent = ⟨.relative, [FilePath.up, ['r'], "jsx_a11y".toList]⟩ ∧
      path.names.getLast? = some "ßx.rs".toList) ∧
    (runLine asideTree [] none asideLine).ending.exitCode = 0 ∧
    ∃ config base name target, (Call.mk 20 .new (asideLine.drop 1)).SavesRule asideTree []
      asideArguments config base .jsxA11y name target := by
  obtain ⟨hpaths, hruns⟩ := saves_in_directory_of_kind
  obtain ⟨hcall, hread, hdone, hkind⟩ := aside_evaluated
  refine ⟨?_, hdone, ?_⟩
  · obtain ⟨hplaces, -⟩ := @hpaths ⟨.text "../r".toList, .bool false⟩ _ ⟨.relative, []⟩ rfl
    obtain ⟨path, hpath, hparent, hlast, -⟩ := hplaces .jsxA11y RuleName.parse_sharp.1
    exact ⟨path, hpath, hparent, hlast⟩
  · obtain ⟨config, base, kind, name, target, hsaves, -⟩ := hruns hcall rfl hread rfl hdone
    -- the kind that has been found is the one that is spelled
    obtain rfl : kind = .jsxA11y := Except.ok.inj (hsaves.asked.symm.trans hkind)
    exact ⟨config, base, name, target, hsaves⟩

end LintScaffold
