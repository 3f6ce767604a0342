import LintScaffold.Proofs.Command.Oblivious
import LintScaffold.Proofs.Path.Resolved

/-!
# What the command that makes a rule decides

The command goes through a fixed row of steps, and each of them can end it.  Where it comes
to a decision, all of them had a result: `deed_yields` says so of the configuration, the name
and the source of the rule, and of the path that the source is to be saved at.  `TargetIs`
says without steps which path that is.

Every target is an absolute path.  One that an option gives is resolved first, unless it is
absolute already; one that the configuration gives is taken as it is written.
-/

namespace LintScaffold.NewRequest

variable {tree : FileTree} {cwd : Place}

/-! ## Reading the request -/

/-- A request that can be read is that of well-formed arguments with one operand, and does
not ask for two targets. -/
theorem read_yields {arguments : List Text} {request : NewRequest}
    (h : (read cwd arguments).Yields tree cwd request) :
    ∃ parsed name, Arguments.read NewOption.vocabulary true arguments = .ok parsed ∧
      request = ofArguments cwd parsed name ∧
      ¬ (request.output.isSome = true ∧ request.write = true) := by
  obtain ⟨parsed, hparsed, h⟩ := h.bind
  obtain ⟨-, -, h⟩ := h.bind
  obtain ⟨found, hfound, h⟩ := h.bind
  rw [Task.yields_check] at hparsed
  dsimp only at h
  split at h
  · exact absurd h (Task.not_yields_stop_bind _ _ _)
  · rename_i hboth
    obtain rfl := Task.yields_pure.mp h
    split at hfound
    · exact absurd hfound (Task.not_yields_stop _ _)
    · rename_i name hname
      exact ⟨parsed, name, hparsed, (Task.yields_pure.mp hfound).symm, by simpa using hboth⟩
    · exact absurd hfound (Task.not_yields_stop _ _)

/-! ## The target -/

/-- The path that the source is to be saved at: the one that is asked for, as seen from the
current directory, or the place of the rule below the directory that is configured. -/
def TargetIs (request : NewRequest) (cwd : Place) (config : Config) (name : RuleName)
    (target : FilePath) : Prop :=
  match request.output with
  | some path => FilePath.resolveFrom cwd ⟨.root, cwd⟩ path = .ok target
  | none => request.write = true ∧
      config.output.rulePath (request.folder?.getD ⟨.root, cwd⟩)
        (request.kind.getD config.rule.kind) name = .ok target

theorem yields_map_check {ε δ α β : Type} {f : δ → ε} {g : α → β} {result : Except δ α} {b : β}
    (h : (g <$> Task.check f result : Task ε β).Yields tree cwd b) :
    ∃ a, result = .ok a ∧ g a = b := by
  cases result with
  | ok a => exact ⟨a, rfl, Task.yields_pure.mp h⟩
  | error fault => exact absurd h (Task.not_yields_stop _ _)

theorem target?_yields {request : NewRequest} {config : Config} {name : RuleName}
    {target? : Option FilePath}
    (h : (request.target? cwd config (request.kind.getD config.rule.kind) name).Yields tree cwd
      target?) :
    match target? with
    | some target => request.TargetIs cwd config name target
    | none => request.output = none ∧ request.write = false := by
  unfold NewRequest.target? at h
  cases houtput : request.output with
  | some path =>
      rw [houtput] at h
      obtain ⟨target, htarget, rfl⟩ := yields_map_check h
      simpa only [TargetIs, houtput] using htarget
  | none =>
      rw [houtput] at h
      dsimp only at h
      split at h
      · rename_i hwrite
        obtain ⟨target, htarget, rfl⟩ := yields_map_check h
        simp only [TargetIs, houtput]
        exact ⟨hwrite, htarget⟩
      · rename_i hwrite
        obtain rfl := Task.yields_pure.mp h
        exact ⟨rfl, by simpa using hwrite⟩

/-! ## The decision -/

/-- What the command has found out before it looks for a target. -/
structure Finds (request : NewRequest) (tree : FileTree) (cwd : Place) (config : Config)
    (name : RuleName) (text : Text) : Prop where
  loaded : request.loadConfig.outcome tree cwd = .ok config
  parsed : RuleName.parse request.name = .ok name
  rendered : (request.source cwd config name).outcome tree cwd = .ok text

theorem demand_yields {ε α : Type} {wording : ε → Text} {result : Except ε α} {a : α}
    (h : (Step.demand wording result).Yields tree cwd a) : result = .ok a := by
  cases result with
  | ok found => rw [Task.yields_pure.mp h]
  | error fault =>
      obtain ⟨-, -, hstop⟩ := h.bind
      exact absurd hstop (Task.not_yields_stop _ _)

/-- A decision rests on findings.  It is to print the source where no target is asked for, and
otherwise to save it at the target, which was found free or may be overwritten. -/
theorem deed_yields {request : NewRequest} {deed : Deed}
    (h : (request.deed cwd).Yields tree cwd deed) :
    ∃ config name text, request.Finds tree cwd config name text ∧
      ((deed = .print text ∧ request.output = none ∧ request.write = false) ∨
      ∃ target report, deed = .save target text report ∧
        request.TargetIs cwd config name target ∧
        (request.checkFree config target).Yields tree cwd ()) := by
  obtain ⟨config, hconfig, h⟩ := h.bind
  obtain ⟨name, hname, h⟩ := h.bind
  obtain ⟨text, htext, h⟩ := h.bind
  obtain ⟨target?, htarget, h⟩ := h.bind
  have hfinds : request.Finds tree cwd config name text :=
    ⟨request.oblivious_loadConfig.outcome_of_yields hconfig, demand_yields hname,
      (request.oblivious_source cwd config name).outcome_of_yields htext⟩
  refine ⟨config, name, text, hfinds, ?_⟩
  -- without a target the source is printed, and with one the target has been checked
  have hwhere := target?_yields htarget
  cases target? with
  | none => exact .inl ⟨(Task.yields_pure.mp h).symm, hwhere⟩
  | some target =>
      obtain ⟨_, hfree, h⟩ := h.bind
      exact .inr ⟨target, _, (Task.yields_pure.mp h).symm, hwhere, hfree⟩

/-- A target that passes the check leads nowhere, unless overwriting is asked for. -/
theorem checkFree_yields {request : NewRequest} {config : Config} {target : FilePath}
    (h : (request.checkFree config target).Yields tree cwd ())
    (hforce : (request.force || config.output.overwrite.isTruthy) = false) (node : Node) :
    tree.find cwd target ≠ .ok node := by
  intro hfind
  -- the question whether something is at the target is answered with yes, and the run stops
  obtain ⟨there, hthere, h⟩ := h.bind
  have hanswer := hthere.tryAsk
  simp only [Inquiry.isThere, Inquiry.answer_bind, Inquiry.answer_look, hfind,
    Inquiry.answer_pure, Except.ok.injEq] at hanswer
  subst hanswer
  rw [if_pos rfl, hforce] at h
  obtain ⟨-, -, hstop⟩ := h.bind
  exact absurd hstop (Task.not_yields_stop _ _)

/-! ## Targets are absolute -/

theorem isAbsolute_child (path : FilePath) (name : Text) :
    (path.child name).isAbsolute = path.isAbsolute := by
  unfold FilePath.child
  split <;> rfl

theorem isAbsolute_append {base next : FilePath} (hbase : base.isAbsolute = true) :
    (base.append next).isAbsolute = true := by
  unfold FilePath.append
  split
  · assumption
  · exact hbase

theorem isAbsolute_of_rulePath {settings : OutputSettings} {base target : FilePath}
    {kind : RuleKind} {name : RuleName} (hbase : base.isAbsolute = true)
    (h : settings.rulePath base kind name = .ok target) : target.isAbsolute = true := by
  unfold OutputSettings.rulePath OutputSettings.rulesRoot at h
  cases hpath : settings.rulesDir.path with
  | error fault => simp [hpath, bind, Except.bind] at h
  | ok path =>
      simp only [hpath, bind, Except.bind, pure, Except.pure, Except.ok.injEq] at h
      rw [← h, OutputSettings.ruleFile, isAbsolute_child, isAbsolute_child]
      exact isAbsolute_append hbase

theorem isAbsolute_of_targetIs {arguments : Arguments NewOption} {operand : Text}
    {config : Config} {name : RuleName} {target : FilePath}
    (h : (ofArguments cwd arguments operand).TargetIs cwd config name target) :
    target.isAbsolute = true := by
  unfold TargetIs at h
  split at h
  · exact FilePath.isAbsolute_of_resolveFrom h
  · refine isAbsolute_of_rulePath ?_ h.2
    unfold folder? ofArguments
    cases arguments.value? .config with
    | none => rfl
    | some value => exact FilePath.isAbsolute_resolve cwd _

/-! ## Relative targets have no steps up -/

/-- A relative path that an option gives is resolved before it is looked up. -/
theorem up_not_mem_of_relative {request : NewRequest} {config : Config} {name : RuleName}
    {path target : FilePath} (hcwd : FilePath.up ∉ cwd) (houtput : request.output = some path)
    (hrelative : path.isAbsolute = false) (h : request.TargetIs cwd config name target) :
    FilePath.up ∉ target.names := by
  unfold TargetIs at h
  rw [houtput] at h
  rcases FilePath.resolveFrom_eq_ok.mp h with ⟨habsolute, -⟩ | ⟨-, -, rfl⟩
  · simp [hrelative] at habsolute
  · intro hup
    rw [FilePath.names_resolve] at hup
    rcases FilePath.mem_follow hup with hstart | ⟨-, hne⟩
    · split at hstart
      · exact absurd hstart List.not_mem_nil
      · exact hcwd hstart
    · exact hne rfl

end LintScaffold.NewRequest
