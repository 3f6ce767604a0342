import LintScaffold.Proofs.Command.Listing
import LintScaffold.Proofs.Command.Spelling

/-!
# Configurations that are at fault

Both commands load a configuration in the same way, and so the same files are at fault for both.
What they make of it differs.  The command that makes a rule has words for every fault of a file
that is there: its bytes, its text and its settings.  It reports them and stops.  The command that
lists kinds has no words for any fault: it reports nothing at all, whatever happens, so that the
fault goes through it as it is.

Hence `config_fault_is_reported_iff`: of the calls that name a file with a faulty configuration
those that make a rule report it, and no others.
-/

namespace LintScaffold

variable {tree : FileTree} {cwd : Place}

/-! ## Tasks that report nothing -/

namespace Task

variable {ε δ α β : Type}

/-- The task adds nothing to what has been reported before. -/
def IsSilent (task : Task ε α) : Prop :=
  ∀ (tree : FileTree) (cwd : Place) (records : List Record),
    (task.answerFrom tree cwd records).2 = records

namespace IsSilent

protected theorem pure (a : α) : IsSilent (pure a : Task ε α) := fun _ _ _ => rfl

protected theorem stop (fault : ε) : IsSilent (stop fault : Task ε α) := fun _ _ _ => rfl

protected theorem bind {task : Task ε α} {next : α → Task ε β} (htask : IsSilent task)
    (hnext : ∀ a, IsSilent (next a)) : IsSilent (task >>= next) := by
  intro tree cwd records
  have hrecords := htask tree cwd records
  rw [answerFrom_bind]
  cases hanswer : task.answerFrom tree cwd records with
  | mk result reported =>
      obtain rfl : reported = records := by rwa [hanswer] at hrecords
      cases result with
      | error fault => rfl
      | ok a => exact hnext a tree cwd reported

protected theorem ite {p : Prop} [Decidable p] {yes no : Task ε α} (hyes : IsSilent yes)
    (hno : IsSilent no) : IsSilent (if p then yes else no) := by
  split
  · exact hyes
  · exact hno

protected theorem ask (inquiry : Inquiry α) : IsSilent (ask inquiry : Task ε α) := by
  intro tree cwd records
  show Prod.snd (((inquiry >>= fun a => pure (a, records)) >>= fun found =>
    pure (Except.ok found.1, found.2)).answer tree cwd) = _
  simp

protected theorem check (f : δ → ε) (result : Except δ α) : IsSilent (check f result) := by
  cases result with
  | ok a => exact .pure a
  | error fault => exact .stop (f fault)

protected theorem tryAsk (f : δ → ε) (inquiry : Inquiry (Except δ α)) :
    IsSilent (tryAsk f inquiry) :=
  .bind (.ask inquiry) fun result => .check f result

protected theorem attempt {task : Task δ α} (htask : IsSilent task) :
    IsSilent (attempt task : Task ε (Except δ α)) := by
  intro tree cwd records
  show Prod.snd (((task.run >>= fun result => pure (Except.ok result)).run records).answer
    tree cwd) = _
  rw [StateT.run_bind, Inquiry.answer_bind]
  exact htask tree cwd records

end IsSilent
end Task

theorem Step.isSilent_existingFile (cwd : Place) (form : OptionForm) (value : Text) :
    Task.IsSilent (existingFile cwd form value) := by
  unfold existingFile
  dsimp only
  refine .ite (.stop _) (.bind (.ask _) fun found => ?_)
  split
  · exact .pure _
  · exact .stop _
  · exact .stop _

theorem Config.isSilent_load (path : FilePath) : Task.IsSilent (Config.load path) := by
  unfold Config.load
  refine .bind (.tryAsk _ _) fun found => .ite (.bind (.stop _) fun _ => ?_) ?_
  all_goals exact .bind (.tryAsk _ _) fun content => .check _ _

namespace KindsRequest

theorem isSilent_read (cwd : Place) (arguments : List Text) :
    Task.IsSilent (read cwd arguments) := by
  unfold read
  refine .bind (.check _ _) fun parsed => .bind ?_ fun config =>
    .ite (.bind (.stop _) fun _ => .pure _) (.pure _)
  split
  · exact .pure _
  · exact .bind (Step.isSilent_existingFile _ _ _) fun path => .pure _

theorem isSilent_deed (request : KindsRequest) : Task.IsSilent request.deed := by
  unfold deed
  refine .bind ?_ fun config => .ite (.bind (.stop _) fun _ => .pure _) (.pure _)
  split
  · exact .pure _
  · refine .bind (.attempt (Config.isSilent_load _)) fun result => ?_
    cases result with
    | ok config => exact .pure _
    | error fault => exact .stop _

end KindsRequest

/-- The command that lists kinds reports nothing, whatever happens. -/
theorem Call.records_of_kinds {call : Call} (hkinds : call.command = .kinds) :
    (call.run tree cwd).records = [] := by
  have hsilent : ((call.deed cwd).answer tree cwd).2 = [] := by
    unfold Call.deed
    rw [hkinds]
    exact Task.IsSilent.bind (KindsRequest.isSilent_read _ _)
      (fun request => request.isSilent_deed) tree cwd []
  unfold run
  cases hanswer : (call.deed cwd).answer tree cwd with
  | mk result records =>
      obtain rfl : records = [] := by rwa [hanswer] at hsilent
      cases result with
      | error halt => rfl
      | ok deed =>
          have houtcome : (call.deed cwd).outcome tree cwd = .ok deed := congrArg Prod.fst hanswer
          unfold Call.deed at houtcome
          rw [hkinds] at houtcome
          obtain ⟨request, -, hdeed⟩ := (Task.yields_of_outcome houtcome).bind
          obtain ⟨text, rfl⟩ := KindsRequest.deed_yields hdeed
          rfl

/-! ## Words for faults -/

/-- Whatever is the matter with the content of a file, there are words for it. -/
theorem configReport?_of_ofBytes {folder : FilePath} {content : Bytes} {fault : ConfigFault}
    (h : Config.ofBytes folder content = .error fault) :
    NewRequest.configReport? fault = some ("Invalid configuration: ".toList ++ fault.message) := by
  unfold Config.ofBytes at h
  rcases bind_eq_error.mp h with hbytes | ⟨text, -, h⟩
  · obtain ⟨cause, -, rfl⟩ := mapError_eq_error.mp hbytes
    rfl
  · rcases bind_eq_error.mp h with htext | ⟨table, -, hsettings⟩
    · obtain ⟨cause, -, rfl⟩ := mapError_eq_error.mp htext
      rfl
    · obtain ⟨cause, -, rfl⟩ := mapError_eq_error.mp hsettings
      rfl

/-! ## Calls -/

/-- The call is in order, and names a configuration file. -/
def Call.NamesConfig (call : Call) (tree : FileTree) (cwd : Place) (path : FilePath) : Prop :=
  match call.command with
  | .new => ∃ request, (NewRequest.read cwd call.arguments).outcome tree cwd = .ok request ∧
      request.config = some path
  | .kinds => (KindsRequest.read cwd call.arguments).outcome tree cwd = .ok ⟨some path⟩

/-- An argument that is neither an option nor the end of the options. -/
def Arguments.IsOperand (argument : Text) : Prop :=
  argument ≠ ['-', '-'] ∧ isOption argument = false

theorem NewRequest.outcome_read_config {operand value : Text} {content : Bytes}
    (hoperand : Arguments.IsOperand operand) (hnul : (FilePath.parse value).hasNul = false)
    (hfind : tree.find cwd ((FilePath.parse value).resolve cwd) = .ok (.file content)) :
    (read cwd [operand, "--config".toList, value]).outcome tree cwd =
      .ok (ofArguments cwd ⟨[(.config, value)], [operand]⟩ operand) := by
  have hread : Arguments.read NewOption.vocabulary true [operand, "--config".toList, value] =
      .ok ⟨[(.config, value)], [operand]⟩ :=
    (Arguments.precedes_operand hoperand.1 hoperand.2).append
      (@Arguments.precedes_value _ _ _ (by decide) (by decide) [] _ rfl value) []
  refine outcome_read_eq_ok.mpr ⟨_, hread, fun option hoption => ?_,
    outcome_ofChecked_eq_ok.mpr ⟨operand, rfl, rfl, rfl⟩⟩
  obtain rfl : option = .config := by simpa [Arguments.order, Arguments.firstUses] using hoption
  exact Task.outcome_bind_of_ok
    (Step.outcome_existingFile_eq_ok.mpr ⟨hnul, rfl, content, hfind⟩) (.pure ())

namespace Call.NamesConfig

variable {call : Call} {path : FilePath} {content : Bytes} {fault : ConfigFault}

theorem of_kinds {value : Text} (threshold : Int) (hnul : (FilePath.parse value).hasNul = false)
    (hfind : tree.find cwd ((FilePath.parse value).resolve cwd) = .ok (.file content)) :
    (kindsCall threshold value).NamesConfig tree cwd ((FilePath.parse value).resolve cwd) :=
  KindsRequest.outcome_read_config hnul hfind

theorem of_new {operand value : Text} (threshold : Int) (hoperand : Arguments.IsOperand operand)
    (hnul : (FilePath.parse value).hasNul = false)
    (hfind : tree.find cwd ((FilePath.parse value).resolve cwd) = .ok (.file content)) :
    (Call.mk threshold .new [operand, "--config".toList, value]).NamesConfig tree cwd
      ((FilePath.parse value).resolve cwd) :=
  ⟨_, NewRequest.outcome_read_config hoperand hnul hfind, rfl⟩

/-- The command that makes a rule reports the fault. -/
theorem refuses (h : call.NamesConfig tree cwd path) (hnew : call.command = .new)
    (hfind : tree.find cwd path = .ok (.file content))
    (hfault : (Config.load path).outcome tree cwd = .error fault) :
    Step.Refuses tree cwd ("Invalid configuration: ".toList ++ fault.message) (call.deed cwd) := by
  unfold NamesConfig at h
  rw [hnew] at h
  obtain ⟨request, hread, hpath⟩ := h
  have hmessage : NewRequest.configReport? fault =
      some ("Invalid configuration: ".toList ++ fault.message) := by
    rw [Config.outcome_load hfind] at hfault
    exact configReport?_of_ofBytes hfault
  have hconfig : Step.Refuses tree cwd ("Invalid configuration: ".toList ++ fault.message)
      request.loadConfig := by
    unfold NewRequest.loadConfig
    rw [hpath]
    exact (Step.refuses_settle (Config.oblivious_load path) hfault hmessage).bind _
  unfold Call.deed
  rw [hnew]
  exact Step.Refuses.after (hconfig.bind _) hread (request.oblivious_deed cwd)

/-- The fault goes through the command that lists kinds. -/
theorem outcome_of_kinds (h : call.NamesConfig tree cwd path) (hkinds : call.command = .kinds)
    (hfault : (Config.load path).outcome tree cwd = .error fault) :
    (call.deed cwd).outcome tree cwd = .error (.fault (.config fault)) := by
  unfold NamesConfig at h
  rw [hkinds] at h
  unfold Call.deed
  rw [hkinds]
  refine (Task.outcome_bind_of_ok h (KindsRequest.oblivious_deed _)).trans ?_
  rw [KindsRequest.outcome_deed, hfault]
  rfl

end Call.NamesConfig

/-- Where a configuration file is there but cannot be loaded, every call that names it ends with
the code 1, prints nothing and leaves the files as they are.  It reports the fault exactly if it is
one that makes a rule; one that lists kinds reports nothing, and the fault goes through it.  So it
is with the plain lines, for every file and every name. -/
theorem config_fault_is_reported_iff {path : FilePath} {content : Bytes} {fault : ConfigFault}
    (hfind : tree.find cwd path = .ok (.file content))
    (hfault : (Config.load path).outcome tree cwd = .error fault) :
    (∀ call : Call, call.NamesConfig tree cwd path →
      (call.run tree cwd).ending.exitCode = 1 ∧ (call.run tree cwd).ending.output = [] ∧
      (call.run tree cwd).files = tree ∧
      ((call.run tree cwd).Reports call.threshold
        ("Invalid configuration: ".toList ++ fault.message) ↔ call.command = .new) ∧
      (call.command = .kinds → (call.run tree cwd).records = [] ∧
        (call.run tree cwd).ending = .stopped (.fault (.config fault)))) ∧
    ∀ (threshold : Int) (value : Text), (FilePath.parse value).hasNul = false →
      (FilePath.parse value).resolve cwd = path →
      (kindsCall threshold value).NamesConfig tree cwd path ∧
      ∀ operand, Arguments.IsOperand operand →
        (Call.mk threshold .new [operand, "--config".toList, value]).NamesConfig tree cwd path := by
  refine ⟨fun call h => ?_, fun threshold value hnul hpath => ?_⟩
  · cases hcommand : call.command with
    | new =>
        -- the report is the last record, and the run ends on it
        have hrefuses := h.refuses hcommand hfind hfault
        have hreports := Call.run_reports hrefuses
        obtain ⟨earlier, hanswer⟩ := hrefuses
        rw [hreports.1]
        exact ⟨rfl, rfl, Call.files_of_halt (congrArg Prod.fst hanswer), iff_of_true hreports rfl,
          by simp⟩
    | kinds =>
        -- no step before or behind the fault reports anything
        have houtcome := h.outcome_of_kinds hcommand hfault
        have hending := Call.ending_of_halt houtcome
        rw [hending]
        refine ⟨rfl, rfl, Call.files_of_halt houtcome, iff_of_false (fun hreports => ?_) (by simp),
          fun _ => ⟨Call.records_of_kinds hcommand, rfl⟩⟩
        rw [hreports.1] at hending
        simp at hending
  · subst hpath
    exact ⟨.of_kinds threshold hnul hfind, fun operand hoperand =>
      .of_new threshold hoperand hnul hfind⟩

/-! ## A kind with a slip in its name -/

/-- A file `c` that configures a kind that there is not. -/
def slipTree : FileTree :=
  FileTree.empty.put [['c']] (.file (Utf8.encode "[rule]\nkind = \"reakt\"\n".toList))

/-- What is said of it. -/
def slipFault : ConfigFault :=
  .settings (.unknownKind ⟨"reakt".toList, some "react".toList⟩)

/-- What is found by evaluation: what stands in the file, what comes of loading it, and how the
listing ends. -/
theorem slip_evaluated :
    slipTree.find [] ⟨.root, [['c']]⟩ =
      .ok (.file (Utf8.encode "[rule]\nkind = \"reakt\"\n".toList)) ∧
    ((Config.load ⟨.root, [['c']]⟩).outcome slipTree []).map (fun _ => ()) =
      .error slipFault ∧
    slipFault.message = "Unknown rule kind: 'reakt' (did you mean 'react'?)".toList ∧
    ((kindsCall 20 "/c".toList).run slipTree []).ending =
      .stopped (.fault (.config slipFault)) ∧
    ((kindsCall 20 "/c".toList).run slipTree []).records = [] := by
  decide +kernel

theorem outcome_load_slip :
    (Config.load ⟨.root, [['c']]⟩).outcome slipTree [] = .error slipFault := by
  have hevaluated := slip_evaluated.2.1
  cases hload : (Config.load ⟨.root, [['c']]⟩).outcome slipTree [] with
  | ok config => simp [hload, Except.map] at hevaluated
  | error fault =>
      rw [hload] at hevaluated
      exact congrArg Except.error (Except.error.inj hevaluated)

/-- The file is there and cannot be loaded, but the listing says nothing of it. -/
theorem slip_is_left_open :
    (∃ content, slipTree.find [] ⟨.root, [['c']]⟩ = .ok (.file content)) ∧
    (Config.load ⟨.root, [['c']]⟩).outcome slipTree [] = .error slipFault ∧
    ((kindsCall 20 "/c".toList).run slipTree []).ending =
      .stopped (.fault (.config slipFault)) ∧
    ((kindsCall 20 "/c".toList).run slipTree []).records = [] := by
  obtain ⟨hfind, -, -, hending, hrecords⟩ := slip_evaluated
  exact ⟨⟨_, hfind⟩, outcome_load_slip, hending, hrecords⟩

/-- A run that is to make a rule reports the slip, with the name that may have been meant. -/
theorem slip_is_reported :
    slipTree.find [] ⟨.root, [['c']]⟩ =
      .ok (.file (Utf8.encode "[rule]\nkind = \"reakt\"\n".toList)) ∧
    (Config.load ⟨.root, [['c']]⟩).outcome slipTree [] = .error slipFault ∧
    ((Call.mk 20 .new ["no-foo".toList, "--config".toList, "/c".toList]).run slipTree []).Reports 20
      ("Invalid configuration: Unknown rule kind: 'reakt' (did you mean 'react'?)").toList ∧
    ¬ ((kindsCall 20 "/c".toList).run slipTree []).Reports 20
      ("Invalid configuration: Unknown rule kind: 'reakt' (did you mean 'react'?)").toList := by
  obtain ⟨hfind, -, hmessage, -⟩ := slip_evaluated
  obtain ⟨hcalls, hlines⟩ := config_fault_is_reported_iff hfind outcome_load_slip
  obtain ⟨hkinds, hnew⟩ := hlines 20 "/c".toList (by decide) (by decide)
  obtain ⟨-, -, -, hnewReports, -⟩ := hcalls _ (hnew "no-foo".toList ⟨by decide, by decide⟩)
  obtain ⟨-, -, -, hkindsReports, -⟩ := hcalls _ hkinds
  rw [hmessage] at hnewReports hkindsReports
  exact ⟨hfind, outcome_load_slip, hnewReports.mpr rfl, fun h => absurd (hkindsReports.mp h)
    (by decide)⟩

end LintScaffold
