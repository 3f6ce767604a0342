import LintScaffold.Proofs.Command.ConfigFault
import LintScaffold.Proofs.Command.TemplateFault
import LintScaffold.Proofs.Config.Document
import LintScaffold.Proofs.Text.Fold

/-!
# Settings of the wrong kind

A configuration file may hold data of any kind as settings.  The kind and the category of rules
are made texts in order when they are loaded; the other settings are not looked at.  So the
configuration has the right kinds of data exactly if the file has (`Config.hasKinds_iff`).  A
setting of the wrong kind is found out only where it is put to use, or never: whether existing
files are overwritten is decided by any datum that counts as a yes.

What a run can fail with is followed along the text of the command (`Task.FailsOnly`).  With the
right kinds of data, no setting is found to be no path, no text or no name of an encoding.
-/

namespace LintScaffold

/-! ## Kinds of data -/

/-- The settings that are texts, if they are given. -/
def textSettings : List (Section × String) :=
  [(.template, "path"), (.template, "text"), (.template, "encoding"), (.output, "rules_dir")]

/-- The settings of a file are of the right kinds. -/
structure Table.DeclaresKinds (table : Table) : Prop where
  texts : ∀ setting ∈ textSettings, ∀ d, table.setting? setting.1 setting.2 = some d →
    ∃ text, d = .text text
  overwrite : ∀ d, table.setting? .output "overwrite" = some d → ∃ b, d = .bool b

/-- The settings of a configuration are of the right kinds: texts, where two may be missing, and a
truth value. -/
structure Config.HasKinds (config : Config) : Prop where
  path : config.template.path = .null ∨ ∃ path, config.template.path = .text path
  text : config.template.text = .null ∨ ∃ text, config.template.text = .text text
  encoding : ∃ name, config.template.encoding = .text name
  rulesDir : ∃ dir, config.output.rulesDir = .text dir
  overwrite : ∃ b, config.output.overwrite = .bool b

theorem Table.setting?_ne_null {table : Table} (htable : (Datum.ofTable table).IsToml)
    (group : Section) (name : String) : table.setting? group name ≠ some .null := by
  intro h
  unfold Table.setting? Table.groupOf at h
  split at h
  · rename_i entries hget
    obtain ⟨settings, hsettings, -, hitems⟩ := (htable.get? hget).of_table
    obtain rfl := Datum.table.inj hsettings
    rw [Table.ofEntries_map] at h
    have hnull : Datum.IsToml .null := hitems _ (mem_of_lookup h)
    cases hnull with
    | scalar hscalar => exact absurd hscalar Bool.false_ne_true
  · simp [Table.get?] at h

/-- A setting that is missing or a text. -/
theorem optional_text_iff {found : Option Datum} (hnull : found ≠ some .null) :
    (found.getD .null = .null ∨ ∃ text, found.getD .null = .text text) ↔
      ∀ d, found = some d → ∃ text, d = .text text := by
  cases found with
  | none => simp
  | some d => simp_all

/-- A configuration has the right kinds of data exactly if its file has. -/
theorem Config.hasKinds_iff {config : Config} {folder : FilePath} {table : Table}
    (htable : (Datum.ofTable table).IsToml) (hkeeps : config.Keeps folder table) :
    config.HasKinds ↔ table.DeclaresKinds := by
  have hrequired : ∀ {found : Option Datum} {standard : Text},
      (∃ text, found.getD (.text standard) = .text text) ↔
        ∀ d, found = some d → ∃ text, d = .text text := by
    intro found standard
    cases found with
    | none => simp
    | some d => simp
  have hflag : ∀ {found : Option Datum}, (∃ b, found.getD (.bool false) = .bool b) ↔
      ∀ d, found = some d → ∃ b, d = .bool b := by
    intro found
    cases found with
    | none => simp
    | some d => simp
  have hnull := table.setting?_ne_null htable .template
  constructor
  · rintro ⟨hpath, htext, hencoding, hrulesDir, hoverwrite⟩
    rw [hkeeps.path, optional_text_iff (hnull "path")] at hpath
    rw [hkeeps.text, optional_text_iff (hnull "text")] at htext
    rw [hkeeps.encoding, hrequired] at hencoding
    rw [hkeeps.rulesDir, hrequired] at hrulesDir
    rw [hkeeps.overwrite, hflag] at hoverwrite
    refine ⟨?_, hoverwrite⟩
    simp only [textSettings, List.forall_mem_cons]
    exact ⟨hpath, htext, hencoding, hrulesDir, by simp⟩
  · rintro ⟨htexts, hoverwrite⟩
    simp only [textSettings, List.forall_mem_cons] at htexts
    obtain ⟨hpath, htext, hencoding, hrulesDir, -⟩ := htexts
    refine ⟨?_, ?_, ?_, ?_, ?_⟩
    · rw [hkeeps.path, optional_text_iff (hnull "path")]
      exact hpath
    · rw [hkeeps.text, optional_text_iff (hnull "text")]
      exact htext
    · rw [hkeeps.encoding, hrequired]
      exact hencoding
    · rw [hkeeps.rulesDir, hrequired]
      exact hrulesDir
    · rw [hkeeps.overwrite, hflag]
      exact hoverwrite

/-! ## Tasks that fail in certain ways only -/

namespace Task

variable {ε δ α β : Type} {F : ε → Prop}

/-- Whatever the task fails with is one of the faults `F`. -/
def FailsOnly (F : ε → Prop) (task : Task ε α) : Prop :=
  ∀ (tree : FileTree) (cwd : Place) (records : List Record) (fault : ε),
    (task.answerFrom tree cwd records).1 = .error fault → F fault

namespace FailsOnly

theorem outcome {task : Task ε α} (h : FailsOnly F task) {tree : FileTree} {cwd : Place}
    {fault : ε} (hfault : task.outcome tree cwd = .error fault) : F fault :=
  h tree cwd [] fault hfault

theorem of_ok {task : Task ε α}
    (h : ∀ tree cwd records, ∃ a, (task.answerFrom tree cwd records).1 = .ok a) :
    FailsOnly F task := by
  intro tree cwd records fault hfault
  obtain ⟨a, ha⟩ := h tree cwd records
  exact absurd (ha.symm.trans hfault) (by simp)

protected theorem pure (a : α) : FailsOnly F (pure a : Task ε α) := of_ok fun _ _ _ => ⟨_, rfl⟩

protected theorem stop {fault : ε} (h : F fault) : FailsOnly F (stop fault : Task ε α) := by
  intro tree cwd records found hfound
  obtain rfl : fault = found := Except.error.inj hfound
  exact h

protected theorem report (severity : Severity) (reporter : Reporter) (message : Text) :
    FailsOnly F (report severity reporter message : Task ε Unit) := of_ok fun _ _ _ => ⟨_, rfl⟩

protected theorem bind {task : Task ε α} {next : α → Task ε β} (htask : FailsOnly F task)
    (hnext : ∀ a, FailsOnly F (next a)) : FailsOnly F (task >>= next) := by
  intro tree cwd records fault h
  rw [answerFrom_bind] at h
  cases hanswer : task.answerFrom tree cwd records with
  | mk result reported =>
      rw [hanswer] at h
      cases result with
      | error found =>
          obtain rfl : found = fault := Except.error.inj h
          exact htask tree cwd records found (congrArg Prod.fst hanswer)
      | ok a => exact hnext a tree cwd reported fault h

protected theorem ite {p : Prop} [Decidable p] {yes no : Task ε α} (hyes : FailsOnly F yes)
    (hno : FailsOnly F no) : FailsOnly F (if p then yes else no) := by
  split
  · exact hyes
  · exact hno

protected theorem ask (inquiry : Inquiry α) : FailsOnly F (ask inquiry : Task ε α) := by
  refine of_ok fun tree cwd records => ⟨inquiry.answer tree cwd, ?_⟩
  show Prod.fst (((inquiry >>= fun a => pure (a, records)) >>= fun found =>
    pure (Except.ok found.1, found.2)).answer tree cwd) = _
  simp

protected theorem check {f : δ → ε} {result : Except δ α}
    (h : ∀ fault, result = .error fault → F (f fault)) : FailsOnly F (check f result) := by
  cases result with
  | ok a => exact .pure a
  | error fault => exact .stop (h fault rfl)

protected theorem tryAsk {f : δ → ε} (h : ∀ fault, F (f fault))
    (inquiry : Inquiry (Except δ α)) : FailsOnly F (tryAsk f inquiry) :=
  .bind (.ask inquiry) fun _ => .check fun fault _ => h fault

protected theorem rephrase {G : δ → Prop} {f : δ → ε} {task : Task δ α} (htask : FailsOnly G task)
    (h : ∀ fault, G fault → F (f fault)) : FailsOnly F (rephrase f task) := by
  intro tree cwd records fault hfault
  change Prod.fst (((task.run >>= fun result => pure (result.mapError f)).run records).answer
    tree cwd) = _ at hfault
  rw [StateT.run_bind, Inquiry.answer_bind] at hfault
  obtain ⟨cause, hcause, rfl⟩ := mapError_eq_error.mp hfault
  exact h cause (htask tree cwd records cause hcause)

/-- A step that settles what a task has come to stops as it does on the faults of the task. -/
protected theorem settle {wording : ε → Option Text} {leave : ε → OpenFault} {task : Task ε α}
    {H : Halt → Prop} (htask : FailsOnly F task)
    (h : ∀ fault, F fault → H (Step.haltOn wording leave fault)) :
    FailsOnly H (Step.settle wording leave task) := by
  intro tree cwd records halt hhalt
  have hattempt : (attempt task : Step (Except ε α)).answerFrom tree cwd records =
      (.ok (task.answerFrom tree cwd records).1, (task.answerFrom tree cwd records).2) := by
    show ((task.run >>= fun result => pure (Except.ok result)).run records).answer tree cwd = _
    rw [StateT.run_bind, Inquiry.answer_bind]
    rfl
  unfold Step.settle at hhalt
  rw [answerFrom_bind, hattempt] at hhalt
  dsimp only at hhalt
  cases hresult : (task.answerFrom tree cwd records).1 with
  | ok a =>
      rw [hresult] at hhalt
      exact absurd hhalt (by simp [answerFrom])
  | error fault =>
      rw [hresult] at hhalt
      dsimp only at hhalt
      have hsettled := h fault (htask tree cwd records fault hresult)
      unfold Step.haltOn at hsettled
      cases hwords : wording fault with
      | none =>
          rw [hwords] at hhalt hsettled
          obtain rfl := Except.error.inj hhalt
          exact hsettled
      | some message =>
          rw [hwords] at hhalt hsettled
          obtain rfl := Except.error.inj hhalt
          exact hsettled

end FailsOnly
end Task

/-! ## Faults of settings -/

/-- A setting turned out to be of the wrong kind. -/
def OpenFault.blamesKind : OpenFault → Bool
  | .cases (.noEncoding _) => true
  | .renderer .noText => true
  | .renderer (.noEncoding _) => true
  | .renderer (.root (.noPath _)) => true
  | .renderer (.root (.noRoot _)) => true
  | .noPath _ => true
  | _ => false

/-- The command does not stop because of a setting of the wrong kind. -/
def Halt.SparesKinds (halt : Halt) : Prop :=
  ∀ fault, halt = .fault fault → fault.blamesKind = false

theorem Halt.sparesKinds_fault {fault : OpenFault} (h : fault.blamesKind = false) :
    SparesKinds (.fault fault) := by
  intro found hfound
  obtain rfl := Halt.fault.inj hfound
  exact h

theorem Step.sparesKinds_haltOn {ε : Type} {wording : ε → Option Text} {leave : ε → OpenFault}
    {fault : ε} (h : (leave fault).blamesKind = false) :
    (haltOn wording leave fault).SparesKinds := by
  unfold haltOn
  split
  · exact fun found hfound => absurd hfound (by simp)
  · exact Halt.sparesKinds_fault h

theorem Step.failsOnly_refuse {α : Type} (message : Text) :
    Task.FailsOnly Halt.SparesKinds (refuse message : Step α) :=
  .bind (.report _ _ _) fun _ => .stop fun found hfound => absurd hfound (by simp)

theorem failsOnly_requireFile (description : Text) (path : FilePath) :
    Task.FailsOnly (fun _ => True) (requireFile description path) :=
  .bind (.tryAsk (fun _ => trivial) _) fun _ => .ite (.stop trivial) (.pure _)

/-- Cases are loaded with a text as the name of the encoding. -/
theorem CaseFile.failsOnly_loadFrom (path : FilePath) (name : Text) :
    Task.FailsOnly (fun fault => (OpenFault.cases fault).blamesKind = false)
      (loadFrom path (.text name)) := by
  unfold loadFrom
  refine .bind (.rephrase (failsOnly_requireFile _ _) fun fault _ => rfl) fun _ => ?_
  refine .bind (.tryAsk (by intro fault; rfl) _) fun bytes => ?_
  refine .bind (.check (by intro fault _; rfl)) fun groups => ?_
  exact .bind (.report _ _ _) fun _ => .pure _

/-- With a text as the path, and a directory to start from, only a NUL can be in the way. -/
theorem TemplateSettings.resolvePath_eq_error {settings : TemplateSettings} {folder : FilePath}
    (hroot : settings.root = .folder folder) {cwd : Place} {base : Option FilePath} {path : Text}
    {fault : RootFault} (h : settings.resolvePath cwd base (.text path) = .error fault) :
    ∃ cause, fault = .nul cause := by
  unfold resolvePath at h
  rw [Datum.path, ok_mapError, ok_bind] at h
  split at h
  · simp [pure, Except.pure] at h
  · cases base with
    | some base =>
        obtain ⟨cause, -, rfl⟩ := mapError_eq_error.mp h
        exact ⟨cause, rfl⟩
    | none =>
        unfold folder? at h
        rw [hroot] at h
        obtain ⟨cause, -, rfl⟩ := mapError_eq_error.mp h
        exact ⟨cause, rfl⟩

namespace Renderer

/-- The fault of a renderer does not lie with the kind of a setting. -/
def SparesKinds (fault : RendererFault) : Prop := (OpenFault.renderer fault).blamesKind = false

theorem failsOnly_readFile (path : FilePath) (name : Text) :
    Task.FailsOnly SparesKinds (readFile path (.text name)) := by
  unfold readFile
  have hname : ∃ found, (if (Datum.text name).isTruthy then Datum.text name
      else .text standardEncoding) = .text found := by
    split
    · exact ⟨_, rfl⟩
    · exact ⟨_, rfl⟩
  obtain ⟨found, hfound⟩ := hname
  rw [hfound]
  refine .bind (.tryAsk (by intro fault; rfl) _) fun there => ?_
  have hread : Task.FailsOnly SparesKinds (do
      Task.report .debug .renderer ("Loading rule template from ".toList ++ path.text)
      let content ← Task.tryAsk .file (Inquiry.read path)
      Task.check .read (Encoding.read found content)) :=
    .bind (.report _ _ _) fun _ => .bind (.tryAsk (by intro fault; rfl) _) fun content =>
      .check (by intro fault _; rfl)
  exact .ite (.bind (.stop rfl) fun _ => hread) hread

/-- The template is a text, or the path of one. -/
theorem failsOnly_templateText {config : Config} (hkinds : config.HasKinds) {folder : FilePath}
    (hroot : config.template.root = .folder folder) (cwd : Place) (base : Option FilePath) :
    Task.FailsOnly SparesKinds (templateText config.template cwd base) := by
  unfold templateText
  split
  · rename_i htruthy
    obtain hnull | ⟨text, htext⟩ := hkinds.text
    · rw [hnull] at htruthy
      exact absurd htruthy Bool.false_ne_true
    · rw [htext]
      exact .pure _
  · split
    · rename_i htruthy
      obtain ⟨name, hname⟩ := hkinds.encoding
      obtain hnull | ⟨path, hpath⟩ := hkinds.path
      · rw [hnull] at htruthy
        exact absurd htruthy Bool.false_ne_true
      · rw [hname, hpath]
        refine .bind (.check fun fault hfault => ?_) fun path => failsOnly_readFile _ _
        obtain ⟨cause, rfl⟩ := TemplateSettings.resolvePath_eq_error hroot hfault
        rfl
    · exact .pure _

theorem failsOnly_build {config : Config} (hkinds : config.HasKinds) {folder : FilePath}
    (hroot : config.template.root = .folder folder) (cwd : Place) (base : Option FilePath) :
    Task.FailsOnly SparesKinds (build config.template config.rule cwd base) := by
  refine .bind (failsOnly_templateText hkinds hroot cwd base) fun text => ?_
  refine .bind (.check fun fault hfault => ?_) fun renderer => .bind (.report _ _ _) fun _ => .pure _
  obtain ⟨cause, -, rfl⟩ := ofText_eq_error hfault
  rfl

end Renderer

namespace NewRequest

variable {config : Config} {folder : FilePath}

theorem failsOnly_loadCases (request : NewRequest) (hkinds : config.HasKinds) :
    Task.FailsOnly Halt.SparesKinds (request.loadCases config) := by
  unfold loadCases
  split
  · exact .pure _
  · obtain ⟨name, hname⟩ := hkinds.encoding
    rw [hname]
    exact .settle (CaseFile.failsOnly_loadFrom _ name) fun fault => Step.sparesKinds_haltOn

theorem failsOnly_source (request : NewRequest) (hkinds : config.HasKinds)
    (hroot : config.template.root = .folder folder) (cwd : Place) (name : RuleName) :
    Task.FailsOnly Halt.SparesKinds (request.source cwd config name) := by
  refine .bind (request.failsOnly_loadCases hkinds) fun groups => ?_
  refine .bind (.settle (Renderer.failsOnly_build hkinds hroot cwd _) fun fault =>
    Step.sparesKinds_haltOn) fun renderer => ?_
  refine .settle (F := fun _ => True) (fun _ _ _ _ _ => trivial) fun fault _ => ?_
  exact Step.sparesKinds_haltOn rfl

theorem failsOnly_target? (request : NewRequest) (hkinds : config.HasKinds) (cwd : Place)
    (kind : RuleKind) (name : RuleName) :
    Task.FailsOnly Halt.SparesKinds (request.target? cwd config kind name) := by
  have hmap : ∀ {ε δ α β : Type} {F : ε → Prop} (g : α → β) {f : δ → ε} {result : Except δ α},
      (∀ fault, result = .error fault → F (f fault)) →
      Task.FailsOnly F (g <$> Task.check f result : Task ε β) := by
    intro ε δ α β F g f result h
    cases result with
    | ok a => exact .of_ok fun _ _ _ => ⟨_, rfl⟩
    | error fault =>
        intro tree cwd records found hfound
        obtain rfl := Except.error.inj hfound
        exact h fault rfl
  obtain ⟨dir, hdir⟩ := hkinds.rulesDir
  unfold target?
  split
  · exact hmap _ fun fault _ => Halt.sparesKinds_fault rfl
  · refine .ite (hmap _ fun fault hfault => ?_) (.pure _)
    rw [OutputSettings.rulePath_of_text hdir] at hfault
    simp at hfault

theorem failsOnly_checkFree (request : NewRequest) (config : Config) (target : FilePath) :
    Task.FailsOnly Halt.SparesKinds (request.checkFree config target) :=
  .bind (.tryAsk (fun _ => Halt.sparesKinds_fault rfl) _) fun _ =>
    .ite (.ite (Step.failsOnly_refuse _) (.pure _)) (.pure _)

theorem failsOnly_conclude (request : NewRequest) (hkinds : config.HasKinds) (cwd : Place)
    (name : RuleName) (text : Text) :
    Task.FailsOnly Halt.SparesKinds (request.conclude cwd config name text) := by
  refine .bind (request.failsOnly_target? hkinds cwd _ name) fun target? => ?_
  split
  · exact .pure _
  · exact .bind (request.failsOnly_checkFree config _) fun _ => .pure _

/-- With a configuration of the right kinds the command does not stop because of them. -/
theorem sparesKinds_of_deed {tree : FileTree} {cwd : Place} {request : NewRequest}
    (hloaded : request.loadConfig.outcome tree cwd = .ok config) (hkinds : config.HasKinds)
    (hroot : config.template.root = .folder folder) {halt : Halt}
    (h : (request.deed cwd).outcome tree cwd = .error halt) : halt.SparesKinds := by
  let rest : Step Deed := do
    let name ← Step.demand InvalidName.message (RuleName.parse request.name)
    let text ← request.source cwd config name
    request.conclude cwd config name text
  have hoblivious : Task.Oblivious rest := .bind (Step.oblivious_demand _ _) fun name =>
    .bind (request.oblivious_source cwd config name) fun text => request.oblivious_conclude _ _ _ _
  have hfails : Task.FailsOnly Halt.SparesKinds rest := by
    refine .bind ?_ fun name => .bind (request.failsOnly_source hkinds hroot cwd name) fun text =>
      request.failsOnly_conclude hkinds cwd name text
    unfold Step.demand
    split
    · exact .pure _
    · exact Step.failsOnly_refuse _
  exact hfails.outcome ((Task.outcome_bind_of_ok hloaded hoblivious).symm.trans h)

/-- Where something stands at the target, the source is saved exactly if overwriting is asked for,
by an option or by a setting that counts as a yes. -/
theorem saves_iff {tree : FileTree} {cwd : Place} {request : NewRequest} {name : RuleName}
    {text : Text} (hfinds : request.Finds tree cwd config name text) {target : FilePath}
    (htarget : request.TargetIs cwd config name target) {node : Node}
    (hnode : tree.find cwd target = .ok node) :
    (∃ report, (request.deed cwd).outcome tree cwd = .ok (.save target text report)) ↔
      request.force = true ∨ config.output.overwrite.isTruthy = true := by
  rw [← Bool.or_eq_true]
  constructor
  · rintro ⟨report, hdeed⟩
    by_contra hforce
    obtain ⟨found, name', text', hfinds', ⟨hprint, -⟩ | ⟨target', report', hsave, -, hfree⟩⟩ :=
      deed_yields (Task.yields_of_outcome hdeed)
    · simp at hprint
    · obtain rfl := Except.ok.inj (hfinds.loaded.symm.trans hfinds'.loaded)
      obtain ⟨rfl, -, -⟩ := Deed.save.inj hsave
      exact checkFree_yields hfree (Bool.eq_false_iff.mpr hforce) node hnode
  · intro hforce
    rw [hfinds.outcome_deed]
    exact conclude_of_free htarget
      (outcome_checkFree (Inquiry.answer_isThere_eq_true.mpr ⟨node, hnode⟩) fun _ => hforce)

end NewRequest

/-- A run with a configuration of the right kinds does not fail because of them. -/
theorem Call.blamesKind_eq_false {call : Call} {tree : FileTree} {cwd : Place} {path : FilePath}
    {config : Config} (hnew : call.command = .new) (hnames : call.NamesConfig tree cwd path)
    (hloaded : (Config.load path).outcome tree cwd = .ok config) (hkinds : config.HasKinds)
    {folder : FilePath} (hroot : config.template.root = .folder folder) {fault : OpenFault}
    (hending : (call.run tree cwd).ending = .stopped (.fault fault)) :
    fault.blamesKind = false := by
  unfold NamesConfig at hnames
  rw [hnew] at hnames
  obtain ⟨request, hread, hpath⟩ := hnames
  obtain ⟨content, hfind, hbytes⟩ := Config.outcome_load_eq_ok.mp hloaded
  have hconfig : request.loadConfig.outcome tree cwd = .ok config :=
    NewRequest.outcome_loadConfig_eq_ok.mpr (.inr ⟨path, content, hpath, hfind, hbytes⟩)
  obtain ⟨halt, hhalt, hstopped, -⟩ | ⟨deed, -, hperformed, -⟩ := call.run_cases tree cwd
  · rw [outcome_deed hnew, hread, ok_bind] at hhalt
    refine NewRequest.sparesKinds_of_deed hconfig hkinds hroot hhalt fault ?_
    exact Ending.stopped.inj (hstopped.symm.trans hending)
  · -- what is decided on can fail with the files only
    rw [hperformed] at hending
    cases deed with
    | print text => simp [Deed.perform] at hending
    | save target text report =>
        unfold Deed.perform at hending
        dsimp only at hending
        split at hending
        · obtain rfl := Halt.fault.inj (Ending.stopped.inj hending)
          rfl
        · simp at hending

/-- A configuration that is loaded has a known kind and a category that is neither empty nor has
blanks around it.  Its other settings are as they stand in the file, or standard, so that they have
the right kinds exactly if those of the file have.  An existing file is overwritten exactly if an
option asks for it, or the setting for it counts as a yes; with the right kinds this is the truth
value true in the file, and then no run that makes a rule fails because of the kind of a setting. -/
theorem settings_have_kinds_iff {tree : FileTree} {cwd : Place} {path : FilePath} {table : Table}
    (hholds : tree.HoldsToml cwd path table) {config : Config}
    (hloaded : (Config.load path).outcome tree cwd = .ok config) :
    (RuleKind.parse config.rule.kind.name = .ok config.rule.kind ∧ config.rule.category ≠ [] ∧
      Text.strip config.rule.category = config.rule.category) ∧
    config.Keeps path.parent table ∧
    (config.HasKinds ↔ table.DeclaresKinds) ∧
    (∀ {request : NewRequest} {name : RuleName} {text : Text} {target : FilePath} {node : Node},
      request.Finds tree cwd config name text → request.TargetIs cwd config name target →
      tree.find cwd target = .ok node →
      ((∃ report, (request.deed cwd).outcome tree cwd = .ok (.save target text report)) ↔
        request.force = true ∨ config.output.overwrite.isTruthy = true)) ∧
    (table.DeclaresKinds →
      (config.output.overwrite.isTruthy = true ↔
        table.setting? .output "overwrite" = some (.bool true)) ∧
      ∀ call : Call, call.command = .new → call.NamesConfig tree cwd path →
        ∀ fault, (call.run tree cwd).ending = .stopped (.fault fault) →
          fault.blamesKind = false) := by
  obtain ⟨-, hkeeps⟩ := hholds.outcome_load_eq_ok.mp hloaded
  have hkinds := Config.hasKinds_iff hholds.isToml hkeeps
  refine ⟨⟨RuleKind.parse_name _, ?_⟩, hkeeps, hkinds, fun hfinds htarget hnode =>
    NewRequest.saves_iff hfinds htarget hnode, fun hdeclares => ⟨?_, fun call hnew hnames fault
      hending => Call.blamesKind_eq_false hnew hnames hloaded (hkinds.mpr hdeclares) hkeeps.root
        hending⟩⟩
  · obtain ⟨-, hnursery⟩ | ⟨d, text, -, -, hstrip, hblank⟩ := hkeeps.category
    · rw [hnursery]
      decide +kernel
    · rw [hstrip]
      exact ⟨hblank, Text.strip_of_isTrim (Text.isTrim_strip text)⟩
  · rw [hkeeps.overwrite]
    cases hgiven : table.setting? .output "overwrite" with
    | none => simp [Datum.isTruthy]
    | some d =>
        obtain ⟨b, rfl⟩ := hdeclares.overwrite d hgiven
        simp [Datum.isTruthy]

/-! ## A setting of the right kind, and two of the wrong kind -/

/-- A configuration with a truth value where one belongs. -/
def declaredText : Text := "output.overwrite = true\n".toList

/-- The table of this configuration. -/
def declaredTable : Table := [("output".toList, .ofTable [("overwrite".toList, .bool true)])]

theorem declaredText_read : Toml.read declaredText = .ok declaredTable := by cbv

/-- The truth value switches off the protection of files, and no run fails because of its kind. -/
theorem declared_setting_has_kind :
    ∃ config, (Config.load ⟨.root, [['c']]⟩).outcome (documentTree declaredText) [] = .ok config ∧
      config.HasKinds ∧ config.output.overwrite.isTruthy = true ∧
      ∀ fault, ((Call.mk 20 .new ["no-foo".toList, "--config".toList, "/c".toList]).run
          (documentTree declaredText) []).ending = .stopped (.fault fault) →
        fault.blamesKind = false := by
  have hholds := holdsToml_documentTree declaredText_read
  have hdeclares : declaredTable.DeclaresKinds := by
    have hnone : ∀ setting ∈ textSettings, declaredTable.setting? setting.1 setting.2 = none := by
      simp only [textSettings, List.forall_mem_cons]
      exact ⟨rfl, rfl, rfl, rfl, by simp⟩
    refine ⟨fun setting hsetting d hd => ?_, fun d hd => ?_⟩
    · exact absurd ((hnone setting hsetting).symm.trans hd) (by simp)
    · exact ⟨true, (Option.some.inj hd).symm⟩
  have hloaded := hholds.outcome_load
  obtain ⟨-, -, hkinds, -, hruns⟩ := settings_have_kinds_iff hholds hloaded
  obtain ⟨htruthy, hspares⟩ := hruns hdeclares
  have hnames : (Call.mk 20 .new ["no-foo".toList, "--config".toList, "/c".toList]).NamesConfig
      (documentTree declaredText) [] ((FilePath.parse "/c".toList).resolve []) :=
    .of_new 20 ⟨by decide, by decide⟩ (by decide) (find_documentTree declaredText)
  exact ⟨_, hloaded, hkinds.mpr hdeclares, htruthy.mpr rfl, hspares _ rfl hnames⟩

/-- A configuration with a word where a truth value belongs, and a number instead of a path. -/
def laxText : Text :=
  "output.overwrite = 'no'\noutput.rules_dir = 5\ntemplate.text = 'new'\n".toList

/-- A file `c` with this configuration, and a file `x`. -/
def laxTree : FileTree :=
  (FileTree.empty.put [['x']] (.file (Utf8.encode "old".toList))).put [['c']]
    (.file (Utf8.encode laxText))

/-- A call that makes a rule with this configuration. -/
def laxCall (options : List Text) : Call :=
  ⟨20, .new, ["no-foo".toList, "--config".toList, "/c".toList] ++ options⟩

/-- What is found by evaluation: the word is loaded, and the file `x` is overwritten. -/
theorem lax_evaluated :
    (((Config.load ⟨.root, [['c']]⟩).outcome laxTree []).toOption.any fun config =>
      config.output.overwrite.isText "no".toList) = true ∧
    laxTree.file? [['x']] = some (Utf8.encode "old".toList) ∧
    ((laxCall ["--output".toList, "/x".toList]).run laxTree []).files.file? [['x']] =
      some (Utf8.encode "new\n".toList) ∧
    ((laxCall ["--write".toList]).run laxTree []).ending = .stopped (.fault (.noPath ⟨"int"⟩)) := by
  decide +kernel

/-- The configuration is loaded although it is not of the right kinds.  It switches off the
protection of files, and makes a run fail because of a kind. -/
theorem lax_settings_are_loaded :
    ∃ config, (Config.load ⟨.root, [['c']]⟩).outcome laxTree [] = .ok config ∧
      ¬ config.HasKinds ∧ config.output.overwrite = .text "no".toList ∧
      laxTree.file? [['x']] = some (Utf8.encode "old".toList) ∧
      ((laxCall ["--output".toList, "/x".toList]).run laxTree []).files.file? [['x']] =
        some (Utf8.encode "new\n".toList) ∧
      ((laxCall ["--write".toList]).run laxTree []).ending =
        .stopped (.fault (.noPath ⟨"int"⟩)) := by
  obtain ⟨hloads, hold, hnew, hending⟩ := lax_evaluated
  cases hconfig : (Config.load ⟨.root, [['c']]⟩).outcome laxTree [] with
  | error fault => simp [hconfig, Except.toOption] at hloads
  | ok config =>
      rw [hconfig] at hloads
      have hword := Datum.eq_text_of_isText hloads
      refine ⟨config, rfl, fun hkinds => ?_, hword, hold, hnew, hending⟩
      obtain ⟨b, hb⟩ := hkinds.overwrite
      exact absurd (hword.symm.trans hb) (by simp)

end LintScaffold
