import LintScaffold.Command.Line
import LintScaffold.Proofs.Outcome

/-!
# Commands take no notice of their reports

Whatever a command has reported, it goes on in the same way.  Each part of the commands is
oblivious because the operations that it is made of are; the proofs follow the parts step by
step.
-/

namespace LintScaffold

/-! ## Steps -/

namespace Step

theorem oblivious_refuse {α : Type} (message : Text) : Task.Oblivious (refuse message : Step α) :=
  .bind (.report _ _ _) fun _ => .stop _

theorem oblivious_demand {ε α : Type} (wording : ε → Text) (outcome : Except ε α) :
    Task.Oblivious (demand wording outcome) := by
  cases outcome with
  | ok a => exact .pure a
  | error fault => exact oblivious_refuse _

theorem oblivious_settle {ε α : Type} (wording : ε → Option Text) (leave : ε → OpenFault)
    {task : Task ε α} (htask : Task.Oblivious task) :
    Task.Oblivious (settle wording leave task) := by
  refine .bind (.attempt htask) fun result => ?_
  cases result with
  | ok a => exact .pure a
  | error fault =>
      dsimp only
      split
      · exact oblivious_refuse _
      · exact .stop _

theorem oblivious_existingFile (cwd : Place) (form : OptionForm) (value : Text) :
    Task.Oblivious (existingFile cwd form value) := by
  unfold existingFile
  dsimp only
  refine .ite (.stop _) (.bind (.ask _) fun found => ?_)
  split
  · exact .pure _
  · exact .stop _
  · exact .stop _

end Step

/-! ## Files that are read -/

theorem Config.oblivious_load (path : FilePath) : Task.Oblivious (Config.load path) := by
  unfold Config.load
  refine .bind (.tryAsk _ _) fun found => .ite (.stop _) ?_
  exact .bind (.tryAsk _ _) fun content => .check _ _

theorem oblivious_requireFile (description : Text) (path : FilePath) :
    Task.Oblivious (requireFile description path) := by
  unfold requireFile
  exact .bind (.tryAsk _ _) fun found => .ite (.stop _) (.pure ())

theorem CaseFile.oblivious_loadFrom (path : FilePath) (encoding : Datum) :
    Task.Oblivious (CaseFile.loadFrom path encoding) := by
  unfold CaseFile.loadFrom
  refine .bind (.rephrase _ (oblivious_requireFile _ _)) fun _ => ?_
  split
  · refine .bind (.tryAsk _ _) fun content => .bind (.check _ _) fun groups => ?_
    exact .bind (.report _ _ _) fun _ => .pure _
  · exact .stop _

namespace Renderer

theorem oblivious_readFile (path : FilePath) (encoding : Datum) :
    Task.Oblivious (readFile path encoding) := by
  unfold readFile
  refine .bind (.tryAsk _ _) fun found => .ite (.stop _) (.bind (.report _ _ _) fun _ => ?_)
  split
  · exact .bind (.tryAsk _ _) fun content => .check _ _
  · exact .stop _

theorem oblivious_templateText (settings : TemplateSettings) (cwd : Place)
    (base : Option FilePath) : Task.Oblivious (templateText settings cwd base) := by
  unfold templateText
  refine .ite ?_ (.ite (.bind (.check _ _) fun path => oblivious_readFile _ _) (.pure _))
  split
  · exact .pure _
  · exact .stop _

theorem oblivious_build (settings : TemplateSettings) (rule : RuleSettings) (cwd : Place)
    (base : Option FilePath) : Task.Oblivious (build settings rule cwd base) :=
  .bind (oblivious_templateText _ _ _) fun _ => .bind (.check _ _) fun _ =>
    .bind (.report _ _ _) fun _ => .pure _

theorem oblivious_produce (renderer : Renderer) (name : RuleName) (hasFilename : Bool)
    (pass fail : List CaseItem) : Task.Oblivious (renderer.produce name hasFilename pass fail) :=
  .bind (.check _ _) fun _ => .bind (.report _ _ _) fun _ => .pure _

end Renderer

/-! ## The command that makes a rule -/

theorem NewOption.oblivious_check (cwd : Place) (option : NewOption) (value : Text) :
    Task.Oblivious (NewOption.check cwd option value) := by
  have hfile : ∀ form, Task.Oblivious (discard (Step.existingFile cwd form value) : Step Unit) :=
    fun form => .bind (Step.oblivious_existingFile cwd form value) fun _ => .pure ()
  unfold NewOption.check
  cases option with
  | config => exact hfile _
  | cases => exact hfile _
  | output => exact .ite (.stop _) (.pure ())
  | kind =>
      dsimp only
      split
      · exact .pure ()
      · exact .stop _
  | pass | fail | hasFilename | write | force => exact .pure ()

namespace NewRequest

theorem oblivious_read (cwd : Place) (arguments : List Text) :
    Task.Oblivious (read cwd arguments) := by
  unfold read
  refine .bind (.check _ _) fun arguments => ?_
  refine .bind (.forM fun option => NewOption.oblivious_check _ _ _) fun _ => ?_
  refine .bind ?_ fun request => .ite (.bind (.stop _) fun _ => .pure _) (.pure _)
  split
  · exact .stop _
  · exact .pure _
  · exact .stop _

theorem oblivious_loadConfig (request : NewRequest) : Task.Oblivious request.loadConfig := by
  unfold loadConfig
  split
  · exact .pure _
  · exact .bind (Step.oblivious_settle _ _ (Config.oblivious_load _)) fun _ =>
      .bind (.report _ _ _) fun _ => .pure _

theorem oblivious_loadCases (request : NewRequest) (config : Config) :
    Task.Oblivious (request.loadCases config) := by
  unfold loadCases
  split
  · exact .pure _
  · exact Step.oblivious_settle _ _ (CaseFile.oblivious_loadFrom _ _)

theorem oblivious_source (request : NewRequest) (cwd : Place) (config : Config)
    (name : RuleName) : Task.Oblivious (request.source cwd config name) :=
  .bind (request.oblivious_loadCases config) fun _ =>
    .bind (Step.oblivious_settle _ _ (Renderer.oblivious_build _ _ _ _)) fun _ =>
      Step.oblivious_settle _ _ (Renderer.oblivious_produce _ _ _ _ _)

theorem oblivious_target? (request : NewRequest) (cwd : Place) (config : Config) (kind : RuleKind)
    (name : RuleName) : Task.Oblivious (request.target? cwd config kind name) := by
  unfold target?
  dsimp only
  split
  · exact .bind (.check _ _) fun _ => .pure _
  · exact .ite (.bind (.check _ _) fun _ => .pure _) (.pure _)

theorem oblivious_checkFree (request : NewRequest) (config : Config) (target : FilePath) :
    Task.Oblivious (request.checkFree config target) :=
  .bind (.tryAsk _ _) fun _ =>
    .ite (.ite (Step.oblivious_refuse _) (.pure ())) (.pure ())

theorem oblivious_deed (request : NewRequest) (cwd : Place) :
    Task.Oblivious (request.deed cwd) := by
  refine .bind request.oblivious_loadConfig fun config => ?_
  refine .bind (Step.oblivious_demand _ _) fun name => ?_
  refine .bind (request.oblivious_source _ _ _) fun text => ?_
  refine .bind (request.oblivious_target? _ _ _ _) fun target? => ?_
  split
  · exact .pure _
  · exact .bind (request.oblivious_checkFree _ _) fun _ => .pure _

end NewRequest
end LintScaffold
