import LintScaffold.Case.TestCase
import LintScaffold.Config.Settings
import LintScaffold.Skeleton
import LintScaffold.Task
import LintScaffold.Template

/-!
# Rendering rules

A renderer holds a template and the category of new rules.  For the name of a rule and
the cases of its test it writes the source of the rule.  The template is given as a text,
stands in a file, or is the skeleton.
-/

namespace LintScaffold

/-! ## Building a renderer -/

/-- Why a renderer cannot be built. -/
inductive RendererFault
  /-- The template file is not there. -/
  | missing (path : FilePath)
  /-- The template is no text. -/
  | noText
  /-- The path of the template file is none. -/
  | root (fault : RootFault)
  /-- The name of the encoding is no text. -/
  | noEncoding (kind : String)
  /-- The template file cannot be opened. -/
  | file (fault : PathFault)
  /-- The template file cannot be decoded. -/
  | read (fault : ReadFault)
  /-- The template cannot be used. -/
  | template (fault : Template.CompileFault)
  deriving DecidableEq

/-- What makes a template unfit for use lies with the template, and not with an operation on
constants. -/
def Template.CompileFault.isTemplates : Template.CompileFault → Bool
  | .mistake _ => true
  | .operation fault => fault.isTemplates
  | _ => false

/-- The wording of a fault. -/
def RendererFault.message : RendererFault → Text
  | .missing path => "Rule template file not found: ".toList ++ path.text
  | .noText => "Can't compile non template nodes".toList
  | .root fault => fault.message
  | .noEncoding kind => noEncodingMessage kind
  | .file fault => fault.message
  | .read fault => fault.message
  | .template fault =>
      if fault.isTemplates then "Failed to compile rule template: ".toList ++ fault.message
      else fault.message

/-- A template and the category of new rules. -/
structure Renderer where
  template : Template
  category : Text

namespace Renderer

/-- The encoding of the skeleton, and of template files where no other is configured. -/
def standardEncoding : Text := "utf-8".toList

/-- The text of a template file. -/
def readFile (path : FilePath) (encoding : Datum) : Task RendererFault Text := do
  if !(← Task.tryAsk .file (Inquiry.isThere path)) then Task.stop (.missing path)
  Task.report .debug .renderer ("Loading rule template from ".toList ++ path.text)
  match if encoding.isTruthy then encoding else .text standardEncoding with
  | .text name =>
      let content ← Task.tryAsk .file (Inquiry.read path)
      Task.check .read (Encoding.read name content)
  | d => Task.stop (.noEncoding d.kindPath)

/-- The text of the template that is configured; `base` is the directory that its path
starts from. -/
def templateText (settings : TemplateSettings) (cwd : Place) (base : Option FilePath) :
    Task RendererFault Text := do
  if settings.text.isTruthy then
    match settings.text with
    | .text t => return t
    | _ => Task.stop .noText
  else if settings.path.isTruthy then
    let path ← Task.check .root (settings.resolvePath cwd base settings.path)
    readFile path settings.encoding
  else return Skeleton.text

/-- The renderer for a template text. -/
def ofText (text : Text) (category : Text) : Except RendererFault Renderer :=
  match Template.compile text with
  | .ok template => .ok ⟨template, category⟩
  | .error fault => .error (.template fault)

/-- Builds the renderer that is configured. -/
def build (settings : TemplateSettings) (rule : RuleSettings) (cwd : Place)
    (base : Option FilePath) : Task RendererFault Renderer := do
  let text ← templateText settings cwd base
  let renderer ← Task.check id (ofText text rule.category)
  Task.report .debug .renderer
    (Text.join [] ["Created rule renderer using template (".toList, Text.ofNat text.length,
      " chars, category=".toList, rule.category, ")".toList])
  return renderer

/-- The renderer for the skeleton. -/
def standard : Except RendererFault Renderer :=
  ofText Skeleton.text RuleSettings.placeholderCategory

end Renderer

/-! ## Rendering -/

/-- Why a rule cannot be rendered. -/
inductive RenderFault
  /-- A case cannot be written. -/
  | snippet (fault : SnippetFault)
  /-- The template asks for something that is not there. -/
  | template (name : Text) (fault : Template.EvalFault)
  /-- An operation in the template has no result. -/
  | operation (fault : Template.EvalFault)
  deriving DecidableEq

/-- The wording of a fault. -/
def RenderFault.message : RenderFault → Text
  | .snippet fault => fault.message
  | .template name fault =>
      Text.join [] ["Failed to render rule template for ".toList, Text.quoted name, ": ".toList,
        fault.message]
  | .operation fault => fault.message

/-- What a caller may hand over as the name of a rule: a name that was accepted before, or
something that is still to be read. -/
inductive GivenName
  | accepted (name : RuleName)
  | unread (d : Datum)

/-- The name itself. -/
def GivenName.read : GivenName → Except InvalidName RuleName
  | .accepted name => .ok name
  | .unread d => RuleName.ofDatum d

/-- Why a rule of a given name has no source. -/
inductive GivenFault
  | name (invalid : InvalidName)
  | render (fault : RenderFault)
  deriving DecidableEq

namespace Renderer

open Template (Value)

/-- The values that a template can use. -/
def bindings (renderer : Renderer) (name : RuleName) (hasFilename : Bool)
    (pass fail : List Text) : List (Text × Value) :=
  [("pascal_rule_name".toList, .text name.pascal), ("snake_rule_name".toList, .text name.snake),
    ("kebab_rule_name".toList, .text name.kebab), ("has_filename".toList, .bool hasFilename),
    ("pass_cases".toList, .list (pass.map .text)), ("fail_cases".toList, .list (fail.map .text)),
    ("category".toList, .text renderer.category),
    ("category_is_placeholder".toList,
      .bool (renderer.category = RuleSettings.placeholderCategory))]

/-- The text with exactly one line feed at its end. -/
def ended (text : Text) : Text := Text.dropEndWhile (· = '\n') text ++ ['\n']

/-- The source of a rule. -/
def render (renderer : Renderer) (name : RuleName) (hasFilename : Bool)
    (pass fail : List CaseItem) : Except RenderFault Text := do
  let pass ← (snippets pass).mapError .snippet
  let fail ← (snippets fail).mapError .snippet
  match renderer.template.render (renderer.bindings name hasFilename pass fail) with
  | .ok text => return ended text
  | .error fault =>
      if fault.isTemplates then .error (.template name.kebab fault)
      else .error (.operation fault)

/-- The source of a rule whose name is as the caller hands it over. -/
def renderGiven (renderer : Renderer) (given : GivenName) (hasFilename : Bool)
    (pass fail : List CaseItem) : Except GivenFault Text := do
  let name ← given.read.mapError .name
  (renderer.render name hasFilename pass fail).mapError .render

/-- The source of a rule, with a report on it. -/
def produce (renderer : Renderer) (name : RuleName) (hasFilename : Bool)
    (pass fail : List CaseItem) : Task RenderFault Text := do
  let text ← Task.check id (renderer.render name hasFilename pass fail)
  Task.report .debug .renderer
    (Text.join [] ["Rendered rule ".toList, name.pascal, " (".toList, Text.ofNat pass.length,
      " pass, ".toList, Text.ofNat fail.length, " fail cases, has_filename=".toList,
      boolText hasFilename, [')']])
  return text

end Renderer
end LintScaffold
