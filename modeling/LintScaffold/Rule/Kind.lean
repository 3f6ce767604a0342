import LintScaffold.Datum
import LintScaffold.Rule.Similarity

/-!
# Rule kinds

The plugins of the linter that a rule can belong to.  Each has a name and a
directory of its own.
-/

namespace LintScaffold

/-- A plugin of the linter. -/
inductive RuleKind
  | eslint
  | typescript
  | jest
  | vitest
  | unicorn
  | importPlugin
  | react
  | reactPerf
  | jsxA11y
  | nextjs
  | jsdoc
  | node
  | promise
  | oxc
  deriving DecidableEq

namespace RuleKind

/-- All kinds, in the order in which they are listed. -/
def all : List RuleKind :=
  [.eslint, .typescript, .jest, .vitest, .unicorn, .importPlugin, .react, .reactPerf, .jsxA11y,
    .nextjs, .jsdoc, .node, .promise, .oxc]

/-- The name of a kind. -/
def name : RuleKind → Text
  | .eslint => "eslint".toList
  | .typescript => "typescript".toList
  | .jest => "jest".toList
  | .vitest => "vitest".toList
  | .unicorn => "unicorn".toList
  | .importPlugin => "import".toList
  | .react => "react".toList
  | .reactPerf => "react-perf".toList
  | .jsxA11y => "jsx-a11y".toList
  | .nextjs => "nextjs".toList
  | .jsdoc => "jsdoc".toList
  | .node => "node".toList
  | .promise => "promise".toList
  | .oxc => "oxc".toList

/-- The directory of a kind: its name as a module name. -/
def directory (kind : RuleKind) : Text := Text.replaceChar '-' '_' kind.name

/-- The kind with exactly this name. -/
def named? (text : Text) : Option RuleKind := all.find? fun kind => kind.name = text

end RuleKind

/-- A text that names no kind, with the name that may have been meant. -/
structure UnknownKind where
  kind : Text
  suggestion : Option Text
  deriving DecidableEq

/-- The wording for an unknown kind. -/
def UnknownKind.message (unknown : UnknownKind) : Text :=
  "Unknown rule kind: ".toList ++ Text.quoted unknown.kind ++
    match unknown.suggestion with
    | none => []
    | some name => " (did you mean ".toList ++ Text.quoted name ++ "?)".toList

namespace RuleKind

/-- The form in which a kind is looked up: without blanks around it, in lower case, and
with hyphens for underscores. -/
def lookupForm (text : Text) : Text :=
  Text.replaceChar '_' '-' (Text.lower (Text.strip text))

/-- The name of the kind that is most similar to the text, if one is similar enough. -/
def suggestion? (text : Text) : Option Text :=
  match Similarity.closest text (all.map name) Similarity.defaultThreshold with
  | .ok suggestion => suggestion
  | .error _ => none

/-- Reads a kind. -/
def parse (text : Text) : Except UnknownKind RuleKind :=
  let form := lookupForm text
  match named? form with
  | some kind => .ok kind
  | none => .error ⟨text, suggestion? form⟩

end RuleKind
end LintScaffold
