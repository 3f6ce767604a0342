import LintScaffold.Skeleton

/-!
# The source that the skeleton gives

The skeleton as a function: the text of a rule, written down without a template.  Between its
fixed parts stand the name of the rule as a type, the category, the line for file names, and
the elements of the two vectors.
-/

namespace LintScaffold.Skeleton

/-- Lines, every one of them ended by a line feed. -/
def block (lines : List String) : Text := lines.flatMap fun line => line.toList ++ ['\n']

/-- A line that is written out has the characters with which it is written.  In the kernel this is
far faster than to read them back from the encoding of the literal. -/
theorem block_cons (row : Text) (lines : List String) :
    block (String.ofList row :: lines) = row ++ '\n' :: block lines := by
  rw [block, List.flatMap_cons, String.toList_ofList, List.append_assoc]
  rfl

/-! ## Fixed parts -/

/-- What stands before the name of the type. -/
def opening : Text :=
  block ["use oxc_ast::AstKind;",
    "use oxc_diagnostics::OxcDiagnostic;",
    "use oxc_macros::declare_oxc_lint;",
    "use oxc_span::Span;",
    "",
    "use crate::\x7bcontext::LintContext, rule::Rule, AstNode\x7d;",
    "",
    "#[derive(Debug, Default, Clone)]"] ++ "pub struct ".toList

/-- What stands before the name in the declaration: the documentation of the rule. -/
def declaration : Text :=
  block [";",
    "",
    "declare_oxc_lint!(",
    "    /// ### What it does",
    "    ///",
    "    ///",
    "    /// ### Why is this bad?",
    "    ///",
    "    ///",
    "    /// ### Examples",
    "    ///",
    "    /// Examples of **incorrect** code for this rule:",
    "    /// ```js",
    "    /// FIXME: Tests will fail if examples are missing or syntactically incorrect.",
    "    /// ```",
    "    ///",
    "    /// Examples of **correct** code for this rule:",
    "    /// ```js",
    "    /// FIXME: Tests will fail if examples are missing or syntactically incorrect.",
    "    /// ```"] ++ "    ".toList

/-- What stands behind a category that is to be changed. -/
def placeholderRemark : Text :=
  block [", // TODO: change category to `correctness`, `suspicious`, `pedantic`, `perf`, `restriction`, or `style`",
    "             // See <https://oxc.rs/docs/contribute/linter.html#rule-category> for details"]

/-- What stands before the name in the implementation. -/
def implementation : Text := block [");", ""] ++ "impl Rule for ".toList

/-- What stands behind the name in the implementation. -/
def testOpening : Text :=
  block [" \x7b",
    "    fn run<'a>(&self, node: &AstNode<'a>, ctx: &LintContext<'a>) \x7b\x7d",
    "\x7d",
    "",
    "#[test]",
    "fn test() \x7b",
    "    use crate::tester::Tester;"]

/-- The line for file names. -/
def pathImport : Text := block ["", "    use std::path::PathBuf;"]

/-- What stands before the cases that the rule accepts. -/
def passOpening : Text := block ["", "    let pass = vec!["]

/-- What stands before the cases that the rule reports. -/
def failOpening : Text := block ["    ];", "", "    let fail = vec!["]

/-- What stands before the name in the test. -/
def testing : Text := block ["    ];", ""] ++ "    Tester::new(".toList

/-- The last line behind the name, and the brace that ends the test. -/
def closing : Text := block ["::NAME, pass, fail).test_and_snapshot();"] ++ ['\x7d']

/-! ## The whole -/

/-- What stands before a category and before an element of a vector. -/
def indent : Text := "    ".toList

/-- The end of a line behind a category or an element of a vector. -/
def comma : Text := ",\n".toList

/-- The lines of the category. -/
def categoryLines (category : Text) : Text :=
  indent ++ category ++ if category = "nursery".toList then placeholderRemark else comma

/-- The line of an element of a vector. -/
def element (snippet : Text) : Text := indent ++ indent ++ snippet ++ comma

/-- The source of a rule up to its last brace. -/
def body (pascal : Text) (hasFilename : Bool) (category : Text) (pass fail : List Text) :
    Text :=
  opening ++ pascal ++ declaration ++ pascal ++ comma ++ categoryLines category ++
    implementation ++ pascal ++ testOpening ++ (if hasFilename then pathImport else []) ++
    passOpening ++ pass.flatMap element ++ failOpening ++ fail.flatMap element ++
    testing ++ pascal ++ closing

/-- The source of a rule. -/
def source (pascal : Text) (hasFilename : Bool) (category : Text) (pass fail : List Text) :
    Text :=
  body pascal hasFilename category pass fail ++ ['\n']

end LintScaffold.Skeleton
