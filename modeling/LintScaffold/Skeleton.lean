import LintScaffold.Text.Basic

/-!
# The skeleton of a rule

The template that is used where no other one is configured: a rule whose body is empty,
with a place for its documentation, and a test that is filled from the cases.
-/

namespace LintScaffold.Skeleton

/-- The lines of the template. -/
def lines : List String :=
  ["use oxc_ast::AstKind;",
    "use oxc_diagnostics::OxcDiagnostic;",
    "use oxc_macros::declare_oxc_lint;",
    "use oxc_span::Span;",
    "",
    "use crate::\x7bcontext::LintContext, rule::Rule, AstNode\x7d;",
    "",
    "#[derive(Debug, Default, Clone)]",
    "pub struct \x7b\x7b pascal_rule_name \x7d\x7d;",
    "",
    "declare_oxc_lint!(",
    "    /// ### What it does",
    "    ///",
    "    ///",
    "    /// ### Why is this bad?",
    "    ///",
    "    ///",
    "    /// ### Examples",
    "    ///",
    "    /// Examples of **incorrect** code for this rule:",
    "    /// ```js",
    "    /// FIXME: Tests will fail if examples are missing or syntactically incorrect.",
    "    /// ```",
    "    ///",
    "    /// Examples of **correct** code for this rule:",
    "    /// ```js",
    "    /// FIXME: Tests will fail if examples are missing or syntactically incorrect.",
    "    /// ```",
    "    \x7b\x7b pascal_rule_name \x7d\x7d,",
    "\x7b% if category_is_placeholder %\x7d",
    "    \x7b\x7b category \x7d\x7d, // TODO: change category to `correctness`, `suspicious`, `pedantic`, `perf`, `restriction`, or `style`",
    "             // See <https://oxc.rs/docs/contribute/linter.html#rule-category> for details",
    "\x7b% else %\x7d",
    "    \x7b\x7b category \x7d\x7d,",
    "\x7b% endif %\x7d",
    ");",
    "",
    "impl Rule for \x7b\x7b pascal_rule_name \x7d\x7d \x7b",
    "    fn run<'a>(&self, node: &AstNode<'a>, ctx: &LintContext<'a>) \x7b\x7d",
    "\x7d",
    "",
    "#[test]",
    "fn test() \x7b",
    "    use crate::tester::Tester;",
    "\x7b% if has_filename %\x7d",
    "",
    "    use std::path::PathBuf;",
    "\x7b% endif %\x7d",
    "",
    "    let pass = vec![",
    "\x7b% for case in pass_cases %\x7d",
    "        \x7b\x7b case \x7d\x7d,",
    "\x7b% endfor %\x7d",
    "    ];",
    "",
    "    let fail = vec![",
    "\x7b% for case in fail_cases %\x7d",
    "        \x7b\x7b case \x7d\x7d,",
    "\x7b% endfor %\x7d",
    "    ];",
    "",
    "    Tester::new(\x7b\x7b pascal_rule_name \x7d\x7d::NAME, pass, fail).test_and_snapshot();",
    "\x7d"]

/-- The template, every line of it ended by a line feed. -/
def text : Text := lines.flatMap fun line => line.toList ++ ['\n']

end LintScaffold.Skeleton
