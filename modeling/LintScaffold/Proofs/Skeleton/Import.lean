import LintScaffold.Proofs.Rust.CaseWords
import LintScaffold.Proofs.Skeleton.Reading
import Mathlib.Data.List.Infix

/-!
# The import in the test

The test of a rule is the end of its source.  What stands in front of it depends on the category,
which can be any text, so that it need not have lexemes; but the test always has.

Its lines for file names import the type of paths.  Such an import begins with the word `use`, and
this word stands in the test in two places only: in these lines, and in front of them, where
something else is imported.  It is no word of a case.  So the type is imported once if the lines are
there, and else not at all, whatever the cases of the test are; see `importCount_test`.
-/

namespace LintScaffold.Skeleton

open Rust

/-! ## The test -/

/-- The end of the implementation, behind the name. -/
def implementationEnd : Text :=
  block [" \x7b",
    "    fn run<'a>(&self, node: &AstNode<'a>, ctx: &LintContext<'a>) \x7b\x7d",
    "\x7d",
    ""]

/-- The first lines of the test. -/
def testHead : Text := block ["#[test]", "fn test() \x7b", "    use crate::tester::Tester;"]

/-- The test of a rule. -/
def test (pascal : Text) (hasFilename : Bool) (pass fail : List Text) : Text :=
  testHead ++ testText pascal hasFilename pass fail

/-- The source of a rule ends with its test. -/
theorem test_suffix (pascal : Text) (hasFilename : Bool) (category : Text)
    (pass fail : List Text) :
    test pascal hasFilename pass fail <:+ source pascal hasFilename category pass fail := by
  have hopening : testOpening = implementationEnd ++ testHead := rfl
  refine ⟨opening ++ pascal ++ declaration ++ pascal ++ comma ++ categoryLines category ++
    implementation ++ pascal ++ implementationEnd, ?_⟩
  simp only [source, body, test, testText, hopening, List.append_assoc]

/-! ## Counting imports -/

/-- The import of the type of paths: `use std::path::PathBuf;`. -/
def importLexemes : List Lexeme :=
  [.word "use".toList, .word "std".toList, .mark ':', .mark ':', .word "path".toList, .mark ':',
    .mark ':', .word "PathBuf".toList, .mark ';']

/-- How often the type of paths is imported. -/
def importCount (lexemes : List Lexeme) : Nat :=
  lexemes.tails.countP fun tail => decide (importLexemes <+: tail)

theorem importCount_cons (x : Lexeme) (rest : List Lexeme) :
    importCount (x :: rest) =
      importCount rest + if importLexemes <+: x :: rest then 1 else 0 := by
  rw [importCount, List.tails_cons, List.countP_cons]
  simp [importCount]

theorem importCount_of_not_mem {lexemes : List Lexeme} (h : .word "use".toList ∉ lexemes)
    (rest : List Lexeme) : importCount (lexemes ++ rest) = importCount rest := by
  induction lexemes with
  | nil => rfl
  | cons x lexemes ih =>
      rw [List.mem_cons, not_or] at h
      have hother : ¬ importLexemes <+: x :: (lexemes ++ rest) := fun hprefix =>
        h.1 (List.cons_prefix_cons.mp hprefix).1
      rw [List.cons_append, importCount_cons, ih h.2, if_neg hother, Nat.add_zero]

/-- Something else is imported, or nothing at all. -/
theorem importCount_cons_cons {x y : Lexeme} (h : y ≠ .word "std".toList) (rest : List Lexeme) :
    importCount (x :: y :: rest) = importCount (y :: rest) := by
  have hother : ¬ importLexemes <+: x :: y :: rest := fun hprefix =>
    h (List.cons_prefix_cons.mp (List.cons_prefix_cons.mp hprefix).2).1.symm
  rw [importCount_cons, if_neg hother, Nat.add_zero]

theorem importCount_import (rest : List Lexeme) :
    importCount (importLexemes ++ rest) = importCount rest + 1 := by
  have htail : importCount (importLexemes.tail ++ rest) = importCount rest :=
    importCount_of_not_mem (by decide) rest
  have hsplit : importLexemes ++ rest = .word "use".toList :: (importLexemes.tail ++ rest) := rfl
  rw [hsplit, importCount_cons, htail, ← hsplit, if_pos (List.prefix_append _ _)]

/-- What is found by evaluation: the lexemes of the fixed parts of the test, as far as they
matter. -/
theorem testParts_evaluated :
    fixed pathImport = importLexemes ∧
    Closed testHead ([.mark '#', .mark '[', .word "test".toList, .mark ']', .word "fn".toList,
        .word "test".toList, .mark '(', .mark ')', .mark '\x7b'] ++
      (.word "use".toList :: .word "crate".toList :: [.mark ':', .mark ':', .word "tester".toList,
        .mark ':', .mark ':', .word "Tester".toList, .mark ';'])) ∧
    (∀ part ∈ [passOpening, failOpening, testing, closing],
      .word "use".toList ∉ fixed part) ∧ (fixed closing).head? = some (.mark ':') := by
  decide +kernel

/-! ## The import of a test -/

/-- The first line of the test imports something else. -/
theorem importCount_testHead (rest : List Lexeme) :
    importCount (fixed testHead ++ rest) = importCount rest := by
  obtain ⟨-, hhead, -⟩ := testParts_evaluated
  -- behind the one `use` there is another word than `std`
  rw [show fixed testHead = _ from congrArg Prod.snd hhead, List.append_assoc,
    importCount_of_not_mem (by decide), List.cons_append, List.cons_append,
    importCount_cons_cons (by decide), ← List.cons_append, importCount_of_not_mem (by decide)]

theorem importCount_ending (pascal : Text) : importCount (ending pascal) = 0 := by
  obtain ⟨-, -, hparts, hclosing⟩ := testParts_evaluated
  -- the name might be any word, but the mark behind it does not belong to an import
  obtain ⟨rest, hrest⟩ := List.head?_eq_some_iff.mp hclosing
  have hnone : importCount (fixed closing) = 0 := by
    rw [← List.append_nil (fixed closing), importCount_of_not_mem (hparts closing (by simp))]
    rfl
  rw [ending, importCount_of_not_mem (hparts testing (by simp)), hrest,
    importCount_cons_cons (by simp), ← hrest, hnone]

/-- The type of paths is imported exactly where there are the lines for file names, and once. -/
theorem importCount_testLexemes (pascal : Text) (hasFilename : Bool)
    {pass fail : List (List Lexeme)} (hpass : ∀ piece ∈ pass, .word "use".toList ∉ piece)
    (hfail : ∀ piece ∈ fail, .word "use".toList ∉ piece) :
    importCount (testLexemes pascal hasFilename pass fail) = if hasFilename then 1 else 0 := by
  obtain ⟨himport, -, hparts, -⟩ := testParts_evaluated
  have hpieces : ∀ {pieces : List (List Lexeme)},
      (∀ piece ∈ pieces, .word "use".toList ∉ piece) →
        .word "use".toList ∉ terminated pieces := by
    intro pieces hall hword
    obtain ⟨piece, hpiece, hword⟩ := word_mem_terminated.mp hword
    exact hall piece hpiece hword
  have hvectors : importCount (fixed passOpening ++ (terminated pass ++ (fixed failOpening ++
      (terminated fail ++ ending pascal)))) = 0 := by
    rw [importCount_of_not_mem (hparts _ (by simp)), importCount_of_not_mem (hpieces hpass),
      importCount_of_not_mem (hparts _ (by simp)), importCount_of_not_mem (hpieces hfail),
      importCount_ending]
  rw [testLexemes, himport]
  cases hasFilename with
  | false => exact hvectors
  | true =>
      rw [if_pos rfl, importCount_import, hvectors]
      rfl

/-- How often a text imports the type of paths, if it has lexemes. -/
def importCount? (text : Text) : Option Nat := (lex? text).map importCount

/-- The test with the elements of cases has lexemes, and imports the type of paths once or not at
all. -/
theorem importCount?_test {given : Text} {name : RuleName} (hname : RuleName.parse given = .ok name)
    (hasFilename : Bool) {passCases failCases : List TestCase} {pass fail : List Text}
    (hpassJson : ∀ case ∈ passCases, case.IsJson) (hfailJson : ∀ case ∈ failCases, case.IsJson)
    (hpass : snippets (passCases.map .case) = .ok pass)
    (hfail : snippets (failCases.map .case) = .ok fail) :
    importCount? (test name.pascal hasFilename pass fail) =
      some (if hasFilename then 1 else 0) := by
  have hhead : Closed testHead (fixed testHead) :=
    Prod.ext (congrArg Prod.fst testParts_evaluated.2.1) rfl
  obtain ⟨⟨passTexts, hpassTexts, hpassClosed⟩, -⟩ := snippets_spec hpassJson
  obtain ⟨⟨failTexts, hfailTexts, hfailClosed⟩, -⟩ := snippets_spec hfailJson
  obtain rfl := Except.ok.inj (hpass.symm.trans hpassTexts)
  obtain rfl := Except.ok.inj (hfail.symm.trans hfailTexts)
  have hclosed := hhead.append
    (closed_testText (lexes_pascal hname) hasFilename hpassClosed hfailClosed)
  rw [importCount?, test, hclosed.lex?_eq, Option.map_some, importCount_testHead,
    importCount_testLexemes]
  · exact List.forall_mem_map.mpr fun case hcase => (hpassJson case hcase).use_not_mem
  · exact List.forall_mem_map.mpr fun case hcase => (hfailJson case hcase).use_not_mem

end LintScaffold.Skeleton
