import LintScaffold.Proofs.Rule.Name
import LintScaffold.Proofs.Rust.Case
import LintScaffold.Proofs.Skeleton.Render

/-!
# The source of a rule is read back

The source that the skeleton gives for a rule is read with the lexical rules of Rust, and what
the rule was made from is found in it again: its name as a type, at each of its places, whether
there is a line for file names, and the cases of the two vectors in their order.  Between these
stand the fixed parts of the skeleton, each with the lexemes that it has by itself.

Nothing that a case holds can disturb this, because its element has lexemes of its own, and
they are read to their end and no further.
-/

namespace LintScaffold

open Rust

namespace Skeleton

/-! ## Reading -/

/-- The lexemes of a fixed part of the skeleton. -/
def fixed (text : Text) : List Lexeme := (feed .between text).2

/-- The fixed part between the second name of the type and the third one. -/
def standardCategory : Text :=
  comma ++ categoryLines RuleSettings.placeholderCategory ++ implementation

/-- The lexemes behind the first name of the type, up to the body of the test. -/
def heading (pascal : Text) : List Lexeme :=
  fixed declaration ++ .word pascal :: (fixed standardCategory ++ .word pascal :: fixed testOpening)

/-- The lexemes behind the vectors. -/
def ending (pascal : Text) : List Lexeme := fixed testing ++ .word pascal :: fixed closing

/-- What the source of a rule says. -/
structure Reading where
  pascal : Text
  hasFilename : Bool
  pass : List TestCase
  fail : List TestCase

/-- Reads whether there is a line for file names. -/
def readImport (lexemes : List Lexeme) : Bool × List Lexeme :=
  match lexemes.dropPrefix? (fixed pathImport) with
  | some rest => (true, rest)
  | none => (false, lexemes)

/-- Reads the lexemes of a source. -/
def readSource (lexemes : List Lexeme) : Option Reading := do
  match ← lexemes.dropPrefix? (fixed opening) with
  | .word pascal :: rest =>
      let rest ← rest.dropPrefix? (heading pascal)
      let (hasFilename, rest) := readImport rest
      let rest ← rest.dropPrefix? (fixed passOpening)
      let (pass, rest) ← readCases rest
      let rest ← rest.dropPrefix? (fixed failOpening)
      let (fail, rest) ← readCases rest
      if rest = ending pascal then some ⟨pascal, hasFilename, pass, fail⟩ else none
  | _ => none

/-- Reads a source. -/
def read? (text : Text) : Option Reading := (lex? text).bind readSource

/-! ## The lexemes of a source -/

/-- The lexemes behind the first line of the test, given those of the elements. -/
def testLexemes (pascal : Text) (hasFilename : Bool) (pass fail : List (List Lexeme)) :
    List Lexeme :=
  (if hasFilename then fixed pathImport else []) ++ (fixed passOpening ++ (terminated pass ++
    (fixed failOpening ++ (terminated fail ++ ending pascal))))

/-- The lexemes of the source of a rule, given those of the elements. -/
def sourceLexemes (pascal : Text) (hasFilename : Bool) (pass fail : List (List Lexeme)) :
    List Lexeme :=
  fixed opening ++ .word pascal :: (heading pascal ++ testLexemes pascal hasFilename pass fail)

/-- The fixed parts that end between two lexemes. -/
def parts : List Text :=
  [opening, declaration, standardCategory, testOpening, pathImport, passOpening, failOpening,
    testing]

/-- What is found by evaluation: where the fixed parts end, and how those begin that stand
behind a name, behind a vector, or where there may be a line for file names. -/
theorem parts_evaluated :
    (∀ part ∈ parts, (feed .between part).1 = .between) ∧
    Closed (closing ++ ['\n']) (fixed closing) ∧
    (∀ part ∈ [declaration, standardCategory, testOpening, closing ++ ['\n']],
      part.head?.any isDelimiter = true) ∧
    (fixed failOpening).head? = some (.mark ']') ∧ (fixed testing).head? = some (.mark ']') ∧
    (fixed passOpening).head? = some (.word "let".toList) ∧
    (fixed pathImport).head? = some (.word "use".toList) := by
  simp only [parts, opening, declaration, standardCategory, testOpening, pathImport, passOpening,
    failOpening, testing, closing]
  repeat rw [block_cons]
  repeat rw [String.toList_ofList]
  decide +kernel

theorem closed_part {part : Text} (h : part ∈ parts) : Closed part (fixed part) :=
  Prod.ext (parts_evaluated.1 part h) rfl

theorem closed_elements {texts : List Text} {pieces : List (List Lexeme)}
    (h : List.Forall₂ Closed texts pieces) :
    Closed (texts.flatMap element) (terminated pieces) := by
  have hindent : Closed (indent ++ indent) [] := by decide
  have hcomma : Closed comma [.mark ','] := by decide
  induction h with
  | nil => exact .nil
  | cons hx hxs ih =>
      have hline := (hindent.append (hx.append hcomma)).append ih
      simpa only [List.flatMap_cons, element, terminated, List.append_assoc, List.nil_append]
        using hline

/-- The name and what stands behind it up to the body of the test. -/
def headingText (pascal : Text) : Text :=
  (pascal ++ declaration) ++ ((pascal ++ standardCategory) ++ (pascal ++ testOpening))

theorem closed_heading {pascal : Text} (hname : Lexes pascal [.word pascal]) :
    Closed (headingText pascal) (.word pascal :: heading pascal) := by
  obtain ⟨-, -, hheads, -⟩ := parts_evaluated
  have hdeclaration := hname.closeWord (hheads declaration (by simp))
    (closed_part (by simp [parts]))
  have hcategory := hname.closeWord (hheads standardCategory (by simp))
    (closed_part (by simp [parts]))
  have htest := hname.closeWord (hheads testOpening (by simp)) (closed_part (by simp [parts]))
  have hlexemes := hdeclaration.append (hcategory.append htest)
  rw [List.cons_append, List.cons_append] at hlexemes
  exact hlexemes

theorem closed_import (hasFilename : Bool) :
    Closed (if hasFilename then pathImport else [])
      (if hasFilename then fixed pathImport else []) := by
  cases hasFilename with
  | false => exact .nil
  | true => exact closed_part (by simp [parts])

theorem closed_ending {pascal : Text} (hname : Lexes pascal [.word pascal]) :
    Closed (testing ++ (pascal ++ (closing ++ ['\n']))) (ending pascal) := by
  obtain ⟨-, hclosing, hheads, -⟩ := parts_evaluated
  have htesting : Closed testing (fixed testing) := closed_part (by simp [parts])
  exact htesting.append (hname.closeWord (hheads _ (by simp)) hclosing)

/-- What stands behind the first line of the test. -/
def testText (pascal : Text) (hasFilename : Bool) (pass fail : List Text) : Text :=
  (if hasFilename then pathImport else []) ++ (passOpening ++ (pass.flatMap element ++
    (failOpening ++ (fail.flatMap element ++ (testing ++ (pascal ++ (closing ++ ['\n'])))))))

theorem closed_testText {pascal : Text} (hname : Lexes pascal [.word pascal])
    (hasFilename : Bool) {pass fail : List Text} {passPieces failPieces : List (List Lexeme)}
    (hpass : List.Forall₂ Closed pass passPieces) (hfail : List.Forall₂ Closed fail failPieces) :
    Closed (testText pascal hasFilename pass fail)
      (testLexemes pascal hasFilename passPieces failPieces) := by
  have hpassOpening : Closed passOpening (fixed passOpening) := closed_part (by simp [parts])
  have hfailOpening : Closed failOpening (fixed failOpening) := closed_part (by simp [parts])
  exact (closed_import hasFilename).append (hpassOpening.append ((closed_elements hpass).append
    (hfailOpening.append ((closed_elements hfail).append (closed_ending hname)))))

/-- The source of a rule has the lexemes of the skeleton, with those of the elements in their
places. -/
theorem closed_source {pascal : Text} (hname : Lexes pascal [.word pascal]) (hasFilename : Bool)
    {pass fail : List Text} {passPieces failPieces : List (List Lexeme)}
    (hpass : List.Forall₂ Closed pass passPieces) (hfail : List.Forall₂ Closed fail failPieces) :
    Closed (source pascal hasFilename RuleSettings.placeholderCategory pass fail)
      (sourceLexemes pascal hasFilename passPieces failPieces) := by
  have hopening : Closed opening (fixed opening) := closed_part (by simp [parts])
  have hsource := hopening.append ((closed_heading hname).append
    (closed_testText hname hasFilename hpass hfail))
  -- the source, bracketed as its parts are closed
  have htext : source pascal hasFilename RuleSettings.placeholderCategory pass fail =
      opening ++ (headingText pascal ++ testText pascal hasFilename pass fail) := by
    simp only [source, body, headingText, standardCategory, testText, List.append_assoc]
  rw [List.cons_append] at hsource
  rw [htext]
  exact hsource

/-! ## Reading the lexemes -/

theorem fixed_failOpening : ∃ rest, fixed failOpening = .mark ']' :: rest :=
  List.head?_eq_some_iff.mp parts_evaluated.2.2.2.1

theorem fixed_testing : ∃ rest, fixed testing = .mark ']' :: rest :=
  List.head?_eq_some_iff.mp parts_evaluated.2.2.2.2.1

theorem readCases_terminated {pieces : List (List Lexeme)} {cases : List TestCase}
    (h : List.Forall₂ (Reads readCase) pieces cases) {lexemes : List Lexeme}
    (hclose : ∃ rest, lexemes = .mark ']' :: rest) :
    readCases (terminated pieces ++ lexemes) = some (cases, lexemes) := by
  obtain ⟨rest, rfl⟩ := hclose
  have hcount := length_le_terminated pieces
  refine readTerminated_terminated refuses_readCase h ?_ rest
  rw [List.length_append]
  omega

theorem readImport_append (hasFilename : Bool) (rest : List Lexeme) :
    readImport ((if hasFilename then fixed pathImport else []) ++ (fixed passOpening ++ rest)) =
      (hasFilename, fixed passOpening ++ rest) := by
  cases hasFilename with
  | true =>
      rw [if_pos rfl, readImport, dropPrefix?_append]
  | false =>
      -- the first words of the two parts tell them apart
      have hother : (fixed passOpening ++ rest).dropPrefix? (fixed pathImport) = none := by
        obtain ⟨-, -, -, -, -, hpassHead, himportHead⟩ := parts_evaluated
        obtain ⟨passRest, hpass⟩ := List.head?_eq_some_iff.mp hpassHead
        obtain ⟨importRest, himport⟩ := List.head?_eq_some_iff.mp himportHead
        rw [hpass, himport, List.cons_append, List.dropPrefix?, if_neg (by decide)]
      rw [if_neg Bool.false_ne_true, List.nil_append, readImport, hother]

/-- From the lexemes of a source, what they were made for is read. -/
theorem readSource_sourceLexemes (pascal : Text) (hasFilename : Bool)
    {pass fail : List (List Lexeme)} {passCases failCases : List TestCase}
    (hpass : List.Forall₂ (Reads readCase) pass passCases)
    (hfail : List.Forall₂ (Reads readCase) fail failCases) :
    readSource (sourceLexemes pascal hasFilename pass fail) =
      some ⟨pascal, hasFilename, passCases, failCases⟩ := by
  obtain ⟨failRest, hfailOpening⟩ := fixed_failOpening
  obtain ⟨testRest, htesting⟩ := fixed_testing
  have hending : ∃ rest, ending pascal = .mark ']' :: rest :=
    ⟨testRest ++ .word pascal :: fixed closing, by rw [ending, htesting]; rfl⟩
  -- both vectors are read up to the bracket that begins the part behind them
  have hpassRead := readCases_terminated hpass
    (⟨failRest ++ (terminated fail ++ ending pascal), by rw [hfailOpening]; rfl⟩ :
      ∃ rest, fixed failOpening ++ (terminated fail ++ ending pascal) = .mark ']' :: rest)
  have hfailRead := readCases_terminated hfail hending
  rw [readSource, sourceLexemes, testLexemes, dropPrefix?_append]
  dsimp only [bind, Option.bind]
  rw [dropPrefix?_append]
  dsimp only
  rw [readImport_append]
  dsimp only
  rw [dropPrefix?_append]
  dsimp only
  rw [hpassRead]
  dsimp only
  rw [dropPrefix?_append]
  dsimp only
  rw [hfailRead]
  dsimp only
  rw [if_pos rfl]

/-! ## The result -/

/-- The name of an accepted rule is a word. -/
theorem lexes_pascal {given : Text} {name : RuleName} (h : RuleName.parse given = .ok name) :
    Lexes name.pascal [.word name.pascal] := by
  obtain ⟨htype, -, rfl⟩ := RuleName.parse_eq_ok.mp h
  have hplain := RuleName.letter_or_digit_of_isTypeName htype
  refine lexes_word (RuleName.ne_nil_of_isTypeName htype) (List.all_eq_true.mpr fun c hc => ?_)
  rw [isWordChar, hplain c hc]
  rfl

/-- What a renderer is asked for: a rule with the cases of its test. -/
structure Request where
  name : RuleName
  hasFilename : Bool
  pass : List TestCase
  fail : List TestCase

namespace Request

/-- The name of the rule is an accepted one, and what the cases hold are data of JSON. -/
structure IsAccepted (request : Request) : Prop where
  name : ∃ given, RuleName.parse given = .ok request.name
  pass : ∀ case ∈ request.pass, case.IsJson
  fail : ∀ case ∈ request.fail, case.IsJson

/-- The source for the request. -/
def render (request : Request) (renderer : Renderer) : Except RenderFault Text :=
  renderer.render request.name request.hasFilename (request.pass.map .case)
    (request.fail.map .case)

/-- What the source is to say. -/
def reading (request : Request) : Reading :=
  ⟨request.name.pascal, request.hasFilename, request.pass.map TestCase.ordered,
    request.fail.map TestCase.ordered⟩

/-- What was asked for is rendered and read back. -/
theorem IsAccepted.exists_text {request : Request} (h : request.IsAccepted) :
    ∃ text, request.render (renderer RuleSettings.placeholderCategory) = .ok text ∧
      read? text = some request.reading := by
  obtain ⟨given, hname⟩ := h.name
  obtain ⟨⟨pass, hpass, hpassClosed⟩, hpassReads⟩ := snippets_spec h.pass
  obtain ⟨⟨fail, hfail, hfailClosed⟩, hfailReads⟩ := snippets_spec h.fail
  have hclosed := closed_source (lexes_pascal hname) request.hasFilename hpassClosed hfailClosed
  refine ⟨_, render_renderer hpass hfail _ request.name request.hasFilename, ?_⟩
  rw [read?, hclosed.lex?_eq, Option.bind_some,
    readSource_sourceLexemes _ _ hpassReads hfailReads]
  rfl

end Request

/-- The skeleton with its standard category has a source for every request, and whatever the
cases hold, the source says what the request was made of: the name, whether there is a line for
file names, and the cases of both vectors in their order.  So two requests have the same source
only if they say the same, up to the order of the entries of tables and to empty file names. -/
theorem standard_reads_back {request : Request} (h : request.IsAccepted) :
    ∃ renderer text, Renderer.standard = .ok renderer ∧ request.render renderer = .ok text ∧
      read? text = some request.reading ∧
      ∀ other : Request, other.IsAccepted → other.render renderer = .ok text →
        other.reading = request.reading := by
  obtain ⟨text, htext, hread⟩ := h.exists_text
  refine ⟨_, text, ofText_text _, htext, hread, fun other hother hsame => ?_⟩
  obtain ⟨otherText, hotherText, hotherRead⟩ := hother.exists_text
  obtain rfl : otherText = text := Except.ok.inj (hotherText.symm.trans hsame)
  exact Option.some.inj (hotherRead.symm.trans hread)

/-- Options with quotation marks and brackets in keys and texts, their keys out of order. -/
def imitatingOptions : List (Text × Datum) :=
  [("b".toList, .list [.int (-7), .float (.finite true 4602678819172646912)]),
    ("]".toList, .null), ("a\"".toList, .text "\\\"\r".toList)]

/-- A request with cases that imitate what stands around them: literals that are closed early,
comments, the end of a vector, and mentions of a template. -/
def imitating : Request where
  name := ⟨"no-foo".toList, "NoFoo".toList, "no_foo".toList, "no-foo".toList⟩
  hasFilename := true
  pass := [.ofCode "r#\"a\"#, ]; // \\ \x7b\x7b".toList,
    ⟨"\"##".toList, .ofTable imitatingOptions, .null, some []⟩]
  fail := [⟨"x\r\n\"".toList, .null, .bool true, some "\"/*.rs".toList⟩]

theorem isJson_imitatingOptions : (Datum.ofTable imitatingOptions).IsJson := by
  have hlist : ∀ item ∈ [Datum.int (-7), .float (.finite true 4602678819172646912)],
      item.IsJson :=
    List.forall_mem_cons.mpr ⟨.int (by decide),
      List.forall_mem_singleton.mpr (.float true (by decide))⟩
  exact .table (by decide) (List.forall_mem_cons.mpr ⟨.list hlist,
    List.forall_mem_cons.mpr ⟨.null, List.forall_mem_singleton.mpr (.text _)⟩⟩)

theorem isAccepted_imitating : imitating.IsAccepted where
  name := ⟨"no-foo".toList, by decide +kernel⟩
  pass := List.forall_mem_cons.mpr ⟨⟨.null, .null⟩,
    List.forall_mem_singleton.mpr ⟨isJson_imitatingOptions, .null⟩⟩
  fail := List.forall_mem_singleton.mpr ⟨.null, .bool true⟩

theorem imitating_reads_back : imitating.IsAccepted ∧
    ∃ renderer text, Renderer.standard = .ok renderer ∧ imitating.render renderer = .ok text ∧
      read? text = some imitating.reading ∧
      ∀ other : Request, other.IsAccepted → other.render renderer = .ok text →
        other.reading = imitating.reading :=
  ⟨isAccepted_imitating, standard_reads_back isAccepted_imitating⟩

end Skeleton
end LintScaffold
