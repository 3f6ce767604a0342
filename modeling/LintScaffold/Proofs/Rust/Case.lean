import LintScaffold.Case.TestCase
import LintScaffold.Proofs.Rust.Value

/-!
# Test cases are read back

The element of the vector for a case is a literal, or a tuple of a literal and optional values.
Its lexemes are those of `TestCase.lexemes`.  A reader that looks at nothing but lexemes tells the
three forms apart by their first mark and by the mark behind the options, and gives the case again:
with its tables in order, and without a file name that is empty.
-/

namespace LintScaffold

open Rust

variable {α : Type}

/-! ## Reading -/

namespace Rust

/-- Reads something that stands between fixed lexemes. -/
def readBetween (opening : List Lexeme) (reader : Reader α) (closing : List Lexeme) :
    Reader α := fun lexemes => do
  let rest ← lexemes.dropPrefix? opening
  let (x, rest) ← reader rest
  let rest ← rest.dropPrefix? closing
  return (x, rest)

/-- Reads an optional value: a word for none, or a word and what `reader` reads. -/
def readOptional (reader : Reader α) : Reader (Option α)
  | .word word :: rest =>
      if word = "None".toList then some (none, rest)
      else if word = "Some".toList then (reader rest).map fun (x, rest) => (some x, rest)
      else none
  | _ => none

/-- What stands before a value of JSON. -/
def jsonOpening : List Lexeme :=
  [.mark '(', .word "serde_json".toList, .mark ':', .mark ':', .word "json".toList, .mark '!',
    .mark '(']

/-- What stands before the text of a path. -/
def pathOpening : List Lexeme :=
  [.mark '(', .word "PathBuf".toList, .mark ':', .mark ':', .word "from".toList, .mark '(']

/-- What stands behind a value of JSON, and behind the text of a path. -/
def bothClosing : List Lexeme := [.mark ')', .mark ')']

/-- Reads a value of JSON, in as many steps as there are lexemes. -/
def readJson : Reader Datum := fun lexemes => readValue lexemes.length lexemes

/-- Reads a string literal. -/
def readLiteral : Reader Text
  | .literal t :: rest => some (t, rest)
  | _ => none

/-- Reads options or settings; if there are none, they are null. -/
def readOptions : Reader Datum := fun lexemes =>
  (readOptional (readBetween jsonOpening readJson bothClosing) lexemes).map
    fun (d, rest) => (d.getD .null, rest)

/-- Reads the file name. -/
def readPath : Reader (Option Text) :=
  readOptional (readBetween pathOpening readLiteral bothClosing)

/-- Reads an element of a vector. -/
def readCase : Reader TestCase
  | .literal code :: rest => some (.ofCode code, rest)
  | .mark '(' :: .literal code :: .mark ',' :: rest => do
      let (options, rest) ← readOptions rest
      match rest with
      | .mark ')' :: rest => return (⟨code, options, .null, none⟩, rest)
      | .mark ',' :: rest =>
          let (settings, rest) ← readOptions rest
          let rest ← rest.dropPrefix? [.mark ',']
          let (filename, rest) ← readPath rest
          let rest ← rest.dropPrefix? [.mark ')']
          return (⟨code, options, settings, filename⟩, rest)
      | _ => none
  | _ => none

/-- Reads the elements of a vector up to its bracket, which is left. -/
def readCases : Reader (List TestCase) := fun lexemes =>
  readTerminated readCase ']' (lexemes.length + 1) lexemes

theorem refuses_readCase : Refuses readCase ']' := fun _ => rfl

theorem dropPrefix?_append (start rest : List Lexeme) :
    (start ++ rest).dropPrefix? start = some rest :=
  List.dropPrefix?_append_of_beq rest (by simp)

theorem reads_between (opening : List Lexeme) {reader : Reader α} {lexemes : List Lexeme} {x : α}
    (h : Reads reader lexemes x) (closing : List Lexeme) :
    Reads (readBetween opening reader closing) (opening ++ (lexemes ++ closing)) x := by
  intro rest
  rw [readBetween, List.append_assoc, dropPrefix?_append]
  dsimp only [bind, Option.bind]
  rw [List.append_assoc, h]
  dsimp only
  rw [dropPrefix?_append]
  rfl

theorem reads_none (reader : Reader α) :
    Reads (readOptional reader) [.word "None".toList] none := fun _ => rfl

theorem reads_some {reader : Reader α} {lexemes : List Lexeme} {x : α}
    (h : Reads reader lexemes x) :
    Reads (readOptional reader) (.word "Some".toList :: lexemes) (some x) := by
  intro rest
  rw [List.cons_append, readOptional, if_neg (by decide), if_pos rfl, h]
  rfl

/-- A pair of code and options is read as a case. -/
theorem reads_pair (code : Text) {optionLexemes : List Lexeme} {options : Datum}
    (h : Reads readOptions optionLexemes options) :
    Reads readCase (.mark '(' :: .literal code :: .mark ',' :: (optionLexemes ++ [.mark ')']))
      ⟨code, options, .null, none⟩ := by
  intro rest
  have hoptions := h (.mark ')' :: rest)
  simp [readCase, hoptions]

/-- A tuple of four parts is read as a case. -/
theorem reads_all (code : Text) {optionLexemes settingLexemes pathLexemes : List Lexeme}
    {options settings : Datum} {filename : Option Text}
    (hoptions : Reads readOptions optionLexemes options)
    (hsettings : Reads readOptions settingLexemes settings)
    (hpath : Reads readPath pathLexemes filename) :
    Reads readCase (.mark '(' :: .literal code :: .mark ',' ::
      ((optionLexemes ++ .mark ',' :: (settingLexemes ++ .mark ',' :: pathLexemes)) ++ [.mark ')']))
      ⟨code, options, settings, filename⟩ := by
  intro rest
  have hfirst := hoptions
    (.mark ',' :: (settingLexemes ++ .mark ',' :: (pathLexemes ++ .mark ')' :: rest)))
  have hnext := hsettings (.mark ',' :: (pathLexemes ++ .mark ')' :: rest))
  have hlast := hpath (.mark ')' :: rest)
  have hcomma := dropPrefix?_append [.mark ','] (pathLexemes ++ .mark ')' :: rest)
  have hclose := dropPrefix?_append [.mark ')'] rest
  rw [List.singleton_append] at hcomma hclose
  simp [readCase, hfirst, hnext, hcomma, hlast, hclose]

end Rust

/-! ## The parts of a case -/

namespace TestCase

/-- The options and settings of the case are data of JSON. -/
structure IsJson (case : TestCase) : Prop where
  options : case.options.IsJson
  settings : case.settings.IsJson

/-- The case with its tables in order, and without a file name that is empty. -/
def ordered (case : TestCase) : TestCase :=
  ⟨case.code, case.options.ordered, case.settings.ordered, case.filename.bind filename?⟩

theorem optional_of_ne_null {d : Datum} (hnull : d ≠ .null) :
    optional d = (JsonLiteral.write d).map fun text =>
      "Some(serde_json::json!(".toList ++ (text ++ "))".toList) := by
  have hoptional : optional d = do
      return "Some(".toList ++ (← JsonLiteral.writeMacro d) ++ [')'] := by
    cases d with
    | null => exact absurd rfl hnull
    | _ => rfl
  rw [hoptional, JsonLiteral.writeMacro]
  cases JsonLiteral.write d with
  | error fault => rfl
  | ok text =>
      show Except.ok _ = Except.ok _
      simp

theorem eq_null {d : Datum} (h : isNull d = true) : d = .null := by
  cases d with
  | null => rfl
  | _ => exact absurd h Bool.false_ne_true

/-- The lexemes of options or settings. -/
def optionalLexemes (d : Datum) : List Lexeme :=
  if isNull d then [.word "None".toList]
  else .word "Some".toList :: (jsonOpening ++ (d.ordered.lexemes ++ bothClosing))

/-- Options or settings of JSON have a text with these lexemes, and are read back from them. -/
theorem optional_spec {d : Datum} (h : d.IsJson) :
    (∃ text, optional d = .ok text ∧ Lexes text (optionalLexemes d)) ∧
      Reads readOptions (optionalLexemes d) d.ordered := by
  by_cases hnull : d = .null
  · subst hnull
    exact ⟨⟨_, rfl, lexes_word (by decide) (by decide)⟩, fun _ => rfl⟩
  · obtain ⟨text, hwrite, hlexes⟩ := h.lexes
    have hopen : Closed "Some(serde_json::json!(".toList (.word "Some".toList :: jsonOpening) := by
      decide
    have hclose : Closed "))".toList bothClosing := rfl
    have hread : Reads readJson d.ordered.lexemes d.ordered := fun rest =>
      h.ordered.reads (by simp) rest
    have hoptional := reads_some (reads_between jsonOpening hread bothClosing)
    rw [optionalLexemes, if_neg fun hd => hnull (eq_null hd)]
    refine ⟨⟨_, by rw [optional_of_ne_null hnull, hwrite]; rfl,
      (hopen.append (hlexes.close (by decide) hclose)).lexes⟩, fun rest => ?_⟩
    have hrest := hoptional rest
    rw [readOptions]
    simp only [List.cons_append] at hrest ⊢
    rw [hrest]
    rfl

/-- The lexemes of the file name. -/
def pathLexemes : Option Text → List Lexeme
  | none => [.word "None".toList]
  | some name => .word "Some".toList :: (pathOpening ++ ([.literal name] ++ bothClosing))

/-- The file name has a text with these lexemes, and is read back from them; it is absent if it is
empty. -/
theorem path_spec (case : TestCase) :
    Lexes case.pathLiteral (pathLexemes case.ordered.filename) ∧
      Reads readPath (pathLexemes case.ordered.filename) case.ordered.filename := by
  have hnone : Lexes "None".toList [.word "None".toList] :=
    lexes_word (by decide) (by decide)
  rw [pathLiteral, ordered]
  cases hname : case.filename with
  | none => exact ⟨hnone, reads_none _⟩
  | some name =>
      dsimp only [Option.bind_some]
      rw [filename?]
      split
      · exact ⟨hnone, reads_none _⟩
      · have hopen : Closed "Some(PathBuf::from(".toList (.word "Some".toList :: pathOpening) := by
          decide
        have hclose : Closed "))".toList bothClosing := rfl
        have hread : Reads readLiteral [.literal name] name := fun _ => rfl
        exact ⟨((hopen.append (EscapedString.closed_write name)).append hclose).lexes,
          reads_some (reads_between pathOpening hread bothClosing)⟩

theorem filename_ordered {case : TestCase} (h : case.hasFilename = false) :
    case.ordered.filename = none := by
  rw [hasFilename] at h
  rw [ordered]
  cases hname : case.filename with
  | none => rfl
  | some name =>
      rw [hname] at h
      rw [Option.bind_some, filename?, if_pos (by simpa using h)]

/-! ## Whole cases -/

/-- The text of a tuple is closed if its last part is. -/
theorem closed_tuple (code : Text) {parts : Text} {lexemes : List Lexeme}
    (h : Lexes parts lexemes) :
    Closed (['('] ++ (codeLiteral code ++ (", ".toList ++ (parts ++ [')']))))
      (.mark '(' :: .literal code :: .mark ',' :: (lexemes ++ [.mark ')'])) := by
  have hopen : Closed ['('] [.mark '('] := rfl
  have hcomma : Closed ", ".toList [.mark ','] := rfl
  have hclose : Closed [')'] [.mark ')'] := rfl
  exact hopen.append ((closed_codeLiteral code).append
    (hcomma.append (h.close (by decide) hclose)))

theorem lexes_comma {a b : Text} {as bs : List Lexeme} (ha : Lexes a as) (hb : Lexes b bs) :
    Lexes (a ++ (", ".toList ++ b)) (as ++ .mark ',' :: bs) := by
  have hcomma : Closed ", ".toList [.mark ','] := rfl
  exact ha.follow (by decide) (hb.prepend hcomma)

/-- The lexemes of the element for a case. -/
def lexemes (case : TestCase) : List Lexeme :=
  if isNull case.settings && !case.hasFilename then
    if isNull case.options then [.literal case.code]
    else .mark '(' :: .literal case.code :: .mark ',' ::
      (optionalLexemes case.options ++ [.mark ')'])
  else .mark '(' :: .literal case.code :: .mark ',' ::
    ((optionalLexemes case.options ++ .mark ',' :: (optionalLexemes case.settings ++ .mark ',' ::
      pathLexemes case.ordered.filename)) ++ [.mark ')'])

/-- A case of JSON has an element with these lexemes, and is read back from them as the case in
order. -/
theorem IsJson.snippet_spec {case : TestCase} (h : case.IsJson) :
    (∃ text, case.snippet = .ok text ∧ Closed text case.lexemes) ∧
      Reads readCase case.lexemes case.ordered := by
  obtain ⟨⟨options, hoptions, hoptionsLex⟩, hoptionsRead⟩ := optional_spec h.options
  obtain ⟨⟨settings, hsettings, hsettingsLex⟩, hsettingsRead⟩ := optional_spec h.settings
  obtain ⟨hpathLex, hpathRead⟩ := path_spec case
  rw [snippet, lexemes]
  by_cases hshort : (isNull case.settings && !case.hasFilename) = true
  · -- without settings and file name: the code alone, or a pair with the options
    obtain ⟨hnull, hfilename⟩ := Bool.and_eq_true_iff.mp hshort
    have hordered : case.ordered = ⟨case.code, case.options.ordered, .null, none⟩ := by
      have hname := filename_ordered (by simpa using hfilename : case.hasFilename = false)
      rw [ordered] at hname ⊢
      dsimp only at hname
      rw [hname, eq_null hnull]
      rfl
    rw [if_pos hshort, if_pos hshort, hordered]
    by_cases hcode : isNull case.options = true
    · rw [if_pos hcode, if_pos hcode, eq_null hcode]
      exact ⟨⟨_, rfl, closed_codeLiteral _⟩, fun rest => rfl⟩
    · rw [if_neg hcode, if_neg hcode, hoptions]
      refine ⟨⟨_, ?_, closed_tuple case.code hoptionsLex⟩, reads_pair case.code hoptionsRead⟩
      show Except.ok _ = Except.ok _
      simp
  · -- otherwise all four parts are written
    have hparts := lexes_comma hoptionsLex (lexes_comma hsettingsLex hpathLex)
    rw [if_neg hshort, if_neg hshort, hoptions, hsettings]
    refine ⟨⟨_, ?_, closed_tuple case.code hparts⟩,
      reads_all case.code hoptionsRead hsettingsRead hpathRead⟩
    show Except.ok _ = Except.ok _
    simp [Text.join]

end TestCase

/-! ## Lists of cases -/

/-- Cases of JSON have elements with their lexemes, from which they are read back one by one. -/
theorem snippets_spec {cases : List TestCase} (h : ∀ case ∈ cases, case.IsJson) :
    (∃ texts, snippets (cases.map .case) = .ok texts ∧
      List.Forall₂ Closed texts (cases.map TestCase.lexemes)) ∧
      List.Forall₂ (Reads readCase) (cases.map TestCase.lexemes)
        (cases.map TestCase.ordered) := by
  induction cases with
  | nil => exact ⟨⟨[], rfl, .nil⟩, .nil⟩
  | cons case rest ih =>
      obtain ⟨⟨text, htext, hclosed⟩, hreads⟩ := (h case (by simp)).snippet_spec
      obtain ⟨⟨texts, htexts, hall⟩, hread⟩ := ih fun other hother => h other (by simp [hother])
      refine ⟨⟨text :: texts, ?_, .cons hclosed hall⟩, .cons hreads hread⟩
      rw [snippets] at htexts ⊢
      rw [List.map_cons, List.mapM_cons, CaseItem.snippet, htext, htexts]
      rfl

end LintScaffold
