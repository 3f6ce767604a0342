import LintScaffold.Proofs.Rust.Case

/-!
# The words of a case

The element of the vector for a case has few words.  Besides those that stand around options,
settings and file names they are the scalars of JSON, since all texts of the case are in literals.
So a path is made in the element exactly if the case has a file name, however its code, its options
and its settings look; and nothing is imported there.
-/

namespace LintScaffold

open Rust

/-! ## Words between marks -/

theorem Rust.word_mem_separated {word : Text} {close : Char} {pieces : List (List Lexeme)} :
    .word word ∈ separated close pieces ↔ ∃ piece ∈ pieces, .word word ∈ piece := by
  induction pieces with
  | nil => simp [separated]
  | cons piece rest ih =>
      cases rest with
      | nil => simp [separated]
      | cons other later =>
          rw [separated, List.mem_append, List.mem_cons, ih, List.exists_mem_cons_iff]
          · simp
          · simp

theorem Rust.word_mem_terminated {word : Text} {pieces : List (List Lexeme)} :
    .word word ∈ terminated pieces ↔ ∃ piece ∈ pieces, .word word ∈ piece := by
  simp [terminated]

/-! ## Words of data -/

/-- Every word of a datum can be read as a scalar. -/
theorem Datum.IsJson.readWord_ne_none {d : Datum} (h : d.IsJson) {word : Text}
    (hword : .word word ∈ d.lexemes) : readWord word ≠ none := by
  induction h with
  | null =>
      obtain rfl : word = "null".toList := by simpa [lexemes] using hword
      decide
  | bool b =>
      obtain rfl : word = if b then "true".toList else "false".toList := by
        simpa [lexemes] using hword
      cases b <;> decide
  | @int n hlong =>
      obtain rfl : word = Text.ofInt n := by simpa [lexemes] using hword
      rw [← Json.text_ofInt, Json.readWord_text (Json.isProper_ofInt _) (Json.value_ofInt hlong)]
      simp
  | @float negative rank hrank =>
      obtain ⟨numeral, hproper, htext, hvalue⟩ := Binary64.exists_numeral negative hrank
      obtain rfl : word = (Binary64.finite negative rank).text := by simpa [lexemes] using hword
      rw [← htext, Json.readWord_text hproper hvalue]
      simp
  | text t => simp [lexemes] at hword
  | @list items hitems ih =>
      -- around the items there are only marks
      rw [lexemes, itemLexemes_eq, List.mem_cons, word_mem_separated] at hword
      obtain hmark | ⟨piece, hpiece, hword⟩ := hword
      · exact absurd hmark (by simp)
      · obtain ⟨item, hitem, rfl⟩ := List.mem_map.mp hpiece
        exact ih item hitem hword
  | @table entries hkeys hitems ih =>
      -- the keys are literals, so that the words are those of the values
      rw [ofTable, lexemes, entryLexemes_eq, List.mem_cons, word_mem_separated] at hword
      obtain hmark | ⟨piece, hpiece, hword⟩ := hword
      · exact absurd hmark (by simp)
      · obtain ⟨entry, hentry, rfl⟩ := List.mem_map.mp hpiece
        exact ih entry hentry (by simpa [pairLexemes] using hword)

/-! ## Words of cases -/

namespace TestCase

/-- The words around options and settings. -/
def frameWords : List Text :=
  ["None".toList, "Some".toList, "serde_json".toList, "json".toList]

/-- The words around a file name. -/
def pathWords : List Text := ["PathBuf".toList, "from".toList]

variable {word : Text}

theorem mem_frameWords_or {d : Datum} (h : d.IsJson) (hword : .word word ∈ optionalLexemes d) :
    word ∈ frameWords ∨ readWord word ≠ none := by
  have hopening : .word word ∈ jsonOpening → word ∈ frameWords := by
    simp only [jsonOpening, frameWords, List.mem_cons, Lexeme.word.injEq, reduceCtorEq]
    tauto
  unfold optionalLexemes at hword
  split at hword
  · obtain rfl : word = "None".toList := by simpa using hword
    exact .inl (by decide)
  · rw [List.mem_cons, List.mem_append, List.mem_append] at hword
    rcases hword with hsome | hopen | hdatum | hclose
    · obtain rfl : word = "Some".toList := Lexeme.word.inj hsome
      exact .inl (by decide)
    · exact .inl (hopening hopen)
    · exact .inr (h.ordered.readWord_ne_none hdatum)
    · simp [bothClosing] at hclose

theorem mem_pathWords_or {filename : Option Text} (hword : .word word ∈ pathLexemes filename) :
    word ∈ frameWords ∨ filename.isSome = true ∧ word ∈ pathWords := by
  cases filename with
  | none =>
      obtain rfl : word = "None".toList := by simpa [pathLexemes] using hword
      exact .inl (by decide)
  | some name =>
      simp only [pathLexemes, pathOpening, bothClosing, List.cons_append, List.nil_append,
        List.mem_cons, Lexeme.word.injEq, reduceCtorEq, List.not_mem_nil, or_false,
        false_or] at hword
      rcases hword with rfl | rfl | rfl
      · exact .inl (by decide)
      · exact .inr ⟨rfl, by decide⟩
      · exact .inr ⟨rfl, by decide⟩

/-- A file name is written if and only if the case has one. -/
theorem isSome_filename_ordered (case : TestCase) :
    case.ordered.filename.isSome = case.hasFilename := by
  rw [ordered, hasFilename]
  cases case.filename with
  | none => rfl
  | some name =>
      cases name with
      | nil => rfl
      | cons c rest => rfl

/-- The words of a case stand around its parts, or are scalars of its options and settings. -/
theorem IsJson.mem_words {case : TestCase} (h : case.IsJson)
    (hword : .word word ∈ case.lexemes) :
    word ∈ frameWords ∨ readWord word ≠ none ∨ case.hasFilename = true ∧ word ∈ pathWords := by
  have hdata : ∀ {d : Datum}, d.IsJson → .word word ∈ optionalLexemes d →
      word ∈ frameWords ∨ readWord word ≠ none ∨ case.hasFilename = true ∧ word ∈ pathWords :=
    fun hd hmem => (mem_frameWords_or hd hmem).imp_right .inl
  unfold lexemes at hword
  split at hword
  · split at hword
    · simp at hword
    · simp only [List.mem_cons, List.mem_append, reduceCtorEq, false_or, List.not_mem_nil,
        or_false] at hword
      exact hdata h.options hword
  · simp only [List.mem_cons, List.mem_append, reduceCtorEq, false_or, List.not_mem_nil,
      or_false] at hword
    rcases hword with hoptions | hsettings | hpath
    · exact hdata h.options hoptions
    · exact hdata h.settings hsettings
    · have hwords := mem_pathWords_or hpath
      rw [isSome_filename_ordered] at hwords
      exact hwords.imp_right .inr

/-- Nothing is imported in a case. -/
theorem IsJson.use_not_mem {case : TestCase} (h : case.IsJson) :
    .word "use".toList ∉ case.lexemes := by
  intro hword
  rcases h.mem_words hword with hframe | hscalar | ⟨-, hpath⟩
  · exact absurd hframe (by decide)
  · exact hscalar rfl
  · exact absurd hpath (by decide)

/-! ## Paths -/

/-- A path is made from a text: `PathBuf::from(`. -/
def pathFrom : List Lexeme :=
  [.word "PathBuf".toList, .mark ':', .mark ':', .word "from".toList, .mark '(']

theorem pathFrom_infix {case : TestCase} (h : case.hasFilename = true) :
    pathFrom <:+: case.lexemes := by
  obtain ⟨name, hname⟩ := Option.isSome_iff_exists.mp ((isSome_filename_ordered case).trans h)
  have hpath : pathFrom <:+: pathLexemes case.ordered.filename := by
    rw [hname]
    exact ⟨[.word "Some".toList, .mark '('], .literal name :: bothClosing, rfl⟩
  rw [lexemes, h, Bool.not_true, Bool.and_false, if_neg Bool.false_ne_true]
  exact hpath.trans ⟨.mark '(' :: .literal case.code :: .mark ',' ::
    (optionalLexemes case.options ++ .mark ',' :: (optionalLexemes case.settings ++ [.mark ','])),
    [.mark ')'], by simp⟩

end TestCase

/-- A path is made in the text. -/
def Rust.MakesPath (text : Text) : Prop :=
  ∃ lexemes, lex? text = some lexemes ∧ TestCase.pathFrom <:+: lexemes

/-- The element for a case makes a path exactly if the case has a file name. -/
theorem TestCase.IsJson.makesPath_iff {case : TestCase} (h : case.IsJson) {text : Text}
    (htext : case.snippet = .ok text) : MakesPath text ↔ case.hasFilename = true := by
  obtain ⟨⟨found, hfound, hclosed⟩, -⟩ := h.snippet_spec
  obtain rfl := Except.ok.inj (htext.symm.trans hfound)
  constructor
  · rintro ⟨lexemes, hlex, hwithin⟩
    obtain rfl := Option.some.inj (hclosed.lex?_eq.symm.trans hlex)
    rcases h.mem_words (hwithin.subset List.mem_cons_self) with hframe | hscalar | ⟨hname, -⟩
    · exact absurd hframe (by decide)
    · exact absurd rfl hscalar
    · exact hname
  · exact fun hname => ⟨_, hclosed.lex?_eq, pathFrom_infix hname⟩

end LintScaffold
