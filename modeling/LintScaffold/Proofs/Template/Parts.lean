import LintScaffold.Proofs.Template.Inline
import LintScaffold.Proofs.Text.Case
import LintScaffold.Template
import Mathlib.Data.List.Induction

/-!
# Texts and placeholders

A template without tags other than placeholders is a row of parts, each of them a text or the
name of a value.  This module follows such a row from its characters to its tokens.

* **Neighbours.**  Texts that stand next to each other are cut as one, and an empty text is not
  cut at all.  `gather` joins them, and what is cut is one token for each text that is left and
  three for each placeholder (`IsCut`).
* **The end.**  One line feed at the end of a template is left out.  It belongs to the last text
  that is not empty, so that the row without it is a row of parts again (`exists_source`).
* **Names.**  A placeholder is cut in five steps (`cut_placeholder`).  None of the forms that are
  tried before a name begins with the first character of an identifier (`exists_isFresh`), and the
  name ends at the blank behind it.
-/

namespace LintScaffold.Template

/-! ## Parts -/

/-- A part of a template: a text that is copied, or a placeholder for the value of a name. -/
inductive Part
  | text (content : Text)
  | value (name : Text)
  deriving DecidableEq

/-- The names that do not ask for what a caller supplies: the word for negation, which is the
only keyword that cannot stand alone as a name, the constants, the template itself, and the values
that are there in every template. -/
def reservedNames : List Text :=
  "not".toList :: Planning.selfName ::
    (Grammar.constantNames.map (fun entry => entry.1.toList) ++ Scope.everywhere.map Prod.fst)

namespace Part

/-- The part with a text in the place of its name. -/
def fill (textOf : Text → Text) : Part → Text
  | .text content => content
  | .value name => textOf name

/-- The name of a placeholder. -/
def name? : Part → Option Text
  | .text _ => none
  | .value name => some name

/-- A placeholder as it is written. -/
def placeholder (name : Text) : Text :=
  ['\x7b', '\x7b', ' '] ++ name ++ [' ', '\x7d', '\x7d']

/-- The text cannot be taken for a tag or a line end of another kind, and the name is an ASCII
identifier that asks for what a caller supplies. -/
def IsProper : Part → Prop
  | .text content => '\x7b' ∉ content ∧ '\r' ∉ content
  | .value name => Text.isIdentifier name = true ∧ Text.IsAscii name ∧ name ∉ reservedNames

-- the characters of a name are gone through, not all characters
instance : DecidablePred IsProper
  | .text _ => inferInstanceAs (Decidable (_ ∧ _))
  | .value name =>
      haveI : Decidable (Text.IsAscii name) := List.decidableBAll _ name
      inferInstanceAs (Decidable (_ ∧ _))

end Part

/-- The row of parts as a template. -/
def written (parts : List Part) : Text := parts.flatMap (Part.fill Part.placeholder)

/-- The names in a row of parts, in order. -/
def placeholders (parts : List Part) : List Text := parts.filterMap Part.name?

@[simp]
theorem placeholders_nil : placeholders [] = [] := rfl

@[simp]
theorem placeholders_text (content : Text) (rest : List Part) :
    placeholders (.text content :: rest) = placeholders rest := rfl

@[simp]
theorem placeholders_value (name : Text) (rest : List Part) :
    placeholders (.value name :: rest) = name :: placeholders rest := rfl

@[simp]
theorem placeholders_append (parts others : List Part) :
    placeholders (parts ++ others) = placeholders parts ++ placeholders others :=
  List.filterMap_append

theorem isProper_of_mem_placeholders {parts : List Part} (hparts : ∀ part ∈ parts, part.IsProper)
    {name : Text} (hname : name ∈ placeholders parts) : (Part.value name).IsProper := by
  obtain ⟨part, hpart, hname⟩ := List.mem_filterMap.mp hname
  cases part with
  | text content => exact absurd hname (by simp [Part.name?])
  | value other => exact Option.some.inj hname ▸ hparts _ hpart

/-! ## Joined texts -/

/-- A text as a row of parts. -/
def textPart (content : Text) : List Part := if content.isEmpty then [] else [.text content]

/-- The parts behind a text, with neighbouring texts joined and empty ones left out. -/
def gather (before : Text) : List Part → List Part
  | [] => textPart before
  | .text content :: rest => gather (before ++ content) rest
  | .value name :: rest => textPart before ++ .value name :: gather [] rest

theorem flatMap_textPart (textOf : Text → Text) (content : Text) :
    (textPart content).flatMap (Part.fill textOf) = content := by
  cases content with
  | nil => rfl
  | cons c rest => exact List.append_nil _

theorem flatMap_gather (textOf : Text → Text) (before : Text) (parts : List Part) :
    (gather before parts).flatMap (Part.fill textOf) =
      before ++ parts.flatMap (Part.fill textOf) := by
  induction parts generalizing before with
  | nil => rw [gather, flatMap_textPart, List.flatMap_nil, List.append_nil]
  | cons part rest ih =>
      cases part with
      | text content => rw [gather, ih, List.append_assoc]; rfl
      | value name =>
          rw [gather, List.flatMap_append, flatMap_textPart, List.flatMap_cons, ih]
          rfl

theorem placeholders_textPart (content : Text) : placeholders (textPart content) = [] := by
  cases content <;> rfl

theorem placeholders_gather (before : Text) (parts : List Part) :
    placeholders (gather before parts) = placeholders parts := by
  induction parts generalizing before with
  | nil => exact placeholders_textPart before
  | cons part rest ih =>
      cases part with
      | text content => rw [gather, ih, placeholders_text]
      | value name =>
          rw [gather, placeholders_append, placeholders_textPart, List.nil_append,
            placeholders_value, placeholders_value, ih]

/-! ## Names -/

/-- Of all that can begin inside a tag, only a name begins with the character. -/
def isFresh (c : Char) : Bool :=
  isNameChar c && !Text.isBlank c && !Text.isDecimal c && !Text.isAsciiDigit c &&
    c ≠ '-' && c ≠ '\x7d'

theorem names_evaluated :
    (∀ n < 128, Text.isIdentifierStart (Char.ofNat n) = true → isFresh (Char.ofNat n) = true) ∧
    (∀ n < 128, Text.isIdentifierPart (Char.ofNat n) = true → isNameChar (Char.ofNat n) = true) ∧
    isNameChar ' ' = false ∧ Text.isBlank ' ' = true ∧ Text.isBlank '\x7d' = false ∧
    Text.isIdentifierPart '\r' = false := by
  decide +kernel

theorem isIdentifierPart_of_mem {name : Text} (hname : Text.isIdentifier name = true) {c : Char}
    (hc : c ∈ name) : Text.isIdentifierPart c = true := by
  cases name with
  | nil => exact absurd hc List.not_mem_nil
  | cons first rest =>
      rw [Text.isIdentifier, Bool.and_eq_true, List.all_eq_true] at hname
      obtain rfl | hrest := List.mem_cons.mp hc
      · rw [Text.isIdentifierPart, hname.1, Bool.true_or]
      · exact hname.2 c hrest

theorem isNameChar_of_mem {name : Text} (hname : Text.isIdentifier name = true)
    (hascii : Text.IsAscii name) {c : Char} (hc : c ∈ name) : isNameChar c = true :=
  Text.forall_char_lt (P := fun c => Text.isIdentifierPart c = true → isNameChar c = true)
    names_evaluated.2.1 (hascii c hc) (isIdentifierPart_of_mem hname hc)

theorem exists_isFresh {name : Text} (hname : Text.isIdentifier name = true)
    (hascii : Text.IsAscii name) : ∃ c rest, name = c :: rest ∧ isFresh c = true := by
  cases name with
  | nil => exact absurd hname (by simp [Text.isIdentifier])
  | cons c rest =>
      rw [Text.isIdentifier, Bool.and_eq_true] at hname
      exact ⟨c, rest, rfl, Text.forall_char_lt
        (P := fun c => Text.isIdentifierStart c = true → isFresh c = true)
        names_evaluated.1 (hascii c List.mem_cons_self) hname.1⟩

/-! ## The line feed at the end -/

theorem return_notMem_written {parts : List Part} (hparts : ∀ part ∈ parts, part.IsProper) :
    '\r' ∉ written parts := by
  intro hreturn
  obtain ⟨part, hpart, hmem⟩ := List.mem_flatMap.mp hreturn
  cases part with
  | text content => exact (hparts _ hpart).2 hmem
  | value name =>
      have hname : '\r' ∈ name := by simpa [Part.fill, Part.placeholder] using hmem
      have hidentifier := isIdentifierPart_of_mem (hparts _ hpart).1 hname
      rw [names_evaluated.2.2.2.2.2] at hidentifier
      exact absurd hidentifier Bool.false_ne_true

theorem placeholder_eq (name : Text) :
    Part.placeholder name = (['\x7b', '\x7b', ' '] ++ name ++ [' ', '\x7d']) ++ ['\x7d'] := by
  rw [Part.placeholder, List.append_assoc _ [' ', '\x7d'] _]
  rfl

/-- A row of parts that ends with a line feed has it in its last text that is not empty. -/
theorem exists_dropLast {parts : List Part} (hparts : ∀ part ∈ parts, part.IsProper)
    (hend : (written parts).getLast? = some '\n') :
    ∃ source : List Part, (∀ part ∈ source, part.IsProper) ∧
      placeholders source = placeholders parts ∧
      ∀ textOf : Text → Text, parts.flatMap (Part.fill textOf) =
        source.flatMap (Part.fill textOf) ++ ['\n'] := by
  induction parts using List.reverseRecOn with
  | nil => exact absurd hend (by simp [written])
  | append_singleton init last ih =>
      rw [List.forall_mem_append, List.forall_mem_singleton] at hparts
      rw [written, List.flatMap_append, List.flatMap_singleton] at hend
      simp only [List.flatMap_append, List.flatMap_singleton, placeholders_append]
      cases last with
      | value name =>
          rw [Part.fill, placeholder_eq, ← List.append_assoc, List.getLast?_concat] at hend
          exact absurd hend (by decide)
      | text content =>
          cases List.eq_nil_or_concat content with
          | inl hempty =>
              subst hempty
              obtain ⟨source, hsource, hnames, hfill⟩ := ih hparts.1
                (by simpa [Part.fill, written] using hend)
              exact ⟨source, hsource, by simpa using hnames, by simpa [Part.fill] using hfill⟩
          | inr hconcat =>
              obtain ⟨front, c, rfl⟩ := hconcat
              obtain rfl : c = '\n' := by simpa [Part.fill] using hend
              have hfront : (Part.text front).IsProper := by
                have hlast := hparts.2
                simp only [Part.IsProper, List.concat_eq_append, List.mem_append, not_or] at hlast
                exact ⟨hlast.1.1, hlast.2.1⟩
              refine ⟨init ++ [.text front], ?_, by simp, by simp [Part.fill]⟩
              exact List.forall_mem_append.mpr ⟨hparts.1, List.forall_mem_singleton.mpr hfront⟩

/-- What is cut of a row of parts is a row of parts with the same names, and both differ only in
line feeds at the end, whatever stands in the place of the names. -/
theorem exists_source {parts : List Part} (hparts : ∀ part ∈ parts, part.IsProper) :
    ∃ source : List Part, sourceOf (written parts) = written source ∧
      (∀ part ∈ source, part.IsProper) ∧
      placeholders source = placeholders parts ∧
      ∀ textOf : Text → Text, ∃ n, parts.flatMap (Part.fill textOf) =
        source.flatMap (Part.fill textOf) ++ List.replicate n '\n' := by
  rw [sourceOf, Text.unifyLines_of_notMem (return_notMem_written hparts)]
  by_cases hend : (written parts).getLast? = some '\n'
  · obtain ⟨source, hsource, hnames, hfill⟩ := exists_dropLast hparts hend
    refine ⟨source, ?_, hsource, hnames, fun textOf => ⟨1, hfill textOf⟩⟩
    rw [endsLine, decide_eq_true hend, if_pos rfl, written, hfill, List.dropLast_concat, written]
  · refine ⟨parts, ?_, hparts, rfl, fun _ => ⟨0, (List.append_nil _).symm⟩⟩
    rw [endsLine, decide_eq_false hend, if_neg Bool.false_ne_true]

/-! ## Tokens -/

/-- The tokens are those of the parts, on whatever lines they stand. -/
inductive IsCut : List Part → List Located → Prop
  | nil (line : Nat) : IsCut [] [⟨line, .eof⟩]
  | text {content : Text} {rest : List Part} {tokens : List Located} (line : Nat)
      (hrest : IsCut rest tokens) :
      IsCut (.text content :: rest) (⟨line, .data content⟩ :: tokens)
  | value {name : Text} {rest : List Part} {tokens : List Located} (first second third : Nat)
      (hrest : IsCut rest tokens) :
      IsCut (.value name :: rest)
        (⟨first, .variableBegin⟩ :: ⟨second, .name name⟩ :: ⟨third, .variableEnd⟩ :: tokens)

theorem IsCut.behindText {parts : List Part} {tokens : List Located} (h : IsCut parts tokens)
    (line : Nat) (content : Text) :
    IsCut (textPart content ++ parts) (dataToken line content ++ tokens) := by
  cases content with
  | nil => exact h
  | cons c rest => exact .text line h

/-! ## Outside of placeholders -/

theorem takeOpening?_of_ne {c : Char} (hc : c ≠ '\x7b') (rest : Text) :
    takeOpening? (c :: rest) = none := by
  unfold takeOpening?
  split
  all_goals first | rfl | (rename_i heq; exact absurd (List.cons.inj heq).1 hc)

theorem splitAtOpening_append {before : Text} (hbefore : '\x7b' ∉ before) (text : Text) :
    splitAtOpening (before ++ text) =
      (before ++ (splitAtOpening text).1, (splitAtOpening text).2) := by
  induction before with
  | nil => rfl
  | cons c rest ih =>
      rw [List.mem_cons, not_or] at hbefore
      rw [List.cons_append, splitAtOpening, takeOpening?_of_ne (Ne.symm hbefore.1)]
      dsimp only
      rw [ih hbefore.2, List.cons_append]

theorem stepOutside_end {before : Text} (hbefore : '\x7b' ∉ before) (lineStarting : Bool)
    (line : Nat) :
    stepOutside lineStarting line before = .stop (dataToken line before ++ [⟨line, .eof⟩]) := by
  have hsplit := splitAtOpening_append hbefore []
  rw [List.append_nil] at hsplit
  rw [stepOutside, hsplit]
  dsimp only [splitAtOpening]
  rw [List.append_nil]

theorem stepOutside_placeholder {before : Text} (hbefore : '\x7b' ∉ before) (lineStarting : Bool)
    (line : Nat) (rest : Text) :
    stepOutside lineStarting line (before ++ '\x7b' :: '\x7b' :: ' ' :: rest) =
      .next (dataToken line before ++ [⟨line + Text.lineFeeds before, .variableBegin⟩])
        (.inside .variable [] false) (line + Text.lineFeeds before) (' ' :: rest) := by
  have hopening : splitAtOpening ('\x7b' :: '\x7b' :: ' ' :: rest) =
      ([], some (⟨.variable, .plain, ['\x7b', '\x7b']⟩, ' ' :: rest)) := rfl
  rw [stepOutside, splitAtOpening_append hbefore, hopening, List.append_nil]
  rfl

/-! ## Inside of placeholders -/

/-- The end of a placeholder takes no line feed, so that a plus in front of it means nothing. -/
theorem takeEnd?_of_ne {c : Char} (hc : c ≠ '-') (rest : Text) :
    Inner.variable.takeEnd? (c :: rest) =
      (Text.dropStart? variableClose (c :: rest)).map (variableClose, ·) := by
  unfold Inner.takeEnd? takeEnd?
  dsimp only
  split
  · rename_i heq
    exact absurd (List.cons.inj heq).1 hc
  · split
    · rename_i found hfound
      split at hfound <;> simp at hfound
    · cases Text.dropStart? variableClose (c :: rest) with
      | none => rfl
      | some behind => split <;> simp_all

theorem stepInside_blank (total line : Nat) {c : Char} (hc : Text.isBlank c = false)
    (rest : Text) :
    stepInside total .variable [] false line (' ' :: c :: rest) =
      .next [] (.inside .variable [] false) line (c :: rest) := by
  have hend : Inner.variable.takeEnd? (' ' :: c :: rest) = none :=
    takeEnd?_of_ne (by decide) _
  have hblanks : takeBlanks (' ' :: c :: rest) = ([' '], c :: rest) := by
    rw [takeBlanks, List.takeWhile_cons_of_pos names_evaluated.2.2.2.1,
      List.dropWhile_cons_of_pos names_evaluated.2.2.2.1, List.takeWhile_cons_of_neg (by simp [hc]),
      List.dropWhile_cons_of_neg (by simp [hc])]
  unfold stepInside
  rw [List.isEmpty_nil, if_pos rfl, hend]
  dsimp only
  rw [hblanks]
  rfl

theorem stepInside_end (total line : Nat) (rest : Text) :
    stepInside total .variable [] false line ('\x7d' :: '\x7d' :: rest) =
      .next [⟨line, .variableEnd⟩] (.outside false) line rest := by
  have hend : Inner.variable.takeEnd? ('\x7d' :: '\x7d' :: rest) = some (variableClose, rest) :=
    takeEnd?_of_ne (by decide) _
  unfold stepInside
  rw [List.isEmpty_nil, if_pos rfl, hend]
  rfl

theorem takeFloat?_of_not_isDecimal {c : Char} (hc : Text.isDecimal c = false) (rest : Text) :
    takeFloat? (c :: rest) = none := by
  rw [takeFloat?, takeDigits?, hc, if_neg Bool.false_ne_true]

theorem takeInteger?_of_not_isAsciiDigit {c : Char} (hc : Text.isAsciiDigit c = false)
    (rest : Text) : takeInteger? (c :: rest) = none := by
  have hzero : c ≠ '0' := fun h => absurd hc (by rw [h]; decide)
  have hbased : takeBased? (c :: rest) = none := by
    unfold takeBased?
    split
    · rename_i heq
      exact absurd (List.cons.inj heq).1 hzero
    · rfl
  unfold takeInteger?
  rw [hbased]
  dsimp only
  split
  · rename_i heq
    exact absurd (List.cons.inj heq).1 hzero
  · rename_i heq
    rw [← (List.cons.inj heq).1, hc, if_neg Bool.false_ne_true]
  · rfl

/-- Numbers do not begin as names do, so that the name is all that can be cut. -/
theorem scanWord?_name {name : Text} (hname : Text.isIdentifier name = true)
    (hascii : Text.IsAscii name) (rest : Text) :
    scanWord? false (name ++ ' ' :: rest) = some ⟨.name name, 0, ' ' :: rest⟩ := by
  have htake : takeName? (name ++ ' ' :: rest) = some (name, ' ' :: rest) := by
    have hall : ∀ c ∈ name, isNameChar c = true := fun c => isNameChar_of_mem hname hascii
    have hblank : ¬ isNameChar ' ' = true := by rw [names_evaluated.2.2.1]; exact Bool.false_ne_true
    rw [takeName?, List.takeWhile_append_of_pos hall, List.dropWhile_append_of_pos hall,
      List.takeWhile_cons_of_neg hblank, List.dropWhile_cons_of_neg hblank, List.append_nil]
    cases name with
    | nil => exact absurd hname Bool.false_ne_true
    | cons c rest => rfl
  obtain ⟨c, more, rfl, hc⟩ := exists_isFresh hname hascii
  simp only [isFresh, Bool.and_eq_true, Bool.not_eq_true'] at hc
  obtain ⟨⟨⟨⟨-, hdecimal⟩, hdigit⟩, -⟩, -⟩ := hc
  have hfloat := takeFloat?_of_not_isDecimal hdecimal (more ++ ' ' :: rest)
  have hinteger := takeInteger?_of_not_isAsciiDigit hdigit (more ++ ' ' :: rest)
  rw [List.cons_append] at htake ⊢
  unfold scanWord? nameToken
  rw [if_neg Bool.false_ne_true, hfloat, hinteger, htake]
  dsimp only
  rw [hname, if_pos rfl]

theorem stepInside_name (total line : Nat) {name : Text} (hname : Text.isIdentifier name = true)
    (hascii : Text.IsAscii name) (rest : Text) :
    stepInside total .variable [] false line (name ++ ' ' :: rest) =
      .next [⟨line, .name name⟩] (.inside .variable [] false) line (' ' :: rest) := by
  have hscan := scanWord?_name hname hascii rest
  obtain ⟨c, more, rfl, hc⟩ := exists_isFresh hname hascii
  simp only [isFresh, Bool.and_eq_true, Bool.not_eq_true', decide_eq_true_eq] at hc
  obtain ⟨⟨⟨⟨⟨-, hblank⟩, -⟩, -⟩, hminus⟩, hclose⟩ := hc
  rw [List.cons_append] at hscan ⊢
  have hdrop : Text.dropStart? variableClose (c :: (more ++ ' ' :: rest)) = none :=
    if_neg (Ne.symm hclose)
  have hend := takeEnd?_of_ne hminus (more ++ ' ' :: rest)
  rw [hdrop, Option.map_none] at hend
  have hblanks : takeBlanks (c :: (more ++ ' ' :: rest)) = ([], c :: (more ++ ' ' :: rest)) := by
    rw [takeBlanks, List.takeWhile_cons_of_neg (by simp [hblank]),
      List.dropWhile_cons_of_neg (by simp [hblank])]
  unfold stepInside
  rw [List.isEmpty_nil, if_pos rfl, hend]
  dsimp only
  rw [hblanks]
  dsimp only
  rw [hscan]
  rfl

/-- A placeholder is cut in five steps, behind the text before it. -/
theorem cut_placeholder {before : Text} (hbefore : '\x7b' ∉ before) {name : Text}
    (hname : Text.isIdentifier name = true) (hascii : Text.IsAscii name) (total fuel : Nat)
    (lineStarting : Bool) (line : Nat) (rest : Text) :
    ∃ place, cut total (fuel + 5) (.outside lineStarting) line
        (before ++ (Part.placeholder name ++ rest)) =
      dataToken line before ++ ⟨place, .variableBegin⟩ :: ⟨place, .name name⟩ ::
        ⟨place, .variableEnd⟩ :: cut total fuel (.outside false) place rest := by
  have hplaceholder : Part.placeholder name ++ rest =
      '\x7b' :: '\x7b' :: ' ' :: (name ++ ' ' :: '\x7d' :: '\x7d' :: rest) := by
    simp [Part.placeholder]
  have hfirst : ∃ c more, name = c :: more ∧ Text.isBlank c = false := by
    obtain ⟨c, more, hcons, hc⟩ := exists_isFresh hname hascii
    exact ⟨c, more, hcons, by simp_all [isFresh]⟩
  obtain ⟨c, more, hcons, hc⟩ := hfirst
  have hblank := stepInside_blank total (line + Text.lineFeeds before) hc
    (more ++ ' ' :: '\x7d' :: '\x7d' :: rest)
  rw [← List.cons_append, ← hcons] at hblank
  refine ⟨line + Text.lineFeeds before, ?_⟩
  rw [hplaceholder]
  simp only [cut, step, stepOutside_placeholder hbefore, hblank, stepInside_name _ _ hname hascii,
    stepInside_blank _ _ names_evaluated.2.2.2.2.1, stepInside_end, List.nil_append,
    List.cons_append, List.append_assoc]

/-- What is cut of a row of parts is one token for each text that is left when neighbours are
joined, three for each placeholder, and the end. -/
theorem isCut_written {parts : List Part} (hparts : ∀ part ∈ parts, part.IsProper) {before : Text}
    (hbefore : '\x7b' ∉ before) {total fuel : Nat}
    (hfuel : (before ++ written parts).length < fuel) (lineStarting : Bool) (line : Nat) :
    IsCut (gather before parts)
      (cut total fuel (.outside lineStarting) line (before ++ written parts)) := by
  induction parts generalizing before fuel lineStarting line with
  | nil =>
      obtain ⟨fuel, rfl⟩ : ∃ n, fuel = n + 1 := ⟨fuel - 1, by omega⟩
      have hcut := (IsCut.nil line).behindText line before
      rw [List.append_nil] at hcut
      rw [written, List.flatMap_nil, List.append_nil, cut, step, stepOutside_end hbefore]
      exact hcut
  | cons part rest ih =>
      rw [List.forall_mem_cons] at hparts
      cases part with
      | text content =>
          have hjoined : before ++ written (.text content :: rest) =
              before ++ content ++ written rest := (List.append_assoc ..).symm
          rw [hjoined] at hfuel ⊢
          refine ih hparts.2 ?_ hfuel lineStarting line
          rw [List.mem_append, not_or]
          exact ⟨hbefore, hparts.1.1⟩
      | value name =>
          obtain ⟨hname, hascii, -⟩ := hparts.1
          have hsplit : before ++ written (.value name :: rest) =
              before ++ (Part.placeholder name ++ written rest) := rfl
          rw [hsplit] at hfuel ⊢
          have hlength : (written rest).length + 5 < fuel := by
            have hlong : 5 < (Part.placeholder name).length := by simp [Part.placeholder]
            simp only [List.length_append] at hfuel
            omega
          obtain ⟨more, rfl⟩ : ∃ n, fuel = n + 5 := ⟨fuel - 5, by omega⟩
          obtain ⟨place, hcut⟩ := cut_placeholder hbefore hname hascii total more lineStarting line
            (written rest)
          rw [hcut, gather]
          have hrest : (([] : Text) ++ written rest).length < more := by
            rw [List.nil_append]
            omega
          exact .behindText (.value place place place
            (ih hparts.2 List.not_mem_nil hrest false place)) line before

/-- The tokens of a row of parts are those of another one that has the same names.  With the same
texts in the place of the names, both differ only in line feeds at the end. -/
theorem exists_isCut {parts : List Part} (hparts : ∀ part ∈ parts, part.IsProper) :
    ∃ row : List Part, IsCut row (tokenize (written parts)) ∧
      placeholders row = placeholders parts ∧
      ∀ textOf : Text → Text, ∃ n, parts.flatMap (Part.fill textOf) =
        row.flatMap (Part.fill textOf) ++ List.replicate n '\n' := by
  obtain ⟨source, hsource, hproper, hnames, hfill⟩ := exists_source hparts
  refine ⟨gather [] source, ?_, (placeholders_gather [] source).trans hnames, fun textOf => ?_⟩
  · rw [tokenize, hsource]
    show IsCut _ (cut _ (([] ++ written source).length + 1) _ _ ([] ++ written source))
    exact isCut_written hproper List.not_mem_nil (Nat.lt_succ_self _) true 1
  · rw [flatMap_gather]
    exact hfill textOf

end LintScaffold.Template
