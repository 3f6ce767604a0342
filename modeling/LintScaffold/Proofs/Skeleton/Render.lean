import LintScaffold.Proofs.Attempt
import LintScaffold.Proofs.Skeleton.Source
import LintScaffold.Proofs.Template.Plain
import LintScaffold.Renderer

/-!
# Rendering the skeleton

The skeleton is a plain template, and its pieces are found by evaluation, once and for all.
What they write follows from the rules for the steps of a template: with the bindings of a
rule, they write the source of that rule, whatever the name, the category and the elements of
the vectors are.
-/

namespace LintScaffold

open Template (Piece Word Mention Scope Value Writes WritesAll)

namespace Skeleton

/-! ## The plan -/

/-- The mention of a name that the template asks for. -/
def asked (name : String) : Mention := ⟨⟨0, name.toList⟩, name.toList, false⟩

/-- The names that the template asks for. -/
def names : List Text :=
  ["pascal_rule_name".toList, "category_is_placeholder".toList, "category".toList,
    "has_filename".toList, "pass_cases".toList, "fail_cases".toList]

/-- The variable that goes through the elements of a vector. -/
def caseVariable : Template.Variable := ⟨1, "case".toList⟩

/-- The lines of the elements of a vector. -/
def elements (items : String) : Piece :=
  .loop caseVariable (asked items)
    [.data (indent ++ indent), .value ⟨caseVariable, "case".toList, true⟩, .data comma]

/-- The piece for the lines of the category. -/
def categoryPiece : Piece :=
  .choose (asked "category_is_placeholder")
    [.data indent, .value (asked "category"), .data placeholderRemark]
    [.data indent, .value (asked "category"), .data comma]

/-- The piece for the line for file names. -/
def importPiece : Piece := .choose (asked "has_filename") [.data pathImport] []

/-- The pieces of the template. -/
def pieces : List Piece :=
  let name : Piece := .word (.value (asked "pascal_rule_name"))
  [.word (.data opening), name, .word (.data declaration), name, .word (.data comma),
    categoryPiece,
    .word (.data implementation), name, .word (.data testOpening),
    importPiece,
    .word (.data passOpening), elements "pass_cases",
    .word (.data failOpening), elements "fail_cases",
    .word (.data testing), name, .word (.data closing)]

set_option maxRecDepth 100000 in
theorem compile_text :
    Template.compile text = .ok ⟨.plain names pieces⟩ := by
  have hplain : ((Template.compile text).toOption.any fun template =>
      template.plan.isPlain names pieces) = true := by
    rw [show text = block lines from rfl, lines]
    simp only [pieces, opening, declaration, placeholderRemark, categoryPiece, implementation,
      testOpening, pathImport, importPiece, passOpening, failOpening, testing, closing]
    repeat rw [block_cons]
    repeat rw [String.toList_ofList]
    decide +kernel
  cases hcompiled : Template.compile text with
  | error fault =>
      rw [hcompiled] at hplain
      exact absurd hplain (by simp [Except.toOption])
  | ok template =>
      rw [hcompiled] at hplain
      have heq := Template.eq_of_isPlain (by simpa [Except.toOption] using hplain)
      rw [← heq]

/-! ## The scope -/

/-- The scope in which the template begins. -/
def scope (bindings : List (Text × Value)) : Scope :=
  (⟨bindings, [], []⟩ : Scope).enter (names.map fun name => (⟨0, name⟩, .asked name))

theorem isDistinct_scope (bindings : List (Text × Value)) : (scope bindings).IsDistinct :=
  (Scope.enter_asked names ⟨bindings, [], []⟩).2.1 List.nodup_nil

theorem lookup_caseVariable (bindings : List (Text × Value)) :
    (scope bindings).values.lookup caseVariable = none := by
  rw [scope, (Scope.enter_asked names ⟨bindings, [], []⟩).2.2, if_neg]
  · rfl
  · rintro ⟨hdepth, -⟩
    exact absurd hdepth (by decide)

theorem look_asked {bindings : List (Text × Value)} {name : String} {v : Value}
    (hname : name.toList ∈ names) (hv : bindings.lookup name.toList = some v)
    (hset : v ≠ .unset) : (scope bindings).look (asked name) = v := by
  show ((Template.Plan.plain names pieces).scope bindings).look (.asked name.toList) = v
  exact Template.Plan.look_plain hname hv hset

/-! ## What is written -/

theorem writes_pascal (renderer : Renderer) (name : RuleName) (hasFilename : Bool)
    (pass fail : List Text) :
    Writes (scope (renderer.bindings name hasFilename pass fail))
      (Piece.word (.value (asked "pascal_rule_name"))).step name.pascal :=
  Template.writes_text (look_asked (by simp [names]) (by simp [Renderer.bindings]) (by simp))

theorem writes_category (renderer : Renderer) (name : RuleName) (hasFilename : Bool)
    (pass fail : List Text) :
    Writes (scope (renderer.bindings name hasFilename pass fail)) categoryPiece.step
      (categoryLines renderer.category) := by
  have hcategory : (scope (renderer.bindings name hasFilename pass fail)).look
      (asked "category") = .text renderer.category :=
    look_asked (by simp [names]) (by simp [Renderer.bindings, List.lookup_cons]) (by simp)
  have hline : ∀ rest, WritesAll (scope (renderer.bindings name hasFilename pass fail))
      ([.data indent, .value (asked "category"), .data rest].map Word.step)
      (indent ++ (renderer.category ++ (rest ++ []))) := fun rest =>
    (Template.writes_data indent).cons ((Template.writes_text hcategory).cons
      ((Template.writes_data rest).cons Template.writesAll_nil))
  have hflag : (scope (renderer.bindings name hasFilename pass fail)).look
      (asked "category_is_placeholder") =
        .bool (renderer.category = RuleSettings.placeholderCategory) :=
    look_asked (by simp [names]) (by simp [Renderer.bindings, List.lookup_cons]) (by simp)
  have hpiece := Template.writes_choose hflag (hline placeholderRemark) (hline comma)
  rw [categoryLines]
  rw [show "nursery".toList = RuleSettings.placeholderCategory from rfl]
  by_cases hplaceholder : renderer.category = RuleSettings.placeholderCategory
  · rw [decide_eq_true hplaceholder, if_pos rfl, List.append_nil] at hpiece
    rw [if_pos hplaceholder, List.append_assoc]
    exact hpiece
  · rw [decide_eq_false hplaceholder, if_neg Bool.false_ne_true, List.append_nil] at hpiece
    rw [if_neg hplaceholder, List.append_assoc]
    exact hpiece

theorem writes_import (renderer : Renderer) (name : RuleName) (hasFilename : Bool)
    (pass fail : List Text) :
    Writes (scope (renderer.bindings name hasFilename pass fail)) importPiece.step
      (if hasFilename then pathImport else []) := by
  have hflag : (scope (renderer.bindings name hasFilename pass fail)).look
      (asked "has_filename") = .bool hasFilename :=
    look_asked (by simp [names]) (by simp [Renderer.bindings, List.lookup_cons]) (by simp)
  have hpiece := Template.writes_choose hflag
    ((Template.writes_data pathImport).cons Template.writesAll_nil) Template.writesAll_nil
  rw [List.append_nil] at hpiece
  exact hpiece

theorem writes_elements {bindings : List (Text × Value)} {items : String}
    {snippets : List Text} (hname : items.toList ∈ names)
    (hitems : bindings.lookup items.toList = some (.list (snippets.map .text))) :
    Writes (scope bindings) (elements items).step (snippets.flatMap element) := by
  refine Template.writes_loop (look_asked hname hitems (by simp)) (isDistinct_scope bindings)
    (lookup_caseVariable bindings) fun snippet => ?_
  have hlook : ((scope bindings).set caseVariable (.text snippet)).look
      ⟨caseVariable, "case".toList, true⟩ = .text snippet := by
    unfold Scope.look Scope.get
    dsimp only
    rw [Scope.lookup_set, if_pos rfl, Option.getD_some]
  have hwritten : WritesAll ((scope bindings).set caseVariable (.text snippet))
      ([.data (indent ++ indent), .value ⟨caseVariable, "case".toList, true⟩, .data comma].map
        Word.step) ((indent ++ indent) ++ (snippet ++ (comma ++ []))) :=
    (Template.writes_data _).cons ((Template.writes_text hlook).cons
      ((Template.writes_data _).cons Template.writesAll_nil))
  rw [element]
  simpa only [List.append_assoc, List.append_nil] using hwritten

theorem writes_pieces (renderer : Renderer) (name : RuleName) (hasFilename : Bool)
    (pass fail : List Text) :
    WritesAll (scope (renderer.bindings name hasFilename pass fail)) (pieces.map Piece.step)
      (body name.pascal hasFilename renderer.category pass fail) := by
  have hname := writes_pascal renderer name hasFilename pass fail
  have hdata : ∀ text, Writes (scope (renderer.bindings name hasFilename pass fail))
      (Piece.word (.data text)).step text := Template.writes_data
  have hpass : Writes (scope (renderer.bindings name hasFilename pass fail))
      (elements "pass_cases").step (pass.flatMap element) :=
    writes_elements (by simp [names]) (by simp [Renderer.bindings, List.lookup_cons])
  have hfail : Writes (scope (renderer.bindings name hasFilename pass fail))
      (elements "fail_cases").step (fail.flatMap element) :=
    writes_elements (by simp [names]) (by simp [Renderer.bindings, List.lookup_cons])
  have hwritten := (hdata opening).cons (hname.cons ((hdata declaration).cons (hname.cons
    ((hdata comma).cons ((writes_category renderer name hasFilename pass fail).cons
    ((hdata implementation).cons (hname.cons ((hdata testOpening).cons
    ((writes_import renderer name hasFilename pass fail).cons ((hdata passOpening).cons
    (hpass.cons ((hdata failOpening).cons (hfail.cons ((hdata testing).cons (hname.cons
    ((hdata closing).cons Template.writesAll_nil))))))))))))))))
  rw [List.append_nil] at hwritten
  simp only [body, List.append_assoc]
  exact hwritten

/-! ## The result -/

theorem ended_body (pascal : Text) (hasFilename : Bool) (category : Text)
    (pass fail : List Text) :
    Renderer.ended (body pascal hasFilename category pass fail) =
      source pascal hasFilename category pass fail := by
  -- the last character is a brace, so that there is no space to drop
  have hlast : ∃ text, body pascal hasFilename category pass fail = text ++ ['\x7d'] := by
    rw [body, closing, ← List.append_assoc]
    exact ⟨_, rfl⟩
  obtain ⟨text, hbody⟩ := hlast
  rw [Renderer.ended, source, hbody, Text.dropEndWhile]
  simp

/-- The renderer for the skeleton and a category. -/
def renderer (category : Text) : Renderer := ⟨⟨.plain names pieces⟩, category⟩

theorem ofText_text (category : Text) :
    Renderer.ofText text category = .ok (renderer category) := by
  rw [Renderer.ofText, compile_text]
  rfl

theorem render_template (renderer : Renderer) (name : RuleName) (hasFilename : Bool)
    (pass fail : List Text) :
    (⟨.plain names pieces⟩ : Template).render (renderer.bindings name hasFilename pass fail) =
      .ok (body name.pascal hasFilename renderer.category pass fail) := by
  have hwritten := writes_pieces renderer name hasFilename pass fail
  rw [WritesAll] at hwritten
  have hscope : (Template.Plan.plain names pieces).scope
      (renderer.bindings name hasFilename pass fail) =
        scope (renderer.bindings name hasFilename pass fail) := rfl
  have hsteps : (Template.Plan.plain names pieces).steps = pieces.map Piece.step := rfl
  rw [Template.render]
  dsimp only
  rw [hscope, hsteps, hwritten]
  rfl

/-- Items that have elements are put into the skeleton. -/
theorem render_renderer {passItems failItems : List CaseItem} {pass fail : List Text}
    (hpass : snippets passItems = .ok pass) (hfail : snippets failItems = .ok fail)
    (category : Text) (name : RuleName) (hasFilename : Bool) :
    (renderer category).render name hasFilename passItems failItems =
      .ok (source name.pascal hasFilename category pass fail) := by
  have htext := render_template (renderer category) name hasFilename pass fail
  have hended := ended_body name.pascal hasFilename category pass fail
  unfold Renderer.render
  rw [hpass, hfail]
  dsimp only [ok_mapError, bind, Except.bind]
  rw [renderer] at htext ⊢
  dsimp only
  rw [htext]
  exact congrArg Except.ok hended

theorem snippets_verbatim (texts : List Text) :
    snippets (texts.map .verbatim) = .ok texts := by
  induction texts with
  | nil => rfl
  | cons text rest ih =>
      rw [snippets] at ih ⊢
      rw [List.map_cons, List.mapM_cons, ih]
      rfl

/-- The skeleton is a template, and with any category it has a source for every rule whose
name is accepted, and for no other.  Names are refused for the reason for which they cannot
be read. -/
theorem renderGiven_verbatim (category : Text) :
    ∃ renderer, Renderer.ofText text category = .ok renderer ∧ renderer.category = category ∧
      ∀ (hasFilename : Bool) (pass fail : List Text),
        (∀ given : Text, renderer.renderGiven (.unread (.text given)) hasFilename
            (pass.map .verbatim) (fail.map .verbatim) =
          match RuleName.parse given with
          | .error invalid => .error (.name invalid)
          | .ok name => .ok (source name.pascal hasFilename category pass fail)) ∧
        ∀ name : RuleName, renderer.renderGiven (.accepted name) hasFilename
            (pass.map .verbatim) (fail.map .verbatim) =
          .ok (source name.pascal hasFilename category pass fail) := by
  refine ⟨renderer category, ofText_text category, rfl, fun hasFilename pass fail => ?_⟩
  have hrender := render_renderer (snippets_verbatim pass) (snippets_verbatim fail) category
  refine ⟨fun given => ?_, fun name => ?_⟩
  · rw [Renderer.renderGiven, GivenName.read, RuleName.ofDatum]
    cases hparsed : RuleName.parse given with
    | error invalid => rfl
    | ok name =>
        show ((renderer category).render name hasFilename _ _).mapError _ = _
        rw [hrender]
        rfl
  · show ((renderer category).render name hasFilename _ _).mapError _ = _
    rw [hrender]
    rfl

end Skeleton
end LintScaffold
