import LintScaffold.Proofs.Skeleton.Render
import LintScaffold.Proofs.Template.PartsPlan

/-!
# Filled placeholders

A template of texts and placeholders is rendered part by part.

* **Values.**  Each of the eight values that a template can use has a text, which is written as it
  stands: a truth value is a word, and a list of texts is shown between brackets with its elements
  quoted (`Renderer.bindings_show`).
* **Unknown names.**  A name that is not supplied may be asked for, and is a fault where its value
  is written.  What comes before it is written first, so that the first unknown name is the one
  that is reported (`failsAll_row`).
* **The end.**  A row of parts and the row that is cut of it differ in line feeds at the end.  A
  rule ends with one line feed in any case (`Renderer.ended_append_replicate`).

Together these are `Renderer.renders_placeholders_iff`.
-/

namespace LintScaffold

namespace Template

/-! ## Texts of values -/

namespace Value

/-- The value is there, and the text is what is written for it. -/
structure Shows (v : Value) (text : Text) : Prop where
  isSet : v ≠ .unset
  hasMark : v.needsMark = false
  display : v.display = pure text

theorem shows_text (text : Text) : Shows (.text text) text :=
  ⟨by simp, rfl, by rw [display]⟩

/-- Without long numbers and loops, a value is written as it stands in a list. -/
theorem shownInside_eq {v : Value} (hnumber : v.hasLongNumber = false) (hloops : v.loopsIn = []) :
    v.shownInside = pure (v.shown fun _ => []) := by
  rw [shownInside, hnumber, if_neg Bool.false_ne_true, hloops, List.mapM_nil, pure_bind]
  rfl

theorem shows_bool (flag : Bool) : Shows (.bool flag) (boolText flag) := by
  refine ⟨by simp, rfl, ?_⟩
  have hdisplay : (Value.bool flag).display = (Value.bool flag).shownInside := by
    rw [display] <;> simp
  exact hdisplay.trans (shownInside_eq rfl rfl)

/-- A list of texts as it is written out: the texts quoted, with commas, between brackets. -/
def listText (texts : List Text) : Text :=
  ['['] ++ Text.join ", ".toList (texts.map Text.quoted) ++ [']']

theorem shows_list (texts : List Text) : Shows (.list (texts.map .text)) (listText texts) := by
  have hparts : anyLongNumber (texts.map .text) = false ∧ loopsInAll (texts.map .text) = [] ∧
      ∀ loopText, allShown loopText (texts.map .text) = texts.map Text.quoted := by
    induction texts with
    | nil => exact ⟨rfl, rfl, fun _ => rfl⟩
    | cons text rest ih =>
        exact ⟨ih.1, ih.2.1, fun loopText => congrArg (Text.quoted text :: ·) (ih.2.2 loopText)⟩
  obtain ⟨hnumber, hloops, hshown⟩ := hparts
  refine ⟨by simp, rfl, ?_⟩
  have hdisplay : (Value.list (texts.map .text)).display =
      (Value.list (texts.map .text)).shownInside := by
    rw [display] <;> simp
  have htext : (Value.list (texts.map .text)).shown (fun _ => []) = listText texts :=
    congrArg (fun shown => ['['] ++ Text.join ", ".toList shown ++ [']']) (hshown _)
  have hinside : (Value.list (texts.map .text)).shownInside = _ := shownInside_eq hnumber hloops
  rw [hdisplay, hinside, htext]

end Value

/-! ## Rows of parts -/

variable {scope : Scope} {row : List Part}

theorem writesAll_row {textOf : Text → Text} (h : ∀ name ∈ placeholders row,
      Writes scope (Part.value name).piece.step (textOf name)) :
    WritesAll scope ((row.map Part.piece).map Piece.step) (row.flatMap (Part.fill textOf)) := by
  induction row with
  | nil => exact writesAll_nil
  | cons part rest ih =>
      cases part with
      | text content => exact (writes_data content).cons (ih h)
      | value name =>
          rw [placeholders_value, List.forall_mem_cons] at h
          exact h.1.cons (ih h.2)

/-- The first name that is unknown is the fault. -/
theorem failsAll_row {isUnknown : Text → Bool}
    (hknown : ∀ name ∈ placeholders row, isUnknown name = false →
      ∃ text, Writes scope (Part.value name).piece.step text)
    (hunknown : ∀ name ∈ placeholders row, isUnknown name = true →
      scope.look (.asked name) = .missing (.name name))
    {name : Text} (hfind : (placeholders row).find? isUnknown = some name) :
    FailsAll scope ((row.map Part.piece).map Piece.step) (.absent (.name name)) := by
  induction row with
  | nil => exact absurd hfind (by simp)
  | cons part rest ih =>
      cases part with
      | text content => exact (writes_data content).failsAll (ih hknown hunknown hfind)
      | value other =>
          rw [placeholders_value, List.forall_mem_cons] at hknown hunknown
          rw [placeholders_value, List.find?_cons] at hfind
          cases hother : isUnknown other with
          | true =>
              rw [hother] at hfind
              obtain rfl := Option.some.inj hfind
              exact failsAll_missing _ (hunknown.1 hother)
          | false =>
              rw [hother] at hfind
              obtain ⟨text, hwrites⟩ := hknown.1 hother
              exact hwrites.failsAll (ih hknown.2 hunknown.2 hfind)

/-! ## Whole templates -/

variable {template : Template} {bindings : List (Text × Value)}

theorem render_of_writesAll {text : Text}
    (h : WritesAll (template.plan.scope bindings) template.plan.steps text) :
    template.render bindings = .ok text := by
  rw [WritesAll] at h
  rw [render, h]
  rfl

theorem render_of_failsAll {fault : EvalFault}
    (h : FailsAll (template.plan.scope bindings) template.plan.steps fault) :
    template.render bindings = .error fault := by
  rw [FailsAll] at h
  rw [render, h]
  rfl

end Template

namespace Renderer

open Template (Part Value placeholders written reservedNames)

/-! ## What a template can use -/

/-- The names of the values that a template can use. -/
def contextNames : List Text :=
  ["pascal_rule_name".toList, "snake_rule_name".toList, "kebab_rule_name".toList,
    "has_filename".toList, "pass_cases".toList, "fail_cases".toList, "category".toList,
    "category_is_placeholder".toList]

/-- These names with the texts of their values. -/
def contextTexts (category : Text) (name : RuleName) (hasFilename : Bool)
    (pass fail : List Text) : List (Text × Text) :=
  [("pascal_rule_name".toList, name.pascal), ("snake_rule_name".toList, name.snake),
    ("kebab_rule_name".toList, name.kebab), ("has_filename".toList, boolText hasFilename),
    ("pass_cases".toList, Value.listText pass), ("fail_cases".toList, Value.listText fail),
    ("category".toList, category),
    ("category_is_placeholder".toList,
      boolText (category = RuleSettings.placeholderCategory))]

/-- The text that stands in the place of a name. -/
def contextText (category : Text) (name : RuleName) (hasFilename : Bool) (pass fail : List Text)
    (x : Text) : Text :=
  ((contextTexts category name hasFilename pass fail).lookup x).getD []

section Context

variable (renderer : Renderer) (name : RuleName) (hasFilename : Bool) (pass fail : List Text)

theorem bindings_show : List.Forall₂ (fun binding entry => binding.1 = entry.1 ∧
      Value.Shows binding.2 entry.2) (renderer.bindings name hasFilename pass fail)
    (contextTexts renderer.category name hasFilename pass fail) :=
  .cons ⟨rfl, Value.shows_text _⟩ (.cons ⟨rfl, Value.shows_text _⟩
    (.cons ⟨rfl, Value.shows_text _⟩ (.cons ⟨rfl, Value.shows_bool _⟩
    (.cons ⟨rfl, Value.shows_list _⟩ (.cons ⟨rfl, Value.shows_list _⟩
    (.cons ⟨rfl, Value.shows_text _⟩ (.cons ⟨rfl, Value.shows_bool _⟩ .nil)))))))

variable {names : List Text} {pieces : List Template.Piece} {x : Text}

/-- A name that a template can use stands for its text. -/
theorem writes_contextText (hx : x ∈ names) (hknown : x ∈ contextNames) :
    Template.Writes
      ((Template.Plan.plain names pieces).scope (renderer.bindings name hasFilename pass fail))
      (Part.value x).piece.step (contextText renderer.category name hasFilename pass fail x) := by
  have hrel := rel_lookup (bindings_show renderer name hasFilename pass fail) x
  unfold contextText
  generalize htext : (contextTexts renderer.category name hasFilename pass fail).lookup x = text?
    at hrel ⊢
  generalize hvalue : (renderer.bindings name hasFilename pass fail).lookup x = v? at hrel
  cases hrel with
  | none => exact absurd hknown (lookup_eq_none_iff_notMem.mp htext)
  | some hshows =>
      exact Template.writes_value (Template.Plan.look_plain hx hvalue hshows.isSet) hshows.hasMark
        hshows.display

theorem look_missing (hx : x ∈ names) (hunknown : x ∉ contextNames) (hplain : x ∉ reservedNames) :
    ((Template.Plan.plain names pieces).scope
      (renderer.bindings name hasFilename pass fail)).look (.asked x) = .missing (.name x) := by
  have hbindings : (renderer.bindings name hasFilename pass fail).lookup x = none :=
    lookup_eq_none_iff_notMem.mpr hunknown
  have heverywhere : Template.Scope.everywhere.lookup x = none := by
    rw [lookup_eq_none_iff_notMem]
    exact fun hmem => hplain
      (List.mem_cons_of_mem _ (List.mem_cons_of_mem _ (List.mem_append_right _ hmem)))
  exact Template.Plan.look_plain_of_unknown hx hbindings heverywhere

end Context

/-! ## Rows of parts -/

section Row

variable {names : List Text} {row : List Part} (category : Text) (name : RuleName)
  (hasFilename : Bool) (pass fail : List Text)

/-- A renderer with the template that a row of parts is. -/
def ofRow (names : List Text) (row : List Part) (category : Text) : Renderer :=
  ⟨⟨.plain names (row.map Part.piece)⟩, category⟩

/-- Texts are put into the template as they are. -/
theorem render_verbatim (renderer : Renderer) :
    renderer.render name hasFilename (pass.map .verbatim) (fail.map .verbatim) =
      match renderer.template.render (renderer.bindings name hasFilename pass fail) with
      | .ok text => .ok (ended text)
      | .error fault =>
          if fault.isTemplates then .error (.template name.kebab fault)
          else .error (.operation fault) := by
  unfold render
  rw [Skeleton.snippets_verbatim, Skeleton.snippets_verbatim]
  rfl

theorem renderGiven_of_read {renderer : Renderer} {given : GivenName} {name : RuleName}
    (hname : given.read = .ok name) {hasFilename : Bool} {passItems failItems : List CaseItem} :
    renderer.renderGiven given hasFilename passItems failItems =
      (renderer.render name hasFilename passItems failItems).mapError .render := by
  rw [renderGiven, hname]
  rfl

theorem render_ofRow_of_known (hnames : ∀ x ∈ placeholders row, x ∈ names)
    (hknown : ∀ x ∈ placeholders row, x ∈ contextNames) :
    (ofRow names row category).render name hasFilename (pass.map .verbatim)
        (fail.map .verbatim) =
      .ok (ended (row.flatMap (Part.fill (contextText category name hasFilename pass fail)))) := by
  have hwrites : Template.WritesAll ((Template.Plan.plain names (row.map Part.piece)).scope
        ((ofRow names row category).bindings name hasFilename pass fail))
      ((row.map Part.piece).map Template.Piece.step)
      (row.flatMap (Part.fill (contextText category name hasFilename pass fail))) :=
    Template.writesAll_row fun x hx => writes_contextText (ofRow names row category) name
      hasFilename pass fail (hnames x hx) (hknown x hx)
  have hrender : (ofRow names row category).template.render _ = .ok _ :=
    Template.render_of_writesAll hwrites
  rw [render_verbatim, hrender]

theorem render_ofRow_of_unknown (hnames : ∀ x ∈ placeholders row, x ∈ names)
    (hplain : ∀ x ∈ placeholders row, x ∉ reservedNames) {x : Text}
    (hfind : (placeholders row).find? (fun x => decide (x ∉ contextNames)) = some x) :
    (ofRow names row category).render name hasFilename (pass.map .verbatim)
        (fail.map .verbatim) = .error (.template name.kebab (.absent (.name x))) := by
  have hfails : Template.FailsAll ((Template.Plan.plain names (row.map Part.piece)).scope
        ((ofRow names row category).bindings name hasFilename pass fail))
      ((row.map Part.piece).map Template.Piece.step) (.absent (.name x)) := by
    refine Template.failsAll_row (fun y hy hknown => ?_) (fun y hy hunknown => ?_) hfind
    · exact ⟨_, writes_contextText (ofRow names row category) name hasFilename pass fail
        (hnames y hy) (by simpa using hknown)⟩
    · exact look_missing (ofRow names row category) name hasFilename pass fail (hnames y hy)
        (of_decide_eq_true hunknown) (hplain y hy)
  have hrender : (ofRow names row category).template.render _ = .error _ :=
    Template.render_of_failsAll hfails
  rw [render_verbatim, hrender]
  rfl

end Row

/-! ## Parts -/

theorem ended_append_replicate (text : Text) (n : Nat) :
    ended (text ++ List.replicate n '\n') = ended text := by
  have hfeeds : ∀ c ∈ List.replicate n '\n', decide (c = '\n') = true :=
    fun c hc => decide_eq_true (List.eq_of_mem_replicate hc)
  rw [ended, ended, Text.dropEndWhile, Text.dropEndWhile, List.reverse_append,
    List.reverse_replicate, List.dropWhile_append_of_pos hfeeds]

/-- A template of texts and placeholders is fit for use.  With a name that can be read, it has a
rule if and only if each of its placeholders is one of the names that a template can use, and then
the rule consists of the texts and of the texts of the values, as they stand, with a single line
feed at its end.  Otherwise there is no rule, and the fault tells the first name that is
unknown. -/
theorem renders_placeholders_iff {parts : List Part} (hparts : ∀ part ∈ parts, part.IsProper)
    (category : Text) :
    ∃ renderer, ofText (written parts) category = .ok renderer ∧
      ∀ (given : GivenName) (name : RuleName), given.read = .ok name →
      ∀ (hasFilename : Bool) (pass fail : List Text),
        let rendered :=
          renderer.renderGiven given hasFilename (pass.map .verbatim) (fail.map .verbatim)
        let filled := parts.flatMap (Part.fill (contextText category name hasFilename pass fail))
        ((∃ text, rendered = .ok text) ↔ ∀ x ∈ placeholders parts, x ∈ contextNames) ∧
        ((∀ x ∈ placeholders parts, x ∈ contextNames) →
          rendered = .ok (Text.dropEndWhile (· = '\n') filled ++ ['\n'])) ∧
        ((∃ x ∈ placeholders parts, x ∉ contextNames) →
          ∃ x, (placeholders parts).find? (fun x => decide (x ∉ contextNames)) = some x ∧
            rendered = .error (.render (.template name.kebab (.absent (.name x))))) := by
  obtain ⟨names, row, hcompile, hnames, hsame, hfill⟩ := Template.compile_written hparts
  have hofText : ofText (written parts) category = .ok (ofRow names row category) := by
    unfold ofText
    rw [hcompile]
    rfl
  refine ⟨ofRow names row category, hofText, fun given name hname hasFilename pass fail => ?_⟩
  intro rendered filled
  have hgiven : rendered = ((ofRow names row category).render name hasFilename
      (pass.map .verbatim) (fail.map .verbatim)).mapError .render := renderGiven_of_read hname
  have hasked : ∀ x ∈ placeholders row, x ∈ names := fun x hx => (hnames x).mpr hx
  have hplain : ∀ x ∈ placeholders row, x ∉ reservedNames :=
    fun x hx => (Template.isProper_of_mem_placeholders hparts (hsame ▸ hx)).2.2
  have hknown : (∀ x ∈ placeholders parts, x ∈ contextNames) →
      rendered = .ok (ended filled) := by
    intro hall
    obtain ⟨n, hrow⟩ := hfill (contextText category name hasFilename pass fail)
    have hended : ended filled = _ := (congrArg ended hrow).trans (ended_append_replicate _ n)
    rw [hgiven, hended,
      render_ofRow_of_known category name hasFilename pass fail hasked (hsame ▸ hall)]
    rfl
  have hunknown : (∃ x ∈ placeholders parts, x ∉ contextNames) →
      ∃ x, (placeholders parts).find? (fun x => decide (x ∉ contextNames)) = some x ∧
        rendered = .error (.render (.template name.kebab (.absent (.name x)))) := by
    rintro ⟨x, hx, hsome⟩
    have hfound : ((placeholders parts).find? fun x => decide (x ∉ contextNames)).isSome = true :=
      List.find?_isSome.mpr ⟨x, hx, decide_eq_true hsome⟩
    obtain ⟨y, hy⟩ := Option.isSome_iff_exists.mp hfound
    refine ⟨y, hy, ?_⟩
    rw [hgiven, render_ofRow_of_unknown category name hasFilename pass fail hasked hplain
      (hsame ▸ hy)]
    rfl
  refine ⟨⟨?_, fun hall => ⟨_, hknown hall⟩⟩, hknown, hunknown⟩
  rintro ⟨text, htext⟩ x hx
  by_contra hsome
  obtain ⟨y, -, hfault⟩ := hunknown ⟨x, hx, hsome⟩
  rw [hfault] at htext
  contradiction

/-- A template with values of three kinds, and with empty lines at its end. -/
def sampleParts : List Part :=
  [.text "// ".toList, .value "pascal_rule_name".toList, .text ": ".toList,
    .value "has_filename".toList, .text [' '], .value "pass_cases".toList, .text "\n\n".toList]

/-- This template with a name behind it that no template can use. -/
def sampleMisspelt : List Part := sampleParts ++ [.value "pascal_name".toList]

/-- A name of a rule. -/
def sampleName : RuleName :=
  ⟨"no foo".toList, "NoFoo".toList, "no_foo".toList, "no-foo".toList⟩

theorem sampleParts_evaluated :
    (GivenName.unread (.text "no foo".toList)).read = .ok sampleName ∧
    (∀ part ∈ sampleMisspelt, part.IsProper) ∧
    (∀ x ∈ placeholders sampleParts, x ∈ contextNames) ∧
    Text.dropEndWhile (· = '\n') (sampleParts.flatMap (Part.fill
      (contextText "nursery".toList sampleName true ["it's".toList] []))) ++ ['\n'] =
        "// NoFoo: True [\"it's\"]\n".toList ∧
    "pascal_name".toList ∉ contextNames ∧
    (placeholders sampleMisspelt).find? (fun x => decide (x ∉ contextNames)) =
      some "pascal_name".toList := by
  decide +kernel

theorem sampleParts_rendered :
    (∀ part ∈ sampleMisspelt, part.IsProper) ∧
    (∃ renderer, ofText (written sampleParts) "nursery".toList = .ok renderer ∧
      renderer.renderGiven (.unread (.text "no foo".toList)) true [.verbatim "it's".toList] [] =
        .ok "// NoFoo: True [\"it's\"]\n".toList) ∧
    ∃ renderer, ofText (written sampleMisspelt) "nursery".toList = .ok renderer ∧
      renderer.renderGiven (.unread (.text "no foo".toList)) true [.verbatim "it's".toList] [] =
        .error (.render (.template "no-foo".toList (.absent (.name "pascal_name".toList)))) := by
  obtain ⟨hread, hproper, hknown, hfilled, hunknown, hfind⟩ := sampleParts_evaluated
  refine ⟨hproper, ?_, ?_⟩
  · obtain ⟨renderer, hrenderer, hrender⟩ := renders_placeholders_iff
      (fun part hpart => hproper part (List.mem_append_left _ hpart)) "nursery".toList
    have hrendered := (hrender _ sampleName hread true ["it's".toList] []).2.1 hknown
    rw [hfilled] at hrendered
    exact ⟨renderer, hrenderer, hrendered⟩
  · obtain ⟨renderer, hrenderer, hrender⟩ := renders_placeholders_iff hproper "nursery".toList
    obtain ⟨x, hx, hrendered⟩ := (hrender _ sampleName hread true ["it's".toList] []).2.2
      ⟨"pascal_name".toList, List.mem_of_find?_eq_some hfind, hunknown⟩
    obtain rfl := Option.some.inj (hfind.symm.trans hx)
    exact ⟨renderer, hrenderer, hrendered⟩

end Renderer
end LintScaffold
