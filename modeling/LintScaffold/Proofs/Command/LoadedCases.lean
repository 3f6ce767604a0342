import LintScaffold.Proofs.Case.Loaded
import LintScaffold.Proofs.Command.Frame
import LintScaffold.Proofs.Command.Inputs

/-!
# Printing the cases of a file

A case file that could be loaded is not yet one that can be rendered.  Reading refuses the words
for infinite numbers, but a number that is too great for a double becomes infinite only when it
is evaluated.  Such a number is in the options or settings of a case, and there it cannot be
embedded.

This is all that can go wrong.  `cases_embed_iff` says of the cases of every file that they have
elements exactly if there is no infinite number in them, and of every run that prints a rule from
the skeleton that, once its cases are loaded, it ends well exactly in this case.
-/

namespace LintScaffold

variable {tree : FileTree} {cwd : Place}

/-! ## Rendering with the skeleton -/

/-- The skeleton is the template: no other one is configured. -/
def Config.UsesSkeleton (config : Config) : Prop :=
  config.template.text.isTruthy = false ∧ config.template.path.isTruthy = false

theorem Config.UsesSkeleton.outcome_build {config : Config} (h : config.UsesSkeleton)
    (base : Option FilePath) :
    (Renderer.build config.template config.rule cwd base).outcome tree cwd =
      .ok (Skeleton.renderer config.rule.category) := by
  rw [Renderer.outcome_build]
  unfold Renderer.templateText
  rw [h.1, h.2, if_neg Bool.false_ne_true, if_neg Bool.false_ne_true, Task.outcome_pure, ok_bind,
    Skeleton.ofText_text]

/-! ## The source -/

/-- The run stops because of an infinite number, which it does not deal with. -/
def Halt.IsInfinite (halt : Halt) : Prop :=
  ∃ fault : RenderFault, fault.IsInfinite ∧ halt = .fault (.render fault)

namespace NewRequest

variable {request : NewRequest} {config : Config} {groups : CaseFile.Groups}

/-- The cases that a request has loaded are those of a file, or there are none. -/
theorem isLoaded_loadCases (h : (request.loadCases config).outcome tree cwd = .ok groups) :
    groups.IsLoaded := by
  obtain ⟨-, rfl⟩ | ⟨path, encoding, content, -, -, -, hload⟩ := outcome_loadCases_eq_ok.mp h
  · exact ⟨by simp, by simp⟩
  · exact CaseFile.isLoaded_load hload

/-- There are no options and settings in the cases that the arguments give. -/
theorem hasInfinite_ofCode (codes : List Text) (cases : List TestCase) :
    (codes.map TestCase.ofCode ++ cases).any TestCase.hasInfinite =
      cases.any TestCase.hasInfinite := by
  rw [List.any_append, List.any_map, Bool.or_eq_right_iff_imp, List.any_eq_true]
  rintro ⟨code, -, hcode⟩
  exact absurd hcode Bool.false_ne_true

/-- The cases that the arguments give could come from a file as well. -/
theorem isLoaded_ofCode (codes : List Text) {cases : List TestCase}
    (h : ∀ case ∈ cases, case.IsLoaded) :
    ∀ case ∈ codes.map TestCase.ofCode ++ cases, case.IsLoaded :=
  List.forall_mem_append.mpr
    ⟨List.forall_mem_map.mpr fun code _ => TestCase.isLoaded_ofCode code, h⟩

/-- With the skeleton, loaded cases have a source unless there is an infinite number in them. -/
theorem failsIf_source (hskeleton : config.UsesSkeleton)
    (hloaded : (request.loadCases config).outcome tree cwd = .ok groups) (name : RuleName) :
    FailsIf Halt.IsInfinite groups.hasInfinite
      ((request.source cwd config name).outcome tree cwd) := by
  have hgroups := isLoaded_loadCases hloaded
  have hrender := Skeleton.failsIf_render (isLoaded_ofCode request.pass hgroups.1)
    (isLoaded_ofCode request.fail hgroups.2) config.rule.category name
    (request.needsFilename groups)
  rw [hasInfinite_ofCode, hasInfinite_ofCode] at hrender
  rw [outcome_source, hloaded, ok_bind, hskeleton.outcome_build]
  refine hrender.mapError ?_
  rintro fault ⟨negative, rfl⟩
  exact ⟨_, ⟨negative, rfl⟩, rfl⟩

end NewRequest

/-! ## Runs -/

/-- The call is to print a rule with an accepted name, the skeleton being its template, and has
loaded the cases. -/
structure Call.PrintsCases (call : Call) (tree : FileTree) (cwd : Place) (request : NewRequest)
    (config : Config) (name : RuleName) (groups : CaseFile.Groups) : Prop where
  makesRule : call.command = .new
  reads : (NewRequest.read cwd call.arguments).outcome tree cwd = .ok request
  prints : request.output = none ∧ request.write = false
  configured : request.loadConfig.outcome tree cwd = .ok config
  usesSkeleton : config.UsesSkeleton
  parsed : RuleName.parse request.name = .ok name
  loaded : (request.loadCases config).outcome tree cwd = .ok groups

/-- Once the cases are loaded, the run ends well exactly if there is no infinite number in them,
and otherwise stops because of one. -/
theorem Call.PrintsCases.ending {call : Call} {request : NewRequest} {config : Config}
    {name : RuleName} {groups : CaseFile.Groups}
    (h : call.PrintsCases tree cwd request config name groups) :
    (groups.hasInfinite = false ∧ ∃ text, (call.run tree cwd).ending = .done text) ∨
    (groups.hasInfinite = true ∧ ∃ halt, halt.IsInfinite ∧
      (call.run tree cwd).ending = .stopped halt) := by
  have hdeed : (call.deed cwd).outcome tree cwd = (do
      let text ← (request.source cwd config name).outcome tree cwd
      .ok (.print text)) := by
    rw [Call.outcome_deed h.makesRule, h.reads, ok_bind,
      NewRequest.outcome_deed h.configured h.parsed]
    simp only [NewRequest.conclude_print h.prints.1 h.prints.2]
  have hsource := NewRequest.failsIf_source h.usesSkeleton h.loaded name
  cases hinfinite : groups.hasInfinite with
  | false =>
      obtain ⟨text, htext⟩ := hsource.isOk_iff.mpr hinfinite
      rw [htext, ok_bind] at hdeed
      exact .inl ⟨rfl, text, (Call.ending_of_outcome hdeed).1⟩
  | true =>
      rw [hinfinite] at hsource
      obtain ⟨halt, hhalt, hfault⟩ := hsource.exists_fault
      rw [hhalt] at hdeed
      exact .inr ⟨rfl, halt, hfault, Call.ending_of_halt hdeed⟩

/-- The name of the rule that it asks for. -/
def numberName : RuleName :=
  ⟨"no-foo".toList, "NoFoo".toList, "no_foo".toList, "no-foo".toList⟩

end LintScaffold
