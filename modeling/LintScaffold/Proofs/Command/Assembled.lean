import LintScaffold.Proofs.Command.LoadedCases
import LintScaffold.Proofs.Command.Printed
import LintScaffold.Proofs.Command.Spelling
import LintScaffold.Proofs.Skeleton.Import

/-!
# What a source is made of

The command puts a source together from the name of the rule, from the codes that stand in the
arguments, from the cases of a file, and from an option that asks for file names.  Four parts of
the program have to agree on file names: the reader of case files, which drops those that are
empty; the elements of the vectors, which make a path from each of the others; the command, which
looks for them in all cases; and the template, which imports the type of paths if it is told to.

`source_is_assembled` says of every run with the skeleton that ends well what its source is the
rendering of.  The cases of each group are the codes of the arguments, in the order in which they
stand there, and then those of the file.  As a result the test imports the type of paths exactly
once if any of its elements makes a path, and not at all if no case has a file name and none are
asked for.
-/

namespace LintScaffold

open Rust (MakesPath)

variable {tree : FileTree} {cwd : Place}

/-! ## What the call says and finds -/

/-- The cases of the file that the request names, if it names one. -/
inductive NewRequest.CasesAre (request : NewRequest) (tree : FileTree) (cwd : Place)
    (encoding : Datum) : CaseFile.Groups → Prop
  | none (h : request.cases = none) : CasesAre request tree cwd encoding ⟨[], []⟩
  | file {path : FilePath} {name : Text} {content : Bytes} {groups : CaseFile.Groups}
      (hpath : request.cases = some path) (hencoding : encoding = .text name)
      (hfind : tree.find cwd path = .ok (.file content))
      (hload : CaseFile.load path.text name content = .ok groups) :
      CasesAre request tree cwd encoding groups

theorem NewRequest.casesAre_iff {request : NewRequest} {config : Config}
    {groups : CaseFile.Groups} :
    request.CasesAre tree cwd config.template.encoding groups ↔
      (request.loadCases config).outcome tree cwd = .ok groups := by
  rw [outcome_loadCases_eq_ok]
  constructor
  · rintro (hnone | ⟨hpath, hencoding, hfind, hload⟩)
    · exact .inl ⟨hnone, rfl⟩
    · exact .inr ⟨_, _, _, hpath, hencoding, hfind, hload⟩
  · rintro (⟨hnone, rfl⟩ | ⟨path, name, content, hpath, hencoding, hfind, hload⟩)
    · exact .none hnone
    · exact .file hpath hencoding hfind hload

/-- What the arguments of a call say, and what is found in the files that they name. -/
structure Call.Says (call : Call) (tree : FileTree) (cwd : Place) (arguments : Arguments NewOption)
    (request : NewRequest) (config : Config) (name : RuleName) (groups : CaseFile.Groups) :
    Prop where
  spelled : Arguments.Spells NewOption.vocabulary call.arguments arguments
  asks : ∃ operand, arguments.operands = [operand] ∧ RuleName.parse operand = .ok name ∧
    request = NewRequest.ofArguments cwd arguments operand
  configured : request.loadConfig.outcome tree cwd = .ok config
  cases : request.CasesAre tree cwd config.template.encoding groups

/-- Arguments that can be read say nothing but the request that is read from them. -/
theorem Call.Says.request_eq {call : Call} {arguments : Arguments NewOption}
    {request read : NewRequest} {config : Config} {name : RuleName} {groups : CaseFile.Groups}
    (h : call.Says tree cwd arguments request config name groups)
    (hread : (NewRequest.read cwd call.arguments).outcome tree cwd = .ok read) :
    request = read := by
  obtain ⟨operand, hoperand, -, rfl⟩ := h.asks
  obtain ⟨parsed, hparsed, -, hchecked⟩ := NewRequest.outcome_read_eq_ok.mp hread
  obtain ⟨other, hother, rfl, -⟩ := NewRequest.outcome_ofChecked_eq_ok.mp hchecked
  have harguments := (Arguments.read_eq_ok_iff NewOption.isRegular_vocabulary).mpr h.spelled
  obtain rfl := Except.ok.inj (hparsed.symm.trans harguments)
  obtain rfl : other = operand := List.singleton_inj.mp (hother.symm.trans hoperand)
  rfl

/-- The skeleton is the template of the call, whatever configuration it loads. -/
def Call.UsesSkeleton (call : Call) (tree : FileTree) (cwd : Place) : Prop :=
  ∀ {request : NewRequest} {config : Config},
    (NewRequest.read cwd call.arguments).outcome tree cwd = .ok request →
      request.loadConfig.outcome tree cwd = .ok config → config.UsesSkeleton

/-! ## File names -/

/-- Some case has a file name that says something. -/
def SomeFilename (cases : List TestCase) : Prop :=
  ∃ case ∈ cases, ∃ filename, case.filename = some filename ∧ filename ≠ []

theorem TestCase.hasFilename_iff {case : TestCase} :
    case.hasFilename = true ↔ ∃ filename, case.filename = some filename ∧ filename ≠ [] := by
  rw [hasFilename]
  cases case.filename with
  | none => simp
  | some name => simp

theorem someFilename_append {first second : List TestCase} :
    SomeFilename (first ++ second) ↔ SomeFilename first ∨ SomeFilename second := by
  simp only [SomeFilename, List.mem_append, or_and_right, exists_or]

/-- The command asks for file names if it is told to, or if some case has one. -/
theorem NewRequest.needsFilename_iff {request : NewRequest} {groups : CaseFile.Groups} :
    request.needsFilename groups = true ↔ request.hasFilename = true ∨
      SomeFilename ((request.pass.map .ofCode ++ groups.pass) ++
        (request.fail.map .ofCode ++ groups.fail)) := by
  have hgroup : ∀ cases : List TestCase,
      (cases.map CaseItem.case).any CaseItem.hasFilename = true ↔ SomeFilename cases := by
    intro cases
    rw [List.any_map, List.any_eq_true]
    exact exists_congr fun case => and_congr_right fun _ => TestCase.hasFilename_iff
  rw [needsFilename, Bool.or_eq_true, anyFilename, List.any_cons, List.any_cons, List.any_nil,
    Bool.or_false, Bool.or_eq_true, passCases, failCases, hgroup, hgroup,
    ← someFilename_append]

/-- If an element makes a path, its case has a file name. -/
theorem someFilename_of_makesPath {cases : List TestCase} (hjson : ∀ case ∈ cases, case.IsJson)
    {texts : List Text} (h : snippets (cases.map .case) = .ok texts) {text : Text}
    (htext : text ∈ texts) (hpath : MakesPath text) : SomeFilename cases := by
  rw [snippets, List.mapM_map] at h
  refine forall_of_mapM_eq_ok (P := fun text => MakesPath text → SomeFilename cases) h ?_ text htext
    hpath
  intro case hcase text htext hpath
  refine ⟨case, hcase, TestCase.hasFilename_iff.mp ?_⟩
  exact ((hjson case hcase).makesPath_iff (mapError_eq_ok.mp htext)).mp hpath

/-! ## The source -/

/-- A rule that has a source has elements for its cases, and the source is the skeleton with these
elements. -/
theorem Skeleton.exists_of_render {category source : Text} {name : RuleName} {hasFilename : Bool}
    {passItems failItems : List CaseItem}
    (h : (renderer category).render name hasFilename passItems failItems = .ok source) :
    ∃ pass fail, snippets passItems = .ok pass ∧ snippets failItems = .ok fail ∧
      source = Skeleton.source name.pascal hasFilename category pass fail := by
  have hrender := h
  unfold Renderer.render at h
  obtain ⟨pass, hpass, h⟩ := bind_eq_ok.mp h
  obtain ⟨fail, hfail, -⟩ := bind_eq_ok.mp h
  rw [mapError_eq_ok] at hpass hfail
  rw [render_renderer hpass hfail] at hrender
  exact ⟨pass, fail, hpass, hfail, (Except.ok.inj hrender).symm⟩

/-- Every run with the skeleton that ends well puts out the rendering of a rule: it has the name
that the arguments give; its cases are the codes of the arguments, in their order, and behind them
those of the case file; and it asks for file names if the arguments do, or if some case has one.
If an element makes a path, the type of paths is imported once in the test, and if nothing asks for
file names, it is not imported. -/
theorem source_is_assembled {call : Call} (hnew : call.command = .new)
    (hskeleton : call.UsesSkeleton tree cwd)
    (hdone : (call.run tree cwd).ending.exitCode = 0) :
    ∃ arguments request config name groups pass fail source, ∃ hasFilename : Bool,
      call.Says tree cwd arguments request config name groups ∧
      request.Delivers cwd config name source (call.run tree cwd) ∧
      pass = (arguments.values .pass).map .ofCode ++ groups.pass ∧
      fail = (arguments.values .fail).map .ofCode ++ groups.fail ∧
      (hasFilename = true ↔
        arguments.has .hasFilename = true ∨ SomeFilename (pass ++ fail)) ∧
      (∃ renderer, Renderer.ofText Skeleton.text config.rule.category = .ok renderer ∧
        renderer.render name hasFilename (pass.map .case) (fail.map .case) = .ok source) ∧
      ∃ passTexts failTexts, snippets (pass.map .case) = .ok passTexts ∧
        snippets (fail.map .case) = .ok failTexts ∧
        Skeleton.test name.pascal hasFilename passTexts failTexts <:+ source ∧
        ((∃ text ∈ passTexts ++ failTexts, MakesPath text) →
          Skeleton.importCount? (Skeleton.test name.pascal hasFilename passTexts failTexts) =
            some 1) ∧
        (arguments.has .hasFilename = false ∧ ¬ SomeFilename (pass ++ fail) →
          Skeleton.importCount? (Skeleton.test name.pascal hasFilename passTexts failTexts) =
            some 0) := by
  obtain ⟨request, config, name, source, hread, hfinds, hdelivers⟩ :=
    Call.exists_delivered hnew hdone
  obtain ⟨arguments, hparsed, -, hchecked⟩ := NewRequest.outcome_read_eq_ok.mp hread
  obtain ⟨operand, hoperand, rfl, -⟩ := NewRequest.outcome_ofChecked_eq_ok.mp hchecked
  -- the source is rendered from the cases that are loaded
  have hrendered := hfinds.rendered
  rw [NewRequest.outcome_source, (hskeleton hread hfinds.loaded).outcome_build] at hrendered
  obtain ⟨groups, hgroups, hrendered⟩ := bind_eq_ok.mp hrendered
  replace hrendered := mapError_eq_ok.mp hrendered
  obtain ⟨passTexts, failTexts, hpass, hfail, hsource⟩ := Skeleton.exists_of_render hrendered
  -- cases that have elements are cases of JSON, so that the words of their elements are known
  obtain ⟨hpassLoaded, hfailLoaded⟩ := NewRequest.isLoaded_loadCases hgroups
  have hpassJson := isJson_of_snippets
    (NewRequest.isLoaded_ofCode (arguments.values .pass) hpassLoaded) hpass
  have hfailJson := isJson_of_snippets
    (NewRequest.isLoaded_ofCode (arguments.values .fail) hfailLoaded) hfail
  have himport := Skeleton.importCount?_test hfinds.parsed
    ((NewRequest.ofArguments cwd arguments operand).needsFilename groups) hpassJson hfailJson hpass
    hfail
  refine ⟨arguments, _, config, name, groups, _, _, source, _,
    ⟨Arguments.read_eq_ok_iff NewOption.isRegular_vocabulary |>.mp hparsed,
      ⟨operand, hoperand, hfinds.parsed, rfl⟩, hfinds.loaded,
      NewRequest.casesAre_iff.mpr hgroups⟩,
    hdelivers, rfl, rfl, NewRequest.needsFilename_iff,
    ⟨_, Skeleton.ofText_text config.rule.category, hrendered⟩, passTexts, failTexts, hpass, hfail,
    hsource ▸ Skeleton.test_suffix _ _ _ _ _, ?_, ?_⟩
  · rintro ⟨text, htext, hpath⟩
    have hsome : SomeFilename _ := someFilename_append.mpr <| (List.mem_append.mp htext).imp
      (fun hmem => someFilename_of_makesPath hpassJson hpass hmem hpath)
      (fun hmem => someFilename_of_makesPath hfailJson hfail hmem hpath)
    rw [himport, if_pos (NewRequest.needsFilename_iff.mpr (.inr hsome))]
  · rintro ⟨hunasked, hnone⟩
    have hneedless :
        ¬ (NewRequest.ofArguments cwd arguments operand).needsFilename groups = true := by
      rw [NewRequest.needsFilename_iff, not_or]
      exact ⟨Bool.eq_false_iff.mp hunasked, hnone⟩
    rw [himport, if_neg hneedless]

/-! ## Codes and cases in turn -/

/-- A case file with a case that has a file name. -/
def namedFile : Bytes :=
  Utf8.encode "\x7b\"pass\": [\x7b\"code\": \"d\", \"filename\": \"e.rs\"\x7d]\x7d".toList

/-- The file tree with this case file. -/
def namedTree : FileTree := FileTree.empty.put [['c']] (.file namedFile)

/-- A call with codes for both groups in turn, and with this case file.  One of the codes looks
like a path. -/
def namedCall : Call :=
  ⟨20, .new, ["--pass=a".toList, "no-foo".toList, "--fail".toList, "b".toList, "--pass".toList,
    "PathBuf::from(".toList, "--cases".toList, "/c".toList]⟩

/-- What the call asks for. -/
def namedRequest : NewRequest where
  name := "no-foo".toList
  config := none
  kind := none
  pass := ["a".toList, "PathBuf::from(".toList]
  fail := ["b".toList]
  cases := some ⟨.root, [['c']]⟩
  hasFilename := false
  output := none
  write := false
  force := false

/-- The elements of the vector of accepted code. -/
def namedTexts : List Text :=
  ["r#\"a\"#".toList, "r#\"PathBuf::from(\"#".toList,
    "(r#\"d\"#, None, None, Some(PathBuf::from(\"e.rs\")))".toList]

/-- What is found by evaluation: how the call is read, what is loaded from its case file, and the
lexemes of the last element. -/
theorem named_evaluated :
    (NewRequest.read [] namedCall.arguments).outcome namedTree [] = .ok namedRequest ∧
    RuleName.parse namedRequest.name = .ok numberName ∧
    ((namedRequest.loadCases .standard).outcome namedTree []).toOption.any (fun groups =>
      !groups.hasInfinite &&
        (snippets (namedRequest.passCases groups)).toOption == some namedTexts) = true ∧
    Rust.lex? (namedTexts.getLastD []) = some
      ([.mark '(', .literal "d".toList, .mark ',', .word "None".toList, .mark ',',
        .word "None".toList, .mark ',', .word "Some".toList, .mark '('] ++ TestCase.pathFrom ++
        [.literal "e.rs".toList, .mark ')', .mark ')', .mark ')']) := by
  decide +kernel

theorem exists_loaded_named :
    ∃ groups, (namedRequest.loadCases .standard).outcome namedTree [] = .ok groups ∧
      groups.hasInfinite = false ∧
      snippets (namedRequest.passCases groups) = .ok namedTexts := by
  have hloads := named_evaluated.2.2.1
  cases hloaded : (namedRequest.loadCases .standard).outcome namedTree [] with
  | error fault => simp [hloaded, Except.toOption] at hloads
  | ok groups =>
      rw [hloaded] at hloads
      cases htexts : snippets (namedRequest.passCases groups) with
      | error fault => simp [htexts, Except.toOption] at hloads
      | ok texts => simp_all [Except.toOption]

/-- The run puts out a source whose accepted code is that of the arguments, in their order, and
then that of the file; and the type of paths is imported once, because of the file. -/
theorem named_is_assembled :
    namedCall.UsesSkeleton namedTree [] ∧ (namedCall.run namedTree []).ending.exitCode = 0 ∧
    ∃ source hasFilename failTexts, (namedCall.run namedTree []).ending = .done source ∧
      Skeleton.test "NoFoo".toList hasFilename namedTexts failTexts <:+ source ∧
      Skeleton.importCount? (Skeleton.test "NoFoo".toList hasFilename namedTexts failTexts) =
        some 1 := by
  obtain ⟨hread, hparsed, -, hlexemes⟩ := named_evaluated
  obtain ⟨loaded, hloaded, hfinite, hpassTexts⟩ := exists_loaded_named
  have hskeleton : namedCall.UsesSkeleton namedTree [] := by
    intro request config hrequest hconfig
    obtain rfl := Except.ok.inj (hread.symm.trans hrequest)
    obtain rfl : Config.standard = config := Except.ok.inj hconfig
    exact ⟨rfl, rfl⟩
  have hdone : (namedCall.run namedTree []).ending.exitCode = 0 := by
    have hprints : namedCall.PrintsCases namedTree [] namedRequest .standard numberName loaded :=
      ⟨rfl, hread, ⟨rfl, rfl⟩, rfl, ⟨rfl, rfl⟩, hparsed, hloaded⟩
    obtain ⟨-, text, hended⟩ | ⟨hinfinite, -⟩ := hprints.ending
    · rw [hended]
      rfl
    · exact absurd (hfinite.symm.trans hinfinite) Bool.false_ne_true
  refine ⟨hskeleton, hdone, ?_⟩
  obtain ⟨arguments, request, config, name, groups, pass, fail, source, hasFilename, hsays,
    hdelivers, hpass, hfail, -, -, passTexts, failTexts, hsnippets, -, htest, himport, -⟩ :=
    source_is_assembled rfl hskeleton hdone
  -- what the call says is what has been evaluated
  obtain rfl := hsays.request_eq hread
  obtain rfl : Config.standard = config := Except.ok.inj hsays.configured
  obtain rfl := Except.ok.inj (hloaded.symm.trans (NewRequest.casesAre_iff.mp hsays.cases))
  obtain ⟨operand, -, hname, hrequest⟩ := hsays.asks
  have hcodes : namedRequest.pass = arguments.values .pass := congrArg NewRequest.pass hrequest
  have hoperand : namedRequest.name = operand := congrArg NewRequest.name hrequest
  rw [hpass, ← hcodes] at hsnippets
  obtain rfl := Except.ok.inj (hpassTexts.symm.trans hsnippets)
  rw [← hoperand] at hname
  obtain rfl := Except.ok.inj (hparsed.symm.trans hname)
  obtain ⟨-, -, hended⟩ | ⟨target, place, htarget, -⟩ := hdelivers
  · refine ⟨source, hasFilename, failTexts, hended, htest, himport ⟨_, ?_, _, hlexemes, ?_⟩⟩
    · exact List.mem_append_left _ (by decide)
    · exact List.infix_append _ _ _
  · exact absurd htarget.1 Bool.false_ne_true

end LintScaffold
