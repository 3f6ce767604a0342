import LintScaffold.Proofs.Attempt
import LintScaffold.Proofs.Command.Decision

/-!
# What the command that makes a rule comes to

The command is followed forwards here: from the findings on a configuration, a name and a source
to what it does in the end.  Its parts are oblivious, so that the outcome of the whole is put
together from the outcomes of the parts.  What comes after the source is `NewRequest.conclude`.
Only this last part looks at the options that say where the source is to go.
-/

namespace LintScaffold

variable {tree : FileTree} {cwd : Place}

/-! ## Steps -/

namespace Step

variable {ε α : Type}

/-- How a step ends on a fault. -/
def haltOn (wording : ε → Option Text) (leave : ε → OpenFault) (fault : ε) : Halt :=
  if (wording fault).isSome then .reported else .fault (leave fault)

theorem outcome_refuse (message : Text) :
    Task.outcome tree cwd (refuse message : Step α) = .error .reported := by
  unfold refuse
  rw [Task.outcome_bind fun _ => .stop _]
  rfl

theorem outcome_demand (wording : ε → Text) (result : Except ε α) :
    (demand wording result).outcome tree cwd = result.mapError fun _ => .reported := by
  cases result with
  | ok a => rfl
  | error fault => exact outcome_refuse _

theorem outcome_settle (wording : ε → Option Text) (leave : ε → OpenFault) {task : Task ε α}
    (htask : Task.Oblivious task) :
    (settle wording leave task).outcome tree cwd =
      (task.outcome tree cwd).mapError (haltOn wording leave) := by
  unfold settle
  rw [Task.outcome_bind, Task.outcome_attempt htask]
  · show Task.outcome tree cwd _ = _
    cases task.outcome tree cwd with
    | ok a => rfl
    | error fault =>
        dsimp only [error_mapError, haltOn]
        cases wording fault with
        | some message => exact outcome_refuse message
        | none => rfl
  · intro result
    cases result with
    | ok a => exact .pure a
    | error fault =>
        dsimp only
        split
        · exact oblivious_refuse _
        · exact .stop _

end Step

theorem Renderer.outcome_produce (renderer : Renderer) (name : RuleName) (hasFilename : Bool)
    (pass fail : List CaseItem) :
    (renderer.produce name hasFilename pass fail).outcome tree cwd =
      renderer.render name hasFilename pass fail := by
  unfold produce
  rw [Task.outcome_bind fun text => .bind (.report _ _ _) fun _ => .pure _, Task.outcome_check]
  cases renderer.render name hasFilename pass fail <;> rfl

/-! ## The command -/

namespace NewRequest

variable {request : NewRequest} {config : Config} {name : RuleName} {text : Text}

/-! ### Reading the request -/

/-- The request that arguments make whose values can be used. -/
def ofChecked (cwd : Place) (arguments : Arguments NewOption) : Step NewRequest := do
  let request ← (match arguments.operands with
    | [] => Task.stop (.usage .missingOperand)
    | [name] => return ofArguments cwd arguments name
    | _ => Task.stop (.usage .tooManyOperands))
  if request.output.isSome && request.write then
    Task.stop (.usage (.badValue none "Use either --output or --write, not both.".toList))
  return request

theorem oblivious_ofChecked (cwd : Place) (arguments : Arguments NewOption) :
    Task.Oblivious (ofChecked cwd arguments) := by
  refine .bind ?_ fun request => .ite (.bind (.stop _) fun _ => .pure _) (.pure _)
  split
  · exact .stop _
  · exact .pure _
  · exact .stop _

theorem outcome_ofChecked_eq_ok {arguments : Arguments NewOption} :
    (ofChecked cwd arguments).outcome tree cwd = .ok request ↔
      ∃ operand, arguments.operands = [operand] ∧ ofArguments cwd arguments operand = request ∧
        (request.output.isSome && request.write) = false := by
  constructor
  · intro h
    obtain ⟨found, hfound, h⟩ := (Task.yields_of_outcome h).bind
    dsimp only at h
    split at h
    · exact absurd h (Task.not_yields_stop_bind _ _ _)
    · rename_i hboth
      obtain rfl := Task.yields_pure.mp h
      split at hfound
      · exact absurd hfound (Task.not_yields_stop _ _)
      · rename_i operand hoperands
        exact ⟨operand, hoperands, Task.yields_pure.mp hfound, Bool.eq_false_iff.mpr hboth⟩
      · exact absurd hfound (Task.not_yields_stop _ _)
  · rintro ⟨operand, hoperands, rfl, hboth⟩
    unfold ofChecked
    rw [hoperands]
    show Task.outcome tree cwd (if _ then _ else _) = _
    rw [hboth]
    rfl

/-- A request is read from well-formed arguments with one operand, if all their values can be used
and they do not ask for two targets. -/
theorem outcome_read_eq_ok {arguments : List Text} :
    (read cwd arguments).outcome tree cwd = .ok request ↔
      ∃ parsed, Arguments.read NewOption.vocabulary true arguments = .ok parsed ∧
        (∀ option ∈ parsed.order, (NewOption.check cwd option
          ((parsed.value? option).getD [])).outcome tree cwd = .ok ()) ∧
        (ofChecked cwd parsed).outcome tree cwd = .ok request := by
  have hchecks : ∀ parsed : Arguments NewOption, ∀ option, Task.Oblivious
      (NewOption.check cwd option ((parsed.value? option).getD [])) := fun parsed option =>
    NewOption.oblivious_check _ _ _
  show Task.outcome tree cwd (do
    let parsed ← Task.check .usage (Arguments.read NewOption.vocabulary true arguments)
    parsed.order.forM fun option => NewOption.check cwd option ((parsed.value? option).getD [])
    ofChecked cwd parsed) = _ ↔ _
  rw [Task.outcome_bind fun parsed => .bind (.forM (hchecks parsed)) fun _ =>
    oblivious_ofChecked cwd parsed, Task.outcome_check, bind_eq_ok]
  refine exists_congr fun parsed => and_congr mapError_eq_ok ?_
  rw [Task.outcome_bind fun _ => oblivious_ofChecked cwd parsed, bind_eq_ok,
    ← Task.outcome_forM_eq_ok (hchecks parsed)]
  exact ⟨fun ⟨_, hvalues, hrequest⟩ => ⟨hvalues, hrequest⟩, fun h => ⟨(), h⟩⟩

/-! ### From the source to the end -/

/-- What the command does with the source of the rule. -/
def conclude (request : NewRequest) (cwd : Place) (config : Config) (name : RuleName)
    (text : Text) : Step Deed := do
  let kind := request.kind.getD config.rule.kind
  match ← request.target? cwd config kind name with
  | none => return .print text
  | some target => do
      request.checkFree config target
      return .save target text (Text.join [] ["Wrote ".toList, kind.name, " rule ".toList,
        name.kebab, " to ".toList, target.text])

theorem oblivious_conclude (request : NewRequest) (cwd : Place) (config : Config)
    (name : RuleName) (text : Text) :
    Task.Oblivious (request.conclude cwd config name text) := by
  refine .bind (request.oblivious_target? _ _ _ _) fun target? => ?_
  split
  · exact .pure _
  · exact .bind (request.oblivious_checkFree _ _) fun _ => .pure _

/-- The source is what the renderer makes of the cases. -/
theorem outcome_source :
    (request.source cwd config name).outcome tree cwd = (do
      let groups ← (request.loadCases config).outcome tree cwd
      let renderer ← ((Renderer.build config.template config.rule cwd request.folder?).outcome
        tree cwd).mapError (Step.haltOn rendererReport? .renderer)
      (renderer.render name (request.needsFilename groups) (request.passCases groups)
        (request.failCases groups)).mapError (Step.haltOn renderReport? .render)) := by
  have hproduce : ∀ groups renderer, Task.Oblivious (Step.settle renderReport? .render
      (Renderer.produce renderer name (request.needsFilename groups) (request.passCases groups)
        (request.failCases groups))) := fun groups renderer =>
    Step.oblivious_settle _ _ (renderer.oblivious_produce _ _ _ _)
  unfold source
  rw [Task.outcome_bind fun groups => .bind (Step.oblivious_settle _ _
    (Renderer.oblivious_build _ _ _ _)) (hproduce groups)]
  congr 1
  funext groups
  rw [Task.outcome_bind (hproduce groups),
    Step.outcome_settle _ _ (Renderer.oblivious_build _ _ _ _)]
  congr 1
  funext renderer
  rw [Step.outcome_settle _ _ (renderer.oblivious_produce _ _ _ _), Renderer.outcome_produce]

/-- With a configuration and a name the command makes the source, and then concludes. -/
theorem outcome_deed (hloaded : request.loadConfig.outcome tree cwd = .ok config)
    (hparsed : RuleName.parse request.name = .ok name) :
    (request.deed cwd).outcome tree cwd = (do
      let text ← (request.source cwd config name).outcome tree cwd
      (request.conclude cwd config name text).outcome tree cwd) := by
  have hsource : ∀ config name, Task.Oblivious (do
      let text ← request.source cwd config name
      request.conclude cwd config name text) := fun config name =>
    .bind (request.oblivious_source cwd config name) fun text => request.oblivious_conclude _ _ _ _
  show Task.outcome tree cwd (do
    let config ← request.loadConfig
    let name ← Step.demand InvalidName.message (RuleName.parse request.name)
    let text ← request.source cwd config name
    request.conclude cwd config name text) = _
  rw [Task.outcome_bind fun config => .bind (Step.oblivious_demand _ _) fun name =>
    hsource config name, hloaded]
  show Task.outcome tree cwd (_ >>= _) = _
  rw [Task.outcome_bind fun name => hsource config name, Step.outcome_demand, hparsed]
  show Task.outcome tree cwd (_ >>= _) = _
  rw [Task.outcome_bind fun text => request.oblivious_conclude cwd config name text]

theorem Finds.outcome_deed (h : request.Finds tree cwd config name text) :
    (request.deed cwd).outcome tree cwd =
      (request.conclude cwd config name text).outcome tree cwd := by
  rw [NewRequest.outcome_deed h.loaded h.parsed, h.rendered]
  rfl

/-- Where no option asks for a file, the source is printed. -/
theorem conclude_print (houtput : request.output = none) (hwrite : request.write = false) :
    (request.conclude cwd config name text).outcome tree cwd = .ok (.print text) := by
  unfold conclude target?
  dsimp only
  rw [houtput, hwrite]
  rfl

theorem outcome_target? {target : FilePath} (h : request.TargetIs cwd config name target) :
    (request.target? cwd config (request.kind.getD config.rule.kind) name).outcome tree cwd =
      .ok (some target) := by
  unfold TargetIs at h
  unfold target?
  cases houtput : request.output with
  | some path =>
      rw [houtput] at h
      dsimp only at h ⊢
      rw [h]
      rfl
  | none =>
      rw [houtput] at h
      dsimp only at h ⊢
      rw [h.1, if_pos rfl, h.2]
      rfl

/-- The check of a target passes if nothing is there or overwriting is asked for. -/
theorem outcome_checkFree {target : FilePath} {there : Bool}
    (hthere : (Inquiry.isThere target).answer tree cwd = .ok there)
    (hfree : there = true → (request.force || config.output.overwrite.isTruthy) = true) :
    (request.checkFree config target).outcome tree cwd = .ok () := by
  unfold checkFree
  rw [Task.outcome_bind fun _ => .ite (.ite (Step.oblivious_refuse _) (.pure ())) (.pure ()),
    Task.outcome_tryAsk, hthere]
  show Task.outcome tree cwd (if there = true then _ else _) = _
  cases there with
  | false => rfl
  | true =>
      rw [if_pos rfl, hfree rfl]
      rfl

/-- Where the target passes the check, the source is to be saved there. -/
theorem conclude_of_free {target : FilePath} (htarget : request.TargetIs cwd config name target)
    (hfree : (request.checkFree config target).outcome tree cwd = .ok ()) :
    ∃ report, (request.conclude cwd config name text).outcome tree cwd =
      .ok (.save target text report) := by
  refine ⟨Text.join [] ["Wrote ".toList, (request.kind.getD config.rule.kind).name,
    " rule ".toList, name.kebab, " to ".toList, target.text], ?_⟩
  unfold conclude
  refine (Task.outcome_bind_of_ok (outcome_target? htarget) ?_).trans ?_
  · exact .bind (request.oblivious_checkFree _ _) fun _ => .pure _
  · exact Task.outcome_bind_of_ok hfree (.pure _)

/-- Where a path is asked for at which nothing stands, the source is to be saved there. -/
theorem conclude_save {path target : FilePath} (houtput : request.output = some path)
    (htarget : FilePath.resolveFrom cwd ⟨.root, cwd⟩ path = .ok target)
    (hmissing : (Inquiry.isThere target).answer tree cwd = .ok false) :
    ∃ report, (request.conclude cwd config name text).outcome tree cwd =
      .ok (.save target text report) := by
  have hleads : request.TargetIs cwd config name target := by
    unfold TargetIs
    rw [houtput]
    exact htarget
  exact conclude_of_free hleads (outcome_checkFree hmissing (by simp))

end NewRequest

/-- A call of the command first reads its request. -/
theorem Call.outcome_deed {call : Call} (hnew : call.command = .new) :
    (call.deed cwd).outcome tree cwd = (do
      let request ← (NewRequest.read cwd call.arguments).outcome tree cwd
      (request.deed cwd).outcome tree cwd) := by
  unfold deed
  rw [hnew]
  dsimp only
  rw [Task.outcome_bind fun request => request.oblivious_deed cwd]

end LintScaffold
