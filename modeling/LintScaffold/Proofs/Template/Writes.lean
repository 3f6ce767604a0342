import LintScaffold.Proofs.Association
import LintScaffold.Template

/-!
# What steps write

Data, values and choices leave the scope that they stand in alone, and so does a loop over a
list whose state nobody looks at: it sets its target in an inner scope, which is forgotten
after every round.  `Writes` says of a step that it writes a certain text, leaves the scope
alone, and neither uses the memory nor has a fault.  There is a rule for each of these kinds
of steps, so that what a template writes is found by going along its plan.
-/

namespace LintScaffold.Template

variable {scope : Scope}

/-- The step writes the text, and does nothing else. -/
def Writes (scope : Scope) (step : Step) (text : Text) : Prop :=
  runStep scope step = pure (text, scope)

/-- The steps write the text, and do nothing else. -/
def WritesAll (scope : Scope) (steps : List Step) (text : Text) : Prop :=
  runSteps scope steps = pure (text, scope)

theorem writesAll_nil : WritesAll scope [] [] := by
  rw [WritesAll, runSteps]

theorem Writes.cons {step : Step} {rest : List Step} {text more : Text}
    (hstep : Writes scope step text) (hrest : WritesAll scope rest more) :
    WritesAll scope (step :: rest) (text ++ more) := by
  rw [Writes] at hstep
  rw [WritesAll] at hrest ⊢
  rw [runSteps, hstep, pure_bind]
  dsimp only
  rw [hrest, pure_bind]

/-! ## Data and values -/

theorem writes_data (text : Text) : Writes scope (.data text) text := by
  rw [Writes, runStep]

theorem eval_name {mention : Mention} {v : Value} {captured : Text}
    (hlook : scope.look mention = v) (hmark : v.needsMark = false) :
    eval scope captured (.name mention) = pure v := by
  rw [eval, hlook, Run.settle, hmark, if_neg Bool.false_ne_true]

theorem writes_value {mention : Mention} {v : Value} {text : Text}
    (hlook : scope.look mention = v) (hmark : v.needsMark = false)
    (hdisplay : v.display = pure text) : Writes scope (.output (.name mention)) text := by
  rw [Writes, runStep, eval_name hlook hmark, pure_bind, hdisplay, pure_bind]

theorem writes_text {mention : Mention} {text : Text}
    (hlook : scope.look mention = .text text) : Writes scope (.output (.name mention)) text :=
  writes_value hlook rfl (by rw [Value.display])

/-! ## Faults -/

/-- The steps end with the fault, whatever they have written before. -/
def FailsAll (scope : Scope) (steps : List Step) (fault : EvalFault) : Prop :=
  runSteps scope steps = Run.fail fault

theorem Writes.failsAll {step : Step} {rest : List Step} {text : Text} {fault : EvalFault}
    (hstep : Writes scope step text) (hrest : FailsAll scope rest fault) :
    FailsAll scope (step :: rest) fault := by
  rw [Writes] at hstep
  rw [FailsAll] at hrest ⊢
  rw [runSteps, hstep, pure_bind]
  dsimp only
  rw [hrest]
  rfl

/-- A name that is not there is a fault where its value is written. -/
theorem failsAll_missing {mention : Mention} {name : Text} (rest : List Step)
    (hlook : scope.look mention = .missing (.name name)) :
    FailsAll scope (.output (.name mention) :: rest) (.absent (.name name)) := by
  rw [FailsAll, runSteps, runStep, eval, hlook]
  rfl

/-! ## Choices -/

theorem writes_choose {mention : Mention} {flag : Bool} {yes no : List Step}
    {yesText noText : Text} (hlook : scope.look mention = .bool flag)
    (hyes : WritesAll scope yes yesText) (hno : WritesAll scope no noText) :
    Writes scope (.choose [(.name mention, yes)] no) (if flag then yesText else noText) := by
  rw [WritesAll] at hyes hno
  rw [Writes, runStep, runBranches, eval_name hlook rfl, pure_bind, Value.isTruthy, pure_bind]
  cases flag with
  | true => simp [hyes]
  | false => simp [hno, runBranches]

/-! ## Scopes -/

namespace Scope

/-- No variable is listed twice. -/
def IsDistinct (scope : Scope) : Prop := (scope.values.map Prod.fst).Nodup

theorem lookup_set (scope : Scope) (place other : Variable) (v : Value) :
    (scope.set place v).values.lookup other =
      if other = place then some v else scope.values.lookup other := by
  rw [set, lookup_setEntry]
  simp

theorem ask_set (scope : Scope) (place : Variable) (v : Value) (name : Text) :
    (scope.set place v).ask name = scope.ask name := rfl

theorem IsDistinct.set (hdistinct : scope.IsDistinct) (place : Variable) (v : Value) :
    (scope.set place v).IsDistinct :=
  nodup_keys_setEntry place v hdistinct

/-- An inner scope that keeps the variables of a scope is left without a trace. -/
theorem leave_eq (hdistinct : scope.IsDistinct) {inner : Scope}
    (hinner : ∀ place v, scope.values.lookup place = some v →
      inner.values.lookup place = some v) : scope.leave inner = scope := by
  have hkept : ∀ entry ∈ scope.values,
      (entry.1, (inner.values.lookup entry.1).getD entry.2) = entry := by
    intro entry hentry
    rw [hinner entry.1 entry.2 (lookup_of_mem hdistinct hentry), Option.getD_some]
  have hvalues := (List.map_congr_left hkept).trans (List.map_id' scope.values)
  exact congrArg (fun values => { scope with values }) hvalues

/-- After the names that a template asks for are set, each of them has the value that is
supplied, and no other variable is there. -/
theorem enter_asked (names : List Text) (scope : Scope) :
    let entered := scope.enter (names.map fun name => (⟨0, name⟩, .asked name))
    entered.bindings = scope.bindings ∧ (scope.IsDistinct → entered.IsDistinct) ∧
    ∀ place, entered.values.lookup place =
      if place.depth = 0 ∧ place.name ∈ names then some (scope.ask place.name)
      else scope.values.lookup place := by
  induction names generalizing scope with
  | nil => simp [enter]
  | cons name rest ih =>
      obtain ⟨hbindings, hdistinct, hlookup⟩ := ih (scope.set ⟨0, name⟩ (scope.ask name))
      refine ⟨hbindings, fun h => hdistinct (h.set _ _), fun place => (hlookup place).trans ?_⟩
      rw [lookup_set, ask_set]
      cases place with
      | mk depth other => grind

end Scope

/-! ## Loops -/

/-- The head of a loop that nobody looks at: over `source`, with the target `place`. -/
def LoopHead.bare (place : Variable) (source : Formula) : LoopHead where
  state := none
  isRecursive := false
  target := .name place
  source := source
  condition := none
  entrance := []
  otherEntrance := []

theorem leave_set (hdistinct : scope.IsDistinct) {place : Variable}
    (hplace : scope.values.lookup place = none) (v : Value) :
    scope.leave (scope.set place v) = scope := by
  refine Scope.leave_eq hdistinct fun other w hother => ?_
  rw [Scope.lookup_set, if_neg]
  · exact hother
  · rintro rfl
    rw [hplace] at hother
    exact absurd hother (by simp)

theorem overList_writes (work : LoopWork) {place : Variable} {write : Text → Text}
    (htarget : work.head.target = .name place) (hentrance : work.head.entrance = [])
    (hdistinct : scope.IsDistinct) (hplace : scope.values.lookup place = none)
    (hbody : ∀ item, work.body (scope.set place (.text item)) =
      pure (write item, scope.set place (.text item))) (items : List Text) :
    work.overList scope (items.map .text) = pure (items.flatMap write, scope) := by
  induction items with
  | nil => rw [List.map_nil, LoopWork.overList, List.flatMap_nil]
  | cons item rest ih =>
      have hround : work.round (scope.set place (.text item)) =
          pure (write item, scope.set place (.text item)) := by
        rw [LoopWork.round, hentrance]
        exact hbody item
      rw [List.map_cons, LoopWork.overList, htarget, Scope.assign, pure_bind, hround, pure_bind]
      -- leaving the round drops the target, so that the next one begins in the same scope
      dsimp only
      rw [leave_set hdistinct hplace, ih, pure_bind, List.flatMap_cons]

theorem writes_loop {mention : Mention} {place : Variable} {items : List Text}
    {body : List Step} {write : Text → Text}
    (hlook : scope.look mention = .list (items.map .text)) (hdistinct : scope.IsDistinct)
    (hplace : scope.values.lookup place = none)
    (hbody : ∀ item, WritesAll (scope.set place (.text item)) body (write item)) :
    Writes scope (.loop (.bare place (.name mention)) body []) (items.flatMap write) := by
  have hfeed : (Value.list (items.map .text)).feed = pure (.items (items.map .text)) := rfl
  rw [Writes, runStep]
  dsimp only [LoopHead.bare]
  rw [eval_name hlook rfl, pure_bind]
  dsimp only [LoopWork.run, Option.map_none, Option.isSome_none]
  rw [if_neg Bool.false_ne_true, if_neg (by simp), hfeed, pure_bind]
  cases items with
  | nil =>
      -- without any round the other case is written, and it is empty
      have hleave : scope.leave scope = scope := Scope.leave_eq hdistinct fun _ _ => id
      simp only [List.map_nil, List.flatMap_nil, LoopWork.other, Scope.enter, List.foldl_nil,
        runSteps, pure_bind, hleave]
  | cons item rest =>
      let work : LoopWork := ⟨.bare place (.name mention), none, fun inner => runSteps inner body,
        fun inner => runSteps inner []⟩
      exact overList_writes work rfl rfl hdistinct hplace hbody (item :: rest)

end LintScaffold.Template
