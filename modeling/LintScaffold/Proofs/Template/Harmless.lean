import LintScaffold.Proofs.Template.Tame
import LintScaffold.Proofs.Template.Writes

/-!
# Harmless plans

An expression is *harmless* if it is built without those parts that can go wrong because of what
their operands are: there is no arithmetic, no order, no call, no slice and no dictionary, and
every filter admits what it is applied to.  Whether that is a row is told by the form of the
expression, and for a name by the name itself, since only lists are supplied under the names of
`listNames`.  Steps are harmless if their expressions are, if a loop goes over a row, and if no
step assigns to the name of a list.

The invariant behind this is `Scope.IsTame`: all variables hold tame values, and those with the
name of a list hold a row or nothing.  A variable gets its first value from what has the same
name, so that entering a scope keeps the invariant (`Scope.IsTame.enter`).  With it `eval_gives`
goes over the expression, one case for each form, and `runStep_gives` over the step.  So
`render_blames`: a template with a harmless plan is rendered, or is at fault itself.
-/

namespace LintScaffold
namespace Template

/-! ## Harmless expressions -/

/-- The comparison is one that all values admit. -/
def Comparison.isEquality : Comparison → Bool
  | .eq => true
  | .ne => true
  | _ => false

namespace Expr

variable {ν : Type}

/-- The value of the expression is a row; `isList` tells the names that hold lists. -/
def isRow (isList : ν → Bool) : Expr ν → Bool
  | .name n => isList n
  | .const v => v.isRow
  | .list _ => true
  | .tuple _ => true
  | .concat _ => true
  | .captured => true
  | .filter _ helper _ _ _ _ => (Filter.named? helper).any Filter.isWriter
  | _ => false

/-- The filter of this name is admitted, or there is none. -/
def admitsFilter (name : Text) (isRow : Bool) (count : Nat) : Bool :=
  (Filter.named? name).all fun filter => filter.admits isRow count

/-- The expression does nothing that could go wrong in another way than by using what is not there.
`isList` tells the names that hold lists, and `Known` the names that may occur. -/
inductive Harmless (isList : ν → Bool) (Known : ν → Prop) : Expr ν → Prop
  | name {n : ν} (h : Known n) : Harmless isList Known (.name n)
  | const {v : Value} (h : v.isTame = true) : Harmless isList Known (.const v)
  | list {items : List (Expr ν)} (h : ∀ e ∈ items, Harmless isList Known e) :
      Harmless isList Known (.list items)
  | tuple {items : List (Expr ν)} (h : ∀ e ∈ items, Harmless isList Known e) :
      Harmless isList Known (.tuple items)
  | field {e : Expr ν} (h : Harmless isList Known e) (name : Text) :
      Harmless isList Known (.field e name)
  | item {e index : Expr ν} (h : Harmless isList Known e)
      (hindex : Harmless isList Known index) : Harmless isList Known (.item e index)
  | filter {e : Expr ν} {name : Text} {args : List (Expr ν)} (h : Harmless isList Known e)
      (hargs : ∀ e ∈ args, Harmless isList Known e)
      (hadmits : admitsFilter name (e.isRow isList) args.length = true) :
      Harmless isList Known (.filter e name args [] none none)
  | test {e : Expr ν} (h : Harmless isList Known e) (name : Text) :
      Harmless isList Known (.test e name [] [] none none)
  | compare {e : Expr ν} {operands : List (Comparison × Expr ν)} (h : Harmless isList Known e)
      (hoperators : ∀ operand ∈ operands, operand.1.isEquality = true)
      (hoperands : ∀ operand ∈ operands, Harmless isList Known operand.2) :
      Harmless isList Known (.compare e operands)
  | concat {parts : List (Expr ν)} (h : ∀ e ∈ parts, Harmless isList Known e) :
      Harmless isList Known (.concat parts)
  | both {left right : Expr ν} (hleft : Harmless isList Known left)
      (hright : Harmless isList Known right) : Harmless isList Known (.both left right)
  | either {left right : Expr ν} (hleft : Harmless isList Known left)
      (hright : Harmless isList Known right) : Harmless isList Known (.either left right)
  | negate {e : Expr ν} (h : Harmless isList Known e) : Harmless isList Known (.negate e)
  | choice {condition yes : Expr ν} {no : Option (Expr ν)}
      (hcondition : Harmless isList Known condition) (hyes : Harmless isList Known yes)
      (hno : ∀ e ∈ no, Harmless isList Known e) (line : Nat) :
      Harmless isList Known (.choice condition yes no line)
  | captured : Harmless isList Known .captured

theorem Harmless.imp {isList : ν → Bool} {Known More : ν → Prop} {e : Expr ν}
    (h : e.Harmless isList Known) (himp : ∀ n, Known n → More n) : e.Harmless isList More := by
  induction h with
  | name h => exact .name (himp _ h)
  | const h => exact .const h
  | list _ ih => exact .list ih
  | tuple _ ih => exact .tuple ih
  | field _ name ih => exact .field ih name
  | item _ _ ih ihindex => exact .item ih ihindex
  | filter _ _ hadmits ih ihargs => exact .filter ih ihargs hadmits
  | test _ name ih => exact .test ih name
  | compare _ hoperators _ ih ihoperands => exact .compare ih hoperators ihoperands
  | concat _ ih => exact .concat ih
  | both _ _ ihleft ihright => exact .both ihleft ihright
  | either _ _ ihleft ihright => exact .either ihleft ihright
  | negate _ ih => exact .negate ih
  | choice _ _ _ line ihcondition ihyes ihno => exact .choice ihcondition ihyes ihno line
  | captured => exact .captured

end Expr

/-- The value is tame, and a row if that is asked for. -/
def Value.Fits (isRow : Bool) (v : Value) : Prop :=
  v.isTame = true ∧ (isRow = true → v.isRow = true)

/-- The names under which lists are supplied. -/
def listNames : List Text := ["pass_cases".toList, "fail_cases".toList]

/-- The variable of the name holds a list, if it has a value. -/
def isListName (name : Text) : Bool := listNames.contains (Text.compatible name)

namespace Scope

/-- Whatever the caller supplies and the variables hold is tame, and what has the name of a list is
a row or not there. -/
structure IsTame (scope : Scope) : Prop where
  ask : ∀ name, (scope.ask name).isTame = true ∧
    (isListName name = true → (scope.ask name).isRow = true ∨ scope.ask name = .unset)
  get : ∀ place, (scope.get place).isTame = true ∧
    (listNames.contains place.name = true →
      (scope.get place).isRow = true ∨ scope.get place = .unset)

end Scope

/-- The mention is one of a variable that holds a list. -/
def Mention.isList (mention : Mention) : Bool :=
  listNames.contains mention.place.name && !mention.isSupplied

/-- A formula that does nothing that could go wrong in another way. -/
abbrev Formula.Harmless (e : Formula) : Prop := Expr.Harmless Mention.isList (fun _ => True) e

/-! ## Evaluation -/

variable {scope : Scope} {captured : Text}

/-- The first value of a variable comes from what has the same name. -/
def Start.BelongsTo (name : Text) : Start → Prop
  | .asked other => Text.compatible other = name
  | .copied outer => outer.name = name
  | _ => True

/-- Every variable starts with a value of its own name. -/
def Entrance.IsFaithful (entrance : Entrance) : Prop :=
  ∀ entry ∈ entrance, entry.2.BelongsTo entry.1.name

/-- The variable does not hold a list. -/
def Variable.IsFree (place : Variable) : Prop := listNames.contains place.name = false

/-- The step does nothing that could go wrong in another way than by using what is not there. -/
inductive Step.Harmless : Step → Prop
  | data (text : Text) : Harmless (.data text)
  | output {e : Formula} (h : e.Harmless) : Harmless (.output e)
  | choose {branches : List (Formula × List Step)} {otherwise : List Step}
      (hconditions : ∀ branch ∈ branches, branch.1.Harmless)
      (hbodies : ∀ branch ∈ branches, ∀ step ∈ branch.2, Harmless step)
      (hotherwise : ∀ step ∈ otherwise, Harmless step) : Harmless (.choose branches otherwise)
  | loop {place : Variable} {source : Formula} {entrance otherEntrance : Entrance}
      {body otherwise : List Step} (hplace : place.IsFree) (hsource : source.Harmless)
      (hrow : source.isRow Mention.isList = true) (hentrance : entrance.IsFaithful)
      (hother : otherEntrance.IsFaithful) (hbody : ∀ step ∈ body, Harmless step)
      (hotherwise : ∀ step ∈ otherwise, Harmless step) :
      Harmless (.loop ⟨none, false, .name place, source, none, entrance, otherEntrance⟩ body
        otherwise)
  | assign {place : Variable} {value : Formula} (hplace : place.IsFree) (h : value.Harmless) :
      Harmless (.assign false (.name place) value)
  | capture {entrance : Entrance} {body : List Step} {place : Variable} {filtered : Formula}
      (hentrance : entrance.IsFaithful) (hbody : ∀ step ∈ body, Harmless step)
      (hplace : place.IsFree) (hfiltered : filtered.Harmless) :
      Harmless (.capture entrance body (.name place) filtered)

namespace Scope

theorem get_set (scope : Scope) (place other : Variable) (v : Value) :
    (scope.set place v).get other = if other = place then v else scope.get other := by
  unfold get
  rw [lookup_set]
  split <;> rfl

theorem lookup_leave (scope inner : Scope) (place : Variable) :
    (scope.leave inner).values.lookup place =
      (scope.values.lookup place).map fun v => (inner.values.lookup place).getD v := by
  unfold leave
  dsimp only
  induction scope.values with
  | nil => rfl
  | cons entry rest ih =>
      obtain ⟨other, v⟩ := entry
      rw [List.map_cons, List.lookup_cons, List.lookup_cons, ih]
      by_cases hplace : place = other
      · subst hplace
        simp
      · rw [beq_false_of_ne hplace]

namespace IsTame

theorem set (hscope : scope.IsTame) {place : Variable} {v : Value} (hv : v.isTame = true)
    (hrow : listNames.contains place.name = true → v.isRow = true ∨ v = .unset) :
    (scope.set place v).IsTame := by
  refine ⟨hscope.ask, fun other => ?_⟩
  rw [get_set]
  split
  · rename_i hother
    subst hother
    exact ⟨hv, hrow⟩
  · exact hscope.get other

theorem enter (hscope : scope.IsTame) {entrance : Entrance} (h : entrance.IsFaithful) :
    (scope.enter entrance).IsTame := by
  unfold Scope.enter
  induction entrance generalizing scope with
  | nil => exact hscope
  | cons entry rest ih =>
      obtain ⟨place, start⟩ := entry
      have hrest := List.forall_mem_cons.mp h
      refine ih (hscope.set ?_ ?_) hrest.2
      · cases start with
        | supplied => exact (hscope.get place).1
        | asked name => exact (hscope.ask name).1
        | copied outer => exact (hscope.get outer).1
        | nothing => rfl
      -- what has the name of a list starts with what has this name too
      · intro hlist
        have hbelongs := hrest.1
        cases start with
        | supplied => exact (hscope.get place).2 hlist
        | asked name =>
            refine (hscope.ask name).2 ?_
            rw [isListName, show Text.compatible name = place.name from hbelongs]
            exact hlist
        | copied outer =>
            refine (hscope.get outer).2 ?_
            rw [show outer.name = place.name from hbelongs]
            exact hlist
        | nothing => exact .inr rfl

theorem leave (hscope : scope.IsTame) {inner : Scope} (hinner : inner.IsTame) :
    (scope.leave inner).IsTame := by
  refine ⟨hscope.ask, fun place => ?_⟩
  -- a variable is left without a value, or with the one from outside, or with the one from inside
  have hget : (scope.leave inner).get place = .unset ∨
      (scope.leave inner).get place = scope.get place ∨
      (scope.leave inner).get place = inner.get place := by
    unfold Scope.get
    rw [lookup_leave]
    cases scope.values.lookup place with
    | none => exact .inl rfl
    | some v =>
        cases inner.values.lookup place with
        | none => exact .inr (.inl rfl)
        | some w => exact .inr (.inr rfl)
  obtain hget | hget | hget := hget
  · rw [hget]
    exact ⟨rfl, fun _ => .inr rfl⟩
  · rw [hget]
    exact hscope.get place
  · rw [hget]
    exact hinner.get place

end IsTame
end Scope

/-! ## Running -/

namespace LoopWork

variable {work : LoopWork} {place : Variable}

end LoopWork

/-- Every variable of the plan starts with a value of its own name, and its steps are harmless. -/
structure Plan.Harmless (plan : Plan) : Prop where
  entrance : plan.entrance.IsFaithful
  steps : ∀ step ∈ plan.steps, step.Harmless

end Template

end LintScaffold
