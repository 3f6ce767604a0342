import LintScaffold.Template.Filter
import LintScaffold.Template.Operator

/-!
# Constant expressions

An expression without names may be evaluated once and for all, before the template is
rendered.  Here it is told whether an expression has a constant value, and expressions are
simplified by writing such values in their place.

A fault in a constant expression mostly means no more than that it has no constant value,
and is found again when the expression is evaluated.  But where it is asked whether a value
counts as a yes, where texts are joined, and where a dictionary is filled, it is a fault of
the template as such.

Only values that can be written out are put in the place of an expression.
-/

namespace LintScaffold.Template

/-- A search for a constant value. -/
abbrev Folding := OptionT Run

namespace Constant

/-- A search in which a fault means that nothing is found. -/
def attempt {α : Type} (search : Folding α) : Folding α :=
  OptionT.mk fun around memory =>
    match search.run around memory with
    | .ok found => .ok found
    | .error _ => .ok (none, memory)

/-- A computation as a search that finds something. -/
def found {α : Type} (computation : Run α) : Folding α := OptionT.lift computation

/-- Adds the entries that a value supplies to arguments by name: those of a dictionary, or
pairs. -/
def withEntries (named : List (Text × Value)) (v : Value) : Folding (List (Text × Value)) := do
  let add (named : List (Text × Value)) (key w : Value) : Folding (List (Text × Value)) :=
    match key.text? with
    | some name => return setEntry (· == ·) name w named
    | none => failure
  match v with
  | .dict entries => entries.foldlM (fun named (key, w) => add named key w) named
  | v => do
      let pairs ← found v.iterate
      pairs.foldlM (fun named pair => do
        match ← found pair.iterate with
        | [key, w] => add named key w
        | _ => failure) named

/-- The entries of a dictionary with one more. -/
def withEntry (made : List (Value × Value)) (key v : Value) :
    Except EvalFault (List (Value × Value)) := do
  Value.checkKey key
  Value.insertEntry key v made

mutual
/-- The constant value of an expression. -/
def value : Term → Folding Value
  | .name _ => failure
  | .const v => return v
  | .lost _ => failure
  | .list items => do return .list (← values items)
  | .tuple items => do return .tuple (← values items)
  | .dict entries => do return .dict (← entriesFrom [] entries)
  | .field e name => attempt do
      let v ← value e
      found (do Run.settle (← v.field name))
  | .item e index => attempt do
      let v ← value e
      let i ← value index
      found (do Run.settle (← v.item i))
  | .slice start stop stride => do
      let start ← optional start
      let stop ← optional stop
      return .slice start stop (← optional stride)
  | .call _ _ _ _ _ => failure
  | .filter .captured _ _ _ _ _ => failure
  | .filter e name args named spread spreadNamed => do
      match Filter.named? name with
      | none => failure
      | some filter =>
          let listed ← values args
          let names ← namedFrom [] named
          let listed ← spreadFrom listed spread
          let names ← spreadNamedFrom names spreadNamed
          let v ← value e
          attempt (found (do Run.settle (← filter.apply v ⟨listed, names⟩)))
  | .test e name args named spread spreadNamed => do
      match Test.named? name with
      | none => failure
      | some test =>
          let listed ← values args
          let names ← namedFrom [] named
          let listed ← spreadFrom listed spread
          let names ← spreadNamedFrom names spreadNamed
          let v ← value e
          attempt (found (do return .bool (← test.apply v ⟨listed, names⟩)))
  | .sided op e => attempt do
      let v ← value e
      found (do Run.settle (← Run.check (Operator.sided op v)))
  | .arithmetic op left right => attempt do
      let v ← value left
      let w ← value right
      found (do Run.settle (← Operator.arithmetic op v w))
  | .compare e operands => do
      let v ← value e
      return .bool (← attempt (compareFrom v operands))
  | .concat parts => do return .text (← texts parts)
  | .both left right => do
      let v ← value left
      if ← found v.isTruthy then value right else return v
  | .either left right => do
      let v ← value left
      if ← found v.isTruthy then return v else value right
  | .negate e => attempt do
      let v ← value e
      return .bool !(← found v.isTruthy)
  | .choice condition yes no _ => do
      let v ← value condition
      if ← found v.isTruthy then value yes else alternative no
  | .captured => failure

/-- The constant values of expressions. -/
def values : List Term → Folding (List Value)
  | [] => return []
  | e :: rest => do
      let v ← value e
      return v :: (← values rest)

/-- The constant value of an expression, and none if there is no expression. -/
def optional : Option Term → Folding Value
  | none => return .none
  | some e => value e

/-- The constant second value of a choice.  A value that is not there is no constant. -/
def alternative : Option Term → Folding Value
  | none => failure
  | some e => value e

/-- The entries of a dictionary, behind those that are made. -/
def entriesFrom (made : List (Value × Value)) :
    List (Term × Term) → Folding (List (Value × Value))
  | [] => return made
  | (key, e) :: rest => do
      let key ← value key
      let v ← value e
      entriesFrom (← found (Run.check (withEntry made key v))) rest

/-- The arguments by name, behind those that are made; a later one replaces an earlier one. -/
def namedFrom (made : List (Text × Value)) :
    List (Text × Term) → Folding (List (Text × Value))
  | [] => return made
  | (name, e) :: rest => do
      let v ← value e
      namedFrom (setEntry (· == ·) name v made) rest

/-- The arguments by position, and those that an expression supplies. -/
def spreadFrom (listed : List Value) : Option Term → Folding (List Value)
  | none => return listed
  | some e => attempt do
      let v ← value e
      return listed ++ (← found v.iterate)

/-- The arguments by name, and those that an expression supplies. -/
def spreadNamedFrom (names : List (Text × Value)) :
    Option Term → Folding (List (Text × Value))
  | none => return names
  | some e => attempt do
      let v ← value e
      withEntries names v

/-- The outcome of comparing a value with constant operands. -/
def compareFrom (v : Value) : List (Comparison × Term) → Folding Bool
  | [] => return true
  | (op, e) :: rest => do
      let w ← value e
      if ← found (Operator.compare op v w) then compareFrom w rest else return false

/-- The texts of constant expressions, joined. -/
def texts : List Term → Folding Text
  | [] => return []
  | e :: rest => do
      let v ← value e
      let text ← found v.display
      return text ++ (← texts rest)
end

/-! ## Values that can be written out -/

mutual
/-- The value can be written out. -/
def isWritable : Value → Bool
  | .none => true
  | .bool _ => true
  | .int _ => true
  | .float _ _ => true
  | .complex _ _ => true
  | .text _ => true
  | .markup _ => true
  | .list vs => allWritable vs
  | .tuple vs => allWritable vs
  | .dict entries => entriesWritable entries
  | _ => false

/-- All values of a list can be written out. -/
def allWritable : List Value → Bool
  | [] => true
  | v :: rest => isWritable v && allWritable rest

/-- All keys and values of a dictionary can be written out. -/
def entriesWritable : List (Value × Value) → Bool
  | [] => true
  | (key, v) :: rest => isWritable key && isWritable v && entriesWritable rest
end

/-- The text of an expression that is written out, if it is constant.  Here every fault means
that it is not. -/
def text? (e : Term) : Run (Option Text) :=
  (attempt do
    let v ← value e
    found v.display).run

/-! ## Simplification -/

/-- An expression, or its constant value if it has one that can be written out. -/
def folded (e : Term) : Run Term := do
  match ← (value e).run with
  | some v => if isWritable v then return .const v else return e
  | none => return e

mutual
/-- The expression with constant values in the place of its parts. -/
def simplify : Term → Run Term
  | .name n => return .name n
  | .const v => folded (.const v)
  | .lost word => return .lost word
  | .list items => do folded (.list (← simplifyAll items))
  | .tuple items => do folded (.tuple (← simplifyAll items))
  | .dict entries => do folded (.dict (← simplifyEntries entries))
  | .field e name => do folded (.field (← simplify e) name)
  | .item e index => do
      let e ← simplify e
      folded (.item e (← simplify index))
  | .slice start stop stride => do
      let start ← simplifyOptional start
      let stop ← simplifyOptional stop
      folded (.slice start stop (← simplifyOptional stride))
  | .call e args named spread spreadNamed => do
      let e ← simplify e
      let args ← simplifyAll args
      let named ← simplifyNamed named
      let spread ← simplifyOptional spread
      folded (.call e args named spread (← simplifyOptional spreadNamed))
  | .filter e name args named spread spreadNamed => do
      let e ← simplify e
      let args ← simplifyAll args
      let named ← simplifyNamed named
      let spread ← simplifyOptional spread
      folded (.filter e name args named spread (← simplifyOptional spreadNamed))
  | .test e name args named spread spreadNamed => do
      let e ← simplify e
      let args ← simplifyAll args
      let named ← simplifyNamed named
      let spread ← simplifyOptional spread
      folded (.test e name args named spread (← simplifyOptional spreadNamed))
  | .sided op e => do folded (.sided op (← simplify e))
  | .arithmetic op left right => do
      let left ← simplify left
      folded (.arithmetic op left (← simplify right))
  | .compare e operands => do
      let e ← simplify e
      folded (.compare e (← simplifyOperands operands))
  | .concat parts => do folded (.concat (← simplifyAll parts))
  | .both left right => do
      let left ← simplify left
      folded (.both left (← simplify right))
  | .either left right => do
      let left ← simplify left
      folded (.either left (← simplify right))
  | .negate e => do folded (.negate (← simplify e))
  | .choice condition yes no line => do
      let condition ← simplify condition
      let yes ← simplify yes
      folded (.choice condition yes (← simplifyOptional no) line)
  | .captured => return .captured

/-- Expressions with constant values in the place of their parts. -/
def simplifyAll : List Term → Run (List Term)
  | [] => return []
  | e :: rest => do
      let e ← simplify e
      return e :: (← simplifyAll rest)

/-- An expression with constant values in the place of its parts, if there is one. -/
def simplifyOptional : Option Term → Run (Option Term)
  | none => return none
  | some e => do return some (← simplify e)

/-- The keys and values of a dictionary with constant values in the place of their parts. -/
def simplifyEntries : List (Term × Term) → Run (List (Term × Term))
  | [] => return []
  | (key, e) :: rest => do
      let key ← simplify key
      let e ← simplify e
      return (key, e) :: (← simplifyEntries rest)

/-- Arguments by name with constant values in the place of their parts. -/
def simplifyNamed : List (Text × Term) → Run (List (Text × Term))
  | [] => return []
  | (name, e) :: rest => do
      let e ← simplify e
      return (name, e) :: (← simplifyNamed rest)

/-- The operands of comparisons with constant values in the place of their parts. -/
def simplifyOperands : List (Comparison × Term) → Run (List (Comparison × Term))
  | [] => return []
  | (op, e) :: rest => do
      let e ← simplify e
      return (op, e) :: (← simplifyOperands rest)
end

end Constant
end LintScaffold.Template
