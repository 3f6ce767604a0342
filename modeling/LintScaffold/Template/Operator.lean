import LintScaffold.Number.Arithmetic
import LintScaffold.Template.Format
import LintScaffold.Template.Syntax

/-!
# Operators

Arithmetic on values.  Whole numbers are exact; where a double is among the operands
the other one becomes a double too, and where a complex number is, a complex one.  Sums
append texts and lists, products repeat them, and the remainder of a text is a format with
its conversions replaced.
-/

namespace LintScaffold.Template

/-! ## Numbers -/

/-- What messages call an operator. -/
def Arithmetic.symbol : Arithmetic → Text
  | .add => ['+']
  | .sub => ['-']
  | .mul => ['*']
  | .div => ['/']
  | .floorDiv => "//".toList
  | .mod => ['%']
  | .pow => "** or pow()".toList

namespace Operator

/-- A power of complex numbers. -/
def complexPower (z w : Complex) : Except EvalFault Value :=
  match z.pow w with
  | .ok power => .ok (.ofComplex power)
  | .error .zeroBase => .error (.division .complexPower)
  | .error .range => .error (.range .complexPower)

/-- The power of a double with an infinite exponent, by the magnitude of the base. -/
def infinitePower (x y : Binary64) : Binary64 :=
  if x.abs.eq Binary64.one then Binary64.one
  else if y.isNegative = x.abs.lt Binary64.one then .infinite false
  else Binary64.zero false

/-- A power of doubles.  A negative number has complex powers where the exponent is not
whole. -/
def floatPower (x y : Binary64) : Except EvalFault Value :=
  if y.isZero then .ok (.ofFloat Binary64.one)
  else if x = .nan then .ok (.ofFloat .nan)
  else if y = .nan then .ok (.ofFloat (if x.eq Binary64.one then Binary64.one else .nan))
  else if !y.isFinite then .ok (.ofFloat (infinitePower x y))
  else if x.isZero && y.isNegative then .error (.division .power)
  else if x.isFinite && !x.isZero && x.isNegative && !y.isWhole then
    complexPower (Complex.ofReal x) (Complex.ofReal y)
  else
    let power := x.pow y
    if !power.isFinite && x.isFinite then .error (.range .power) else .ok (.ofFloat power)

/-- The result of an operator on doubles. -/
def onFloats (op : Arithmetic) (x y : Binary64) : Except EvalFault Value :=
  match op with
  | .add => .ok (.ofFloat (x.add y))
  | .sub => .ok (.ofFloat (x.sub y))
  | .mul => .ok (.ofFloat (x.mul y))
  | .div => if y.isZero then .error (.division .floatQuotient) else .ok (.ofFloat (x.div y))
  | .floorDiv =>
      if y.isZero then .error (.division .floatWholeQuotient) else .ok (.ofFloat (x.floorDiv y))
  | .mod => if y.isZero then .error (.division .floatRemainder) else .ok (.ofFloat (x.mod y))
  | .pow => floatPower x y

/-- The quotient of whole numbers, as the nearest double. -/
def wholeQuotient (m n : Int) : Except EvalFault Value :=
  if n = 0 then .error (.division .quotient)
  else
    match Binary64.ofRatio (decide (m < 0) != decide (n < 0)) m.natAbs n.natAbs with
    | .infinite _ => .error (.range .quotient)
    | x => .ok (.ofFloat x)

/-- The greatest number of bits that a power may have. -/
def maxPowerBits : Nat := 8000000000

/-- A power of whole numbers with an exponent that is not negative. -/
def wholePower (m : Int) (k : Nat) : Except EvalFault Value :=
  if m.natAbs ≤ 1 then .ok (.int (if k = 0 then 1 else if k % 2 = 0 then m * m else m))
  else if maxPowerBits < Nat.log2 m.natAbs * k then .error .noMemory
  else .ok (.int (Int.pow m k))

/-- The result of an operator on whole numbers. -/
def onInts (op : Arithmetic) (m n : Int) : Except EvalFault Value :=
  match op with
  | .add => .ok (.int (m + n))
  | .sub => .ok (.int (m - n))
  | .mul => .ok (.int (m * n))
  | .div => wholeQuotient m n
  | .floorDiv =>
      if n = 0 then .error (.division .wholeQuotient) else .ok (.int (Int.fdiv m n))
  | .mod => if n = 0 then .error (.division .remainder) else .ok (.int (Int.fmod m n))
  | .pow =>
      match n with
      | .ofNat k => wholePower m k
      | .negSucc _ => do floatPower (← Argument.floatOf (.inl m)) (← Argument.floatOf (.inl n))

/-- The result of an operator on numbers. -/
def onNumbers (op : Arithmetic) : Int ⊕ Binary64 → Int ⊕ Binary64 → Except EvalFault Value
  | .inl m, .inl n => onInts op m n
  | a, b => do onFloats op (← Argument.floatOf a) (← Argument.floatOf b)

/-- The complex number that a value is. -/
def complex? (v : Value) : Option (Except EvalFault Complex) :=
  match v with
  | .complex z _ => some (.ok z)
  | v => v.number?.map fun n => Complex.ofReal <$> Argument.floatOf n

/-! ## Texts and lists -/

/-- Two operands that do not go together. -/
def mismatch (op : Arithmetic) (v w : Value) : Except EvalFault Value :=
  .error (.kind (.operands op.symbol v.kindName w.kindName))

/-- The result of an operator on numbers of which one is complex. -/
def onComplex (op : Arithmetic) (v w : Value) (z : Except EvalFault Complex)
    (y : Except EvalFault Complex) : Except EvalFault Value := do
  match op with
  | .floorDiv => mismatch op v w
  | .mod => mismatch op v w
  | .add => return .ofComplex ((← z).add (← y))
  | .sub => return .ofComplex ((← z).sub (← y))
  | .mul => return .ofComplex ((← z).mul (← y))
  | .div =>
      let z ← z
      let y ← y
      if y.isZero then .error (.division .complexQuotient) else return .ofComplex (z.div y)
  | .pow =>
      let z ← z
      complexPower z (← y)

/-- The second value appended to the first.  Next to markup, plain text is escaped. -/
def append (v w : Value) : Except EvalFault Value :=
  match v, w with
  | .text s, .text t => .ok (.text (s ++ t))
  | .text s, .markup t => .ok (.markup (escapeMarkup s ++ t))
  | .markup s, .text t => .ok (.markup (s ++ escapeMarkup t))
  | .markup s, .markup t => .ok (.markup (s ++ t))
  | .list vs, .list ws => .ok (.list (vs ++ ws))
  | .tuple vs, .tuple ws => .ok (.tuple (vs ++ ws))
  | .list _, .markup _ => .error (.kind (.appended "list" "Markup"))
  | .tuple _, .markup _ => .error (.kind (.appended "tuple" "Markup"))
  | .text _, w => .error (.kind (.appended "str" w.kindName))
  | .list _, w => .error (.kind (.appended "list" w.kindName))
  | .tuple _, w => .error (.kind (.appended "tuple" w.kindName))
  | v, w => mismatch .add v w

/-- The items of a list, so many times over. -/
def repeated {α : Type} (n : Nat) (items : List α) : List α :=
  (List.replicate n items).flatten

/-- A value that can be repeated, so many times over, and the number of its items. -/
def repeatValue? (n : Nat) : Value → Option (Value × Nat)
  | .text t => some (.text (repeated n t), t.length)
  | .markup t => some (.markup (repeated n t), t.length)
  | .list vs => some (.list (repeated n vs), vs.length)
  | .tuple vs => some (.tuple (repeated n vs), vs.length)
  | _ => none

/-- The number of items of a value that can be repeated. -/
def repeatable? (v : Value) : Option Nat := (repeatValue? 0 v).map Prod.snd

/-- The greatest number of repetitions. -/
def maxRepetitions : Int := Int.ofNat 9223372036854775807

/-- The greatest number of items that fit into memory. -/
def maxItems : Nat := 500000000

/-- A value with so many items, repeated as often as another value says; `refuse` is the
complaint about a value that is no whole number. -/
def repeatBy (v : Value) (length : Nat) (count : Value) (refuse : KindFault) :
    Except EvalFault Value :=
  match count.int? with
  | none => .error (.kind refuse)
  | some n =>
      if n < -maxRepetitions - 1 ∨ maxRepetitions < n then .error (.range .repetition)
      else if length = 0 then .ok v
      else if maxItems < length * n.toNat then .error .noMemory
      else .ok (((repeatValue? n.toNat v).map Prod.fst).getD v)

/-- The product of two values of which one can be repeated. -/
def repeatEither (v w : Value) : Except EvalFault Value :=
  match v, w with
  | .markup t, w => repeatBy v t.length w (.noInteger w.kindName)
  | v, .markup t => repeatBy w t.length v (.noInteger v.kindName)
  | v, w =>
      match repeatable? v, repeatable? w with
      | some length, _ => repeatBy v length w (.repetition w.kindName)
      | none, some length => repeatBy w length v (.repetition v.kindName)
      | none, none => mismatch .mul v w

/-! ## All operators -/

/-- The fault of computing with a value that is not there. -/
def present : Value → Except EvalFault Unit
  | .absent cause _ => .error cause.fault
  | _ => .ok ()

/-- The result of an operator on values that are there. -/
def onValues (op : Arithmetic) (v w : Value) : Except EvalFault Value :=
  match v.number?, w.number? with
  | some m, some n => onNumbers op m n
  | _, _ =>
      match complex? v, complex? w with
      | some z, some y => onComplex op v w z y
      | _, _ =>
          match op with
          | .add => append v w
          | .mul => repeatEither v w
          | op => mismatch op v w

/-- The result of an operator on values that may not be there. -/
def onAny (op : Arithmetic) (v w : Value) : Except EvalFault Value :=
  match op, v, w with
  | .mul, .markup _, .absent _ _ => .error (.kind (.noInteger w.kindName))
  | op, v, w => do
      present v
      present w
      onValues op v w

/-- The result of an operator. -/
def arithmetic (op : Arithmetic) (v w : Value) : Run Value := do
  match op, v with
  | .mod, .text t => return .text (← format t w)
  | .mod, .markup t => return .markup (← formatMarkup t w)
  | op, v => Run.check (onAny op v w)

/-- The value with a sign. -/
def sided (op : Sided) (v : Value) : Except EvalFault Value := do
  present v
  match op, v with
  | .neg, .float x _ => return .ofFloat x.neg
  | .neg, .complex z _ => return .ofComplex z.neg
  | .pos, .float x mark => return .float x mark
  | .pos, .complex z mark => return .complex z mark
  | .neg, v =>
      match v.int? with
      | some n => return .int (-n)
      | none => .error (.kind (.signed '-' v.kindName))
  | .pos, v =>
      match v.int? with
      | some n => return .int n
      | none => .error (.kind (.signed '+' v.kindName))

/-- The outcome of a comparison. -/
def compare (op : Comparison) (v w : Value) : Run Bool := do
  match op with
  | .eq => Run.check (Value.same v w)
  | .ne => return !(← Run.check (Value.same v w))
  | .lt => Run.check (Value.inOrder .less v w)
  | .le => Run.check (Value.inOrder .lessOrEqual v w)
  | .gt => Run.check (Value.inOrder .greater v w)
  | .ge => Run.check (Value.inOrder .greaterOrEqual v w)
  | .isIn => Value.isIn v w
  | .notIn => return !(← Value.isIn v w)

end Operator
end LintScaffold.Template
