import LintScaffold.Number.Arithmetic
import LintScaffold.Number.Shortest

/-!
# Complex numbers

Complex numbers whose parts are doubles.  They arise as powers of negative numbers whose
exponent is not whole.  Every operation on them is one on the parts, rounded step by step.
-/

namespace LintScaffold

/-- A complex number. -/
structure Complex where
  re : Binary64
  im : Binary64
  deriving DecidableEq

namespace Complex

/-- A real number. -/
def ofReal (x : Binary64) : Complex := ⟨x, Binary64.zero false⟩

/-- The number zero, with parts of either sign. -/
def isZero (z : Complex) : Bool := z.re.isZero && z.im.isZero

/-- The two numbers are equal. -/
def eq (z w : Complex) : Bool := z.re.eq w.re && z.im.eq w.im

/-! ## Arithmetic -/

/-- The sum. -/
def add (z w : Complex) : Complex := ⟨z.re.add w.re, z.im.add w.im⟩

/-- The difference. -/
def sub (z w : Complex) : Complex := ⟨z.re.sub w.re, z.im.sub w.im⟩

/-- The number with the other sign. -/
def neg (z : Complex) : Complex := ⟨z.re.neg, z.im.neg⟩

/-- The product. -/
def mul (z w : Complex) : Complex :=
  ⟨(z.re.mul w.re).sub (z.im.mul w.im), (z.re.mul w.im).add (z.im.mul w.re)⟩

/-- The quotient by a number that is not zero.  The greater part of the divisor is taken out
of it first. -/
def div (z w : Complex) : Complex :=
  let re := w.re.abs
  let im := w.im.abs
  if re.lt im then
    let ratio := w.re.div w.im
    let divisor := (w.re.mul ratio).add w.im
    ⟨((z.re.mul ratio).add z.im).div divisor, ((z.im.mul ratio).sub z.re).div divisor⟩
  else if im.lt re || im.eq re then
    let ratio := w.im.div w.re
    let divisor := w.re.add (w.im.mul ratio)
    ⟨(z.re.add (z.im.mul ratio)).div divisor, (z.im.sub (z.re.mul ratio)).div divisor⟩
  else ⟨.nan, .nan⟩

/-! ## Powers -/

/-- The distance from zero. -/
def abs (z : Complex) : Binary64 :=
  if z.im.isZero then z.re.abs
  else if z.re.isZero then z.im.abs
  else ((z.re.mul z.re).add (z.im.mul z.im)).apply Float.sqrt

/-- The product of `result` with the powers of `base` whose exponents, `1`, `2`, `4` and so
on, add up to `n`; `fuel` bounds their number. -/
def powNatFrom : (fuel n : Nat) → (result base : Complex) → Complex
  | 0, _, result, _ => result
  | fuel + 1, n, result, base =>
      if n = 0 then result
      else powNatFrom fuel (n / 2) (if n % 2 = 1 then result.mul base else result) (base.mul base)

/-- The power with a natural exponent, by repeated squaring. -/
def powNat (z : Complex) (n : Nat) : Complex :=
  powNatFrom (n + 1) n (ofReal Binary64.one) z

/-- The greatest exponent, of either sign, for which a power is computed by multiplication. -/
def greatestWholeExponent : Nat := 100

/-- The exponent by which a power is computed by multiplication, if it is one. -/
def wholeExponent? (z : Complex) : Option Int :=
  match z.re with
  | .finite negative rank =>
      let units := Binary64.unitsOf rank
      if z.im.isZero && units % Binary64.scale = 0 &&
          units / Binary64.scale ≤ greatestWholeExponent then
        let n := Int.ofNat (units / Binary64.scale)
        some (if negative then -n else n)
      else none
  | _ => none

/-- A power of a number that is not zero, from its distance and its angle. -/
def powPolar (z w : Complex) : Complex :=
  let distance := z.abs
  let angle := Binary64.apply₂ Float.atan2 z.im z.re
  let length := distance.pow w.re
  let phase := angle.mul w.re
  let (length, phase) :=
    if w.im.isZero then (length, phase)
    else (length.mul ((angle.neg.mul w.im).apply Float.exp),
      phase.add (w.im.mul (distance.apply Float.log)))
  ⟨length.mul (phase.apply Float.cos), length.mul (phase.apply Float.sin)⟩

/-- Why there is no power. -/
inductive PowerFault
  /-- The base is zero, and the exponent is negative or not real. -/
  | zeroBase
  /-- The power is out of range. -/
  | range
  deriving DecidableEq

/-- A power. -/
def pow (z w : Complex) : Except PowerFault Complex :=
  let power : Except PowerFault Complex :=
    match w.wholeExponent? with
    | some (.ofNat (n + 1)) => .ok (z.powNat (n + 1))
    | some (.ofNat 0) => .ok (ofReal Binary64.one)
    | some (.negSucc n) =>
        let divisor := z.powNat (n + 1)
        if divisor.isZero then .error .zeroBase else .ok ((ofReal Binary64.one).div divisor)
    | none =>
        if z.isZero then
          if !w.im.isZero || w.re.isNegative then .error .zeroBase
          else .ok (ofReal (Binary64.zero false))
        else .ok (z.powPolar w)
  match power with
  | .ok ⟨.infinite _, _⟩ => .error .range
  | .ok ⟨_, .infinite _⟩ => .error .range
  | power => power

/-! ## Text -/

/-- The text of a part, which needs no point. -/
def partText (x : Binary64) : Text :=
  match x.text.reverse with
  | '0' :: '.' :: rest => rest.reverse
  | _ => x.text

/-- The text of a part, always with a sign. -/
def signedText (x : Binary64) : Text :=
  if x.isNegative then partText x else '+' :: partText x

/-- The real part is written: it is not the positive zero. -/
def showsReal (z : Complex) : Bool := z.re != Binary64.zero false

/-- The text of a complex number. -/
def text (z : Complex) : Text :=
  if z.showsReal then '(' :: partText z.re ++ signedText z.im ++ "j)".toList
  else partText z.im ++ ['j']

end Complex
end LintScaffold
