import LintScaffold.Text.Basic

/-!
# Double-precision numbers

The finite doubles of one sign, in ascending order, are numbered by consecutive
ranks: zero has rank 0, the least positive double rank 1, and so on.  Every finite
double is a whole multiple of the least one, so that its value is a natural number
of such units and all questions about it are exact arithmetic on naturals.

A rank below `2 * binade` is its own number of units.  Beyond, a binade of ranks
covers the numbers between two powers of two, and each further binade doubles the
distance of neighbours.  The same rule, read backwards, rounds: a number of units is
divided by the distance of the neighbours around it, and the rounded quotient counts
ranks.
-/

namespace LintScaffold

/-- A double-precision number; a finite one is given by its rank among the finite
numbers of its sign. -/
inductive Binary64
  | nan
  | infinite (negative : Bool)
  | finite (negative : Bool) (rank : Nat)
  deriving DecidableEq

namespace Binary64

/-! ## Ranks and units -/

/-- The number of doubles between two neighbouring powers of two. -/
def binade : Nat := 4503599627370496

/-- The number of ranks of finite doubles. -/
def ranks : Nat := 2047 * binade

/-- The number of units in the number one. -/
def scale : Nat := Nat.pow 2 1074

/-- The value of a rank, in units. -/
def unitsOf (rank : Nat) : Nat :=
  if rank < 2 * binade then rank
  else (rank % binade + binade) * Nat.pow 2 (rank / binade - 1)

/-- A quotient rounded to the nearest natural number, a tie to the even one. -/
def roundHalfEven (num den : Nat) : Nat :=
  let whole := num / den
  let twice := 2 * (num % den)
  if twice < den then whole else if den < twice then whole + 1 else whole + whole % 2

/-- The rank nearest to `num / den` units, a tie going to the even rank. -/
def nearestRank (num den : Nat) : Nat :=
  let shift := Nat.log2 (num / den) - 52
  shift * binade + roundHalfEven num (den * Nat.pow 2 shift)

/-- The double of a rank, infinite if there is no such rank. -/
def ofRank (negative : Bool) (rank : Nat) : Binary64 :=
  if rank < ranks then .finite negative rank else .infinite negative

/-- The double nearest to a quotient of natural numbers. -/
def ofRatio (negative : Bool) (num den : Nat) : Binary64 :=
  ofRank negative (nearestRank (num * scale) den)

/-! ## Decimal numbers -/

/-- The rank nearest to `digits * 10 ^ exponent`. -/
def decimalRank (digits : Nat) (exponent : Int) : Nat :=
  match exponent with
  | .ofNat n => nearestRank (digits * Nat.pow 10 n * scale) 1
  | .negSucc n => nearestRank (digits * scale) (Nat.pow 10 (n + 1))

/-- The double nearest to `digits * 10 ^ exponent`.  Exponents far outside the range
of doubles are decided without computing the power. -/
def ofDecimal (negative : Bool) (digits : Nat) (exponent : Int) : Binary64 :=
  if digits = 0 then .finite negative 0
  else
    let magnitude := exponent + Int.ofNat (Text.ofNat digits).length
    if Int.ofNat 400 < magnitude then .infinite negative
    else if magnitude < Int.negSucc 399 then .finite negative 0
    else ofRank negative (decimalRank digits exponent)

/-- The double nearest to a whole number, if it is in range. -/
def ofInt? (n : Int) : Option Binary64 :=
  match ofRatio (decide (n < 0)) n.natAbs 1 with
  | .infinite _ => none
  | x => some x

/-! ## Signed values -/

/-- The value of a finite double of the given sign and rank, in units. -/
def signedUnits (negative : Bool) (rank : Nat) : Int :=
  if negative then -(Int.ofNat (unitsOf rank)) else Int.ofNat (unitsOf rank)

/-- The double nearest to a number of units. -/
def ofUnits (units : Int) : Binary64 :=
  ofRank (decide (units < 0)) (nearestRank units.natAbs 1)

/-- The number is neither infinite nor a NaN. -/
def isFinite : Binary64 → Bool
  | .finite _ _ => true
  | _ => false

/-- The number is a zero of either sign. -/
def isZero : Binary64 → Bool
  | .finite _ rank => rank = 0
  | _ => false

/-! ## Order

Comparisons with each other and with whole numbers are exact: no side is rounded first.  A
NaN is neither less than, equal to nor greater than anything. -/

/-- The first number is less than the second. -/
def lt (x y : Binary64) : Bool :=
  match x, y with
  | .nan, _ => false
  | _, .nan => false
  | .infinite a, .infinite b => a && !b
  | .infinite a, .finite _ _ => a
  | .finite _ _, .infinite b => !b
  | .finite a r, .finite b s => decide (signedUnits a r < signedUnits b s)

/-- The two numbers are equal; zeros of both signs are, a NaN is equal to nothing. -/
def eq (x y : Binary64) : Bool :=
  match x, y with
  | .nan, _ => false
  | _, .nan => false
  | .infinite a, .infinite b => a = b
  | .finite a r, .finite b s => decide (signedUnits a r = signedUnits b s)
  | _, _ => false

/-- How a number compares with a whole number, unless it is a NaN. -/
def compareInt? (x : Binary64) (n : Int) : Option Ordering :=
  match x with
  | .nan => none
  | .infinite negative => some (if negative then .lt else .gt)
  | .finite negative rank =>
      let units := signedUnits negative rank
      let other := n * Int.ofNat scale
      some (if units < other then .lt else if units = other then .eq else .gt)

/-- The number is equal to a whole number. -/
def isEqualTo (x : Binary64) (n : Int) : Bool := compareInt? x n = some .eq

end Binary64
end LintScaffold
