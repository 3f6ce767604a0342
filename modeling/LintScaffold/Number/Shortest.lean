import LintScaffold.Number.Binary64

/-!
# The shortest decimal of a double

A double is written with the fewest digits that read back as the same double, and
of those with the digits nearest to its value.

For one, two, up to seventeen digits, the two neighbours of the value on the grid of
numbers with so many digits are read back; the first grid with a hit wins.  Looking
at the two neighbours is enough: if any grid point reads back, so does the one next
to the value on that side.
-/

namespace LintScaffold.Binary64

/-- A number `digits * 10 ^ exponent`. -/
structure Decimal where
  digits : Nat
  exponent : Int
  deriving DecidableEq

/-- The decimal of a grid point, one digit standing for all when the point is the power
of ten beyond the numbers with `count` digits. -/
def Decimal.ofGrid (count digits : Nat) (exponent : Int) : Decimal :=
  if digits = Nat.pow 10 count then ⟨1, exponent + Int.ofNat count⟩ else ⟨digits, exponent⟩

/-- The exponent of the first decimal digit of a value given in units, which is not
zero. -/
def leadingExponent (units : Nat) : Int :=
  if scale ≤ units then Int.ofNat ((Text.ofNat (units / scale)).length - 1)
  else -(Int.ofNat (Text.ofNat (scale / units)).length)

/-- A value given in units, as a quotient in terms of `10 ^ exponent`. -/
def inPowers (units : Nat) : Int → Nat × Nat
  | .ofNat n => (units, scale * Nat.pow 10 n)
  | .negSucc n => (units * Nat.pow 10 (n + 1), scale)

/-- The nearest decimal with `count` digits that reads back as the double of the given
rank, if there is one. -/
def withDigits? (rank count : Nat) : Option Decimal :=
  let units := unitsOf rank
  let exponent := leadingExponent units + 1 - Int.ofNat count
  let (num, den) := inPowers units exponent
  let lower := num / den
  let lowerHits := decimalRank lower exponent = rank
  let upperHits := decimalRank (lower + 1) exponent = rank
  if lowerHits ∧ upperHits then
    some (.ofGrid count (roundHalfEven num den) exponent)
  else if lowerHits then some (.ofGrid count lower exponent)
  else if upperHits then some (.ofGrid count (lower + 1) exponent)
  else none

/-- The shortest decimal that reads back as the double of the given rank, and the exact
value should none have at most seventeen digits. -/
def shortest (rank : Nat) : Decimal :=
  match (List.range 17).findSome? fun i => withDigits? rank (i + 1) with
  | some decimal => decimal
  | none => ⟨unitsOf rank * Nat.pow 5 1074, Int.negSucc 1073⟩

/-! ## Layout -/

/-- How decimals are laid out: between which exponents of the leading digit they are
written without a power of ten, and how many digits an exponent has at least. -/
structure Layout where
  lowest : Int
  highest : Int
  exponentWidth : Nat

/-- Numbers from `0.0001` up to below `10 ^ 16` are written without a power of ten, and
an exponent has two digits or more. -/
def Layout.standard : Layout := ⟨Int.negSucc 3, Int.ofNat 15, 2⟩

/-- Decimal digits with a point after the first `point` of them, and at least one digit
on each side of it. -/
def positional (digits : Text) (point : Int) : Text :=
  match point with
  | .negSucc n => "0.".toList ++ List.replicate (n + 1) '0' ++ digits
  | .ofNat 0 => "0.".toList ++ digits
  | .ofNat n =>
      if digits.length ≤ n then
        digits ++ List.replicate (n - digits.length) '0' ++ ".0".toList
      else digits.take n ++ ['.'] ++ digits.drop n

/-- Decimal digits with a point after the first one and a power of ten. -/
def scientific (width : Nat) (digits : Text) (exponent : Int) : Text :=
  let mantissa :=
    match digits with
    | [] => []
    | [d] => [d]
    | d :: rest => d :: '.' :: rest
  let power := Text.ofNat exponent.natAbs
  mantissa ++ ['e', if exponent < 0 then '-' else '+'] ++
    List.replicate (width - power.length) '0' ++ power

/-- A decimal in the given layout. -/
def Layout.write (layout : Layout) (decimal : Decimal) : Text :=
  let digits := Text.ofNat decimal.digits
  let leading := decimal.exponent + Int.ofNat digits.length - 1
  if layout.lowest ≤ leading ∧ leading ≤ layout.highest then positional digits (leading + 1)
  else scientific layout.exponentWidth digits leading

/-- The text of a double. -/
def text : Binary64 → Text
  | .nan => "nan".toList
  | .infinite negative => if negative then "-inf".toList else "inf".toList
  | .finite negative rank =>
      let magnitude :=
        if rank = 0 then "0.0".toList else Layout.standard.write (shortest rank)
      if negative then '-' :: magnitude else magnitude

/-! ## A given number of digits

The magnitude of a double, given in units, written with a fixed number of places behind the
point, with a power of ten, or in whichever of the two ways is shorter.  The digits are
those of the exact value, rounded once, a tie to the even neighbour. -/

/-- Zeros in front of digits, up to a number of digits. -/
def withZeros (count : Nat) (digits : Text) : Text :=
  List.replicate (count - digits.length) '0' ++ digits

/-- A point between two rows of digits, which is left out where nothing follows it unless it
is to be kept. -/
def pointed (keepsPoint : Bool) (whole fraction : Text) : Text :=
  if fraction.isEmpty && !keepsPoint then whole else whole ++ '.' :: fraction

/-- A value with a fixed number of places. -/
def fixedText (places : Nat) (keepsPoint : Bool) (units : Nat) : Text :=
  let scaled := roundHalfEven (units * Nat.pow 10 places) scale
  let digits := withZeros (places + 1) (Text.ofNat scaled)
  let whole := digits.length - places
  pointed keepsPoint (digits.take whole) (digits.drop whole)

/-- The first `count` digits of a value, rounded, and the exponent of the first of them. -/
def leadingDigits (count units : Nat) : Text × Int :=
  if units = 0 then (List.replicate count '0', 0)
  else
    let exponent := leadingExponent units
    let (num, den) := inPowers units (exponent + 1 - Int.ofNat count)
    let rounded := roundHalfEven num den
    if rounded = Nat.pow 10 count then (Text.ofNat (rounded / 10), exponent + 1)
    else (Text.ofNat rounded, exponent)

/-- An exponent with its letter and its sign, and at least two digits. -/
def exponentText (exponent : Int) : Text :=
  ['e', if exponent < 0 then '-' else '+'] ++ withZeros 2 (Text.ofNat exponent.natAbs)

/-- A value with a power of ten and a fixed number of places. -/
def scientificText (places : Nat) (keepsPoint : Bool) (units : Nat) : Text :=
  let (digits, exponent) := leadingDigits (places + 1) units
  pointed keepsPoint (digits.take 1) (digits.drop 1) ++ exponentText exponent

/-- A value with a number of digits, and with a power of ten only where that is shorter.
Zeros at the end of the fraction are left out unless they are to be kept. -/
def generalText (count : Nat) (keepsZeros : Bool) (units : Nat) : Text :=
  let count := if count = 0 then 1 else count
  let (digits, exponent) := leadingDigits count units
  let trim (fraction : Text) : Text :=
    if keepsZeros then fraction else Text.dropEndWhile (· = '0') fraction
  if Int.negSucc 3 ≤ exponent ∧ exponent < Int.ofNat count then
    match exponent with
    | .ofNat n => pointed keepsZeros (digits.take (n + 1)) (trim (digits.drop (n + 1)))
    | .negSucc n => pointed keepsZeros ['0'] (trim (List.replicate n '0' ++ digits))
  else
    pointed keepsZeros (digits.take 1) (trim (digits.drop 1)) ++ exponentText exponent

end LintScaffold.Binary64
