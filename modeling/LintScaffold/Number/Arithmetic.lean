import LintScaffold.Number.Binary64

/-!
# Arithmetic of doubles

Sum, product, quotient and remainder are computed exactly and rounded once.  The
quotient rounded down and the remainder take the sign of the divisor, and are built
from the truncated remainder as the rounded operations allow.
-/

namespace LintScaffold.Binary64

/-- The sign bit, which a NaN is taken to lack. -/
def isNegative : Binary64 → Bool
  | .nan => false
  | .infinite negative => negative
  | .finite negative _ => negative

/-- The number with the other sign. -/
def neg : Binary64 → Binary64
  | .nan => .nan
  | .infinite negative => .infinite (!negative)
  | .finite negative rank => .finite (!negative) rank

/-- A zero with the given sign. -/
def zero (negative : Bool) : Binary64 := .finite negative 0

/-- The number one. -/
def one : Binary64 := ofRatio false 1 1

/-- The number one half. -/
def half : Binary64 := ofRatio false 1 2

/-! ## Sum, product and quotient -/

/-- The sum; an exact zero is negative only when both terms are. -/
def add (x y : Binary64) : Binary64 :=
  match x, y with
  | .nan, _ => .nan
  | _, .nan => .nan
  | .infinite a, .infinite b => if a = b then .infinite a else .nan
  | .infinite a, .finite _ _ => .infinite a
  | .finite _ _, .infinite b => .infinite b
  | .finite a r, .finite b s =>
      let units := signedUnits a r + signedUnits b s
      if units = 0 then zero (a && b && decide (r = 0)) else ofUnits units

/-- The difference. -/
def sub (x y : Binary64) : Binary64 := add x (neg y)

/-- The product. -/
def mul (x y : Binary64) : Binary64 :=
  match x, y with
  | .nan, _ => .nan
  | _, .nan => .nan
  | .infinite a, y => if y.isZero then .nan else .infinite (a != y.isNegative)
  | x, .infinite b => if x.isZero then .nan else .infinite (x.isNegative != b)
  | .finite a r, .finite b s =>
      ofRank (a != b) (nearestRank (unitsOf r * unitsOf s) scale)

/-- The quotient by a number that is not zero. -/
def div (x y : Binary64) : Binary64 :=
  match x, y with
  | .nan, _ => .nan
  | _, .nan => .nan
  | .infinite _, .infinite _ => .nan
  | .infinite a, .finite b _ => .infinite (a != b)
  | .finite a _, .infinite b => zero (a != b)
  | .finite a r, .finite b s => ofRatio (a != b) (unitsOf r) (unitsOf s)

/-! ## Division with remainder -/

/-- The remainder of the quotient cut towards zero; the divisor is not zero. -/
def truncatedMod (x y : Binary64) : Binary64 :=
  match x, y with
  | .nan, _ => .nan
  | _, .nan => .nan
  | .infinite _, _ => .nan
  | x, .infinite _ => x
  | .finite a r, .finite _ s => ofRank a (nearestRank (unitsOf r % unitsOf s) 1)

/-- The remainder that has the sign of the divisor, which is not zero. -/
def mod (x y : Binary64) : Binary64 :=
  let rest := truncatedMod x y
  if rest.isZero then zero y.isNegative
  else if rest != .nan && rest.isNegative != y.isNegative then add rest y
  else rest

/-- The greatest whole number that is not greater. -/
def floor : Binary64 → Binary64
  | .finite negative rank =>
      let units := unitsOf rank
      let whole := units / scale
      if negative then
        let up := if units % scale = 0 then whole else whole + 1
        ofRank true (nearestRank (up * scale) 1)
      else ofRank false (nearestRank (whole * scale) 1)
  | x => x

/-- The quotient rounded down, by a divisor that is not zero. -/
def floorDiv (x y : Binary64) : Binary64 :=
  let rest := truncatedMod x y
  let quotient := div (sub x rest) y
  let quotient :=
    if !rest.isZero && rest != .nan && rest.isNegative != y.isNegative then sub quotient one
    else quotient
  if quotient.isZero then zero (x.isNegative != y.isNegative)
  else
    let down := floor quotient
    if lt half (sub quotient down) then add down one else down

/-! ## Powers -/

/-- The bits of a double. -/
def toBits : Binary64 → UInt64
  | .nan => 0x7ff8000000000000
  | .infinite negative => if negative then 0xfff0000000000000 else 0x7ff0000000000000
  | .finite negative rank =>
      UInt64.ofNat (if negative then 9223372036854775808 + rank else rank)

/-- The double with the given bits. -/
def ofBits (bits : UInt64) : Binary64 :=
  let negative := decide (9223372036854775808 ≤ bits.toNat)
  let magnitude := bits.toNat % 9223372036854775808
  if magnitude < ranks then .finite negative magnitude
  else if magnitude = ranks then .infinite negative
  else .nan

/-- A function of the processor's mathematical library, rounded as it rounds it. -/
def apply (f : Float → Float) (x : Binary64) : Binary64 :=
  ofBits (f (Float.ofBits x.toBits)).toBits

/-- A function of two doubles of the processor's mathematical library. -/
def apply₂ (f : Float → Float → Float) (x y : Binary64) : Binary64 :=
  ofBits (f (Float.ofBits x.toBits) (Float.ofBits y.toBits)).toBits

/-- A power. -/
def pow : Binary64 → Binary64 → Binary64 := apply₂ Float.pow

/-- The number is whole. -/
def isWhole : Binary64 → Bool
  | .finite _ rank => unitsOf rank % scale = 0
  | _ => false

/-- The number is whole and not divisible by two. -/
def isOdd : Binary64 → Bool
  | .finite _ rank => unitsOf rank % scale = 0 && unitsOf rank / scale % 2 = 1
  | _ => false

/-- The number without its sign. -/
def abs (x : Binary64) : Binary64 := if x.isNegative then x.neg else x

end LintScaffold.Binary64
