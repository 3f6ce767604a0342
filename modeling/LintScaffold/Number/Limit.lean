import LintScaffold.Text.Basic

/-!
# The limit on digits

Whole numbers are exact and may be large, but they are neither read nor written in
decimal with more than 4300 digits.
-/

namespace LintScaffold

/-- The greatest number of digits with which whole numbers are read or written. -/
def maxDigits : Nat := 4300

/-- The whole number has more digits than may be written. -/
def isTooLong (n : Int) : Bool := decide (maxDigits < (Text.ofNat n.natAbs).length)

/-- The wording for a whole number that has too many digits to be read. -/
def tooManyDigitsMessage (count : Nat) : Text :=
  Text.join [] ["Exceeds the limit (".toList, Text.ofNat maxDigits,
    " digits) for integer string conversion: value has ".toList, Text.ofNat count,
    " digits; use sys.set_int_max_str_digits() to increase the limit".toList]

/-- The wording for a whole number that has too many digits to be written. -/
def tooLongMessage : Text :=
  Text.join [] ["Exceeds the limit (".toList, Text.ofNat maxDigits,
    " digits) for integer string conversion; ".toList,
    "use sys.set_int_max_str_digits() to increase the limit".toList]

end LintScaffold
