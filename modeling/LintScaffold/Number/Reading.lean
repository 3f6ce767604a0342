import LintScaffold.Number.Binary64
import LintScaffold.Number.Limit
import LintScaffold.Text.Blank
import LintScaffold.Text.Digit

/-!
# Reading numbers

The number that a whole text writes, with blanks around it, a sign in front of it and single
underscores between its digits.  Decimal digits of any script count.
-/

namespace LintScaffold

/-- The digits at the start of a text without the single underscores between them, and the
rest; nothing if the text does not begin with a digit. -/
def takeDecimals? (text : Text) : Option (List Nat × Text) :=
  match text with
  | [] => none
  | c :: rest =>
      match Text.digitValue? c with
      | none => none
      | some d =>
          let (digits, rest) := more rest
          some (d :: digits, rest)
where
  /-- Further digits, perhaps with an underscore in front of each. -/
  more : Text → List Nat × Text
    | '_' :: c :: rest =>
        match Text.digitValue? c with
        | some d =>
            let (digits, rest) := more rest
            (d :: digits, rest)
        | none => ([], '_' :: c :: rest)
    | c :: rest =>
        match Text.digitValue? c with
        | some d =>
            let (digits, rest) := more rest
            (d :: digits, rest)
        | none => ([], c :: rest)
    | [] => ([], [])

/-- The sign at the start of a text, which is negative or not, and the rest. -/
def takeMinus : Text → Bool × Text
  | '-' :: rest => (true, rest)
  | '+' :: rest => (false, rest)
  | rest => (false, rest)

/-- The whole number that a text writes, if it writes one; too many digits are a fault. -/
def readInt? (text : Text) : Option (Except Nat Int) :=
  let (isNegative, rest) := takeMinus (Text.strip text)
  match takeDecimals? rest with
  | some (digits, []) =>
      if maxDigits < digits.length then some (.error digits.length)
      else
        let n := Int.ofNat (Text.ofDigits 10 digits)
        some (.ok (if isNegative then -n else n))
  | _ => none

/-- The digits behind a point, and the rest. -/
def takeFractionDigits (text : Text) : List Nat × Text :=
  match text with
  | '.' :: rest => (takeDecimals? rest).getD ([], rest)
  | rest => ([], rest)

/-- The exponent at the start of a text, which must be its rest. -/
def readExponent? (text : Text) : Option Int :=
  match text with
  | [] => some 0
  | c :: rest =>
      if c = 'e' ∨ c = 'E' then
        let (isNegative, rest) := takeMinus rest
        match takeDecimals? rest with
        | some (digits, []) =>
            let n := Int.ofNat (Text.ofDigits 10 digits)
            some (if isNegative then -n else n)
        | _ => none
      else none

/-- The double that a text writes, if it writes one: also infinity and NaN by name. -/
def readFloat? (text : Text) : Option Binary64 :=
  let (isNegative, rest) := takeMinus (Text.strip text)
  let word := rest.map Char.toLower
  if word = "inf".toList ∨ word = "infinity".toList then some (.infinite isNegative)
  else if word = "nan".toList then some .nan
  else
    let (whole, behind) := (takeDecimals? rest).getD ([], rest)
    let (fraction, behind) := takeFractionDigits behind
    if whole.isEmpty && fraction.isEmpty then none
    else
      (readExponent? behind).map fun exponent =>
        Binary64.ofDecimal isNegative (Text.ofDigits 10 (whole ++ fraction))
          (exponent - Int.ofNat fraction.length)

end LintScaffold
