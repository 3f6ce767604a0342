import LintScaffold.Json.Fault

/-!
# JSON numbers

A number is a whole part without superfluous zeros, then perhaps a fraction, then
perhaps an exponent.  It is read as far as it goes: what does not complete a fraction
or an exponent is left in the text.
-/

namespace LintScaffold.Json

/-- The parts of a number. -/
structure Numeral where
  negative : Bool
  whole : Text
  fraction : Option Text
  exponent : Option (Bool × Text)

/-- The digits at the start of a text, and the rest. -/
def takeDigits (text : Text) : Text × Text :=
  (text.takeWhile Text.isAsciiDigit, text.dropWhile Text.isAsciiDigit)

/-- The whole part at the start of a text. -/
def takeWhole? (text : Text) : Option (Text × Text) :=
  match text with
  | '0' :: rest => some (['0'], rest)
  | c :: _ => if Text.isAsciiDigit c then some (takeDigits text) else none
  | [] => none

/-- The fraction at the start of a text, if one is there. -/
def takeFraction (text : Text) : Option Text × Text :=
  match text with
  | '.' :: rest =>
      match takeDigits rest with
      | ([], _) => (none, text)
      | (digits, rest) => (some digits, rest)
  | _ => (none, text)

/-- The exponent at the start of a text, if one is there. -/
def takeExponent (text : Text) : Option (Bool × Text) × Text :=
  let (marked, rest) : Bool × Text :=
    match text with
    | 'e' :: rest => (true, rest)
    | 'E' :: rest => (true, rest)
    | _ => (false, text)
  let (negative, rest) : Bool × Text :=
    match rest with
    | '-' :: rest => (true, rest)
    | '+' :: rest => (false, rest)
    | _ => (false, rest)
  match marked, takeDigits rest with
  | true, (d :: digits, rest) => (some (negative, d :: digits), rest)
  | _, _ => (none, text)

/-- The number at the start of a text. -/
def takeNumeral? (text : Text) : Option (Numeral × Text) :=
  let (negative, rest) : Bool × Text :=
    match text with
    | '-' :: rest => (true, rest)
    | _ => (false, text)
  match takeWhole? rest with
  | none => none
  | some (whole, rest) =>
      let (fraction, rest) := takeFraction rest
      let (exponent, rest) := takeExponent rest
      some (⟨negative, whole, fraction, exponent⟩, rest)

/-- The natural number that decimal digits write. -/
def natOfDigits (digits : Text) : Nat :=
  Text.ofDigits 10 (digits.map fun c => c.toNat - 48)

/-- The value of a number: whole numbers are exact, and a fraction or an exponent makes
a double. -/
def Numeral.value (numeral : Numeral) : Except Fault Datum :=
  match numeral.fraction, numeral.exponent with
  | none, none =>
      if maxDigits < numeral.whole.length then .error (.tooManyDigits numeral.whole.length)
      else
        let n := Int.ofNat (natOfDigits numeral.whole)
        .ok (.int (if numeral.negative then -n else n))
  | fraction, exponent =>
      let fraction := fraction.getD []
      let power :=
        match exponent with
        | none => Int.ofNat 0
        | some (true, digits) => -(Int.ofNat (natOfDigits digits))
        | some (false, digits) => Int.ofNat (natOfDigits digits)
      .ok (.float (Binary64.ofDecimal numeral.negative (natOfDigits (numeral.whole ++ fraction))
        (power - Int.ofNat fraction.length)))

end LintScaffold.Json
