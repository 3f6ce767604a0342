import LintScaffold.Json.Numeral
import LintScaffold.Toml.Fault

/-!
# TOML numbers

A whole number is written in decimal, perhaps with a sign, or without a sign in the bases
sixteen, eight and two.  A decimal number with a fraction or an exponent is a double.
Single underscores may stand between digits.  A number is read as far as it goes: what does
not complete it is left in the text.
-/

namespace LintScaffold.Toml

/-! ## Digits -/

/-- The digits at the start of a text that follow a digit, without the single underscores
before them, and the rest. -/
def takeMoreDigits (isDigit : Char → Bool) : Text → Text × Text
  | [] => ([], [])
  | c :: rest =>
      if isDigit c then
        let (digits, rest) := takeMoreDigits isDigit rest
        (c :: digits, rest)
      else if c = '_' then
        match rest with
        | [] => ([], ['_'])
        | d :: rest =>
            if isDigit d then
              let (digits, rest) := takeMoreDigits isDigit rest
              (d :: digits, rest)
            else ([], '_' :: d :: rest)
      else ([], c :: rest)

/-- The digits at the start of a text, of which there is at least one. -/
def takeDigits? (isDigit : Char → Bool) (text : Text) : Option (Text × Text) :=
  match text with
  | c :: rest =>
      if isDigit c then
        let (digits, rest) := takeMoreDigits isDigit rest
        some (c :: digits, rest)
      else none
  | [] => none

/-- The character is a digit in the base `base`. -/
def isDigitOf (base : Nat) (c : Char) : Bool :=
  match Text.hexValue? c with
  | some d => decide (d < base)
  | none => false

/-! ## Whole numbers in other bases -/

/-- The base that a letter announces. -/
def baseOf? (c : Char) : Option Nat :=
  if c = 'x' then some 16 else if c = 'o' then some 8 else if c = 'b' then some 2 else none

/-- Takes a whole number that begins with the name of its base. -/
def takeBased? : Text → Option (Int × Text)
  | '0' :: letter :: rest => do
      let base ← baseOf? letter
      let (digits, rest) ← takeDigits? (isDigitOf base) rest
      return (Int.ofNat (Text.ofDigits base (digits.filterMap Text.hexValue?)), rest)
  | _ => none

/-! ## Decimal numbers -/

/-- Takes a sign, if one is there, and tells whether it is a minus sign. -/
def takeSign : Text → Bool × Text
  | '-' :: rest => (true, rest)
  | '+' :: rest => (false, rest)
  | text => (false, text)

/-- Takes the fraction of a number, if one is there. -/
def takeFraction (text : Text) : Option Text × Text :=
  match text with
  | '.' :: rest =>
      match takeDigits? Text.isAsciiDigit rest with
      | some (digits, rest) => (some digits, rest)
      | none => (none, text)
  | _ => (none, text)

/-- Takes the exponent of a number, if one is there. -/
def takeExponent (text : Text) : Option (Bool × Text) × Text :=
  match text with
  | c :: rest =>
      let (negative, rest) := takeSign rest
      match if c = 'e' ∨ c = 'E' then takeDigits? Text.isAsciiDigit rest else none with
      | some (digits, rest) => (some (negative, digits), rest)
      | none => (none, text)
  | [] => (none, [])

/-- Takes the whole part of a number, which is zero or begins with another digit. -/
def takeWhole? (text : Text) : Option (Text × Text) :=
  match text with
  | '0' :: rest => some (['0'], rest)
  | text => takeDigits? Text.isAsciiDigit text

/-- Takes a decimal number. -/
def takeDecimal? (text : Text) : Option (Json.Numeral × Text) := do
  let (negative, rest) := takeSign text
  let (whole, rest) ← takeWhole? rest
  let (fraction, rest) := takeFraction rest
  let (exponent, rest) := takeExponent rest
  return (⟨negative, whole, fraction, exponent⟩, rest)

/-! ## Numbers that are not finite -/

/-- The words for numbers that are not finite. -/
def notFiniteWords : List (String × Binary64) :=
  [("inf", .infinite false), ("+inf", .infinite false), ("-inf", .infinite true),
    ("nan", .nan), ("+nan", .nan), ("-nan", .nan)]

/-- Takes a word for a number that is not finite. -/
def takeNotFinite? (text : Text) : Option (Binary64 × Text) :=
  notFiniteWords.findSome? fun (word, x) => (Text.dropStart? word.toList text).map (x, ·)

/-! ## Numbers -/

/-- Reads a number, if one begins here. -/
def readNumber? (text : Text) : Option (Except Fault (Datum × Text)) :=
  match takeBased? text with
  | some (n, rest) => some (.ok (.int n, rest))
  | none =>
      match takeDecimal? text with
      | some (numeral, rest) =>
          match numeral.value with
          | .ok d => some (.ok (d, rest))
          | .error _ => some (.error (.tooManyDigits numeral.whole.length))
      | none => (takeNotFinite? text).map fun (x, rest) => .ok (.float x, rest)

end LintScaffold.Toml
