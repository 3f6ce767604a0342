import LintScaffold.Number.Limit
import LintScaffold.Template.Escape
import LintScaffold.Text.Blank
import LintScaffold.Text.Digit
import LintScaffold.Text.Identifier
import LintScaffold.Text.NameMark
import LintScaffold.Text.WordChar

/-!
# Words, numbers and texts inside tags

How far a name, a number or a quoted text reaches from where it begins.  Each function
returns what it found and the rest, or nothing if none begins there.
-/

namespace LintScaffold.Template

/-! ## Names -/

/-- The character may stand in a name, or in what is mistaken for one. -/
def isNameChar (c : Char) : Bool := Text.isWordChar c || Text.isNameMark c

/-- The name at the start of a text. -/
def takeName? (text : Text) : Option (Text × Text) :=
  match text.takeWhile isNameChar with
  | [] => none
  | name => some (name, text.dropWhile isNameChar)

/-! ## Numbers -/

/-- The digits that satisfy `p`, perhaps with single underscores in front of them, and
the rest. -/
def takeMarked (p : Char → Bool) : Text → Text × Text
  | '_' :: c :: rest =>
      if p c then
        let (digits, rest) := takeMarked p rest
        (c :: digits, rest)
      else ([], '_' :: c :: rest)
  | c :: rest =>
      if p c then
        let (digits, rest) := takeMarked p rest
        (c :: digits, rest)
      else ([], c :: rest)
  | [] => ([], [])

/-- Digits that begin with one that satisfies `p`, without their underscores. -/
def takeDigits? (p : Char → Bool) (text : Text) : Option (Text × Text) :=
  match text with
  | [] => none
  | c :: rest =>
      if p c then
        let (digits, rest) := takeMarked p rest
        some (c :: digits, rest)
      else none

/-- The number that decimal digits of any script write. -/
def decimalNat (digits : Text) : Nat :=
  Text.ofDigits 10 (digits.map fun c => (Text.digitValue? c).getD 0)

/-- The number that hexadecimal digits write. -/
def hexNat (digits : Text) : Nat :=
  Text.ofDigits 16 (digits.map fun c =>
    ((Text.hexValue? c).orElse fun _ => Text.digitValue? c).getD 0)

/-- The fraction at the start of a text. -/
def takeFraction? (text : Text) : Option (Text × Text) :=
  match text with
  | '.' :: rest => takeDigits? Text.isDecimal rest
  | _ => none

/-- The exponent at the start of a text: whether it is negative, and its digits. -/
def takeExponent? (text : Text) : Option ((Bool × Text) × Text) :=
  let rest? : Option Text :=
    match text with
    | 'e' :: rest => some rest
    | 'E' :: rest => some rest
    | _ => none
  match rest? with
  | none => none
  | some ('-' :: rest) =>
      (takeDigits? Text.isDecimal rest).map fun (digits, rest) => ((true, digits), rest)
  | some ('+' :: rest) =>
      (takeDigits? Text.isDecimal rest).map fun (digits, rest) => ((false, digits), rest)
  | some rest =>
      (takeDigits? Text.isDecimal rest).map fun (digits, rest) => ((false, digits), rest)

/-- The double that a whole part, a fraction and an exponent write. -/
def floatOf (whole fraction : Text) (exponent : Bool × Text) : Binary64 :=
  let power := Int.ofNat (decimalNat exponent.2)
  let power := if exponent.1 then -power else power
  Binary64.ofDecimal false (decimalNat (whole ++ fraction)) (power - Int.ofNat fraction.length)

/-- The digit belongs to another script. -/
def isForeign (c : Char) : Bool := !Text.isAsciiDigit c

/-- The flaw of the digits of a double, of which none may belong to another script. -/
def digitFlaw? (whole fraction exponent : Text) : Option ListingFault :=
  match (whole ++ fraction).find? isForeign, exponent with
  | some c, _ => some (.foreignDigit c)
  | none, [] => none
  | none, c :: rest => if isForeign c then some .badDecimal else .foreignDigit <$> rest.find? isForeign

/-- The double that a whole part, a fraction and an exponent write, unless they have a
flaw. -/
def readFloat (whole fraction : Text) (exponent : Bool × Text) : Except CompileFault Binary64 :=
  match digitFlaw? whole fraction exponent.2 with
  | some flaw => .error (.listing flaw .number)
  | none => .ok (floatOf whole fraction exponent)

/-- The double at the start of a text: it has a fraction or an exponent. -/
def takeFloat? (text : Text) : Option (Except CompileFault Binary64 × Text) :=
  match takeDigits? Text.isDecimal text with
  | none => none
  | some (whole, rest) =>
      match takeFraction? rest with
      | none =>
          (takeExponent? rest).map fun (exponent, rest) => (readFloat whole [] exponent, rest)
      | some (fraction, rest) =>
          match takeExponent? rest with
          | none => some (readFloat whole fraction (false, []), rest)
          | some (exponent, rest) => some (readFloat whole fraction exponent, rest)

/-- Digits of the base that a letter behind a zero announces. -/
def takeBased? (text : Text) : Option (Nat × Text) :=
  match text with
  | '0' :: c :: rest =>
      let digits? (p : Char → Bool) : Option (Text × Text) :=
        match takeMarked p rest with
        | ([], _) => none
        | found => some found
      if c = 'b' ∨ c = 'B' then
        (digits? fun d => d = '0' || d = '1').map fun (digits, rest) =>
          (Text.ofDigits 2 (digits.map fun d => d.toNat - 48), rest)
      else if c = 'o' ∨ c = 'O' then
        (digits? fun d => (octalValue? d).isSome).map fun (digits, rest) =>
          (Text.ofDigits 8 (digits.map fun d => d.toNat - 48), rest)
      else if c = 'x' ∨ c = 'X' then
        (digits? fun d => (Text.hexValue? d).isSome || Text.isDecimal d).map
          fun (digits, rest) => (hexNat digits, rest)
      else none
  | _ => none

/-- The whole number at the start of a text: a zero, or digits that do not begin with
one, unless a base is announced. -/
def takeInteger? (text : Text) : Option (Except CompileFault Nat × Text) :=
  match takeBased? text with
  | some (n, rest) => some (.ok n, rest)
  | none =>
      match text with
      | '0' :: rest =>
          let (_, rest) := takeMarked (fun c => c = '0') rest
          some (.ok 0, rest)
      | c :: rest =>
          if Text.isAsciiDigit c then
            let (digits, rest) := takeMarked Text.isDecimal rest
            let count := digits.length + 1
            if maxDigits < count then some (.error (.tooManyDigits count), rest)
            else some (.ok (decimalNat (c :: digits)), rest)
          else none
      | [] => none

/-! ## Quoted texts -/

/-- The content of a text up to the closing quotation mark `quote`, and the rest. -/
def takeContent? (quote : Char) : Text → Option (Text × Text)
  | [] => none
  | '\\' :: c :: rest =>
      (takeContent? quote rest).map fun (content, rest) => ('\\' :: c :: content, rest)
  | c :: rest =>
      if c = quote then some ([], rest)
      else if c = '\\' then none
      else (takeContent? quote rest).map fun (content, rest) => (c :: content, rest)

/-- The quoted text at the start of a text: its content, and the rest. -/
def takeQuoted? (text : Text) : Option (Text × Text) :=
  match text with
  | '\'' :: rest => takeContent? '\'' rest
  | '"' :: rest => takeContent? '"' rest
  | _ => none

end LintScaffold.Template
