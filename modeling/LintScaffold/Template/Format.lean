import LintScaffold.Number.Shortest
import LintScaffold.Number.Reading
import LintScaffold.Template.Comparing
import LintScaffold.Template.Escape
import LintScaffold.Template.Value

/-!
# Formats

A text with conversions in it, each a percent sign, perhaps a name in parentheses, optional
flags, a width and a precision, and a letter.  The conversions are replaced by the texts of
values, one after another; a conversion with a name looks up its value.

A format that is markup escapes what it puts in.
-/

namespace LintScaffold.Template

/-! ## Arguments -/

/-- A value for a conversion, which is put in as it is or escaped. -/
inductive Argument
  | plain (v : Value)
  | escaped (v : Value)

namespace Argument

/-- What messages call the kind of an argument. -/
def kindName : Argument → String
  | .plain v => v.kindName
  | .escaped _ => "_MarkupEscapeHelper"

/-- The text of an argument. -/
def display : Argument → Run Text
  | .plain v => v.display
  | .escaped (.markup t) => return t
  | .escaped v => do return escapeMarkup (← v.display)

/-- The text of an argument as it would stand in a list. -/
def shown : Argument → Run Text
  | .plain v => v.shownInside
  | .escaped v => do return escapeMarkup (← v.shownInside)

/-- The whole part of a double. -/
def wholePart (x : Binary64) : Except EvalFault Int :=
  match x with
  | .nan => .error (.value .notWhole)
  | .infinite _ => .error (.range .infinite)
  | .finite negative rank =>
      let n := Int.ofNat (Binary64.unitsOf rank / Binary64.scale)
      .ok (if negative then -n else n)

/-- The whole number that a text writes. -/
def intOf (t : Text) : Except EvalFault Int :=
  match readInt? t with
  | some (.ok n) => .ok n
  | some (.error count) => .error (.value (.tooManyDigits count))
  | none => .error (.value (.badInt t))

/-- The whole number that is made of an argument, if one can be made. -/
def whole? : Argument → Except EvalFault (Option Int)
  | .plain (.absent cause _) => .error cause.fault
  | .escaped (.absent cause _) => .error cause.fault
  | .escaped (.text t) => some <$> intOf t
  | .escaped (.markup t) => some <$> intOf t
  | .plain v => ofNumber v
  | .escaped v => ofNumber v
where
  /-- The whole number that is made of a number. -/
  ofNumber (v : Value) : Except EvalFault (Option Int) :=
    match v.number? with
    | some (.inl n) => .ok (some n)
    | some (.inr x) => some <$> wholePart x
    | none => .ok none

/-- The whole number that an argument is. -/
def int? : Argument → Option Int
  | .plain v => v.int?
  | .escaped _ => none

/-- The double next to a number. -/
def floatOf : Int ⊕ Binary64 → Except EvalFault Binary64
  | .inr x => .ok x
  | .inl n =>
      match Binary64.ofInt? n with
      | some x => .ok x
      | none => .error (.range .conversion)

/-- The double that a text writes. -/
def floatOfText (t : Text) : Except EvalFault Binary64 :=
  match readFloat? t with
  | some x => .ok x
  | none => .error (.value (.badFloat t))

/-- The double that is made of an argument. -/
def float : Argument → Except EvalFault Binary64
  | .plain (.absent cause _) => .error cause.fault
  | .escaped (.absent cause _) => .error cause.fault
  | .escaped (.text t) => floatOfText t
  | .escaped (.markup t) => floatOfText t
  | .plain v =>
      match v.number? with
      | some n => floatOf n
      | none => .error (.kind (.notReal v.kindName))
  | .escaped v =>
      match v.number? with
      | some n => floatOf n
      | none => .error (.kind (.noFloat v.kindName))

/-- The character that an argument is, or whose number it is. -/
def char (argument : Argument) : Except EvalFault Char :=
  match argument with
  | .plain v =>
      match v.text?, v.int? with
      | some [c], _ => .ok c
      | _, some n =>
          if 0 ≤ n ∧ n < Int.ofNat 1114112 then .ok (Char.ofNat n.toNat)
          else .error (.range .codePoint)
      | _, _ => .error (.kind .formatChar)
  | .escaped _ => .error (.kind .formatChar)

/-- What is found in a value under a name. -/
def lookIn (v : Value) (name : Text) : Except EvalFault Value :=
  match v with
  | .dict entries => do
      match ← Value.valueAt? entries (.text name) with
      | some w => return w
      | none => .error (.noEntry (Text.quoted name))
  | .absent cause _ => .error cause.fault
  | .list _ => .error (.kind (.indexKind "list" "str"))
  | _ => .error (.noEntry (Text.quoted name))

/-- What is found in an argument under a name. -/
def find (name : Text) : Argument → Except EvalFault Argument
  | .plain v => .plain <$> lookIn v name
  | .escaped v => .escaped <$> lookIn v name

end Argument

/-- The value is searched for names. -/
def Value.isLookedUp : Value → Bool
  | .list _ => true
  | .dict _ => true
  | .template => true
  | .absent _ _ => true
  | _ => false

/-! ## Conversions -/

/-- The details of a conversion. -/
structure Conversion where
  left : Bool
  plus : Bool
  blank : Bool
  zero : Bool
  alternate : Bool
  width : Nat
  precision : Option Nat
  letter : Char

namespace Conversion

/-- A text in the width of the conversion. -/
def pad (c : Conversion) (t : Text) : Text :=
  let blanks := List.replicate (c.width - t.length) ' '
  if c.left then t ++ blanks else blanks ++ t

/-- A number in the width of the conversion, given its sign and its digits. -/
def padNumber (c : Conversion) (isNegative : Bool) (lead digits : Text) : Text :=
  let sign := if isNegative then ['-'] else if c.plus then ['+'] else if c.blank then [' '] else []
  let zeros :=
    if c.zero && !c.left then
      List.replicate (c.width - (sign.length + lead.length + digits.length)) '0'
    else []
  c.pad (sign ++ lead ++ zeros ++ digits)

/-- A text, cut to the precision. -/
def writeText (c : Conversion) (t : Text) : Text :=
  match c.precision with
  | none => c.pad t
  | some n => c.pad (t.take n)

/-- The digits of a whole number, with zeros in front up to the precision. -/
def wholeDigits (c : Conversion) (n : Nat) : Text :=
  let digits :=
    if c.letter = 'x' then Text.hex n
    else if c.letter = 'X' then (Text.hex n).map Char.toUpper
    else if c.letter = 'o' then Text.digitsBefore 8 (n + 1) n []
    else Text.ofNat n
  Binary64.withZeros (c.precision.getD 0) digits

/-- What an alternate form puts in front of a whole number. -/
def lead (c : Conversion) : Text :=
  if c.alternate && (c.letter = 'x' || c.letter = 'X' || c.letter = 'o') then ['0', c.letter]
  else []

/-- A whole number. -/
def writeInt (c : Conversion) (n : Int) : Text :=
  c.padNumber (decide (n < 0)) c.lead (c.wholeDigits n.natAbs)

/-- The magnitude of a double in the form of the letter. -/
def magnitude (c : Conversion) (units : Nat) : Text :=
  let precision := c.precision.getD 6
  if c.letter = 'e' ∨ c.letter = 'E' then Binary64.scientificText precision c.alternate units
  else if c.letter = 'g' ∨ c.letter = 'G' then Binary64.generalText precision c.alternate units
  else Binary64.fixedText precision c.alternate units

/-- A double; a large letter makes its letters large. -/
def writeFloat (c : Conversion) (x : Binary64) : Text :=
  let cased (t : Text) : Text := if c.letter.isUpper then t.map Char.toUpper else t
  match x with
  | .nan => c.padNumber false [] (cased "nan".toList)
  | .infinite negative => c.padNumber negative [] (cased "inf".toList)
  | .finite negative rank =>
      c.padNumber negative [] (cased (c.magnitude (Binary64.unitsOf rank)))

/-- The greatest width that is tried. -/
def maxWidth : Nat := 500000000

/-- The conversion of an argument; `position` is that of the letter. -/
def apply (c : Conversion) (position : Nat) (argument : Argument) : Run Text := do
  let isAmong (letters : List Char) : Bool := letters.contains c.letter
  if isAmong ['s', 'r', 'a', 'd', 'i', 'u', 'x', 'X', 'o', 'f', 'F', 'e', 'E', 'g', 'G', 'c'] &&
      (maxWidth < c.width || !isAmong ['s', 'r', 'a', 'c'] && maxWidth < c.precision.getD 0) then
    Run.fail .noMemory
  else if isAmong ['s'] then return c.writeText (← argument.display)
  else if isAmong ['r'] then return c.writeText (← argument.shown)
  else if isAmong ['a'] then return c.writeText ((← argument.shown).flatMap sevenBit)
  else if isAmong ['d', 'i', 'u'] then
    match ← Run.check argument.whole? with
    | some n => if isTooLong n then Run.fail (.value .tooLong) else return c.writeInt n
    | none => Run.fail (.kind (.formatNumber c.letter false argument.kindName))
  else if isAmong ['x', 'X', 'o'] then
    match argument.int? with
    | some n => return c.writeInt n
    | none => Run.fail (.kind (.formatNumber c.letter true argument.kindName))
  else if isAmong ['f', 'F', 'e', 'E', 'g', 'G'] then
    return c.writeFloat (← Run.check argument.float)
  else if isAmong ['c'] then return c.pad [← Run.check argument.char]
  else Run.fail (.value (.formatConversion c.letter position))

end Conversion

/-! ## Reading conversions -/

/-- A format as far as it is read: what is left of it, the arguments that come next, and the
argument that is searched for names. -/
structure Formatting where
  rest : Text
  arguments : List Argument
  source : Option Argument

/-- A step of reading a format. -/
abbrev Formatter := StateT Formatting Run

namespace Formatter

/-- Gives up with a fault. -/
def fail {α : Type} (fault : EvalFault) : Formatter α := fun _ => Run.fail fault

/-- The next argument. -/
def nextArgument : Formatter Argument := do
  match (← get).arguments with
  | [] => fail (.kind .formatShort)
  | argument :: arguments =>
      modify fun state => { state with arguments }
      return argument

/-- The text up to the parenthesis that closes one that is open, and the rest. -/
def takeName? : (depth : Nat) → Text → Option (Text × Text)
  | _, [] => none
  | depth, c :: rest =>
      if c = ')' then
        match depth with
        | 0 => some ([], rest)
        | depth + 1 => (takeName? depth rest).map fun (name, rest) => (c :: name, rest)
      else
        let depth := if c = '(' then depth + 1 else depth
        (takeName? depth rest).map fun (name, rest) => (c :: name, rest)

/-- Looks up the argument whose name comes next, if a name does. -/
def findArgument : Formatter Unit := do
  match (← get).rest with
  | '(' :: rest =>
      match (← get).source with
      | none => fail (.kind .formatUnnamed)
      | some source =>
          match takeName? 0 rest with
          | none => fail (.value .formatNameEnds)
          | some (name, rest) =>
              let argument ← (Run.check (source.find name) : Run Argument)
              modify fun state => { state with rest, arguments := [argument] }
  | _ => return ()

/-- The characters at the start that satisfy `p`. -/
def takeWhile (p : Char → Bool) : Formatter Text := do
  let text := (← get).rest
  modify fun state => { state with rest := text.dropWhile p }
  return text.takeWhile p

/-- Goes on behind a character, if it comes next. -/
def skip (c : Char) : Formatter Bool := do
  match (← get).rest with
  | d :: rest =>
      if c = d then
        modify fun state => { state with rest }
        return true
      else return false
  | [] => return false

/-- The number that digits write. -/
def numberOf (digits : Text) : Nat := Text.ofDigits 10 (digits.filterMap Text.decimalValue?)

/-- The number that the next argument is. -/
def argumentSize : Formatter Int := do
  match (← nextArgument).int? with
  | some n => return n
  | none => fail (.kind .formatSize)

/-- The greatest width. -/
def greatestWidth : Nat := 9223372036854775807

/-- The greatest precision. -/
def greatestPrecision : Nat := 2147483647

/-- The width that comes next; one that is negative asks for blanks behind the text. -/
def width : Formatter Int := do
  if ← skip '*' then
    let n ← argumentSize
    if greatestWidth < n.natAbs then fail (.range .count) else return n
  else
    let n := numberOf (← takeWhile Text.isAsciiDigit)
    if greatestWidth < n then fail (.value .formatWidth) else return Int.ofNat n

/-- The precision that comes next, if one does. -/
def precision : Formatter (Option Nat) := do
  if ← skip '.' then
    if ← skip '*' then
      let n ← argumentSize
      if greatestPrecision < n.natAbs then fail (.range .precision) else return some n.toNat
    else
      let n := numberOf (← takeWhile Text.isAsciiDigit)
      if greatestPrecision < n then fail (.value .formatPrecision) else return some n
  else return none

/-- The character is a flag. -/
def isFlag (c : Char) : Bool := c = '-' || c = '+' || c = ' ' || c = '0' || c = '#'

/-- Reads one of the letters for a size, which mean nothing. -/
def skipSize : Formatter Unit := do
  match (← get).rest with
  | c :: rest =>
      if c = 'h' || c = 'l' || c = 'L' then modify fun state => { state with rest }
      else return ()
  | [] => return ()

/-- Reads a conversion behind its percent sign and writes its argument; `length` is the
length of the whole format. -/
def conversion (length : Nat) : Formatter Text := do
  findArgument
  let flags ← takeWhile isFlag
  let has (c : Char) : Bool := flags.any (· = c)
  let width ← width
  let precision ← precision
  skipSize
  match (← get).rest with
  | [] => fail (.value .formatEnds)
  | letter :: rest =>
      modify fun state => { state with rest }
      let argument ← nextArgument
      let c : Conversion :=
        ⟨has '-' || width < 0, has '+', has ' ', has '0', has '#', width.natAbs, precision, letter⟩
      (c.apply (length - rest.length - 1) argument : Run Text)

/-- Replaces the conversions of a format; `length` is the length of the whole format, and
`fuel` bounds the number of conversions. -/
def all (length : Nat) : (fuel : Nat) → Formatter Text
  | 0 => return []
  | fuel + 1 => do
      let plain ← takeWhile (· ≠ '%')
      if ← skip '%' then
        let written ← (do
          if ← skip '%' then return ['%'] else conversion length)
        return plain ++ written ++ (← all length fuel)
      else return plain

end Formatter

/-! ## Whole formats -/

/-- A format with its conversions replaced.  Arguments may be left over only where there is
one that is searched for names. -/
def formatWith (text : Text) (arguments : List Argument) (source : Option Argument) :
    Run Text := do
  let (formatted, state) ←
    (Formatter.all text.length (text.length + 1)).run ⟨text, arguments, source⟩
  if state.arguments.isEmpty || source.isSome then return formatted
  else Run.fail (.kind .formatLeft)

/-- A format with its conversions replaced by the items of a tuple, or by one value; `put`
says how values are put in. -/
def formatBy (put : Value → Argument) (text : Text) (v : Value) : Run Text :=
  match v with
  | .tuple vs => formatWith text (vs.map put) none
  | v => formatWith text [put v] (if v.isLookedUp then some (put v) else none)

/-- A format with its conversions replaced. -/
def format (text : Text) (v : Value) : Run Text := formatBy .plain text v

/-- A format that is markup with its conversions replaced by escaped texts. -/
def formatMarkup (text : Text) (v : Value) : Run Text := formatBy .escaped text v

end LintScaffold.Template
