import LintScaffold.Number.Limit
import LintScaffold.Text.Quoted

/-!
# Faults of rendering

A template may be readable and still fail when it is rendered.  Some failures lie with
the template: it uses a value that is not there, or a filter that does not exist.
Others come from the operations on values, and are told apart by what is wrong with
the operands: their kind, their value, a divisor that is zero, a key that is missing, or a
result that is out of range.
-/

namespace LintScaffold.Template

/-! ## Values that are not there -/

/-- Why a value is not there. -/
inductive Absence
  /-- No variable has this name. -/
  | name (n : Text)
  /-- A value of the kind `owner` has no such attribute. -/
  | attribute (owner : String) (shown : Text)
  /-- A value of the kind `owner` has no such element.  A number that is too long to be
  written cannot be shown. -/
  | element (owner : String) (shown : Option Text)
  /-- An empty sequence has no first item. -/
  | first
  /-- An empty sequence has no last item. -/
  | last
  /-- The first round of a loop has no previous item. -/
  | previous
  /-- The last round of a loop has no next item. -/
  | next
  /-- A choice on this line has no second value. -/
  | alternative (line : Nat)
  deriving DecidableEq

/-- Using the value is a fault.  A missing alternative is harmless: it counts as empty. -/
def Absence.isStrict : Absence → Bool
  | .alternative _ => false
  | _ => true

/-- The wording for a value that is not there. -/
def Absence.message : Absence → Text
  | .name n => Text.quoted n ++ " is undefined".toList
  | .attribute owner shown =>
      Text.quoted owner.toList ++ " has no attribute ".toList ++ shown
  | .element owner (some shown) => owner.toList ++ " has no element ".toList ++ shown
  | .element _ none => tooLongMessage
  | .first => "No first item, sequence was empty.".toList
  | .last => "No last item, sequence was empty.".toList
  | .previous => "there is no previous item".toList
  | .next => "there is no next item".toList
  | .alternative line =>
      "the inline if-expression on line ".toList ++ Text.ofNat line ++
        " evaluated to false and no else section was defined.".toList

/-! ## Arguments -/

/-- How the arguments of a call do not fit.  Every fault names the function. -/
inductive ArgumentFault
  /-- No parameter has this name. -/
  | unexpected (function : String) (name : Text)
  /-- A parameter gets two values. -/
  | repeated (function : String) (name : Text)
  /-- Two of the arguments by name have the same name. -/
  | duplicate (function : String) (name : Text)
  /-- A parameter that has no name gets a value by name. -/
  | unnamed (function : String) (name : Text)
  /-- There are more arguments than parameters. -/
  | tooMany (function : String) (least most given : Nat)
  /-- Parameters that need a value get none. -/
  | missing (function : String) (names : List String)
  /-- The function takes no arguments at all. -/
  | noneTaken (function : String) (given : Nat)
  /-- The function takes one argument. -/
  | oneTaken (function : String) (given : Nat)
  /-- The function takes one argument at most. -/
  | oneExpected (function : String) (given : Nat)
  /-- The function takes two arguments at most. -/
  | twoTaken (function : String) (given : Nat)
  /-- The function takes no arguments by name. -/
  | noNames (function : String)
  /-- The function has no parameter of this name. -/
  | badName (function : String) (name : Text)
  /-- A parameter gets a value by name and one by position. -/
  | namedTwice (function : String) (name : String) (position : Nat)
  /-- The function takes at least one argument. -/
  | oneNeeded (function : String) (given : Nat)
  /-- The function takes two arguments at most. -/
  | twoExpected (function : String) (given : Nat)
  /-- What supplies arguments by name has no names. -/
  | noMapping (function : String) (kind : String)
  /-- What supplies arguments by position has no items. -/
  | noItems (kind : String)
  /-- What supplies arguments by name has other keys than texts. -/
  | keysNoTexts
  deriving DecidableEq

/-- One thing, or another number of things. -/
def counted (n : Nat) (one : String) (many : String) : Text :=
  if n = 1 then one.toList else many.toList

/-- Names with commas, and with a word before the last one. -/
def enumerated : List Text → Text
  | [] => []
  | [a] => a
  | [a, b] => a ++ " and ".toList ++ b
  | names =>
      Text.join ", ".toList (names.dropLast ++ ["and ".toList ++ names.getLastD []])

/-- The wording for arguments that do not fit. -/
def ArgumentFault.message : ArgumentFault → Text
  | .unexpected f n => f.toList ++ "() got an unexpected keyword argument '".toList ++ n ++ ['\'']
  | .repeated f n => f.toList ++ "() got multiple values for argument '".toList ++ n ++ ['\'']
  | .duplicate f n =>
      f.toList ++ "() got multiple values for keyword argument '".toList ++ n ++ ['\'']
  | .unnamed f n =>
      f.toList ++ "() got some positional-only arguments passed as keyword arguments: '".toList ++
        n ++ ['\'']
  | .tooMany f least most given =>
      let bounds :=
        if least = most then Text.ofNat most
        else "from ".toList ++ Text.ofNat least ++ " to ".toList ++ Text.ofNat most
      f.toList ++ "() takes ".toList ++ bounds ++ " positional ".toList ++
        counted most "argument" "arguments" ++ " but ".toList ++ Text.ofNat given ++
        counted given " was given" " were given"
  | .missing f names =>
      f.toList ++ "() missing ".toList ++ Text.ofNat names.length ++
        " required positional ".toList ++ counted names.length "argument" "arguments" ++
        ": ".toList ++ enumerated (names.map fun n => Text.quoted n.toList)
  | .noneTaken f given =>
      f.toList ++ "() takes no arguments (".toList ++ Text.ofNat given ++ " given)".toList
  | .oneTaken f given =>
      f.toList ++ "() takes exactly one argument (".toList ++ Text.ofNat given ++
        " given)".toList
  | .oneExpected f given =>
      f.toList ++ " expected at most 1 argument, got ".toList ++ Text.ofNat given
  | .twoTaken f given =>
      f.toList ++ "() takes at most 2 arguments (".toList ++ Text.ofNat given ++
        " given)".toList
  | .noNames f => f.toList ++ "() takes no keyword arguments".toList
  | .badName f n =>
      ['\''] ++ n ++ "' is an invalid keyword argument for ".toList ++ f.toList ++ "()".toList
  | .namedTwice f n position =>
      Text.join [] ["argument for ".toList, f.toList, "() given by name ('".toList, n.toList,
        "') and position (".toList, Text.ofNat position, [')']]
  | .oneNeeded f given =>
      f.toList ++ " expected at least 1 argument, got ".toList ++ Text.ofNat given
  | .twoExpected f given =>
      f.toList ++ " expected at most 2 arguments, got ".toList ++ Text.ofNat given
  | .noMapping f kind =>
      f.toList ++ "() argument after ** must be a mapping, not ".toList ++ kind.toList
  | .noItems kind => "Value after * must be an iterable, not ".toList ++ kind.toList
  | .keysNoTexts => "keywords must be strings".toList

/-! ## Operations on values -/

/-- An operation on a value of the wrong kind. -/
inductive KindFault
  /-- An operator has no meaning for these two kinds. -/
  | operands (operator : Text) (left right : String)
  /-- A sign has no meaning for this kind. -/
  | signed (sign : Char) (kind : String)
  /-- Only a value of the same kind can be appended. -/
  | appended (kind other : String)
  /-- Only a whole number says how often to repeat. -/
  | repetition (kind : String)
  /-- Values of these two kinds have no order. -/
  | unordered (operator : Text) (left right : String)
  /-- The value has no items. -/
  | notIterable (kind : String)
  /-- The value cannot be spread over several targets. -/
  | notSpreadable (kind : String)
  /-- The value contains nothing. -/
  | noContainer (kind : String)
  /-- Only a text can be contained in a text. -/
  | notText (kind : String)
  /-- The value cannot be called. -/
  | notCallable (kind : String)
  /-- The value has no length. -/
  | noLength (kind : String)
  /-- The items of the value have no reverse order. -/
  | notReversible (kind : String)
  /-- The value cannot be a key. -/
  | noKey (kind : String)
  /-- The value has no slices. -/
  | noSlices (kind : String)
  /-- A bound of a slice is no whole number. -/
  | sliceBound
  /-- A whole number is required. -/
  | noInteger (kind : String)
  /-- The characters to strip are no text. -/
  | noStripSet
  /-- A separator is no text. -/
  | noSeparator (kind : String)
  /-- The arguments of a call do not fit. -/
  | arguments (fault : ArgumentFault)
  /-- There is nothing to cycle through. -/
  | emptyCycle
  /-- The loop cannot be called. -/
  | notRecursive
  /-- A format needs more values. -/
  | formatShort
  /-- A format has no place for some of the values. -/
  | formatLeft
  /-- A format names values, but none have names. -/
  | formatUnnamed
  /-- A format needs a number. -/
  | formatNumber (conversion : Char) (isInteger : Bool) (kind : String)
  /-- A format needs a character. -/
  | formatChar
  /-- A format needs a number for a width or a precision. -/
  | formatSize
  /-- The value is no real number. -/
  | notReal (kind : String)
  /-- A whole number can be made of neither a text nor a number. -/
  | noInt (kind : String)
  /-- A double can be made of neither a text nor a number. -/
  | noFloat (kind : String)
  /-- The items of the value have numbers, and not names. -/
  | indexKind (kind other : String)
  /-- The elements of the value cannot be assigned to. -/
  | noAssignment (kind : String)
  deriving DecidableEq

/-- The wording for a value of the wrong kind. -/
def KindFault.message : KindFault → Text
  | .operands op left right =>
      Text.join [] ["unsupported operand type(s) for ".toList, op, ": '".toList, left.toList,
        "' and '".toList, right.toList, "'".toList]
  | .signed sign kind =>
      "bad operand type for unary ".toList ++ [sign] ++ ": ".toList ++ Text.quoted kind.toList
  | .appended kind other =>
      Text.join [] ["can only concatenate ".toList, kind.toList, " (not \"".toList,
        other.toList, "\") to ".toList, kind.toList]
  | .repetition kind =>
      "can't multiply sequence by non-int of type ".toList ++ Text.quoted kind.toList
  | .unordered op left right =>
      Text.join [] ["'".toList, op, "' not supported between instances of '".toList,
        left.toList, "' and '".toList, right.toList, "'".toList]
  | .notIterable kind => Text.quoted kind.toList ++ " object is not iterable".toList
  | .notSpreadable kind => "cannot unpack non-iterable ".toList ++ kind.toList ++ " object".toList
  | .noContainer kind =>
      "argument of type ".toList ++ Text.quoted kind.toList ++ " is not iterable".toList
  | .notText kind =>
      "'in <string>' requires string as left operand, not ".toList ++ kind.toList
  | .notCallable kind => Text.quoted kind.toList ++ " object is not callable".toList
  | .noLength kind =>
      "object of type ".toList ++ Text.quoted kind.toList ++ " has no len()".toList
  | .notReversible kind => Text.quoted kind.toList ++ " object is not reversible".toList
  | .noKey kind => "unhashable type: ".toList ++ Text.quoted kind.toList
  | .noSlices kind => Text.quoted kind.toList ++ " object is not subscriptable".toList
  | .sliceBound =>
      "slice indices must be integers or None or have an __index__ method".toList
  | .noInteger kind =>
      Text.quoted kind.toList ++ " object cannot be interpreted as an integer".toList
  | .noStripSet => "strip arg must be None or str".toList
  | .noSeparator kind => "must be str or None, not ".toList ++ kind.toList
  | .arguments fault => fault.message
  | .emptyCycle => "no items for cycling given".toList
  | .notRecursive =>
      "The loop must have the 'recursive' marker to be called recursively.".toList
  | .formatShort => "not enough arguments for format string".toList
  | .formatLeft => "not all arguments converted during string formatting".toList
  | .formatUnnamed => "format requires a mapping".toList
  | .formatNumber c isInteger kind =>
      Text.join [] [['%', c], " format: ".toList,
        if isInteger then "an integer is required".toList else "a real number is required".toList,
        ", not ".toList, kind.toList]
  | .formatChar => "%c requires int or char".toList
  | .formatSize => "* wants int".toList
  | .notReal kind => "must be real number, not ".toList ++ kind.toList
  | .noInt kind =>
      Text.join [] ["int() argument must be a string, a bytes-like object or a real number, ".toList,
        "not '".toList, kind.toList, ['\'']]
  | .noFloat kind =>
      "float() argument must be a string or a real number, not '".toList ++ kind.toList ++ ['\'']
  | .indexKind kind other =>
      kind.toList ++ " indices must be integers or slices, not ".toList ++ other.toList
  | .noAssignment kind =>
      Text.quoted kind.toList ++ " object does not support item assignment".toList

/-- An operation on a value of the right kind that does not admit it. -/
inductive ValueFault
  /-- There are fewer items than targets. -/
  | tooFew (wanted got : Nat)
  /-- There are more items than targets. -/
  | tooMany (wanted : Nat)
  /-- A slice has the stride zero. -/
  | zeroStride
  /-- A separator is empty. -/
  | emptySeparator
  /-- A whole number has too many digits to be written. -/
  | tooLong
  /-- A text writes a whole number with too many digits. -/
  | tooManyDigits (count : Nat)
  /-- A text writes no whole number. -/
  | badInt (t : Text)
  /-- A text writes no double. -/
  | badFloat (t : Text)
  /-- No whole number is near a NaN. -/
  | notWhole
  /-- A format ends inside a conversion. -/
  | formatEnds
  /-- A format ends inside a name. -/
  | formatNameEnds
  /-- A width in a format is too great. -/
  | formatWidth
  /-- A precision in a format is too great. -/
  | formatPrecision
  /-- A format has a conversion that means nothing. -/
  | formatConversion (c : Char) (position : Nat)
  deriving DecidableEq

/-- The wording for a value that is not admitted. -/
def ValueFault.message : ValueFault → Text
  | .tooFew wanted got =>
      Text.join [] ["not enough values to unpack (expected ".toList, Text.ofNat wanted,
        ", got ".toList, Text.ofNat got, ")".toList]
  | .tooMany wanted =>
      "too many values to unpack (expected ".toList ++ Text.ofNat wanted ++ ")".toList
  | .zeroStride => "slice step cannot be zero".toList
  | .emptySeparator => "empty separator".toList
  | .tooLong => tooLongMessage
  | .tooManyDigits count => tooManyDigitsMessage count
  | .badInt t => "invalid literal for int() with base 10: ".toList ++ Text.quoted t
  | .badFloat t => "could not convert string to float: ".toList ++ Text.quoted t
  | .notWhole => "cannot convert float NaN to integer".toList
  | .formatEnds => "incomplete format".toList
  | .formatNameEnds => "incomplete format key".toList
  | .formatWidth => "width too big".toList
  | .formatPrecision => "precision too big".toList
  | .formatConversion c position =>
      let shown := if 31 ≤ c.toNat ∧ c.toNat ≤ 126 then c else '?'
      Text.join [] ["unsupported format character '".toList, [shown], "' (0x".toList,
        Text.hex c.toNat, ") at index ".toList, Text.ofNat position]

/-- A division that has no result. -/
inductive DivisionFault
  | quotient
  | wholeQuotient
  | remainder
  | floatQuotient
  | floatWholeQuotient
  | floatRemainder
  /-- Zero is raised to a negative power. -/
  | power
  | complexQuotient
  /-- A complex zero is raised to a power that is negative or not real. -/
  | complexPower
  deriving DecidableEq

/-- The wording for a division by zero. -/
def DivisionFault.message : DivisionFault → Text
  | .quotient => "division by zero".toList
  | .wholeQuotient => "integer division or modulo by zero".toList
  | .remainder => "integer modulo by zero".toList
  | .floatQuotient => "float division by zero".toList
  | .floatWholeQuotient => "float floor division by zero".toList
  | .floatRemainder => "float modulo".toList
  | .power => "0.0 cannot be raised to a negative power".toList
  | .complexQuotient => "complex division by zero".toList
  | .complexPower => "0.0 to a negative or complex power".toList

/-- A result that is out of range. -/
inductive RangeFault
  /-- A whole number is too large for a double. -/
  | conversion
  /-- A quotient of whole numbers is too large for a double. -/
  | quotient
  /-- A power is too large for a double. -/
  | power
  /-- A power is too large for a complex number. -/
  | complexPower
  /-- No whole number is near an infinite one. -/
  | infinite
  /-- A number of repetitions is too large. -/
  | repetition
  /-- A whole number is too large for a count. -/
  | count
  /-- A whole number is too large for a precision. -/
  | precision
  /-- A code point is too large. -/
  | codePoint
  deriving DecidableEq

/-- The wording for a result that is out of range. -/
def RangeFault.message : RangeFault → Text
  | .conversion => "int too large to convert to float".toList
  | .quotient => "integer division result too large for a float".toList
  | .power => "(34, 'Numerical result out of range')".toList
  | .complexPower => "complex exponentiation".toList
  | .infinite => "cannot convert float infinity to integer".toList
  | .repetition => "cannot fit 'int' into an index-sized integer".toList
  | .count => "Python int too large to convert to C ssize_t".toList
  | .precision => "Python int too large to convert to C int".toList
  | .codePoint => "%c arg not in range(0x110000)".toList

/-! ## All faults -/

/-- Why a template cannot be rendered. -/
inductive EvalFault
  /-- A value is used that is not there. -/
  | absent (cause : Absence)
  /-- A filter is called that does not exist. -/
  | noFilter (name : Text)
  /-- A test is called that does not exist. -/
  | noTest (name : Text)
  /-- The items of a value without items are to be reversed. -/
  | noReverse
  /-- An attribute of a variable is assigned to. -/
  | noNamespace
  /-- A number is written by a word that means nothing. -/
  | unknownWord (word : Text)
  /-- A dictionary lacks an entry that must be there. -/
  | noEntry (shown : Text)
  /-- A result does not fit into memory. -/
  | noMemory
  /-- A loop calls itself too deeply. -/
  | tooDeep
  | kind (fault : KindFault)
  | value (fault : ValueFault)
  | division (fault : DivisionFault)
  | range (fault : RangeFault)
  deriving DecidableEq

/-- The fault lies with the template, and not with an operation on values. -/
def EvalFault.isTemplates : EvalFault → Bool
  | .absent _ => true
  | .noFilter _ => true
  | .noTest _ => true
  | .noReverse => true
  | .noNamespace => true
  | _ => false

/-- The fault is one of the kinds of values, or of a missing entry. -/
def EvalFault.isLookup : EvalFault → Bool
  | .kind _ => true
  | .noEntry _ => true
  | _ => false

/-- The fault of using a value that is not there. -/
def Absence.fault : Absence → EvalFault
  | .element _ none => .value .tooLong
  | cause => .absent cause

/-- The fault of arguments that do not fit. -/
def EvalFault.ofArguments (fault : ArgumentFault) : EvalFault := .kind (.arguments fault)

/-- The wording of a fault. -/
def EvalFault.message : EvalFault → Text
  | .absent cause => cause.message
  | .noFilter name => "No filter named ".toList ++ Text.quoted name ++ " found.".toList
  | .noTest name => "No test named ".toList ++ Text.quoted name ++ " found.".toList
  | .noReverse => "argument must be iterable".toList
  | .noNamespace => "cannot assign attribute on non-namespace object".toList
  | .unknownWord word => "name '".toList ++ word ++ "' is not defined".toList
  | .noEntry shown => shown
  | .noMemory => []
  | .tooDeep => "maximum recursion depth exceeded".toList
  | .kind fault => fault.message
  | .value fault => fault.message
  | .division fault => fault.message
  | .range fault => fault.message

end LintScaffold.Template
