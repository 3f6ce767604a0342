import LintScaffold.Number.Binary64
import LintScaffold.Template.Fault
import LintScaffold.Text.Quoted

/-!
# Tokens of templates

A template is literal text with tags in it: blocks, variables and comments.  What
stands inside a block or a variable is cut into tokens.  This module holds the tokens,
the words by which messages call them, and the mistakes that make a template
unreadable.
-/

namespace LintScaffold.Template

/-! ## Marks -/

/-- The operators and punctuation marks. -/
inductive Mark
  | add
  | assign
  | colon
  | comma
  | div
  | dot
  | eq
  | floorDiv
  | gt
  | gteq
  | leftBrace
  | leftBracket
  | leftParen
  | lt
  | lteq
  | mod
  | mul
  | ne
  | pipe
  | pow
  | rightBrace
  | rightBracket
  | rightParen
  | semicolon
  | sub
  | tilde
  deriving DecidableEq

/-- The marks with their spellings, the longer ones first. -/
def Mark.spellings : List (Text × Mark) :=
  [("//".toList, .floorDiv), ("**".toList, .pow), ("==".toList, .eq), ("!=".toList, .ne),
    (">=".toList, .gteq), ("<=".toList, .lteq), ("+".toList, .add), ("-".toList, .sub),
    ("/".toList, .div), ("*".toList, .mul), ("%".toList, .mod), ("~".toList, .tilde),
    ("[".toList, .leftBracket), ("]".toList, .rightBracket), ("(".toList, .leftParen),
    (")".toList, .rightParen), (['\x7b'], .leftBrace), (['\x7d'], .rightBrace),
    (">".toList, .gt), ("<".toList, .lt), ("=".toList, .assign), (".".toList, .dot),
    (":".toList, .colon), ("|".toList, .pipe), (",".toList, .comma), (";".toList, .semicolon)]

/-- The spelling of a mark. -/
def Mark.spelling (mark : Mark) : Text :=
  ((spellings.find? fun entry => entry.2 = mark).map Prod.fst).getD []

/-- The mark at the start of a text, and the rest. -/
def Mark.take? (text : Text) : Option (Mark × Text) :=
  spellings.findSome? fun (spelling, mark) => (Text.dropStart? spelling text).map (mark, ·)

/-- The mark that closes what an opening mark opens. -/
def Mark.closing? : Mark → Option Mark
  | .leftBrace => some .rightBrace
  | .leftBracket => some .rightBracket
  | .leftParen => some .rightParen
  | _ => none

/-- The mark closes a bracket. -/
def Mark.isClosing : Mark → Bool
  | .rightBrace => true
  | .rightBracket => true
  | .rightParen => true
  | _ => false

/-! ## Mistakes -/

/-- The word for the kind of an expression to which nothing can be assigned. -/
abbrev ExprKind := String

/-- What a template does wrong. -/
inductive SyntaxFault
  /-- A comment does not end. -/
  | openComment
  /-- A raw block does not end. -/
  | openRaw
  /-- No token begins with this character. -/
  | unexpectedChar (c : Char) (position : Nat)
  /-- A closing bracket closes nothing. -/
  | unexpectedClosing (mark : Mark)
  /-- A closing bracket closes a bracket of another kind. -/
  | mismatchedClosing (mark expected : Mark)
  /-- A name is not an identifier. -/
  | badIdentifier
  /-- An escape in a text is not complete or means nothing. -/
  | badEscape (reason : String)
  /-- A certain token is required. -/
  | expected (what got : Text)
  /-- A certain token is required where the template ends. -/
  | expectedBeforeEnd (what : Text)
  /-- An expression is required. -/
  | noExpression (got : Text)
  /-- No expression begins with this token. -/
  | unexpectedToken (got : Text)
  /-- A dot is followed by neither a name nor a number. -/
  | noAttribute
  /-- A test is applied to the outcome of a test. -/
  | chainedTests
  /-- The arguments of a call are out of order. -/
  | badArguments
  /-- Nothing can be assigned to this kind of expression. -/
  | badTarget (kind : ExprKind)
  /-- A block does not begin with a name. -/
  | noTagName
  /-- A tag is unknown or out of place.  `name` is missing at the end of the template;
  `awaited` are the tags that may come next, `nested` tells that an enclosing block waits
  for this tag, and `innermost` is the block that is open. -/
  | misplacedTag (name : Option Text) (awaited : List Text) (nested : Bool)
      (innermost : Option Text)
  /-- No filter has this name. -/
  | noFilter (name : Text)
  /-- No test has this name. -/
  | noTest (name : Text)
  /-- The loop variable is assigned to. -/
  | loopAssigned
  deriving DecidableEq

/-- The wording for a misplaced tag. -/
def misplacedTagMessage (name : Option Text) (awaited : List Text) (nested : Bool)
    (innermost : Option Text) : Text :=
  let opening :=
    match name with
    | none => "Unexpected end of template.".toList
    | some name => "Encountered unknown tag ".toList ++ Text.quoted name ++ ['.']
  let looking := Text.join " or ".toList (awaited.map Text.quoted)
  let advice :=
    if awaited.isEmpty then []
    else if nested then
      ["You probably made a nesting mistake. Jinja is expecting this tag, ".toList ++
        "but currently looking for ".toList ++ looking ++ ['.']]
    else ["Jinja was looking for the following tags: ".toList ++ looking ++ ['.']]
  let closing :=
    match innermost with
    | none => []
    | some tag =>
        ["The innermost block that needs to be closed is ".toList ++ Text.quoted tag ++ ['.']]
  Text.join [' '] (opening :: advice ++ closing)

/-- The wording of a mistake. -/
def SyntaxFault.message : SyntaxFault → Text
  | .openComment => "Missing end of comment tag".toList
  | .openRaw => "Missing end of raw directive".toList
  | .unexpectedChar c position =>
      "unexpected char ".toList ++ Text.quoted [c] ++ " at ".toList ++ Text.ofNat position
  | .unexpectedClosing mark => "unexpected '".toList ++ mark.spelling ++ ['\'']
  | .mismatchedClosing mark wanted =>
      "unexpected '".toList ++ mark.spelling ++ "', expected '".toList ++ wanted.spelling ++ ['\'']
  | .badIdentifier => "Invalid character in identifier".toList
  | .badEscape reason => reason.toList
  | .expected what got =>
      "expected token ".toList ++ Text.quoted what ++ ", got ".toList ++ Text.quoted got
  | .expectedBeforeEnd what =>
      "unexpected end of template, expected ".toList ++ Text.quoted what ++ ['.']
  | .noExpression got => "Expected an expression, got ".toList ++ Text.quoted got
  | .unexpectedToken got => "unexpected ".toList ++ Text.quoted got
  | .noAttribute => "expected name or number".toList
  | .chainedTests => "You cannot chain multiple tests with is".toList
  | .badArguments => "invalid syntax for function call expression".toList
  | .badTarget kind => "can't assign to ".toList ++ Text.quoted kind.toList
  | .noTagName => "tag name expected".toList
  | .misplacedTag name awaited nested innermost =>
      misplacedTagMessage name awaited nested innermost
  | .noFilter name => "No filter named ".toList ++ Text.quoted name ++ ['.']
  | .noTest name => "No test named ".toList ++ Text.quoted name ++ ['.']
  | .loopAssigned => "Can't assign to special loop variable in for-loop target".toList

/-! ## Flaws of listings -/

/-- What is wrong with a line of the listing into which a template is turned, or with the
spelling of a number. -/
inductive ListingFault
  /-- Two arguments of a call have the same name. -/
  | repeatedName (name : Text)
  /-- An argument has a name that nothing may have. -/
  | barredName (name : Text)
  /-- A slice stands where there is no place for one. -/
  | strayPart
  /-- There are too many loops inside each other. -/
  | nestedLoops
  /-- There are too many blocks inside each other. -/
  | indentation
  /-- A number has a digit of another script. -/
  | foreignDigit (c : Char)
  /-- A number has a digit of another script in its exponent. -/
  | badDecimal
  deriving DecidableEq

/-- The wording for a flaw. -/
def ListingFault.reason : ListingFault → Text
  | .repeatedName name => "keyword argument repeated: ".toList ++ name
  | .barredName name => "cannot assign to ".toList ++ name
  | .strayPart => "invalid syntax".toList
  | .nestedLoops => "too many statically nested blocks".toList
  | .indentation => "too many levels of indentation".toList
  | .foreignDigit c =>
      let code := (Text.hexPadded 4 c.toNat).map Char.toUpper
      Text.join [] ["invalid character '".toList, [c], "' (U+".toList, code, [')']]
  | .badDecimal => "invalid decimal literal".toList

/-- What a flaw is found in: a number, which has one line, or a line of the listing. -/
inductive Listing
  | number
  | line (n : Nat)
  deriving DecidableEq

/-- The wording for the place of a flaw. -/
def Listing.describe : Listing → Text
  | .number => "<unknown>, line 1".toList
  | .line n => "<template>, line ".toList ++ Text.ofNat n

/-- Why a template cannot be used: a mistake, a whole number with too many digits, an
operation on constants, a name that is unknown where it is used, or a flaw of its listing. -/
inductive CompileFault
  | mistake (fault : SyntaxFault)
  | tooManyDigits (count : Nat)
  | operation (fault : EvalFault)
  | unknownName (name : Text)
  | listing (fault : ListingFault) (place : Listing)
  deriving DecidableEq

/-- The wording for a template that cannot be used. -/
def CompileFault.message : CompileFault → Text
  | .mistake fault => fault.message
  | .tooManyDigits count => tooManyDigitsMessage count
  | .operation fault => fault.message
  | .unknownName name =>
      Text.join [] ["Tried to resolve a name to a reference that was unknown to the frame (".toList,
        Text.quoted name, [')']]
  | .listing fault place => Text.join [] [fault.reason, " (".toList, place.describe, [')']]

/-! ## Tokens -/

/-- A token. -/
inductive Token
  | data (content : Text)
  | variableBegin
  | variableEnd
  | blockBegin
  | blockEnd
  | name (word : Text)
  | text (content : Text)
  | integer (n : Nat)
  | float (x : Binary64)
  | mark (m : Mark)
  | eof
  /-- The place where the template stops being readable. -/
  | fault (cause : CompileFault)
  deriving DecidableEq

/-- A token and the line on which it begins. -/
structure Located where
  line : Nat
  token : Token
  deriving DecidableEq

/-- What messages call a token. -/
def Token.describe : Token → Text
  | .data _ => "template data / text".toList
  | .variableBegin => "begin of print statement".toList
  | .variableEnd => "end of print statement".toList
  | .blockBegin => "begin of statement block".toList
  | .blockEnd => "end of statement block".toList
  | .name word => word
  | .text _ => "string".toList
  | .integer _ => "integer".toList
  | .float _ => "float".toList
  | .mark m => m.spelling
  | .eof => "end of template".toList
  | .fault _ => []

end LintScaffold.Template
