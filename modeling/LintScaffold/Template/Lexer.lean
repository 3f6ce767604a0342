import LintScaffold.Template.Scanner

/-!
# From text to tokens

Cutting a template into tokens.  Outside tags everything is data.  A tag may ask to
strip the white space before it (`-`) or to keep it (`+`); without such a sign, a block
or a comment that stands first on its line swallows the blanks in front of it, and
behind its end one line feed.

A template that cannot be cut up to its end still has the tokens before that place; the
last token is then the fault.
-/

namespace LintScaffold.Template

/-! ## Tags -/

/-- What begins a tag. -/
inductive TagKind
  | raw
  | block
  | variable
  | comment
  deriving DecidableEq

/-- How a tag treats the white space before it. -/
inductive Sign
  | minus
  | plus
  | plain
  deriving DecidableEq

/-- The beginning of a tag: its kind and sign, and the text that makes it up. -/
structure Opening where
  kind : TagKind
  sign : Sign
  spelling : Text

/-- The sign at the start of a text, and the rest. -/
def takeSign : Text → Sign × Text
  | '-' :: rest => (.minus, rest)
  | '+' :: rest => (.plus, rest)
  | rest => (.plain, rest)

/-- The sign as it is spelt. -/
def Sign.spelling : Sign → Text
  | .minus => ['-']
  | .plus => ['+']
  | .plain => []

/-- The blanks at the start of a text, and the rest. -/
def takeBlanks (text : Text) : Text × Text :=
  (text.takeWhile Text.isBlank, text.dropWhile Text.isBlank)

/-- The end of a tag at the start of a text, where `mark` is the last pair of characters
of such tags: the text of the end, and the rest.  With a minus all blanks behind it
belong to it; otherwise, if `trims`, one line feed does. -/
def takeEnd? (mark : Text) (trims : Bool) (text : Text) : Option (Text × Text) :=
  match text with
  | '-' :: rest =>
      (Text.dropStart? mark rest).map fun rest =>
        let (blanks, rest) := takeBlanks rest
        ('-' :: mark ++ blanks, rest)
  | _ =>
      let signed : Option (Text × Text) :=
        match text with
        | '+' :: rest => if trims then (Text.dropStart? mark rest).map (('+' :: mark), ·) else none
        | _ => none
      match signed with
      | some found => some found
      | none =>
          match Text.dropStart? mark text with
          | none => none
          | some ('\n' :: rest) =>
              if trims then some (mark ++ ['\n'], rest) else some (mark, '\n' :: rest)
          | some rest => some (mark, rest)

/-- The last characters of a block. -/
def blockClose : Text := ['%', '\x7d']

/-- The last characters of a variable. -/
def variableClose : Text := ['\x7d', '\x7d']

/-- The last characters of a comment. -/
def commentClose : Text := ['#', '\x7d']

/-- A block with nothing but `word` in it, at the start of a text behind the opening
characters and the sign: its text, and the rest.  If `trims`, its end is that of a
block; otherwise it keeps the line feed behind it. -/
def takeWordBlock? (word : Text) (trims : Bool) (text : Text) : Option (Text × Text) := do
  let (before, rest) := takeBlanks text
  let rest ← Text.dropStart? word rest
  let (after, rest) := takeBlanks rest
  let (close, rest) ← takeEnd? blockClose trims rest
  return (before ++ word ++ after ++ close, rest)

/-- The end of a block that begins a raw text has no plus. -/
def takeRawBegin? (text : Text) : Option (Text × Text) :=
  takeWordBlock? "raw".toList false text

/-- The beginning of a tag at the start of a text, and the rest. -/
def takeOpening? (text : Text) : Option (Opening × Text) :=
  match text with
  | '\x7b' :: '%' :: rest =>
      let (sign, inner) := takeSign rest
      let start := '\x7b' :: '%' :: sign.spelling
      match takeRawBegin? inner with
      | some (block, rest) => some (⟨.raw, sign, start ++ block⟩, rest)
      | none => some (⟨.block, sign, start⟩, inner)
  | '\x7b' :: '\x7b' :: rest =>
      let (sign, rest) := takeSign rest
      some (⟨.variable, sign, '\x7b' :: '\x7b' :: sign.spelling⟩, rest)
  | '\x7b' :: '#' :: rest =>
      let (sign, rest) := takeSign rest
      some (⟨.comment, sign, '\x7b' :: '#' :: sign.spelling⟩, rest)
  | _ => none

/-- The data before the first tag of a text, and the tag with what follows it. -/
def splitAtOpening : Text → Text × Option (Opening × Text)
  | [] => ([], none)
  | c :: rest =>
      match takeOpening? (c :: rest) with
      | some found => ([], some found)
      | none =>
          let (data, found) := splitAtOpening rest
          (c :: data, found)

/-- The content of a comment, and its end with what follows it. -/
def splitAtCommentEnd : Text → Text × Option (Text × Text)
  | [] => ([], none)
  | c :: rest =>
      match takeEnd? commentClose true (c :: rest) with
      | some found => ([], some found)
      | none =>
          let (content, found) := splitAtCommentEnd rest
          (c :: content, found)

/-- The block that ends a raw text, at the start of a text: its sign, its text, and the
rest. -/
def takeRawEnd? (text : Text) : Option ((Sign × Text) × Text) :=
  match text with
  | '\x7b' :: '%' :: rest => do
      let (sign, inner) := takeSign rest
      let (block, rest) ← takeWordBlock? "endraw".toList true inner
      return ((sign, '\x7b' :: '%' :: sign.spelling ++ block), rest)
  | _ => none

/-- A raw text, and the block that ends it with what follows it. -/
def splitAtRawEnd : Text → Text × Option ((Sign × Text) × Text)
  | [] => ([], none)
  | c :: rest =>
      match takeRawEnd? (c :: rest) with
      | some found => ([], some found)
      | none =>
          let (data, found) := splitAtRawEnd rest
          (c :: data, found)

/-! ## White space before tags -/

/-- The data without the blanks behind its last line feed, if there is nothing else
behind it.  Without a line feed the data counts as a line only if `lineStarting`. -/
def dropIndent (lineStarting : Bool) (data : Text) : Text :=
  let indent := data.reverse.takeWhile (· ≠ '\n')
  let before := data.reverse.dropWhile (· ≠ '\n')
  if (!before.isEmpty || lineStarting) && indent.all Text.isBlank then before.reverse else data

/-- The data before a tag, as the sign of the tag asks for.  A variable leaves its line
as it is. -/
def trimData (sign : Sign) (isVariable lineStarting : Bool) (data : Text) : Text :=
  match sign with
  | .minus => Text.stripEnd data
  | .plus => data
  | .plain => if isVariable then data else dropIndent lineStarting data

/-- The token for data, unless it is empty. -/
def dataToken (line : Nat) (data : Text) : List Located :=
  if data.isEmpty then [] else [⟨line, .data data⟩]

/-! ## Tokens inside tags -/

/-- A token inside a tag, with the text behind it and the number of lines it covers. -/
structure Scanned where
  token : Token
  lines : Nat
  rest : Text

/-- The token for a name. -/
def nameToken (name : Text) : Token :=
  if Text.isIdentifier name then .name name else .fault (.mistake .badIdentifier)

/-- The token for the content of a quoted text. -/
def quotedToken (content : Text) : Token :=
  match unescape content with
  | .ok text => .text text
  | .error fault => .fault (.mistake fault)

/-- The token for a whole number. -/
def integerToken : Except CompileFault Nat → Token
  | .ok n => .integer n
  | .error fault => .fault fault

/-- The token for a double. -/
def floatToken : Except CompileFault Binary64 → Token
  | .ok x => .float x
  | .error fault => .fault fault

/-- The token at the start of a text, unless it is a mark.  Behind a dot a number has no
fraction. -/
def scanWord? (behindDot : Bool) (text : Text) : Option Scanned :=
  let float? := if behindDot then none else takeFloat? text
  match float? with
  | some (x, rest) => some ⟨floatToken x, 0, rest⟩
  | none =>
      match takeInteger? text with
      | some (n, rest) => some ⟨integerToken n, 0, rest⟩
      | none =>
          match takeName? text with
          | some (name, rest) => some ⟨nameToken name, 0, rest⟩
          | none =>
              match takeQuoted? text with
              | some (content, rest) =>
                  some ⟨quotedToken content, Text.lineFeeds content, rest⟩
              | none => none

/-- The brackets that are open behind a mark, given the marks that close those open
before it. -/
def balance (open_ : List Mark) (mark : Mark) : Except SyntaxFault (List Mark) :=
  match mark.closing? with
  | some closing => .ok (closing :: open_)
  | none =>
      if mark.isClosing then
        match open_ with
        | [] => .error (.unexpectedClosing mark)
        | wanted :: rest =>
            if wanted = mark then .ok rest else .error (.mismatchedClosing mark wanted)
      else .ok open_

/-! ## The whole template -/

/-- The two kinds of tags with tokens in them. -/
inductive Inner
  | block
  | variable
  deriving DecidableEq

/-- The end of a tag at the start of a text. -/
def Inner.takeEnd? (inner : Inner) (text : Text) : Option (Text × Text) :=
  match inner with
  | .block => Template.takeEnd? blockClose true text
  | .variable => Template.takeEnd? variableClose false text

/-- The token for the beginning of a tag. -/
def Inner.beginToken : Inner → Token
  | .block => .blockBegin
  | .variable => .variableBegin

/-- The token for the end of a tag. -/
def Inner.endToken : Inner → Token
  | .block => .blockEnd
  | .variable => .variableEnd

/-- The text ends with a line feed. -/
def endsLine (text : Text) : Bool := text.getLast? = some '\n'

/-- Where the cutting stands: outside tags, or inside one with certain brackets open.
Outside, `lineStarting` tells that what was cut last ended a line, or that nothing was
cut yet. -/
inductive Mode
  | outside (lineStarting : Bool)
  | inside (inner : Inner) (brackets : List Mark) (behindDot : Bool)

/-- What one step of cutting yields: tokens, and how to go on. -/
inductive Cut
  | stop (tokens : List Located)
  | next (tokens : List Located) (mode : Mode) (line : Nat) (rest : Text)

/-- The step from a text outside tags. -/
def stepOutside (lineStarting : Bool) (line : Nat) (text : Text) : Cut :=
  match splitAtOpening text with
  | (data, none) => .stop (dataToken line data ++ [⟨line, .eof⟩])
  | (data, some (opening, rest)) =>
      let shown := trimData opening.sign (opening.kind = .variable) lineStarting data
      let tokens := dataToken line shown
      let line := line + Text.lineFeeds data
      let after := line + Text.lineFeeds opening.spelling
      match opening.kind with
      | .block =>
          .next (tokens ++ [⟨line, .blockBegin⟩]) (.inside .block [] false) after rest
      | .variable =>
          .next (tokens ++ [⟨line, .variableBegin⟩]) (.inside .variable [] false) after rest
      | .comment =>
          match splitAtCommentEnd rest with
          | (content, some (close, rest)) =>
              let after := after + Text.lineFeeds content + Text.lineFeeds close
              .next tokens (.outside (endsLine close)) after rest
          | (_, none) =>
              if rest.isEmpty then .stop (tokens ++ [⟨after, .eof⟩])
              else .stop (tokens ++ [⟨after, .fault (.mistake .openComment)⟩])
      | .raw =>
          match splitAtRawEnd rest with
          | (content, some ((sign, close), rest)) =>
              let shown := trimData sign false (endsLine opening.spelling) content
              let tokens := tokens ++ dataToken after shown
              let after := after + Text.lineFeeds content + Text.lineFeeds close
              .next tokens (.outside (endsLine close)) after rest
          | (_, none) =>
              if rest.isEmpty then .stop (tokens ++ [⟨after, .eof⟩])
              else .stop (tokens ++ [⟨after, .fault (.mistake .openRaw)⟩])

/-- The step from a text inside a tag; `total` is the length of the template. -/
def stepInside (total : Nat) (inner : Inner) (brackets : List Mark) (behindDot : Bool)
    (line : Nat) (text : Text) : Cut :=
  let close := if brackets.isEmpty then inner.takeEnd? text else none
  match close with
  | some (spelling, rest) =>
      .next [⟨line, inner.endToken⟩] (.outside (endsLine spelling))
        (line + Text.lineFeeds spelling) rest
  | none =>
      match takeBlanks text with
      | (c :: blanks, rest) =>
          .next [] (.inside inner brackets false) (line + Text.lineFeeds (c :: blanks)) rest
      | ([], _) =>
          match scanWord? behindDot text with
          | some scanned =>
              .next [⟨line, scanned.token⟩] (.inside inner brackets false)
                (line + scanned.lines) scanned.rest
          | none =>
              match Mark.take? text, text with
              | some (mark, rest), _ =>
                  match balance brackets mark with
                  | .ok brackets =>
                      .next [⟨line, .mark mark⟩] (.inside inner brackets (mark = .dot)) line rest
                  | .error fault => .stop [⟨line, .fault (.mistake fault)⟩]
              | none, [] => .stop [⟨line, .eof⟩]
              | none, c :: _ =>
                  let position := total - text.length
                  .stop [⟨line, .fault (.mistake (.unexpectedChar c position))⟩]

/-- One step of cutting. -/
def step (total : Nat) (mode : Mode) (line : Nat) (text : Text) : Cut :=
  match mode with
  | .outside lineStarting => stepOutside lineStarting line text
  | .inside inner brackets behindDot => stepInside total inner brackets behindDot line text

/-- The tokens of a text, in at most `fuel` steps. -/
def cut (total : Nat) : (fuel : Nat) → Mode → (line : Nat) → Text → List Located
  | 0, _, line, _ => [⟨line, .eof⟩]
  | fuel + 1, mode, line, text =>
      match step total mode line text with
      | .stop tokens => tokens
      | .next tokens mode line rest => tokens ++ cut total fuel mode line rest

/-- The text of a template as it is cut: with unified line ends, and without one line
feed at its end. -/
def sourceOf (text : Text) : Text :=
  let lines := Text.unifyLines text
  if endsLine lines then lines.dropLast else lines

/-- The tokens of a template.  Every step but the last takes at least one character. -/
def tokenize (text : Text) : List Located :=
  let source := sourceOf text
  cut source.length (source.length + 1) (.outside true) 1 source

end LintScaffold.Template
