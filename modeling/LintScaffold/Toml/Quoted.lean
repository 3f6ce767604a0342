import LintScaffold.Json.Quoted
import LintScaffold.Toml.Fault

/-!
# TOML strings

A string has escapes if it stands between double marks, and is literal between single
ones.  Three marks instead of one make a string that may go over several lines; a line
break right behind the opening ones does not count, and up to two further marks may stand
before the closing ones.
-/

namespace LintScaffold.Toml

/-! ## Blanks and control characters -/

/-- A blank within a line. -/
def isBlank (c : Char) : Bool := c = ' ' || c = '\t'

/-- The text without the blanks at its start. -/
def skipBlanks (text : Text) : Text := text.dropWhile isBlank

/-- A character that has to be escaped, also where several lines are allowed. -/
def isControl (c : Char) : Bool :=
  (decide (c.toNat < 0x20) || decide (c.toNat = 0x7f)) && c != '\t'

/-- A character that may not stand in a string; `lines` allows several lines. -/
def isIllegal (lines : Bool) (c : Char) : Bool := isControl c && !(lines && c = '\n')

/-- Refuses the first illegal character of a part that begins `left` characters before the
end of the document. -/
def checkControls (lines : Bool) (left : Nat) : Text → Except Fault Unit
  | [] => .ok ()
  | c :: rest =>
      if isIllegal lines c then .error (.mistaken (.foundControl c) left)
      else checkControls lines (left - 1) rest

/-! ## Literal strings -/

/-- Reads up to `mark`, which has to come. -/
def readUntil (lines : Bool) (mark text : Text) : Except Fault (Text × Text) :=
  match text.cut? mark with
  | none => .error (.mistaken (.missing mark) 0)
  | some (part, rest) => do
      checkControls lines text.length part
      return (part, rest)

/-! ## Strings with escapes -/

/-- The character that an escape with hexadecimal digits stands for, when `left`
characters follow it. -/
def scalar (digits : Text) (left : Nat) : Except Fault Char :=
  match digits.mapM Text.hexValue? with
  | none => .error (.mistaken .badHex (left + digits.length))
  | some values =>
      let n := Text.ofDigits 16 values
      if h : n.isValidChar then .ok (Char.ofNatAux n h)
      else .error (.mistaken .noScalar left)

/-- The character that a one-letter escape stands for. -/
def shortEscape? (c : Char) : Option Char :=
  if c = '/' then none else Json.shortEscape? c

/-- What has been read right before: nothing special, a backslash that must be followed by
the end of its line, or such a backslash with the end of its line. -/
inductive Gap
  | none
  | toLineEnd
  | behindLineEnd
  deriving DecidableEq

/-- Reads a string with escapes up to its end; `lines` tells that it may go over several
lines and ends with three marks. -/
def readEscaped (lines : Bool) (gap : Gap) : Text → Except Fault (Text × Text)
  | [] => .error (.mistaken .openString 0)
  | c :: rest =>
      if gap = .toLineEnd then
        if isBlank c then readEscaped lines .toLineEnd rest
        else if c = '\n' then readEscaped lines .behindLineEnd rest
        else .error (.mistaken .loneBackslash (rest.length + 1))
      else if gap = .behindLineEnd && (isBlank c || c = '\n') then
        readEscaped lines .behindLineEnd rest
      else if c = '"' then
        if lines then
          match rest with
          | '"' :: '"' :: rest => .ok ([], rest)
          | rest => do
              let (part, rest) ← readEscaped lines .none rest
              return (c :: part, rest)
        else .ok ([], rest)
      else if c = '\\' then
        match rest with
        | [] => .error (.mistaken .loneBackslash 0)
        | 'u' :: rest =>
            match rest with
            | d1 :: d2 :: d3 :: d4 :: rest => do
                let c ← scalar [d1, d2, d3, d4] rest.length
                let (part, rest) ← readEscaped lines .none rest
                return (c :: part, rest)
            | rest => .error (.mistaken .badHex rest.length)
        | 'U' :: rest =>
            match rest with
            | d1 :: d2 :: d3 :: d4 :: d5 :: d6 :: d7 :: d8 :: rest => do
                let c ← scalar [d1, d2, d3, d4, d5, d6, d7, d8] rest.length
                let (part, rest) ← readEscaped lines .none rest
                return (c :: part, rest)
            | rest => .error (.mistaken .badHex rest.length)
        | d :: rest =>
            if lines && isBlank d then readEscaped lines .toLineEnd rest
            else if lines && d = '\n' then readEscaped lines .behindLineEnd rest
            else
              match shortEscape? d with
              | .none => .error (.mistaken .loneBackslash rest.length)
              | some c => do
                  let (part, rest) ← readEscaped lines .none rest
                  return (c :: part, rest)
      else if isIllegal lines c then .error (.mistaken (.illegalControl c) (rest.length + 1))
      else do
        let (part, rest) ← readEscaped lines .none rest
        return (c :: part, rest)

/-! ## All strings -/

/-- Up to two marks, which belong to the string before them. -/
def takeMarks (mark : Char) : Text → Text × Text
  | c :: d :: rest =>
      if c = mark then if d = mark then ([c, d], rest) else ([c], d :: rest)
      else ([], c :: d :: rest)
  | [c] => if c = mark then ([c], []) else ([], [c])
  | [] => ([], [])

/-- The text without a line break at its start. -/
def skipLineBreak : Text → Text
  | '\n' :: rest => rest
  | text => text

/-- Reads a string of one line. -/
def readLineString? : Text → Option (Except Fault (Text × Text))
  | '"' :: rest => some (readEscaped false .none rest)
  | '\'' :: rest => some (readUntil false ['\''] rest)
  | _ => none

/-- Reads a string, if one begins here. -/
def readString? (text : Text) : Option (Except Fault (Text × Text)) :=
  let ended (mark : Char) (outcome : Except Fault (Text × Text)) :
      Except Fault (Text × Text) := do
    let (part, rest) ← outcome
    let (marks, rest) := takeMarks mark rest
    return (part ++ marks, rest)
  match text with
  | '"' :: '"' :: '"' :: rest =>
      some (ended '"' (readEscaped true .none (skipLineBreak rest)))
  | '\'' :: '\'' :: '\'' :: rest =>
      some (ended '\'' (readUntil true ['\'', '\'', '\''] (skipLineBreak rest)))
  | text => readLineString? text

end LintScaffold.Toml
