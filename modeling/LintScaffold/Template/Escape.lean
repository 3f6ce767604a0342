import LintScaffold.Template.Token
import LintScaffold.Text.CharName
import LintScaffold.Text.Lines

/-!
# Texts in templates

What a text between quotation marks in a tag denotes.  Escapes are those of a text in
seven-bit characters, into which all others are turned first: a backslash before such a
character is therefore the first half of an escaped backslash.
-/

namespace LintScaffold.Template

/-- A character in seven-bit characters. -/
def sevenBit (c : Char) : Text :=
  if c.toNat < 0x80 then [c]
  else if c.toNat < 0x100 then '\\' :: 'x' :: Text.hexPadded 2 c.toNat
  else if c.toNat < 0x10000 then '\\' :: 'u' :: Text.hexPadded 4 c.toNat
  else '\\' :: 'U' :: Text.hexPadded 8 c.toNat

/-- The characters that one-letter escapes stand for. -/
def plainEscape? (c : Char) : Option Char :=
  match c with
  | '\\' => some '\\'
  | '\'' => some '\''
  | '"' => some '"'
  | 'a' => some (Char.ofNat 7)
  | 'b' => some (Char.ofNat 8)
  | 't' => some '\t'
  | 'n' => some '\n'
  | 'v' => some (Char.ofNat 11)
  | 'f' => some (Char.ofNat 12)
  | 'r' => some '\r'
  | _ => none

/-- The value of an octal digit. -/
def octalValue? (c : Char) : Option Nat :=
  if '0' ≤ c ∧ c ≤ '7' then some (c.toNat - 48) else none

/-- The number that up to `count` octal digits at the start of a text write, and the
rest. -/
def takeOctal : (count value : Nat) → Text → Nat × Text
  | 0, value, text => (value, text)
  | _ + 1, value, [] => (value, [])
  | count + 1, value, c :: rest =>
      match octalValue? c with
      | some d => takeOctal count (value * 8 + d) rest
      | none => (value, c :: rest)

/-- The number that exactly `count` hexadecimal digits at the start of a text write, and
the rest. -/
def takeHex? : (count value : Nat) → Text → Option (Nat × Text)
  | 0, value, text => some (value, text)
  | _ + 1, _, [] => none
  | count + 1, value, c :: rest =>
      match Text.hexValue? c with
      | some d => takeHex? count (value * 16 + d) rest
      | none => none

/-- The numbered escapes: the letter, the number of digits, and what an incomplete one is
called. -/
def hexEscape? (c : Char) : Option (Nat × String) :=
  match c with
  | 'x' => some (2, "truncated \\xXX escape")
  | 'u' => some (4, "truncated \\uXXXX escape")
  | 'U' => some (8, "truncated \\UXXXXXXXX escape")
  | _ => none

/-- The character that is written by its name between braces, and the rest; or what the
escape lacks. -/
def takeNamed (text : Text) : Except String (Char × Text) :=
  match text with
  | '\x7b' :: text =>
      let name := text.takeWhile (· ≠ '\x7d')
      match text.dropWhile (· ≠ '\x7d') with
      | [] => .error "malformed \\N character escape"
      | _ :: rest =>
          if name.isEmpty then .error "malformed \\N character escape"
          else
            match Text.charNamed? name with
            | some c => .ok (c, rest)
            | none => .error "unknown Unicode character name"
  | _ => .error "malformed \\N character escape"

/-- The text that seven-bit characters denote; `fuel` bounds the number of steps. -/
def unescapeFrom : (fuel : Nat) → Text → Except SyntaxFault Text
  | 0, _ => .ok []
  | _ + 1, [] => .ok []
  | fuel + 1, '\\' :: c :: rest =>
      if c = '\n' then unescapeFrom fuel rest
      else
        match plainEscape? c, octalValue? c, hexEscape? c with
        | some d, _, _ => (d :: ·) <$> unescapeFrom fuel rest
        | none, some _, _ =>
            let (value, rest) := takeOctal 3 0 (c :: rest)
            (Char.ofNat value :: ·) <$> unescapeFrom fuel rest
        | none, none, some (count, fault) =>
            match takeHex? count 0 rest with
            | none => .error (.badEscape fault)
            | some (value, rest) =>
                if 0x10ffff < value then .error (.badEscape "illegal Unicode character")
                else (Char.ofNat value :: ·) <$> unescapeFrom fuel rest
        | none, none, none =>
            if c = 'N' then
              match takeNamed rest with
              | .error fault => .error (.badEscape fault)
              | .ok (d, rest) => (d :: ·) <$> unescapeFrom fuel rest
            else ('\\' :: c :: ·) <$> unescapeFrom fuel rest
  | fuel + 1, c :: rest => (c :: ·) <$> unescapeFrom fuel rest

/-- The text that the characters between quotation marks denote. -/
def unescape (content : Text) : Except SyntaxFault Text :=
  let plain := (Text.unifyLines content).flatMap sevenBit
  unescapeFrom plain.length plain

end LintScaffold.Template
