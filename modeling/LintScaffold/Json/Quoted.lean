import LintScaffold.Json.Fault

/-!
# JSON strings

Reading a string from behind its opening quotation mark.  Control characters have to
be escaped.  Two escapes that write a surrogate pair make one character; a surrogate
that stands alone is no character and reads as U+FFFD.
-/

namespace LintScaffold.Json

/-- The value of four hexadecimal digits. -/
def hexUnit? (a b c d : Char) : Option Nat := do
  let a ← Text.hexValue? a
  let b ← Text.hexValue? b
  let c ← Text.hexValue? c
  let d ← Text.hexValue? d
  return ((a * 16 + b) * 16 + c) * 16 + d

/-- The character of a unit that is not the first half of a pair. -/
def unitChar (unit : Nat) : Char :=
  if 0xd800 ≤ unit ∧ unit < 0xe000 then Char.ofNat 0xfffd else Char.ofNat unit

/-- The unit is the first half of a surrogate pair. -/
def isHighHalf (unit : Nat) : Bool := decide (0xd800 ≤ unit) && decide (unit < 0xdc00)

/-- The unit is the second half of a surrogate pair. -/
def isLowHalf (unit : Nat) : Bool := decide (0xdc00 ≤ unit) && decide (unit < 0xe000)

/-- The character that two halves make. -/
def pairChar (high low : Nat) : Char :=
  Char.ofNat (0x10000 + (high - 0xd800) * 1024 + (low - 0xdc00))

/-- The character that a one-letter escape stands for. -/
def shortEscape? (c : Char) : Option Char :=
  match c with
  | '"' => some '"'
  | '\\' => some '\\'
  | '/' => some '/'
  | 'b' => some (Char.ofNat 8)
  | 'f' => some (Char.ofNat 12)
  | 'n' => some '\n'
  | 'r' => some '\r'
  | 't' => some '\t'
  | _ => none

/-- Reads a string up to its closing quotation mark.  `start` is the place of the
opening one, for the report that the string does not end. -/
def readString (start : Nat) : Text → Except Fault (Text × Text)
  | [] => .error (.syntactic .openString start)
  | '"' :: rest => .ok ([], rest)
  | ['\\'] => .error (.syntactic .openString start)
  | '\\' :: 'u' :: a :: b :: c :: d :: rest =>
      match hexUnit? a b c d with
      | none => .error (.syntactic .badUnicodeEscape (rest.length + 5))
      | some unit =>
          match rest with
          | [] => .error (.syntactic .badUnicodeEscape 5)
          | '\\' :: 'u' :: e :: f :: g :: h :: next :: more =>
              if isHighHalf unit then
                match hexUnit? e f g h with
                | none => .error (.syntactic .badUnicodeEscape (more.length + 6))
                | some second =>
                    if isLowHalf second then do
                      let (text, rest) ← readString start (next :: more)
                      return (pairChar unit second :: text, rest)
                    else do
                      let (text, rest) ←
                        readString start ('\\' :: 'u' :: e :: f :: g :: h :: next :: more)
                      return (unitChar unit :: text, rest)
              else do
                let (text, rest) ←
                  readString start ('\\' :: 'u' :: e :: f :: g :: h :: next :: more)
                return (unitChar unit :: text, rest)
          | c :: more => do
              let (text, rest) ← readString start (c :: more)
              return (unitChar unit :: text, rest)
  | '\\' :: 'u' :: rest => .error (.syntactic .badUnicodeEscape (rest.length + 1))
  | '\\' :: c :: rest =>
      match shortEscape? c with
      | none => .error (.syntactic .badEscape (rest.length + 2))
      | some c => do
          let (text, rest) ← readString start rest
          return (c :: text, rest)
  | c :: rest =>
      if c.toNat < 0x20 then .error (.syntactic .controlCharacter (rest.length + 1))
      else do
        let (text, rest) ← readString start rest
        return (c :: text, rest)

end LintScaffold.Json
