/-!
# Text

All text that the library reads, compares or writes is a list of characters, so
that every function on it is plain recursion on a list.  This module holds the
operations that the other modules share: searching, cutting, joining, the order
by code point, and the decimal and hexadecimal writing of numbers.
-/

namespace LintScaffold

/-- A text, as the list of its characters. -/
abbrev Text := List Char

namespace Text

/-! ## Searching and cutting -/

/-- The text that follows `start`, when the text begins with it. -/
def dropStart? (start : Text) (text : Text) : Option Text :=
  match start, text with
  | [], rest => some rest
  | _ :: _, [] => none
  | c :: start, d :: rest => if c = d then dropStart? start rest else none

/-- The text begins with `start`. -/
def startsWith (text start : Text) : Bool := (dropStart? start text).isSome

/-- The text ends with `last`. -/
def endsWith (text last : Text) : Bool := startsWith text.reverse last.reverse

/-- `part` stands somewhere in the text. -/
def contains (text part : Text) : Bool :=
  startsWith text part ||
    match text with
    | [] => false
    | _ :: rest => contains rest part

/-- The text before and after the first place where `part` stands. -/
def cut? (text part : Text) : Option (Text × Text) :=
  match dropStart? part text with
  | some rest => some ([], rest)
  | none =>
      match text with
      | [] => none
      | c :: rest => (cut? rest part).map fun (before, after) => (c :: before, after)

/-- The pieces of a text between the places where `mark` stands. -/
def splitAt (mark : Char) : Text → List Text
  | [] => [[]]
  | c :: rest =>
      if c = mark then [] :: splitAt mark rest
      else
        match splitAt mark rest with
        | piece :: pieces => (c :: piece) :: pieces
        | [] => [[c]]

/-- The texts one after another, with `mark` between neighbours. -/
def join (mark : Text) : List Text → Text
  | [] => []
  | [text] => text
  | text :: rest => text ++ mark ++ join mark rest

/-- The text with every `old` turned into `new`. -/
def replaceChar (old new : Char) (text : Text) : Text :=
  text.map fun c => if c = old then new else c

/-- The text without the characters at its end that satisfy `p`. -/
def dropEndWhile (p : Char → Bool) (text : Text) : Text :=
  (text.reverse.dropWhile p).reverse

/-- The text followed by as many blanks as it needs to be `width` characters long. -/
def padEnd (width : Nat) (text : Text) : Text :=
  text ++ List.replicate (width - text.length) ' '

/-! ## Order -/

/-- The first text comes strictly before the second: at the first place where they
differ it has the smaller code point, or it ends first. -/
def before : Text → Text → Bool
  | [], [] => false
  | [], _ :: _ => true
  | _ :: _, [] => false
  | c :: text, d :: other =>
      if c.toNat < d.toNat then true
      else if d.toNat < c.toNat then false
      else before text other

/-- Puts a text into an ascending list, behind those that are equal to it. -/
def insertSorted (text : Text) : List Text → List Text
  | [] => [text]
  | other :: rest =>
      if before text other then text :: other :: rest else other :: insertSorted text rest

/-- The texts in ascending order. -/
def sort (texts : List Text) : List Text := texts.foldr insertSorted []

/-! ## Numbers -/

/-- The digit of value `d`, for `d < 16`. -/
def digit (d : Nat) : Char := if d < 10 then Char.ofNat (48 + d) else Char.ofNat (87 + d)

/-- The digits of `n` in the base `b`, before those in `tail`; `fuel` bounds their
number. -/
def digitsBefore (b : Nat) : Nat → Nat → Text → Text
  | 0, _, tail => tail
  | fuel + 1, n, tail =>
      if n < b then digit n :: tail
      else digitsBefore b fuel (n / b) (digit (n % b) :: tail)

/-- The decimal digits of a number. -/
def ofNat (n : Nat) : Text := (Nat.repr n).toList

/-- The hexadecimal digits of a number. -/
def hex (n : Nat) : Text := digitsBefore 16 (n + 1) n []

/-- The hexadecimal digits of a number, with zeros in front up to `width`. -/
def hexPadded (width n : Nat) : Text :=
  let digits := hex n
  List.replicate (width - digits.length) '0' ++ digits

/-- The decimal digits of an integer, with a minus sign if it is negative. -/
def ofInt : Int → Text
  | .ofNat n => ofNat n
  | .negSucc n => '-' :: ofNat (n + 1)

/-- The value of a hexadecimal digit. -/
def hexValue? (c : Char) : Option Nat :=
  if '0' ≤ c ∧ c ≤ '9' then some (c.toNat - 48)
  else if 'a' ≤ c ∧ c ≤ 'f' then some (c.toNat - 87)
  else if 'A' ≤ c ∧ c ≤ 'F' then some (c.toNat - 55)
  else none

/-- The value of a decimal digit. -/
def decimalValue? (c : Char) : Option Nat :=
  if '0' ≤ c ∧ c ≤ '9' then some (c.toNat - 48) else none

/-- The character is an ASCII digit. -/
def isAsciiDigit (c : Char) : Bool := decide ('0' ≤ c) && decide (c ≤ '9')

/-- The character is an ASCII letter. -/
def isAsciiLetter (c : Char) : Bool :=
  (decide ('a' ≤ c) && decide (c ≤ 'z')) || (decide ('A' ≤ c) && decide (c ≤ 'Z'))

/-- The number written by the values of its digits, the first one being the most
significant. -/
def ofDigits (base : Nat) (digits : List Nat) : Nat :=
  digits.foldl (fun total d => total * base + d) 0

end Text
end LintScaffold
