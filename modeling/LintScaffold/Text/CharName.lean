import LintScaffold.Text.Basic
import LintScaffold.Text.CharName.Alias
import LintScaffold.Text.CharName.Eighth
import LintScaffold.Text.CharName.Eleventh
import LintScaffold.Text.CharName.Fifth
import LintScaffold.Text.CharName.First
import LintScaffold.Text.CharName.Fourth
import LintScaffold.Text.CharName.Ninth
import LintScaffold.Text.CharName.Second
import LintScaffold.Text.CharName.Seventh
import LintScaffold.Text.CharName.Sixth
import LintScaffold.Text.CharName.Tenth
import LintScaffold.Text.CharName.Third
import LintScaffold.Text.CharName.Twelfth

/-!
# Character names

Which character has a name of Unicode 14.  The syllables of Hangul and the unified
ideographs have names that are made by rule; all others stand in a table.

The table lists the names in the order of their characters, in a shortened form.  A name
begins with small letters that tell how many characters it has in common with the name
before it: the letters from `a` to `x` are the numbers from 0 to 23, and a `y` or a `z` with
another letter behind it continues with 24 and with 50.  Then comes the rest of the name.
An asterisk and a number before a name tell how many characters have no name in between.
-/

namespace LintScaffold.Text.CharName

/-! ## The table -/

/-- A name in its shortened form: the number of characters without a name before it, the
number of characters that it takes over from the name before it, and the rest. -/
structure Entry where
  skipped : Nat
  kept : Nat
  rest : Text

/-- The character belongs to the rest of a name. -/
def isOfName (c : Char) : Bool := c.isUpper || c.isDigit || c = ' ' || c = '-'

/-- The number that a small letter stands for. -/
def letterValue (c : Char) : Nat := c.toNat - 97

/-- The number of characters that a name takes over, and the text behind it. -/
def takeKept : Text → Nat × Text
  | 'y' :: c :: text => (24 + letterValue c, text)
  | 'z' :: c :: text => (50 + letterValue c, text)
  | c :: text => (letterValue c, text)
  | [] => (0, [])

/-- The number of characters without a name, and the text behind it. -/
def takeSkipped : Text → Nat × Text
  | '*' :: text => (ofDigits 10 ((text.takeWhile Char.isDigit).map fun c => c.toNat - 48),
      text.dropWhile Char.isDigit)
  | text => (0, text)

/-- The names of a row of the table, of which there are at most `fuel`. -/
def entries : (fuel : Nat) → Text → List Entry
  | 0, _ => []
  | _ + 1, [] => []
  | fuel + 1, text =>
      let (skipped, text) := takeSkipped text
      let (kept, text) := takeKept text
      ⟨skipped, kept, text.takeWhile isOfName⟩ :: entries fuel (text.dropWhile isOfName)

/-- A place in the table: the code point behind the last name, and that name. -/
structure Position where
  code : Nat
  name : Text

/-- The place behind one more name. -/
def Position.next (position : Position) (entry : Entry) : Position :=
  ⟨position.code + entry.skipped + 1, position.name.take entry.kept ++ entry.rest⟩

/-- Looks for a name among those that follow; yields its code point, or the place behind
them. -/
def seek (name : Text) : List Entry → Position → Nat ⊕ Position
  | [], position => .inr position
  | entry :: rest, position =>
      let position := position.next entry
      if position.name = name then .inl (position.code - 1) else seek name rest position

/-- Looks for a name in rows of the table. -/
def seekRows (name : Text) : List String → Position → Option Nat
  | [], _ => none
  | row :: rest, position =>
      let text := row.toList
      match seek name (entries text.length text) position with
      | .inl code => some code
      | .inr position => seekRows name rest position

/-- All rows of the table. -/
def rows : List String :=
  firstRows ++ secondRows ++ thirdRows ++ fourthRows ++ fifthRows ++ sixthRows ++ seventhRows ++
    eighthRows ++ ninthRows ++ tenthRows ++ eleventhRows ++ twelfthRows

/-- The code point of a name in the table. -/
def tableCode? (name : Text) : Option Nat := seekRows name rows ⟨0, []⟩

/-! ## Further names -/

/-- The code point of a further name.  The selectors of variants are numbered. -/
def aliasCode? (name : Text) : Option Nat :=
  match aliases.find? fun (other, _) => other.toList = name with
  | some (_, code) => some code
  | none =>
      match name with
      | 'V' :: 'S' :: d :: digits =>
          let n := ofDigits 10 ((d :: digits).map fun c => c.toNat - 48)
          if d = '0' || !(d :: digits).all Char.isDigit || 256 < n then none
          else some (if n ≤ 16 then 0xfe00 + (n - 1) else 0xe0100 + (n - 17))
      | _ => none

/-! ## Names by rule -/

/-- The names of the sounds at the beginning of a syllable. -/
def leading : List String :=
  ["G", "GG", "N", "D", "DD", "R", "M", "B", "BB", "S", "SS", "", "J", "JJ", "C", "K", "T", "P",
    "H"]

/-- The names of the vowels of a syllable. -/
def vowels : List String :=
  ["A", "AE", "YA", "YAE", "EO", "E", "YEO", "YE", "O", "WA", "WAE", "OE", "YO", "U", "WEO", "WE",
    "WI", "YU", "EU", "YI", "I"]

/-- The names of the sounds at the end of a syllable. -/
def trailing : List String :=
  ["", "G", "GG", "GS", "N", "NJ", "NH", "D", "L", "LG", "LM", "LB", "LS", "LT", "LP", "LH", "M",
    "B", "BS", "S", "SS", "NG", "J", "C", "K", "T", "P", "H"]

/-- The longest of the given sounds at the start of a text: its number, and the rest. -/
def takeSound? (sounds : List String) (text : Text) : Option (Nat × Text) :=
  let longer (best : Option (Nat × Text)) (entry : String × Nat) : Option (Nat × Text) :=
    match dropStart? entry.1.toList text, best with
    | none, best => best
    | some rest, none => some (entry.2, rest)
    | some rest, some (i, other) =>
        if rest.length < other.length then some (entry.2, rest) else some (i, other)
  sounds.zipIdx.foldl longer none

/-- The code point of a syllable of Hangul. -/
def syllable? (name : Text) : Option Nat := do
  let (first, rest) ← takeSound? leading name
  let (vowel, rest) ← takeSound? vowels rest
  let (last, rest) ← takeSound? trailing rest
  if rest.isEmpty then
    return 0xac00 + (first * vowels.length + vowel) * trailing.length + last
  else none

/-- The ranges of the unified ideographs. -/
def ideographs : List (Nat × Nat) :=
  [(0x3400, 0x4dbf), (0x4e00, 0x9fff), (0x20000, 0x2a6df), (0x2a700, 0x2b738), (0x2b740, 0x2b81d),
    (0x2b820, 0x2cea1), (0x2ceb0, 0x2ebe0), (0x30000, 0x3134a)]

/-- The code point of a unified ideograph, which is its number with large letters. -/
def ideograph? (digits : Text) : Option Nat := do
  if digits.length ≠ 4 && digits.length ≠ 5 then none
  else if !digits.all fun c => c.isDigit || ('A' ≤ c && c ≤ 'F') then none
  else
    let code := ofDigits 16 (← digits.mapM hexValue?)
    if ideographs.any fun (first, last) => first ≤ code && code ≤ last then return code else none

end CharName

/-- The character of a name.  Names by rule must be written with large letters. -/
def charNamed? (name : Text) : Option Char :=
  match dropStart? "HANGUL SYLLABLE ".toList name with
  | some syllable => (CharName.syllable? syllable).map Char.ofNat
  | none =>
      match dropStart? "CJK UNIFIED IDEOGRAPH-".toList name with
      | some digits => (CharName.ideograph? digits).map Char.ofNat
      | none =>
          let name := name.map Char.toUpper
          ((CharName.tableCode? name).orElse fun _ => CharName.aliasCode? name).map Char.ofNat

end LintScaffold.Text
