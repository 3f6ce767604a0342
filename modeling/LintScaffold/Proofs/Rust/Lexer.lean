import LintScaffold.Text.Basic
import Mathlib.Tactic.Common

/-!
# Lexemes of Rust

A Rust text is read from left to right, one character at a time.  The reader is in a mode:
between lexemes, in a line comment, in a word, or somewhere in a string literal, raw or
escaped.  In a raw literal only a quotation mark with as many number signs as the fence has
ends the literal, and in an escaped one a quotation mark without a backslash does.  Line
comments and blanks are dropped.

Numbers are read as words, as are the points and signs that can stand in them.  What the texts
at hand do not have is not read at all: block comments, literals with a prefix other than
that of raw strings, further escapes, and carriage returns inside of literals.  An apostrophe
is a mark, so that lifetimes are read but no character literals.

A text is `Closed` if reading it leads from between two lexemes to between two lexemes; and it
`Lexes` if this is so as soon as a delimiter follows, which ends a word.  Closed texts can be
put one behind the other.
-/

namespace LintScaffold.Rust

/-- A lexeme: a word or number, a string literal with its value, or a punctuation mark. -/
inductive Lexeme
  | word (text : Text)
  | literal (value : Text)
  | mark (c : Char)
  deriving DecidableEq

/-- What the reader is in.  `read` is what it has read of a word or of the value of a
literal. -/
inductive Mode
  /-- Between lexemes. -/
  | between
  /-- Behind a slash, with which a comment may begin. -/
  | slash
  | comment
  | word (read : Text)
  /-- In the fence in front of a raw literal. -/
  | fence (signs : Nat)
  /-- In a raw literal with a fence of `signs` number signs. -/
  | raw (signs : Nat) (read : Text)
  /-- In a raw literal, behind a quotation mark and `seen` number signs. -/
  | closing (signs seen : Nat) (read : Text)
  | quoted (read : Text)
  /-- Behind a backslash. -/
  | escape (read : Text)
  /-- Behind a backslash and the letter of a code point. -/
  | codePoint (read : Text)
  /-- In the braces of a code point. -/
  | digits (read : Text) (value : Nat)
  /-- Behind something that is not read. -/
  | broken
  deriving DecidableEq

/-- The character can stand in a word or in a number. -/
def isWordChar (c : Char) : Bool :=
  Text.isAsciiLetter c || Text.isAsciiDigit c || c = '_' || c = '.' || c = '+' || c = '-'

/-- The character is white space. -/
def isBlank (c : Char) : Bool := c = ' ' || c = '\n' || c = '\t' || c = '\r'

/-! ## Reading -/

/-- Reads a character between lexemes. -/
def begin (c : Char) : Mode × List Lexeme :=
  if isBlank c then (.between, [])
  else if c = '/' then (.slash, [])
  else if c = '"' then (.quoted [], [])
  else if isWordChar c then (.word [c], [])
  else (.between, [.mark c])

/-- Reads a character in a raw literal. -/
def stepRaw (signs : Nat) (read : Text) (c : Char) : Mode × List Lexeme :=
  if c = '"' then
    if signs = 0 then (.between, [.literal read]) else (.closing signs 0 read, [])
  else if c = '\r' then (.broken, [])
  else (.raw signs (read ++ [c]), [])

/-- Reads the character behind a backslash. -/
def stepEscape (read : Text) (c : Char) : Mode :=
  if c = 'n' then .quoted (read ++ ['\n'])
  else if c = 'r' then .quoted (read ++ ['\r'])
  else if c = 't' then .quoted (read ++ ['\t'])
  else if c = '\\' ∨ c = '"' ∨ c = '\'' then .quoted (read ++ [c])
  else if c = '0' then .quoted (read ++ [Char.ofNat 0])
  else if c = 'u' then .codePoint read
  else .broken

/-- Reads a character in the braces of a code point. -/
def stepDigits (read : Text) (value : Nat) (c : Char) : Mode :=
  if c = '\x7d' then
    if value.isValidChar then .quoted (read ++ [Char.ofNat value]) else .broken
  else
    match Text.hexValue? c with
    | some d => .digits read (value * 16 + d)
    | none => .broken

/-- Reads a character. -/
def step : Mode → Char → Mode × List Lexeme
  | .between, c => begin c
  | .slash, c =>
      if c = '/' then (.comment, [])
      else if c = '*' then (.broken, [])
      else ((begin c).1, .mark '/' :: (begin c).2)
  | .comment, c => if c = '\n' then (.between, []) else (.comment, [])
  | .word read, c =>
      if isWordChar c then (.word (read ++ [c]), [])
      else if c = '"' then (if read = ['r'] then .raw 0 [] else .broken, [])
      else if c = '#' then (if read = ['r'] then .fence 1 else .broken, [])
      else ((begin c).1, .word read :: (begin c).2)
  | .fence signs, c =>
      if c = '#' then (.fence (signs + 1), [])
      else if c = '"' then (.raw signs [], [])
      else (.broken, [])
  | .raw signs read, c => stepRaw signs read c
  | .closing signs seen read, c =>
      if c = '#' then
        if seen + 1 = signs then (.between, [.literal read])
        else (.closing signs (seen + 1) read, [])
      else stepRaw signs (read ++ '"' :: List.replicate seen '#') c
  | .quoted read, c =>
      if c = '"' then (.between, [.literal read])
      else if c = '\\' then (.escape read, [])
      else if c = '\r' then (.broken, [])
      else (.quoted (read ++ [c]), [])
  | .escape read, c => (stepEscape read c, [])
  | .codePoint read, c => (if c = '\x7b' then .digits read 0 else .broken, [])
  | .digits read value, c => (stepDigits read value c, [])
  | .broken, _ => (.broken, [])

/-- Reads a text: the mode behind it, and the lexemes that end in it. -/
def feed : Mode → Text → Mode × List Lexeme
  | mode, [] => (mode, [])
  | mode, c :: rest =>
      let (next, lexemes) := step mode c
      let (last, more) := feed next rest
      (last, lexemes ++ more)

/-- The lexemes of a whole text, unless it ends in a literal or has something that is not
read. -/
def lex? (text : Text) : Option (List Lexeme) :=
  match feed .between text with
  | (.between, lexemes) => some lexemes
  | (.comment, lexemes) => some lexemes
  | (.slash, lexemes) => some (lexemes ++ [.mark '/'])
  | (.word read, lexemes) => some (lexemes ++ [.word read])
  | _ => none

theorem feed_of_step {mode next : Mode} {c : Char} (h : step mode c = (next, [])) (rest : Text) :
    feed mode (c :: rest) = feed next rest := by
  rw [feed, h]
  rfl

theorem feed_append (mode : Mode) (a b : Text) :
    feed mode (a ++ b) =
      ((feed (feed mode a).1 b).1, (feed mode a).2 ++ (feed (feed mode a).1 b).2) := by
  induction a generalizing mode with
  | nil => rfl
  | cons c rest ih => simp only [List.cons_append, feed, ih, List.append_assoc]

/-! ## Closed texts -/

/-- Reading the text leads from between two lexemes to between two lexemes. -/
def Closed (text : Text) (lexemes : List Lexeme) : Prop :=
  feed .between text = (.between, lexemes)

instance (text : Text) (lexemes : List Lexeme) : Decidable (Closed text lexemes) :=
  inferInstanceAs (Decidable (_ = _))

namespace Closed

theorem nil : Closed [] [] := rfl

theorem append {a b : Text} {as bs : List Lexeme} (ha : Closed a as) (hb : Closed b bs) :
    Closed (a ++ b) (as ++ bs) := by
  rw [Closed] at ha hb ⊢
  rw [feed_append, ha]
  dsimp only
  rw [hb]

theorem lex?_eq {text : Text} {lexemes : List Lexeme} (h : Closed text lexemes) :
    lex? text = some lexemes := by
  rw [Closed] at h
  rw [lex?, h]

end Closed

/-- The character ends a word, and begins neither a literal nor a fence. -/
def isDelimiter (c : Char) : Bool := !isWordChar c && c != '"' && c != '#'

/-- Read up to a delimiter, the text has these lexemes. -/
def Lexes (text : Text) (lexemes : List Lexeme) : Prop :=
  ∀ c rest, isDelimiter c = true →
    feed .between (text ++ c :: rest) =
      ((feed .between (c :: rest)).1, lexemes ++ (feed .between (c :: rest)).2)

theorem Closed.lexes {text : Text} {lexemes : List Lexeme} (h : Closed text lexemes) :
    Lexes text lexemes := by
  intro c rest hc
  rw [Closed] at h
  rw [feed_append, h]

/-- A closed text can stand in front of any other. -/
theorem Lexes.prepend {a b : Text} {as bs : List Lexeme} (hb : Lexes b bs) (ha : Closed a as) :
    Lexes (a ++ b) (as ++ bs) := by
  intro c rest hc
  rw [Closed] at ha
  rw [List.append_assoc, feed_append, ha]
  dsimp only
  rw [hb c rest hc, List.append_assoc]

/-- A closed text that begins with a delimiter closes the text in front of it. -/
theorem Lexes.close {a b : Text} {as bs : List Lexeme} {c : Char} (ha : Lexes a as)
    (hc : isDelimiter c = true) (hb : Closed (c :: b) bs) : Closed (a ++ c :: b) (as ++ bs) := by
  rw [Closed] at hb ⊢
  rw [ha c b hc, hb]

/-- A closed text that begins with a delimiter closes the text in front of it. -/
theorem Lexes.closeWith {a b : Text} {as bs : List Lexeme} (ha : Lexes a as)
    (hhead : b.head?.any isDelimiter = true) (hb : Closed b bs) : Closed (a ++ b) (as ++ bs) := by
  cases b with
  | nil => simp at hhead
  | cons c rest => exact ha.close (by simpa using hhead) hb

theorem Lexes.closeWord {word b : Text} {bs : List Lexeme} (hword : Lexes word [.word word])
    (hhead : b.head?.any isDelimiter = true) (hb : Closed b bs) :
    Closed (word ++ b) (.word word :: bs) :=
  hword.closeWith hhead hb

/-- A text that begins with a delimiter can stand behind any other. -/
theorem Lexes.follow {a b : Text} {as bs : List Lexeme} {c : Char} (ha : Lexes a as)
    (hc : isDelimiter c = true) (hb : Lexes (c :: b) bs) : Lexes (a ++ c :: b) (as ++ bs) := by
  intro d rest hd
  rw [List.append_assoc, List.cons_append, ha c (b ++ d :: rest) hc, ← List.cons_append,
    hb d rest hd, List.append_assoc]

/-! ## Words -/

theorem feed_word {rest : Text} (hrest : ∀ c ∈ rest, isWordChar c = true) (read : Text) :
    feed (.word read) rest = (.word (read ++ rest), []) := by
  induction rest generalizing read with
  | nil => rw [feed, List.append_nil]
  | cons c rest ih =>
      have hc : step (.word read) c = (.word (read ++ [c]), []) := by
        rw [step, if_pos (hrest c (by simp))]
      rw [feed_of_step hc, ih (fun d hd => hrest d (by simp [hd])), List.append_assoc,
        List.singleton_append]

theorem begin_of_isWordChar {c : Char} (hc : isWordChar c = true) : begin c = (.word [c], []) := by
  have hblank : isBlank c = false := by
    rw [Bool.eq_false_iff]
    intro hblank
    simp only [isBlank, Bool.or_eq_true, decide_eq_true_eq] at hblank
    rcases hblank with ((rfl | rfl) | rfl) | rfl <;> exact absurd hc (by decide)
  have hslash : c ≠ '/' := by
    rintro rfl
    exact absurd hc (by decide)
  have hquote : c ≠ '"' := by
    rintro rfl
    exact absurd hc (by decide)
  rw [begin, hblank, if_neg Bool.false_ne_true, if_neg hslash, if_neg hquote, if_pos hc]

/-- A word is read up to the delimiter behind it. -/
theorem lexes_word {word : Text} (hword : word ≠ []) (hall : word.all isWordChar = true) :
    Lexes word [.word word] := by
  have hchars := List.all_eq_true.mp hall
  intro c rest hc
  simp only [isDelimiter, Bool.and_eq_true, Bool.not_eq_true', bne_iff_ne] at hc
  obtain ⟨⟨hnoWord, hquote⟩, hsign⟩ := hc
  cases word with
  | nil => exact absurd rfl hword
  | cons first others =>
      have hfed : feed .between (first :: others) = (.word (first :: others), []) := by
        have hfirst : step .between first = (.word [first], []) :=
          begin_of_isWordChar (hchars first (by simp))
        rw [feed_of_step hfirst, feed_word fun d hd => hchars d (by simp [hd])]
        rfl
      rw [feed_append, hfed]
      dsimp only
      rw [feed, step, if_neg (by simp [hnoWord]), if_neg hquote, if_neg hsign]
      rw [feed, step]
      rfl

/-! ## Marks -/

/-- The character is read as a mark. -/
def isMark (c : Char) : Bool := !isBlank c && c != '/' && c != '"' && !isWordChar c

theorem closed_mark {c : Char} (hc : isMark c = true) : Closed [c] [.mark c] := by
  simp only [isMark, Bool.and_eq_true, Bool.not_eq_true', bne_iff_ne] at hc
  obtain ⟨⟨⟨hblank, hslash⟩, hquote⟩, hword⟩ := hc
  rw [Closed, feed, step, begin, hblank, if_neg Bool.false_ne_true, if_neg hslash,
    if_neg hquote, hword, if_neg Bool.false_ne_true]
  rfl

end LintScaffold.Rust
