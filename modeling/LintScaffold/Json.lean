import LintScaffold.Json.Numeral
import LintScaffold.Json.Quoted

/-!
# JSON

Reading a JSON text into a datum.  The grammar is the standard one, with two
liberties: `NaN`, `Infinity` and `-Infinity` may be admitted as numbers, and a name
may be repeated within an object, its last value counting.

The reader consumes at least one character between two calls of the same function, so
that a bound on the depth of calls which is twice the length of the text is never
reached.
-/

namespace LintScaffold.Json

/-- The text without the white space at its start. -/
def skipBlanks (text : Text) : Text :=
  text.dropWhile fun c => c = ' ' || c = '\t' || c = '\n' || c = '\r'

/-- The words that stand for data, with what they stand for. -/
def words : List (String × Datum) :=
  [("null", .null), ("true", .bool true), ("false", .bool false)]

/-- The words for numbers that are not finite. -/
def notFiniteWords : List (String × Binary64) :=
  [("NaN", .nan), ("Infinity", .infinite false), ("-Infinity", .infinite true)]

/-- Reads a word or a number; `lenient` admits numbers that are not finite. -/
def readScalar (lenient : Bool) (text : Text) : Except Fault (Datum × Text) :=
  match words.findSome? fun (word, d) => (Text.dropStart? word.toList text).map (d, ·) with
  | some result => .ok result
  | none =>
      let special := notFiniteWords.findSome? fun (word, x) =>
        (Text.dropStart? word.toList text).map (word, x, ·)
      match special with
      | some (word, x, rest) =>
          if lenient then .ok (.float x, rest) else .error (.notFinite word)
      | none =>
          match takeNumeral? text with
          | none => .error (.syntactic .noValue text.length)
          | some (numeral, rest) => do return (← numeral.value, rest)

mutual
/-- Reads one value. -/
def readValue (lenient : Bool) : (depth : Nat) → Text → Except Fault (Datum × Text)
  | 0, text => .error (.syntactic .noValue text.length)
  | depth + 1, text =>
      match text with
      | '"' :: rest => do
          let (t, rest) ← readString text.length rest
          return (.text t, rest)
      | '\x7b' :: rest =>
          match skipBlanks rest with
          | '\x7d' :: rest => .ok (.table [], rest)
          | rest => do
              let (entries, rest) ← readMembers lenient depth rest
              return (.ofTable (tableOf (· == ·) entries), rest)
      | '[' :: rest =>
          match skipBlanks rest with
          | ']' :: rest => .ok (.list [], rest)
          | rest => do
              let (items, rest) ← readItems lenient depth rest
              return (.list items, rest)
      | _ => readScalar lenient text

/-- Reads the items of an array from the first one on. -/
def readItems (lenient : Bool) : (depth : Nat) → Text → Except Fault (List Datum × Text)
  | 0, text => .error (.syntactic .noValue text.length)
  | depth + 1, text => do
      let (item, rest) ← readValue lenient depth text
      match skipBlanks rest with
      | ']' :: rest => return ([item], rest)
      | ',' :: rest =>
          let (items, rest) ← readItems lenient depth (skipBlanks rest)
          return (item :: items, rest)
      | rest => .error (.syntactic .noComma rest.length)

/-- Reads the members of an object from the first one on. -/
def readMembers (lenient : Bool) : (depth : Nat) → Text → Except Fault (Table × Text)
  | 0, text => .error (.syntactic .noName text.length)
  | depth + 1, text =>
      match text with
      | '"' :: rest => do
          let (name, rest) ← readString text.length rest
          match skipBlanks rest with
          | ':' :: rest =>
              let (value, rest) ← readValue lenient depth (skipBlanks rest)
              match skipBlanks rest with
              | '\x7d' :: rest => return ([(name, value)], rest)
              | ',' :: rest =>
                  let (entries, rest) ← readMembers lenient depth (skipBlanks rest)
                  return ((name, value) :: entries, rest)
              | rest => .error (.syntactic .noComma rest.length)
          | rest => .error (.syntactic .noColon rest.length)
      | _ => .error (.syntactic .noName text.length)
end

/-- Reads a whole text. -/
def read (lenient : Bool) (text : Text) : Except Fault Datum :=
  if text.startsWith [Char.ofNat 0xfeff] then .error (.syntactic .byteOrderMark text.length)
  else do
    let (value, rest) ← readValue lenient (2 * text.length + 2) (skipBlanks text)
    match skipBlanks rest with
    | [] => return value
    | rest => .error (.syntactic .extraData rest.length)

end LintScaffold.Json
