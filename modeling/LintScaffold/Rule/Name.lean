import LintScaffold.Datum
import LintScaffold.Rule.Words
import LintScaffold.Text.Blank

/-!
# Rule names

A rule is given a name by its author, in any spelling.  The name is accepted if its
words, capitalised and run together, can be declared as a type; the other forms
follow from the same words.
-/

namespace LintScaffold

/-- Why a name is refused. -/
inductive NameFault
  /-- The name is not a text. -/
  | notText
  /-- The name holds nothing but blanks. -/
  | empty
  /-- The name has no words. -/
  | noWords
  /-- The words run together are not an identifier. -/
  | notIdentifier (pascal : Text)
  /-- The words run together are a word that no type can have as its name. -/
  | reserved (pascal : Text)
  deriving DecidableEq

/-- The wording of the reason. -/
def NameFault.reason : NameFault → Text
  | .notText => "rule name must be a string".toList
  | .empty => "rule name is empty".toList
  | .noWords => "rule name contains no letters or digits".toList
  | .notIdentifier pascal => Text.quoted pascal ++ " is not a valid identifier".toList
  | .reserved pascal => Text.quoted pascal ++ " is a reserved name".toList

/-- A refused name, as it was given. -/
structure InvalidName where
  name : Text
  fault : NameFault
  deriving DecidableEq

/-- The wording of a refusal. -/
def InvalidName.message (invalid : InvalidName) : Text :=
  "Invalid rule name ".toList ++ Text.quoted invalid.name ++ ": ".toList ++ invalid.fault.reason

/-- An accepted name: as given, without blanks around it, and in its three forms. -/
structure RuleName where
  raw : Text
  pascal : Text
  snake : Text
  kebab : Text
  deriving DecidableEq

namespace RuleName

/-- The names that a type cannot be declared under. -/
def reservedNames : List Text := ["Self".toList]

/-- The text is an ASCII letter followed by ASCII letters and digits. -/
def isTypeName : Text → Bool
  | [] => false
  | c :: rest =>
      Text.isAsciiLetter c && rest.all fun d => Text.isAsciiLetter d || Text.isAsciiDigit d

/-- Reads a name. -/
def parse (name : Text) : Except InvalidName RuleName :=
  let text := Text.strip name
  if text.isEmpty then .error ⟨name, .empty⟩
  else
    let pascal := Words.pascal text
    if pascal.isEmpty then .error ⟨name, .noWords⟩
    else if !isTypeName pascal then .error ⟨name, .notIdentifier pascal⟩
    else if reservedNames.contains pascal then .error ⟨name, .reserved pascal⟩
    else .ok ⟨text, pascal, Words.snake text, Words.kebab text⟩

/-- Reads a name that may not be a text at all. -/
def ofDatum : Datum → Except InvalidName RuleName
  | .text name => parse name
  | d => .error ⟨d.shown, .notText⟩

end RuleName
end LintScaffold
