import LintScaffold.Text.Case.Table

/-!
# Letter case

Upper case, lower case, title case and case folding of whole texts.  A character
may become several, and one rule looks at the neighbours: a capital sigma that
ends a word becomes the final form of the small sigma.
-/

namespace LintScaffold.Text

/-! ## Single characters -/

/-- The text with the given code points. -/
def ofCodes (codes : List Nat) : Text := codes.map Char.ofNat

/-- Looks a character up in a table of several-character mappings, then in the runs. -/
def mapCase (special : List (Nat × List Nat)) (runs : List CaseRun) (c : Char) : Option Text :=
  match special.lookup c.toNat with
  | some codes => some (ofCodes codes)
  | none => (CaseRun.find? runs c.toNat).map fun n => [Char.ofNat n]

/-- The upper case of a character. -/
def upperChar (c : Char) : Text := (mapCase upperSpecial upperRuns c).getD [c]

/-- The lower case of a character, whatever stands beside it. -/
def lowerChar (c : Char) : Text := (mapCase lowerSpecial lowerRuns c).getD [c]

/-- The form of a character at the head of a title. -/
def titleChar (c : Char) : Text :=
  match titleSpecial.lookup c.toNat with
  | some codes => ofCodes codes
  | none => if titleKept.holds c then [c] else upperChar c

/-- The form of a character under which letters that differ only in case agree. -/
def foldChar (c : Char) : Text := (mapCase foldSpecial foldRuns c).getD (lowerChar c)

/-! ## Texts -/

/-- The first character that decides the context of a sigma has a case. -/
def startsCased : Text → Bool
  | [] => false
  | c :: rest => if caseIgnorableTable.holds c then startsCased rest else casedTable.holds c

/-- Lower case of a text; `cased` tells whether the last deciding character before it
has a case. -/
def lowerAfter (cased : Bool) : Text → Text
  | [] => []
  | c :: rest =>
      let low :=
        if c = 'Σ' then (if cased && !startsCased rest then ['ς'] else ['σ']) else lowerChar c
      let cased := if caseIgnorableTable.holds c then cased else casedTable.holds c
      low ++ lowerAfter cased rest

/-- The text in upper case. -/
def upper (text : Text) : Text := text.flatMap upperChar

/-- The text in lower case. -/
def lower (text : Text) : Text := lowerAfter false text

/-- The text under case folding. -/
def fold (text : Text) : Text := text.flatMap foldChar

/-- The text with its first character in title case and all others in lower case.  The
first character still counts as the neighbour of a sigma. -/
def capitalize : Text → Text
  | [] => []
  | c :: rest =>
      titleChar c ++ lowerAfter (!caseIgnorableTable.holds c && casedTable.holds c) rest

end LintScaffold.Text
