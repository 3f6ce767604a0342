import LintScaffold.Text.Basic

/-!
# Control sequences

Terminals take an escape character, an opening bracket, any number of parameters and a
letter as a command.  Where the output is no terminal such sequences are left out.
-/

namespace LintScaffold.Text

/-- The escape character. -/
def escapeChar : Char := Char.ofNat 27

/-- A character of the parameters of a control sequence. -/
def isParameter (c : Char) : Bool := c = ';' || c = '?' || isAsciiDigit c

/-- The length of the control sequence at the start of a text. -/
def controlSequenceLength? : Text → Option Nat
  | c :: '[' :: rest =>
      if c = escapeChar then
        match rest.dropWhile isParameter with
        | last :: _ =>
            if isAsciiLetter last then some ((rest.takeWhile isParameter).length + 3) else none
        | [] => none
      else none
  | _ => none

/-- The text without its first `skip` characters and without control sequences behind
them. -/
def dropControlSequencesFrom : (skip : Nat) → Text → Text
  | _, [] => []
  | skip + 1, _ :: rest => dropControlSequencesFrom skip rest
  | 0, c :: rest =>
      match controlSequenceLength? (c :: rest) with
      | some length => dropControlSequencesFrom (length - 1) rest
      | none => c :: dropControlSequencesFrom 0 rest

/-- The text without control sequences. -/
def dropControlSequences (text : Text) : Text := dropControlSequencesFrom 0 text

/-! ## Texts without escape characters -/

theorem controlSequenceLength?_eq_none {c : Char} (h : c ≠ escapeChar) (rest : Text) :
    controlSequenceLength? (c :: rest) = none := by
  cases rest with
  | nil => rfl
  | cons d rest =>
      unfold controlSequenceLength?
      split
      · next heq =>
          cases heq
          rw [if_neg h]
      · rfl

/-- A text without escape characters stays as it is. -/
theorem dropControlSequences_eq_self {text : Text} (h : escapeChar ∉ text) :
    dropControlSequences text = text := by
  unfold dropControlSequences
  induction text with
  | nil => rfl
  | cons c rest ih =>
      have hc : c ≠ escapeChar := fun heq => h (heq ▸ List.mem_cons_self)
      have hrest : escapeChar ∉ rest := fun hmem => h (List.mem_cons_of_mem c hmem)
      rw [dropControlSequencesFrom, controlSequenceLength?_eq_none hc]
      exact congrArg (c :: ·) (ih hrest)

end LintScaffold.Text
