import LintScaffold.Text.Quoted

/-!
# Arguments

Reading the arguments of a command: options, some of which take a value, and operands.
An option has a long name with two hyphens, and perhaps a letter with one.  The value of a
long option follows an equals sign or is the next argument; the value of a letter is the
rest of the argument or the next one.  Two hyphens alone end the options.
-/

namespace LintScaffold

/-- How an option is written.  The long name has its hyphens, the letter has none. -/
structure OptionForm where
  long : Text
  letter : Option Char
  takesValue : Bool

/-- What messages call an option. -/
def OptionForm.hint (form : OptionForm) : Text :=
  let letters :=
    match form.letter with
    | some c => [['-', c]]
    | none => []
  Text.join " / ".toList ((form.long :: letters).map Text.quoted)

/-- A mistake in the arguments. -/
inductive UsageFault
  /-- There are no arguments at all. -/
  | noArguments
  | noSuchOption
  /-- An option lacks its value. -/
  | noValue
  /-- An option has a value that it does not take. -/
  | unwantedValue
  | missingOperand
  | tooManyOperands
  | noCommand
  | noSuchCommand
  /-- A value cannot be used; `hint` tells whose value it is. -/
  | badValue (hint : Option Text) (reason : Text)
  deriving DecidableEq

/-- The wording for a value that cannot be used. -/
def badValueMessage (hint : Option Text) (reason : Text) : Text :=
  match hint with
  | some hint => Text.join [] ["Invalid value for ".toList, hint, ": ".toList, reason]
  | none => "Invalid value: ".toList ++ reason

/-- The wording of a mistake in the arguments. -/
def UsageFault.message : UsageFault → Text
  | .noArguments => "No arguments are given.".toList
  | .noSuchOption => "There is no such option.".toList
  | .noValue => "An option requires a value.".toList
  | .unwantedValue => "An option does not take a value.".toList
  | .missingOperand => "The name of the rule is missing.".toList
  | .tooManyOperands => "There are too many arguments.".toList
  | .noCommand => "The command is missing.".toList
  | .noSuchCommand => "There is no such command.".toList
  | .badValue hint reason => badValueMessage hint reason

/-- The options of a command. -/
structure Vocabulary (α : Type) where
  options : List α
  form : α → OptionForm

namespace Vocabulary

variable {α : Type}

/-- The option with a long name. -/
def long? (vocabulary : Vocabulary α) (name : Text) : Option α :=
  vocabulary.options.find? fun option => (vocabulary.form option).long = name

/-- The option with a letter. -/
def letter? (vocabulary : Vocabulary α) (c : Char) : Option α :=
  vocabulary.options.find? fun option => (vocabulary.form option).letter = some c

end Vocabulary

/-- What has been read from arguments: the options with their values in the order in which
they stand, and the operands. -/
structure Arguments (α : Type) where
  uses : List (α × Text)
  operands : List Text

namespace Arguments

variable {α : Type}

/-- Nothing but operands. -/
def ofOperands (operands : List Text) : Arguments α := ⟨[], operands⟩

/-- The arguments with an operand in front. -/
def operand (text : Text) (arguments : Arguments α) : Arguments α :=
  { arguments with operands := text :: arguments.operands }

/-! ## Reading -/

/-- What letters behind a hyphen say: options with their values, and an option whose value
is the next argument. -/
def readLetters (vocabulary : Vocabulary α) :
    Text → Except UsageFault (List (α × Text) × Option α)
  | [] => .ok ([], none)
  | c :: rest =>
      match vocabulary.letter? c with
      | none => .error .noSuchOption
      | some option =>
          if (vocabulary.form option).takesValue then
            if rest.isEmpty then .ok ([], some option) else .ok ([(option, rest)], none)
          else do
            let (uses, waiting) ← readLetters vocabulary rest
            return ((option, []) :: uses, waiting)

/-- What one argument with a hyphen says. -/
def readOption (vocabulary : Vocabulary α) (argument : Text) :
    Except UsageFault (List (α × Text) × Option α) :=
  let (name, value?) :=
    match argument.cut? ['='] with
    | some (name, value) => (name, some value)
    | none => (argument, none)
  match vocabulary.long? name with
  | some option =>
      match (vocabulary.form option).takesValue, value? with
      | true, some value => .ok ([(option, value)], none)
      | true, none => .ok ([], some option)
      | false, some _ => .error .unwantedValue
      | false, none => .ok ([(option, [])], none)
  | none =>
      if argument.startsWith ['-', '-'] then .error .noSuchOption
      else readLetters vocabulary (argument.drop 1)

/-- The argument is an option rather than an operand. -/
def isOption (argument : Text) : Bool :=
  argument.startsWith ['-'] && decide (1 < argument.length)

/-- Reads arguments.  Unless `mixed` holds, everything from the first operand on is an
operand. -/
def read (vocabulary : Vocabulary α) (mixed : Bool) :
    List Text → Except UsageFault (Arguments α)
  | [] => .ok (ofOperands [])
  | argument :: rest =>
      if argument = ['-', '-'] then .ok (ofOperands rest)
      else if isOption argument then do
        let (uses, waiting) ← readOption vocabulary argument
        match waiting, rest with
        | none, rest => do
            let arguments ← read vocabulary mixed rest
            return { arguments with uses := uses ++ arguments.uses }
        | some _, [] => .error .noValue
        | some option, value :: rest => do
            let arguments ← read vocabulary mixed rest
            return { arguments with uses := uses ++ (option, value) :: arguments.uses }
      else if mixed then operand argument <$> read vocabulary mixed rest
      else .ok (ofOperands (argument :: rest))

/-! ## Looking up -/

variable [DecidableEq α]

/-- The values of an option. -/
def values (arguments : Arguments α) (option : α) : List Text :=
  arguments.uses.filterMap fun (used, value) => if used = option then some value else none

/-- The last value of an option. -/
def value? (arguments : Arguments α) (option : α) : Option Text :=
  (arguments.values option).getLast?

/-- The option is there. -/
def has (arguments : Arguments α) (option : α) : Bool := !(arguments.values option).isEmpty

/-- The options of a list without repetitions, in the order in which they first come up. -/
def firstUses : List (α × Text) → List α
  | [] => []
  | (option, _) :: rest => option :: (firstUses rest).filter (· ≠ option)

/-- The options in the order in which they first come up. -/
def order (arguments : Arguments α) : List α := firstUses arguments.uses

end Arguments
end LintScaffold
