import LintScaffold.Command.Arguments
import LintScaffold.Proofs.Attempt

/-!
# Arguments with one option more

Arguments are read from left to right, and what has been read does not change how the rest is
read.  So an option can be put between two arguments, and it adds one use to what is read.  It
must not come between an option and its value, nor behind two hyphens that end the options:
`Precedes` says of arguments that they end at such a place.  This is so in front of all
arguments, and behind any that can be read and do not end the options themselves.
-/

namespace LintScaffold.Arguments

variable {α : Type} {vocabulary : Vocabulary α}

/-! ## Reading argument by argument -/

/-- How the first argument is read.  The recursion goes on behind a value, which the compiled
equations of `read` do not show. -/
theorem read_cons (mixed : Bool) (argument : Text) (rest : List Text) :
    read vocabulary mixed (argument :: rest) =
      if argument = ['-', '-'] then .ok (ofOperands rest)
      else if isOption argument then do
        let found ← readOption vocabulary argument
        match found.2, rest with
        | none, rest => do
            let arguments ← read vocabulary mixed rest
            return { arguments with uses := found.1 ++ arguments.uses }
        | some _, [] => .error .noValue
        | some option, value :: rest => do
            let arguments ← read vocabulary mixed rest
            return { arguments with uses := found.1 ++ (option, value) :: arguments.uses }
      else if mixed then operand argument <$> read vocabulary mixed rest
      else .ok (ofOperands (argument :: rest)) := by
  delta read
  change read._f vocabulary mixed (argument :: rest) _ = _
  unfold read._f
  dsimp only
  split
  · rfl
  · split
    · congr 1
      funext found
      obtain ⟨uses, waiting⟩ := found
      cases waiting with
      | none => rfl
      | some option =>
          cases rest with
          | nil => rfl
          | cons value rest => rfl
    · rfl

/-- What is read from some arguments and then from others. -/
def append (first second : Arguments α) : Arguments α :=
  ⟨first.uses ++ second.uses, first.operands ++ second.operands⟩

/-- Whatever comes behind the arguments is read as if it stood alone; `part` is what is read
before. -/
def Precedes (vocabulary : Vocabulary α) (before : List Text) (part : Arguments α) : Prop :=
  ∀ after, read vocabulary true (before ++ after) =
    part.append <$> read vocabulary true after

theorem precedes_nil : Precedes vocabulary [] (ofOperands []) := by
  intro after
  rw [List.nil_append]
  cases read vocabulary true after <;> rfl

theorem Precedes.append {first before : List Text} {one part : Arguments α}
    (hone : Precedes vocabulary first one) (h : Precedes vocabulary before part) :
    Precedes vocabulary (first ++ before) (one.append part) := by
  intro after
  rw [List.append_assoc, hone, h]
  cases read vocabulary true after with
  | error fault => rfl
  | ok arguments => simp [Arguments.append, Functor.map, Except.map]

theorem precedes_operand {argument : Text} (hmark : argument ≠ ['-', '-'])
    (hoption : isOption argument = false) :
    Precedes vocabulary [argument] (ofOperands [argument]) := by
  intro after
  rw [List.singleton_append, read_cons, if_neg hmark, hoption, if_neg Bool.false_ne_true,
    if_pos rfl]
  cases read vocabulary true after <;> rfl

theorem precedes_option {argument : Text} (hmark : argument ≠ ['-', '-'])
    (hoption : isOption argument = true) {uses : List (α × Text)}
    (hread : readOption vocabulary argument = .ok (uses, none)) :
    Precedes vocabulary [argument] ⟨uses, []⟩ := by
  intro after
  rw [List.singleton_append, read_cons, if_neg hmark, if_pos hoption, hread, ok_bind]
  dsimp only
  cases read vocabulary true after <;> rfl

theorem precedes_value {argument : Text} (hmark : argument ≠ ['-', '-'])
    (hoption : isOption argument = true) {uses : List (α × Text)} {option : α}
    (hread : readOption vocabulary argument = .ok (uses, some option)) (value : Text) :
    Precedes vocabulary [argument, value] ⟨uses ++ [(option, value)], []⟩ := by
  intro after
  rw [List.cons_append, List.singleton_append, read_cons, if_neg hmark, if_pos hoption, hread,
    ok_bind]
  dsimp only
  cases read vocabulary true after with
  | error fault => rfl
  | ok arguments => simp [append, bind, Except.bind, pure, Except.pure, Functor.map, Except.map]

/-- Arguments that can be read and do not end the options precede any others. -/
theorem precedes_of_read {before : List Text} {part : Arguments α}
    (h : read vocabulary true before = .ok part) (hmark : ['-', '-'] ∉ before) :
    Precedes vocabulary before part := by
  induction before using read.induct (α := α) true generalizing part with
  | case1 =>
      obtain rfl := Except.ok.inj h
      exact precedes_nil
  | case2 rest => simp at hmark
  | case3 argument rest hdashes hoption ih =>
      rw [read_cons, if_neg hdashes, if_pos hoption] at h
      rw [List.mem_cons, not_or] at hmark
      obtain ⟨⟨uses, waiting⟩, hread, h⟩ := bind_eq_ok.mp h
      cases waiting with
      | none =>
          obtain ⟨arguments, hrest, h⟩ := bind_eq_ok.mp h
          obtain rfl := Except.ok.inj h
          exact (precedes_option hdashes hoption hread).append (ih none hrest hmark.2)
      | some option =>
          cases rest with
          | nil => simp at h
          | cons value rest =>
              obtain ⟨arguments, hrest, h⟩ := bind_eq_ok.mp h
              obtain rfl := Except.ok.inj h
              have hlater := ih (some option) hrest (List.not_mem_of_not_mem_cons hmark.2)
              have hboth := (precedes_value hdashes hoption hread value).append hlater
              simpa [append] using hboth
  | case4 argument rest hdashes hoption _ ih =>
      rw [read_cons, if_neg hdashes, if_neg hoption, if_pos rfl] at h
      rw [List.mem_cons, not_or] at hmark
      obtain ⟨arguments, hrest, h⟩ := map_eq_ok.mp h
      subst h
      have hfirst : Precedes vocabulary [argument] (ofOperands [argument]) :=
        precedes_operand hdashes (by simpa using hoption)
      exact hfirst.append (ih hrest hmark.2)
  | case5 argument rest hdashes hoption hmixed => exact absurd rfl hmixed

/-! ## One option more -/

/-- The second arguments are the first ones with one use of an option more. -/
structure Gains (arguments : Arguments α) (option : α) (value : Text) (more : Arguments α) :
    Prop where
  uses : ∃ earlier later, arguments.uses = earlier ++ later ∧
    more.uses = earlier ++ (option, value) :: later
  operands : more.operands = arguments.operands

/-- An option that is put where arguments end is read besides them. -/
theorem Precedes.read_insert {before after added : List Text} {part parsed : Arguments α}
    {option : α} {value : Text} (hbefore : Precedes vocabulary before part)
    (hadded : Precedes vocabulary added ⟨[(option, value)], []⟩)
    (hread : read vocabulary true (before ++ after) = .ok parsed) :
    ∃ more, read vocabulary true (before ++ (added ++ after)) = .ok more ∧
      parsed.Gains option value more := by
  rw [hbefore] at hread
  obtain ⟨rest, hrest, rfl⟩ := map_eq_ok.mp hread
  refine ⟨part.append ⟨(option, value) :: rest.uses, rest.operands⟩, ?_,
    ⟨part.uses, rest.uses, rfl, rfl⟩, rfl⟩
  rw [hbefore, hadded, hrest]
  rfl

variable [DecidableEq α] {arguments more : Arguments α} {option other : α} {value : Text}

theorem mem_order : option ∈ arguments.order ↔ ∃ value, (option, value) ∈ arguments.uses := by
  unfold order
  induction arguments.uses with
  | nil => simp [firstUses]
  | cons first rest ih =>
      rw [firstUses, List.mem_cons, List.mem_filter, ih]
      by_cases hfirst : option = first.1
      · exact iff_of_true (.inl hfirst) ⟨first.2, List.mem_cons.mpr (.inl (Prod.ext hfirst rfl))⟩
      · simp [hfirst, Prod.ext_iff]

namespace Gains

theorem mem_order (h : arguments.Gains option value more) (hother : other ∈ more.order) :
    other = option ∨ other ∈ arguments.order := by
  obtain ⟨earlier, later, huses, hmore⟩ := h.uses
  obtain ⟨found, hfound⟩ := Arguments.mem_order.mp hother
  rw [hmore, List.mem_append, List.mem_cons] at hfound
  rw [Arguments.mem_order, huses]
  rcases hfound with hearlier | hoption | hlater
  · exact .inr ⟨found, List.mem_append_left _ hearlier⟩
  · exact .inl (congrArg Prod.fst hoption)
  · exact .inr ⟨found, List.mem_append_right _ hlater⟩

/-- The value is added to those of its option, and to no other ones. -/
theorem values_eq (h : arguments.Gains option value more) (other : α) :
    ∃ earlier later, arguments.values other = earlier ++ later ∧
      more.values other = earlier ++ if option = other then value :: later else later := by
  obtain ⟨earlier, later, huses, hmore⟩ := h.uses
  refine ⟨_, _, by rw [values, huses, List.filterMap_append], ?_⟩
  rw [values, hmore, List.filterMap_append, List.filterMap_cons]
  by_cases hother : option = other
  · simp [hother]
  · simp [hother]

theorem values_of_ne (h : arguments.Gains option value more) (hother : other ≠ option) :
    more.values other = arguments.values other := by
  obtain ⟨earlier, later, hvalues, hmore⟩ := h.values_eq other
  rw [hmore, if_neg (Ne.symm hother), hvalues]

theorem values_of_unused (h : arguments.Gains option value more)
    (hunused : arguments.has option = false) : more.values option = [value] := by
  obtain ⟨earlier, later, hvalues, hmore⟩ := h.values_eq option
  rw [has, hvalues, Bool.not_eq_false', List.isEmpty_iff, List.append_eq_nil_iff] at hunused
  rw [hmore, if_pos rfl, hunused.1, hunused.2, List.nil_append]

end Gains
end LintScaffold.Arguments
