import LintScaffold.Proofs.Template.Harmless

/-!
# Constants in harmless expressions

Before an expression becomes part of a plan, the constant expressions in it are replaced by their
values.  In a harmless expression these values are tame, because they are found in the same way as
when the expression is evaluated, and a row remains a row.  So what replaces a harmless expression
is harmless, by `simplify_gives`.

A fault on the way mostly means that there is no constant value, and then the expression is kept.
Where it counts as a fault all the same, it is one of the template.
-/

namespace LintScaffold.Template.Constant

variable {α β : Type} {P : α → Prop} {Q : β → Prop} {isList : Text → Bool} {Known : Text → Prop}

/-! ## Searches -/

/-- What the search finds has the property `P`, and where it is given up the fault is one of the
template. -/
def Finds (P : α → Prop) (search : Folding α) : Prop :=
  Run.Gives (fun found => ∀ a ∈ found, P a) search.run

namespace Finds

theorem pure {a : α} (h : P a) : Finds P (pure a : Folding α) :=
  Run.Gives.pure fun other hother => by
    obtain rfl := Option.some.inj hother
    exact h

theorem failure : Finds P (failure : Folding α) := Run.Gives.pure (by simp)

theorem bind {search : Folding α} {next : α → Folding β} (h : Finds P search)
    (hnext : ∀ a, P a → Finds Q (next a)) : Finds Q (search >>= next) := by
  unfold Finds
  rw [OptionT.run_bind, Option.elimM]
  refine Run.Gives.bind h fun found hfound => ?_
  cases found with
  | none => exact Run.Gives.pure (by simp)
  | some a => exact hnext a (hfound a rfl)

theorem imp {P' : α → Prop} {search : Folding α} (h : Finds P search)
    (himp : ∀ a, P a → P' a) : Finds P' search :=
  Run.Gives.imp h fun _ hfound a ha => himp a (hfound a ha)

theorem found {computation : Run α} (h : computation.Gives P) :
    Finds P (Constant.found computation) := by
  refine Run.Gives.bind h fun a ha => .pure fun other hother => ?_
  obtain rfl := Option.some.inj hother
  exact ha

theorem attempt {search : Folding α} (h : Finds P search) : Finds P (attempt search) := by
  intro around memory
  have hsearch : Blames (fun found => ∀ a ∈ found.1, P a) (search around memory) := h around memory
  show Blames _ ((Constant.attempt search).run around memory)
  unfold Constant.attempt
  dsimp only [OptionT.run, OptionT.mk]
  cases hresult : search around memory with
  | ok found =>
      rw [hresult] at hsearch
      exact hsearch
  | error fault => exact fun a ha => by simp at ha

end Finds

/-! ## Values -/

end LintScaffold.Template.Constant
