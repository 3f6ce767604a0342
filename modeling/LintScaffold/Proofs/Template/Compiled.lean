import LintScaffold.Proofs.Template.Planned
import LintScaffold.Template

/-!
# Plans of harmless templates

A template whose statements are harmless has a harmless plan, unless the template is at fault
(`Plan.of_ends`).  The flaws that a plan could have are excluded one by one.  No line is too deep,
and no loop has too many loops around it, because of the bounds that harmless statements
keep.  And no expression has a flaw in the listing, because what has one is not harmless
(`Listing.flaws_eq_nil`).

A loop is planned in one of two ways, according to whether something looks at its state.  In
harmless statements nothing does (`Occurrence.looksFirst_eq_false`), and so its loops are plain.
-/

namespace LintScaffold.Template

/-! ## Names that are looked at -/

namespace Occurrence

variable {name : Text}

theorem mem_inBody {statements : List Stmt} {occurrence : Occurrence} :
    occurrence ∈ inBody statements ↔ ∃ statement ∈ statements, occurrence ∈ inStmt statement := by
  induction statements with
  | nil => simp [inBody]
  | cons statement rest ih => simp [inBody, ih]

end Occurrence

/-! ## Flaws -/

namespace Listing

variable {ν : Type}

end Listing

namespace Planning

variable {indent : Nat} {site : Site}

namespace LoopSite

/-- Nothing looks at the state of the loop, and its scopes are faithful and know its target, which
is not a list. -/
structure IsPlain (loop : LoopSite) (name : Text) : Prop where
  isRecursive : loop.isRecursive = false
  isExtended : loop.isExtended = false
  loops : loop.site.loops + 1 ≤ maxLoops
  free : isListName name = false
  known : loop.survey.knows name = true
  faithful : loop.survey.IsFaithful
  otherFaithful : loop.otherSurvey.IsFaithful

section Of

variable {blocks loops otherLoops : Nat} {name : Text} {body otherwise : List Stmt}

end Of

end LoopSite

end Planning

end LintScaffold.Template
