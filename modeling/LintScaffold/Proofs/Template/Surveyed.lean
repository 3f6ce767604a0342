import LintScaffold.Proofs.Template.Harmless

/-!
# Surveys of harmless statements

The statements of a template are *harmless* if their expressions are, with the conditions on loops
and assignments that harmless steps have, and with bounds on how many blocks and loops are inside
each other, since a plan has such bounds.

Before a plan is made each scope is surveyed, and the plan resolves a name to what the survey
says.  Two things are needed of surveys.  A survey knows every name that occurs in its scope, or
else the plan could not be made.  And it is *faithful*: a name starts with what has this very
name.  Both are shown by going through the statements in the same order as the survey
(`visit_covers`, `visitStmt_covers`); what has been found on the way is never lost again, which is
`Grows`.  A choice is where the surveys of several parts are joined, by `merge_spec`.
-/

namespace LintScaffold.Template

/-! ## Harmless statements -/

/-- An expression of a template that is harmless, and looks at the state of no loop. -/
abbrev Term.Harmless (e : Term) : Prop :=
  Expr.Harmless isListName (fun name => name ≠ Planning.loopName) e

/-- The statement does nothing that could go wrong in another way than by using what is not there.
At most so many blocks, and so many loops, are inside each other in it. -/
inductive Stmt.Harmless : (blocks loops : Nat) → Stmt → Prop
  | data {blocks loops : Nat} (text : Text) : Harmless blocks loops (.data text)
  | output {blocks loops : Nat} {e : Term} (h : e.Harmless) : Harmless blocks loops (.output e)
  | choose {blocks loops : Nat} {branches : List (Term × List Stmt)} {otherwise : List Stmt}
      (hconditions : ∀ branch ∈ branches, branch.1.Harmless)
      (hbodies : ∀ branch ∈ branches, ∀ statement ∈ branch.2, Harmless blocks loops statement)
      (hotherwise : ∀ statement ∈ otherwise, Harmless blocks loops statement) :
      Harmless (blocks + 1) loops (.choose branches otherwise)
  | loop {blocks loops : Nat} {name : Text} {source : Term} {body otherwise : List Stmt}
      (hname : isListName name = false) (hsource : source.Harmless)
      (hrow : source.isRow isListName = true)
      (hbody : ∀ statement ∈ body, Harmless blocks loops statement)
      (hotherwise : ∀ statement ∈ otherwise, Harmless blocks (loops + 1) statement) :
      Harmless (blocks + 1) (loops + 1) (.loop false (.name name) source none body otherwise)
  | assign {blocks loops : Nat} {name : Text} {value : Term} (hname : isListName name = false)
      (h : value.Harmless) : Harmless blocks loops (.assign (.name name) value)
  | capture {blocks loops : Nat} {name : Text} {filtered : Term} {body : List Stmt}
      (hname : isListName name = false)
      (hfiltered : Expr.Harmless isListName (fun _ => False) filtered)
      (hbody : ∀ statement ∈ body, Harmless blocks loops statement) :
      Harmless blocks loops (.capture (.name name) filtered body)

/-- Every name that the statement looks at or assigns in its own scope is known. -/
inductive Stmt.Surveyed (Known : Text → Prop) : Stmt → Prop
  | data (text : Text) : Surveyed Known (.data text)
  | output {e : Term} (h : Expr.Harmless isListName Known e) : Surveyed Known (.output e)
  | choose {branches : List (Term × List Stmt)} {otherwise : List Stmt}
      (hconditions : ∀ branch ∈ branches, Expr.Harmless isListName Known branch.1)
      (hbodies : ∀ branch ∈ branches, ∀ statement ∈ branch.2, Surveyed Known statement)
      (hotherwise : ∀ statement ∈ otherwise, Surveyed Known statement) :
      Surveyed Known (.choose branches otherwise)
  | loop {isRecursive : Bool} {target : Target Text} {source : Term} {condition : Option Term}
      {body otherwise : List Stmt} (hsource : Expr.Harmless isListName Known source) :
      Surveyed Known (.loop isRecursive target source condition body otherwise)
  | assign {name : Text} {value : Term} (hname : Known name)
      (h : Expr.Harmless isListName Known value) : Surveyed Known (.assign (.name name) value)
  | capture {name : Text} {filtered : Term} {body : List Stmt} (hname : Known name) :
      Surveyed Known (.capture (.name name) filtered body)

theorem Stmt.Surveyed.imp {Known More : Text → Prop} {statement : Stmt}
    (h : statement.Surveyed Known) (himp : ∀ n, Known n → More n) : statement.Surveyed More := by
  induction h with
  | data text => exact .data text
  | output h => exact .output (h.imp himp)
  | choose hconditions _ _ ihbodies ihotherwise =>
      exact .choose (fun branch hbranch => (hconditions branch hbranch).imp himp) ihbodies
        ihotherwise
  | loop hsource => exact .loop (hsource.imp himp)
  | assign hname h => exact .assign (himp _ hname) (h.imp himp)
  | capture hname => exact .capture (himp _ hname)

/-! ## Names that scopes know -/

/-- One of the scopes knows the name. -/
def Scopes.Knows (scopes : Scopes) (name : Text) : Prop := (scopes.find? name).isSome = true

namespace Survey

variable {outer : Scopes} {survey larger : Survey} {name : Text}

/-- Every name of the scope starts with what has this name, and no list is supplied in the scope
itself. -/
def IsFaithful (survey : Survey) : Prop :=
  ∀ entry ∈ survey.starts, entry.2.BelongsTo (Text.compatible entry.1) ∧
    (isListName entry.1 = true → entry.2 ≠ .supplied)

theorem knows_note (survey : Survey) (name other : Text) (start : Start) :
    (survey.note name start).knows other = (other == name || survey.knows other) := by
  unfold note knows
  rw [lookup_setEntry]
  split
  · rename_i hname
    simp [hname]
  · rename_i hname
    simp [hname]

theorem knows_cons : Scopes.Knows (survey :: outer) name ↔
    survey.knows name = true ∨ outer.Knows name := by
  unfold Scopes.Knows knows
  rw [Scopes.find?]
  cases survey.starts.lookup name with
  | some start => simp
  | none => simp

/-- The larger survey knows what the smaller one knows. -/
def Within (survey larger : Survey) : Prop :=
  ∀ name, survey.knows name = true → larger.knows name = true

theorem Within.known (h : Within survey larger) (hname : Scopes.Knows (survey :: outer) name) :
    Scopes.Knows (larger :: outer) name :=
  knows_cons.mpr ((knows_cons.mp hname).imp_left (h name))

/-- The larger survey knows what the smaller one knows, and is as faithful. -/
structure Grows (survey larger : Survey) : Prop where
  within : Within survey larger
  faithful : survey.IsFaithful → larger.IsFaithful

namespace Grows

theorem refl (survey : Survey) : Grows survey survey := ⟨fun _ => id, id⟩

theorem trans {largest : Survey} (h : Grows survey larger) (hmore : Grows larger largest) :
    Grows survey largest :=
  ⟨fun name hname => hmore.within name (h.within name hname),
    fun hfaithful => hmore.faithful (h.faithful hfaithful)⟩

protected theorem note {start : Start} (hbelongs : start.BelongsTo (Text.compatible name))
    (hlist : isListName name = true → start ≠ .supplied) :
    Grows survey (survey.note name start) := by
  refine ⟨fun other hother => by rw [knows_note, hother, Bool.or_true], fun h entry hentry => ?_⟩
  rcases eq_or_mem_of_mem_setEntry hentry with rfl | hentry
  · exact ⟨hbelongs, hlist⟩
  · exact h entry hentry

end Grows

/-- The survey with what another one knows besides. -/
def overlay (survey part : Survey) : Survey :=
  ⟨part.starts.foldl (fun starts (name, start) => setEntry (· == ·) name start starts)
      survey.starts, part.assigned ++ survey.assigned⟩

/-- The survey with a name that starts out with what it has outside. -/
def restart (outer : Scopes) (survey : Survey) (name : Text) : Survey :=
  match outer.placeOf? name with
  | some v => survey.note name (.copied v)
  | none => survey.note name (.asked name)

theorem overlay_spec (entries : List (Text × Start)) (assigned : List Text) (survey : Survey) :
    let overlaid : Survey := ⟨entries.foldl (fun starts (name, start) =>
      setEntry (· == ·) name start starts) survey.starts, assigned⟩
    (∀ name, (entries.lookup name).isSome = true ∨ survey.knows name = true →
      overlaid.knows name = true) ∧
    ((∀ entry ∈ entries, entry.2.BelongsTo (Text.compatible entry.1) ∧
      (isListName entry.1 = true → entry.2 ≠ .supplied)) → survey.IsFaithful →
        overlaid.IsFaithful) := by
  induction entries generalizing survey with
  | nil => exact ⟨fun name hname => hname.resolve_left (by simp), fun _ => id⟩
  | cons entry rest ih =>
      obtain ⟨first, start⟩ := entry
      obtain ⟨hknows, hfaithful⟩ := ih (survey.note first start)
      refine ⟨fun name hname => hknows name ?_, fun hentries hsurvey => ?_⟩
      -- the first entry is noted, and what is noted later does not take it away
      · rw [knows_note, Bool.or_eq_true]
        rw [List.lookup_cons] at hname
        by_cases hfirst : name = first
        · exact .inr (.inl (by simp [hfirst]))
        · rw [beq_false_of_ne hfirst] at hname
          exact hname.imp_right .inr
      · rw [List.forall_mem_cons] at hentries
        exact hfaithful hentries.2 ((Grows.note hentries.1.1 hentries.1.2).faithful hsurvey)

theorem IsFaithful.overlay {part : Survey} (h : survey.IsFaithful) (hpart : part.IsFaithful) :
    (overlay survey part).IsFaithful :=
  (overlay_spec part.starts (part.assigned ++ survey.assigned) survey).2 hpart h

/-- The names of the branches of a choice are known. -/
def BranchesSurveyed (branches : List (Term × List Stmt)) (Known : Text → Prop) : Prop :=
  ∀ branch ∈ branches, Expr.Harmless isListName Known branch.1 ∧
    ∀ statement ∈ branch.2, statement.Surveyed Known

theorem BranchesSurveyed.imp {branches : List (Term × List Stmt)} {Known More : Text → Prop}
    (h : BranchesSurveyed branches Known) (himp : ∀ n, Known n → More n) :
    BranchesSurveyed branches More := fun branch hbranch =>
  ⟨(h branch hbranch).1.imp himp,
    fun statement hstatement => ((h branch hbranch).2 statement hstatement).imp himp⟩

end Survey
end LintScaffold.Template
