import LintScaffold.Proofs.Template.Compiled

/-!
# Checking templates

Whether a template is harmless can be told from its text: `isHarmless` reads it and goes through
its statements.  A text that cannot be read counts as harmless if that is a fault of the template.

A text that passes this check has a harmless plan, or is a template at fault, by `compile_ends`.
-/

namespace LintScaffold
namespace Template

/-! ## Expressions -/

namespace Expr

variable {ν : Type} {isList isKnown : ν → Bool}

mutual
/-- Tells harmless expressions. -/
def isHarmless (isList isKnown : ν → Bool) : Expr ν → Bool
  | .name n => isKnown n
  | .const v => v.isTame
  | .lost _ => false
  | .list items => allHarmless isList isKnown items
  | .tuple items => allHarmless isList isKnown items
  | .dict _ => false
  | .field e _ => e.isHarmless isList isKnown
  | .item e index => e.isHarmless isList isKnown && index.isHarmless isList isKnown
  | .slice _ _ _ => false
  | .call _ _ _ _ _ => false
  | .filter e helper args named spread spreadNamed =>
      e.isHarmless isList isKnown && allHarmless isList isKnown args &&
        admitsFilter helper (e.isRow isList) args.length &&
        (named.isEmpty && spread.isNone && spreadNamed.isNone)
  | .test e _ args named spread spreadNamed =>
      e.isHarmless isList isKnown &&
        (args.isEmpty && named.isEmpty && spread.isNone && spreadNamed.isNone)
  | .sided _ _ => false
  | .arithmetic _ _ _ => false
  | .compare e operands =>
      e.isHarmless isList isKnown && operands.all (fun operand => operand.1.isEquality) &&
        operandsHarmless isList isKnown operands
  | .concat parts => allHarmless isList isKnown parts
  | .both left right => left.isHarmless isList isKnown && right.isHarmless isList isKnown
  | .either left right => left.isHarmless isList isKnown && right.isHarmless isList isKnown
  | .negate e => e.isHarmless isList isKnown
  | .choice condition yes no _ =>
      condition.isHarmless isList isKnown && yes.isHarmless isList isKnown &&
        optionHarmless isList isKnown no
  | .captured => true

/-- Tells lists of harmless expressions. -/
def allHarmless (isList isKnown : ν → Bool) : List (Expr ν) → Bool
  | [] => true
  | e :: rest => e.isHarmless isList isKnown && allHarmless isList isKnown rest

/-- Tells harmless expressions that may be left out. -/
def optionHarmless (isList isKnown : ν → Bool) : Option (Expr ν) → Bool
  | none => true
  | some e => e.isHarmless isList isKnown

/-- Tells harmless operands of comparisons. -/
def operandsHarmless (isList isKnown : ν → Bool) : List (Comparison × Expr ν) → Bool
  | [] => true
  | (_, e) :: rest => e.isHarmless isList isKnown && operandsHarmless isList isKnown rest
end

mutual
theorem harmless_of_isHarmless {e : Expr ν} (h : e.isHarmless isList isKnown = true) :
    e.Harmless isList (fun n => isKnown n = true) := by
  cases e with
  | name n => exact .name (by rwa [isHarmless] at h)
  | const v => exact .const (by rwa [isHarmless] at h)
  | list items => exact .list (harmless_of_allHarmless (by rwa [isHarmless] at h))
  | tuple items => exact .tuple (harmless_of_allHarmless (by rwa [isHarmless] at h))
  | field e name => exact .field (harmless_of_isHarmless (by rwa [isHarmless] at h)) name
  | item e index =>
      rw [isHarmless, Bool.and_eq_true] at h
      exact .item (harmless_of_isHarmless h.1) (harmless_of_isHarmless h.2)
  | filter e name args named spread spreadNamed =>
      simp only [isHarmless, Bool.and_eq_true, List.isEmpty_iff, Option.isNone_iff_eq_none] at h
      obtain ⟨⟨⟨he, hargs⟩, hadmits⟩, ⟨rfl, rfl⟩, rfl⟩ := h
      exact .filter (harmless_of_isHarmless he) (harmless_of_allHarmless hargs) hadmits
  | test e name args named spread spreadNamed =>
      simp only [isHarmless, Bool.and_eq_true, List.isEmpty_iff, Option.isNone_iff_eq_none] at h
      obtain ⟨he, ⟨⟨rfl, rfl⟩, rfl⟩, rfl⟩ := h
      exact .test (harmless_of_isHarmless he) name
  | compare e operands =>
      rw [isHarmless, Bool.and_eq_true, Bool.and_eq_true, List.all_eq_true] at h
      exact .compare (harmless_of_isHarmless h.1.1) h.1.2 (harmless_of_operandsHarmless h.2)
  | concat parts => exact .concat (harmless_of_allHarmless (by rwa [isHarmless] at h))
  | both left right =>
      rw [isHarmless, Bool.and_eq_true] at h
      exact .both (harmless_of_isHarmless h.1) (harmless_of_isHarmless h.2)
  | either left right =>
      rw [isHarmless, Bool.and_eq_true] at h
      exact .either (harmless_of_isHarmless h.1) (harmless_of_isHarmless h.2)
  | negate e => exact .negate (harmless_of_isHarmless (by rwa [isHarmless] at h))
  | choice condition yes no line =>
      rw [isHarmless, Bool.and_eq_true, Bool.and_eq_true] at h
      exact .choice (harmless_of_isHarmless h.1.1) (harmless_of_isHarmless h.1.2)
        (harmless_of_optionHarmless h.2) line
  | captured => exact .captured
  | lost | dict | slice | call | sided | arithmetic =>
      rw [isHarmless] at h
      exact absurd h Bool.false_ne_true

theorem harmless_of_allHarmless {items : List (Expr ν)}
    (h : allHarmless isList isKnown items = true) :
    ∀ e ∈ items, e.Harmless isList (fun n => isKnown n = true) := by
  cases items with
  | nil => exact List.forall_mem_nil _
  | cons e rest =>
      rw [allHarmless, Bool.and_eq_true] at h
      exact List.forall_mem_cons.mpr ⟨harmless_of_isHarmless h.1, harmless_of_allHarmless h.2⟩

theorem harmless_of_optionHarmless {e? : Option (Expr ν)}
    (h : optionHarmless isList isKnown e? = true) :
    ∀ e ∈ e?, e.Harmless isList (fun n => isKnown n = true) := by
  cases e? with
  | none => simp
  | some e =>
      rw [optionHarmless] at h
      have he := harmless_of_isHarmless h
      simpa using he

theorem harmless_of_operandsHarmless {operands : List (Comparison × Expr ν)}
    (h : operandsHarmless isList isKnown operands = true) :
    ∀ operand ∈ operands, operand.2.Harmless isList (fun n => isKnown n = true) := by
  cases operands with
  | nil => exact List.forall_mem_nil _
  | cons operand rest =>
      obtain ⟨op, e⟩ := operand
      rw [operandsHarmless, Bool.and_eq_true] at h
      exact List.forall_mem_cons.mpr
        ⟨harmless_of_isHarmless h.1, harmless_of_operandsHarmless h.2⟩
end

theorem allHarmless_iff {items : List (Expr ν)} :
    allHarmless isList isKnown items = true ↔
      ∀ e ∈ items, e.isHarmless isList isKnown = true := by
  induction items with
  | nil => simp [allHarmless]
  | cons e rest ih => rw [allHarmless, Bool.and_eq_true, ih, List.forall_mem_cons]

theorem operandsHarmless_iff {operands : List (Comparison × Expr ν)} :
    operandsHarmless isList isKnown operands = true ↔
      ∀ operand ∈ operands, operand.2.isHarmless isList isKnown = true := by
  induction operands with
  | nil => simp [operandsHarmless]
  | cons operand rest ih => rw [operandsHarmless, Bool.and_eq_true, ih, List.forall_mem_cons]

theorem optionHarmless_iff {e? : Option (Expr ν)} :
    optionHarmless isList isKnown e? = true ↔ ∀ e ∈ e?, e.isHarmless isList isKnown = true := by
  cases e? with
  | none => simp [optionHarmless]
  | some e => simp [optionHarmless]

theorem isHarmless_of_harmless {e : Expr ν}
    (h : e.Harmless isList (fun n => isKnown n = true)) : e.isHarmless isList isKnown = true := by
  induction h with
  | name h => rwa [isHarmless]
  | const h => rwa [isHarmless]
  | list _ ih | tuple _ ih | concat _ ih => rwa [isHarmless, allHarmless_iff]
  | field _ _ ih | negate _ ih => rwa [isHarmless]
  | item _ _ ih ihother | both _ _ ih ihother | either _ _ ih ihother =>
      rw [isHarmless, ih, ihother, Bool.and_self]
  | filter _ _ hadmits ih ihargs =>
      rw [isHarmless, ih, allHarmless_iff.mpr ihargs, hadmits]
      rfl
  | test _ _ ih =>
      rw [isHarmless, ih]
      rfl
  | compare _ hoperators _ ih ihoperands =>
      rw [isHarmless, ih, List.all_eq_true.mpr hoperators, operandsHarmless_iff.mpr ihoperands]
      rfl
  | choice _ _ _ _ ihcondition ihyes ihno =>
      rw [isHarmless, ihcondition, ihyes, optionHarmless_iff.mpr ihno]
      rfl
  | captured => rw [isHarmless]

/-- The check tells exactly the harmless expressions. -/
theorem isHarmless_iff {e : Expr ν} :
    e.isHarmless isList isKnown = true ↔ e.Harmless isList (fun n => isKnown n = true) :=
  ⟨harmless_of_isHarmless, isHarmless_of_harmless⟩

end Expr

/-! ## Statements -/

/-- Tells harmless expressions of a template. -/
def Term.isHarmless (e : Term) : Bool :=
  Expr.isHarmless isListName (fun name => name != Planning.loopName) e

theorem Term.isHarmless_iff {e : Term} : Term.isHarmless e = true ↔ Term.Harmless e :=
  Expr.isHarmless_iff.trans
    ⟨fun h => h.imp fun _ => bne_iff_ne.mp, fun h => h.imp fun _ => bne_iff_ne.mpr⟩

namespace Stmt

/-- Tells targets that are one name, but not that of a list. -/
def isFree : Target Text → Bool
  | .name n => !isListName n
  | _ => false

theorem exists_of_isFree {target : Target Text} (h : isFree target = true) :
    ∃ name, target = .name name ∧ isListName name = false := by
  cases target with
  | name n => exact ⟨n, rfl, by simpa [isFree] using h⟩
  | field | tuple => exact absurd h Bool.false_ne_true

mutual
/-- Tells harmless statements with at most so many blocks, and so many loops, inside each other. -/
def isHarmless (blocks loops : Nat) : Stmt → Bool
  | .data _ => true
  | .output e => Term.isHarmless e
  | .choose branches otherwise =>
      decide (0 < blocks) && branchesHarmless (blocks - 1) loops branches &&
        allHarmless (blocks - 1) loops otherwise
  | .loop isRecursive target source condition body otherwise =>
      decide (0 < blocks) && decide (0 < loops) && !isRecursive && isFree target &&
        condition.isNone && Term.isHarmless source && Expr.isRow isListName source &&
        allHarmless (blocks - 1) (loops - 1) body && allHarmless (blocks - 1) loops otherwise
  | .assign target value => isFree target && Term.isHarmless value
  | .capture target filtered body =>
      isFree target && Expr.isHarmless isListName (fun _ => false) filtered &&
        allHarmless blocks loops body

/-- Tells lists of harmless statements. -/
def allHarmless (blocks loops : Nat) : List Stmt → Bool
  | [] => true
  | statement :: rest => statement.isHarmless blocks loops && allHarmless blocks loops rest

/-- Tells harmless branches of a choice. -/
def branchesHarmless (blocks loops : Nat) : List (Term × List Stmt) → Bool
  | [] => true
  | (condition, body) :: rest =>
      Term.isHarmless condition && allHarmless blocks loops body &&
        branchesHarmless blocks loops rest
end

mutual
theorem harmless_of_isHarmless {blocks loops : Nat} {statement : Stmt}
    (h : statement.isHarmless blocks loops = true) : statement.Harmless blocks loops := by
  cases statement with
  | data text => exact .data text
  | output e => exact .output (Term.isHarmless_iff.mp (by rwa [isHarmless] at h))
  | choose branches otherwise =>
      simp only [isHarmless, Bool.and_eq_true, decide_eq_true_eq] at h
      obtain ⟨⟨hblocks, hbranches⟩, hotherwise⟩ := h
      obtain ⟨blocks, rfl⟩ := Nat.exists_eq_add_one.mpr hblocks
      have hall := harmless_of_branchesHarmless hbranches
      exact .choose (fun branch hbranch => (hall branch hbranch).1)
        (fun branch hbranch => (hall branch hbranch).2) (harmless_of_allHarmless hotherwise)
  | loop isRecursive target source condition body otherwise =>
      simp only [isHarmless, Bool.and_eq_true, decide_eq_true_eq, Bool.not_eq_true',
        Option.isNone_iff_eq_none] at h
      obtain ⟨⟨⟨⟨⟨⟨⟨⟨hblocks, hloops⟩, rfl⟩, htarget⟩, rfl⟩, hsource⟩, hrow⟩, hbody⟩,
        hotherwise⟩ := h
      obtain ⟨blocks, rfl⟩ := Nat.exists_eq_add_one.mpr hblocks
      obtain ⟨loops, rfl⟩ := Nat.exists_eq_add_one.mpr hloops
      obtain ⟨name, rfl, hname⟩ := exists_of_isFree htarget
      exact .loop hname (Term.isHarmless_iff.mp hsource) hrow (harmless_of_allHarmless hbody)
        (harmless_of_allHarmless hotherwise)
  | assign target value =>
      rw [isHarmless, Bool.and_eq_true] at h
      obtain ⟨name, rfl, hname⟩ := exists_of_isFree h.1
      exact .assign hname (Term.isHarmless_iff.mp h.2)
  | capture target filtered body =>
      -- the filters of an assigned block know no name
      rw [isHarmless, Bool.and_eq_true, Bool.and_eq_true] at h
      obtain ⟨name, rfl, hname⟩ := exists_of_isFree h.1.1
      exact .capture hname ((Expr.harmless_of_isHarmless h.1.2).imp fun _ => by simp)
        (harmless_of_allHarmless h.2)

theorem harmless_of_allHarmless {blocks loops : Nat} {statements : List Stmt}
    (h : allHarmless blocks loops statements = true) :
    ∀ statement ∈ statements, statement.Harmless blocks loops := by
  cases statements with
  | nil => exact List.forall_mem_nil _
  | cons statement rest =>
      rw [allHarmless, Bool.and_eq_true] at h
      exact List.forall_mem_cons.mpr ⟨harmless_of_isHarmless h.1, harmless_of_allHarmless h.2⟩

theorem harmless_of_branchesHarmless {blocks loops : Nat} {branches : List (Term × List Stmt)}
    (h : branchesHarmless blocks loops branches = true) :
    ∀ branch ∈ branches, Term.Harmless branch.1 ∧
      ∀ statement ∈ branch.2, statement.Harmless blocks loops := by
  cases branches with
  | nil => exact List.forall_mem_nil _
  | cons branch rest =>
      obtain ⟨condition, body⟩ := branch
      rw [branchesHarmless, Bool.and_eq_true, Bool.and_eq_true] at h
      exact List.forall_mem_cons.mpr ⟨⟨Term.isHarmless_iff.mp h.1.1,
        harmless_of_allHarmless h.1.2⟩, harmless_of_branchesHarmless h.2⟩
end

theorem allHarmless_iff {blocks loops : Nat} {statements : List Stmt} :
    allHarmless blocks loops statements = true ↔
      ∀ statement ∈ statements, statement.isHarmless blocks loops = true := by
  induction statements with
  | nil => simp [allHarmless]
  | cons statement rest ih => rw [allHarmless, Bool.and_eq_true, ih, List.forall_mem_cons]

theorem branchesHarmless_iff {blocks loops : Nat} {branches : List (Term × List Stmt)} :
    branchesHarmless blocks loops branches = true ↔
      ∀ branch ∈ branches, Term.isHarmless branch.1 = true ∧
        ∀ statement ∈ branch.2, statement.isHarmless blocks loops = true := by
  induction branches with
  | nil => simp [branchesHarmless]
  | cons branch rest ih =>
      rw [branchesHarmless, Bool.and_eq_true, Bool.and_eq_true, allHarmless_iff, ih,
        List.forall_mem_cons]

theorem isHarmless_of_harmless {blocks loops : Nat} {statement : Stmt}
    (h : statement.Harmless blocks loops) : statement.isHarmless blocks loops = true := by
  have hfree {name : Text} (hname : isListName name = false) : isFree (.name name) = true := by
    rw [isFree, hname]
    rfl
  induction h with
  | data text => rw [isHarmless]
  | output h => rwa [isHarmless, Term.isHarmless_iff]
  | choose hconditions _ _ ihbodies ihotherwise =>
      have hbranches := branchesHarmless_iff.mpr fun branch hbranch =>
        ⟨Term.isHarmless_iff.mpr (hconditions branch hbranch), ihbodies branch hbranch⟩
      rw [isHarmless, Nat.add_sub_cancel, hbranches, allHarmless_iff.mpr ihotherwise,
        decide_eq_true (Nat.succ_pos _)]
      rfl
  | loop hname hsource hrow _ _ ihbody ihotherwise =>
      rw [isHarmless, Nat.add_sub_cancel, Nat.add_sub_cancel, allHarmless_iff.mpr ihbody,
        allHarmless_iff.mpr ihotherwise, hrow, Term.isHarmless_iff.mpr hsource, hfree hname,
        decide_eq_true (Nat.succ_pos _), decide_eq_true (Nat.succ_pos _)]
      rfl
  | assign hname h =>
      rw [isHarmless, hfree hname, Term.isHarmless_iff.mpr h]
      rfl
  | capture hname hfiltered _ ihbody =>
      have hchecked := @Expr.isHarmless_of_harmless Text isListName (fun _ => false) _
        (hfiltered.imp fun _ => False.elim)
      rw [isHarmless, hfree hname, allHarmless_iff.mpr ihbody, hchecked]
      rfl

/-- The check tells exactly the harmless statements. -/
theorem isHarmless_iff {blocks loops : Nat} {statement : Stmt} :
    statement.isHarmless blocks loops = true ↔ statement.Harmless blocks loops :=
  ⟨harmless_of_isHarmless, isHarmless_of_harmless⟩

end Stmt

/-! ## Templates -/

/-- Tells harmless texts of templates: what is wrong with their syntax counts as a fault of the
template, and their statements do nothing that could go wrong in another way than by using what
is not there. -/
def isHarmless (text : Text) : Bool :=
  match parse text with
  | .ok statements => Stmt.allHarmless (Planning.maxIndent - 1) Planning.maxLoops statements
  | .error fault => fault.isTemplates

/-- The check passes exactly the texts of harmless statements, and those that cannot be read because
the template is at fault. -/
theorem isHarmless_iff {text : Text} :
    isHarmless text = true ↔
      (∃ statements, parse text = .ok statements ∧ ∀ statement ∈ statements,
        statement.Harmless (Planning.maxIndent - 1) Planning.maxLoops) ∨
      ∃ fault, parse text = .error fault ∧ fault.isTemplates = true := by
  unfold isHarmless
  cases parse text with
  | error fault => simp
  | ok statements => simp [Stmt.allHarmless_iff, Stmt.isHarmless_iff]

example :
    isHarmless "\x7b% for c in pass_cases %\x7d\x7b\x7b c|trim \x7d\x7d\x7b% endfor %\x7d".toList =
      true ∧
    isHarmless "\x7b\x7b 1 // 0 \x7d\x7d".toList = false := by
  decide +kernel

end Template
end LintScaffold
