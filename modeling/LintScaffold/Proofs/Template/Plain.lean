import LintScaffold.Proofs.Template.Writes

/-!
# Plain plans

The plan of a template is plain if it has nothing but data, values of names, choices by a
name, and loops over a name, with no choice or loop inside another one.  Plans cannot be
compared, as their expressions can be of any depth; the pieces of plain plans can.  So a
plan that is plain can be found by evaluation: `eq_of_isPlain`.
-/

namespace LintScaffold.Template

deriving instance DecidableEq for Mention

/-- Data, or the value of a name. -/
inductive Word
  | data (text : Text)
  | value (mention : Mention)
  deriving DecidableEq

/-- A word, a choice by a name, or a loop over a name. -/
inductive Piece
  | word (w : Word)
  | choose (flag : Mention) (yes no : List Word)
  | loop (place : Variable) (items : Mention) (body : List Word)
  deriving DecidableEq

/-- The step that a word is in a plan. -/
def Word.step : Word → Step
  | .data text => .data text
  | .value mention => .output (.name mention)

/-- The step that a piece is in a plan. -/
def Piece.step : Piece → Step
  | .word w => w.step
  | .choose flag yes no => .choose [(.name flag, yes.map Word.step)] (no.map Word.step)
  | .loop place items body => .loop (.bare place (.name items)) (body.map Word.step) []

/-- The plan that asks for the values of some names and has the given pieces. -/
def Plan.plain (names : List Text) (pieces : List Piece) : Plan where
  entrance := names.map fun name => (⟨0, name⟩, .asked name)
  hasItself := false
  steps := pieces.map Piece.step
  helpers := []

/-! ## Names that are asked for -/

/-- The mention of a name that a template asks the caller for. -/
def Mention.asked (name : Text) : Mention := ⟨⟨0, name⟩, name, false⟩

namespace Plan

variable {names : List Text} {pieces : List Piece} {bindings : List (Text × Value)} {name : Text}

theorem get_plain (hname : name ∈ names) :
    ((plain names pieces).scope bindings).get ⟨0, name⟩ =
      (⟨bindings, [], []⟩ : Scope).ask name := by
  have hplace := (Scope.enter_asked names ⟨bindings, [], []⟩).2.2 ⟨0, name⟩
  rw [if_pos ⟨rfl, hname⟩] at hplace
  unfold Scope.get
  exact congrArg (Option.getD · .unset) hplace

theorem look_plain {v : Value} (hname : name ∈ names) (hv : bindings.lookup name = some v)
    (hset : v ≠ .unset) : ((plain names pieces).scope bindings).look (.asked name) = v := by
  have hget : ((plain names pieces).scope bindings).get ⟨0, name⟩ = v := by
    rw [get_plain hname, Scope.ask, hv]
  unfold Scope.look Mention.asked
  dsimp only
  rw [hget]
  split
  · exact absurd rfl hset
  · rfl

theorem look_plain_of_unknown (hname : name ∈ names) (hbindings : bindings.lookup name = none)
    (heverywhere : Scope.everywhere.lookup name = none) :
    ((plain names pieces).scope bindings).look (.asked name) = .missing (.name name) := by
  have hget : ((plain names pieces).scope bindings).get ⟨0, name⟩ = .unset := by
    rw [get_plain hname, Scope.ask, hbindings, heverywhere]
    rfl
  unfold Scope.look Mention.asked
  dsimp only
  rw [hget]
  rfl

end Plan

/-! ## Recognising plain plans -/

/-- The word that a step is. -/
def Word.ofStep? : Step → Option Word
  | .data text => some (.data text)
  | .output (.name mention) => some (.value mention)
  | _ => none

/-- The piece that a step is. -/
def Piece.ofStep? : Step → Option Piece
  | .choose [(.name flag, yes)] no =>
      return .choose flag (← yes.mapM Word.ofStep?) (← no.mapM Word.ofStep?)
  | .loop ⟨none, false, .name place, .name items, none, [], []⟩ body [] =>
      return .loop place items (← body.mapM Word.ofStep?)
  | step => .word <$> Word.ofStep? step

/-- The plan is the plain one with the given names and pieces. -/
def Plan.isPlain (plan : Plan) (names : List Text) (pieces : List Piece) : Bool :=
  plan.entrance = names.map (fun name => (⟨0, name⟩, .asked name)) && !plan.hasItself &&
    plan.steps.mapM Piece.ofStep? = some pieces && plan.helpers.isEmpty

theorem eq_map_of_mapM {α β : Type} {read : α → Option β} {write : β → α}
    (hread : ∀ {a b}, read a = some b → a = write b) {as : List α} {bs : List β}
    (h : as.mapM read = some bs) : as = bs.map write := by
  induction as generalizing bs with
  | nil =>
      obtain rfl : [] = bs := by simpa using h
      rfl
  | cons a rest ih =>
      simp only [List.mapM_cons, Option.bind_eq_bind, Option.bind_eq_some_iff, Option.pure_def,
        Option.some.injEq] at h
      obtain ⟨b, hb, more, hmore, rfl⟩ := h
      rw [hread hb, ih hmore, List.map_cons]

theorem Word.eq_step {step : Step} {word : Word} (h : ofStep? step = some word) :
    step = word.step := by
  unfold ofStep? at h
  split at h
  · obtain rfl := Option.some.inj h
    rfl
  · obtain rfl := Option.some.inj h
    rfl
  · simp at h

theorem Piece.eq_step {step : Step} {piece : Piece} (h : ofStep? step = some piece) :
    step = piece.step := by
  unfold ofStep? at h
  split at h
  · simp only [Option.bind_eq_bind, Option.bind_eq_some_iff, Option.pure_def,
      Option.some.injEq] at h
    obtain ⟨yes, hyes, no, hno, rfl⟩ := h
    rw [step, ← eq_map_of_mapM Word.eq_step hyes, ← eq_map_of_mapM Word.eq_step hno]
  · simp only [Option.bind_eq_bind, Option.bind_eq_some_iff, Option.pure_def,
      Option.some.injEq] at h
    obtain ⟨body, hbody, rfl⟩ := h
    rw [step, ← eq_map_of_mapM Word.eq_step hbody]
    rfl
  · rw [Option.map_eq_map, Option.map_eq_some_iff] at h
    obtain ⟨word, hword, rfl⟩ := h
    exact Word.eq_step hword

theorem eq_of_isPlain {plan : Plan} {names : List Text} {pieces : List Piece}
    (h : plan.isPlain names pieces = true) : plan = .plain names pieces := by
  simp only [Plan.isPlain, Bool.and_eq_true, decide_eq_true_eq, Bool.not_eq_true',
    List.isEmpty_iff] at h
  obtain ⟨⟨⟨hentrance, hitself⟩, hsteps⟩, hhelpers⟩ := h
  rw [Plan.plain, ← hentrance, ← eq_map_of_mapM Piece.eq_step hsteps, ← hitself, ← hhelpers]

end LintScaffold.Template
