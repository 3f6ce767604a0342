import LintScaffold.Proofs.Template.Parts
import LintScaffold.Proofs.Template.Plain
import LintScaffold.Proofs.Template.Planned

/-!
# Planning texts and placeholders

The tokens of a row of parts are read as statements, one for each part, and the statements become
a plain plan that asks for the names in the row.

An expression is read by one function for each level of binding strength.  `Reads name reader`
says that such a function takes the name of a placeholder and leaves its end.  It is carried from
the tightest level to the loosest one: at the end of a placeholder every level `Stops` looking for
an operator, and only negation looks for a word in front, which is why a name must not be that
word (`StandsAlone`).

A part of a plan is made without a flaw as long as its lines are not indented too deeply, and here
nothing is indented any deeper.  `Yields indent a part` says so of a part that makes `a`.  While
names are looked at and never assigned, a survey is the list of those that were seen
(`Survey.asking`).
-/

namespace LintScaffold

theorem Text.compatible_of_isAscii {name : Text} (h : IsAscii name) : compatible name = name := by
  have hseven : isSevenBit name = true := by
    rw [isSevenBit, List.all_eq_true]
    exact fun c hc => decide_eq_true (h c hc)
  rw [compatible, hseven, if_pos rfl]

namespace Template

open Reader

/-! ## Steps of reading -/

namespace Reader

variable {α β σ : Type} {tokens rest : Tokens}

theorem bind_eq {first : Reader α} {a : α} (h : first tokens = .ok (a, rest))
    (next : α → Reader β) : (first >>= next) tokens = next a rest := by
  show (first tokens >>= _) = _
  rw [h]
  rfl

theorem current_cons (t : Located) (tokens : Tokens) :
    current (t :: tokens) = .ok (t, t :: tokens) := rfl

theorem peek_cons (t : Located) (tokens : Tokens) :
    peek (t :: tokens) = .ok (t.token, t :: tokens) := rfl

theorem next_cons {t : Located} (h : advance (t :: tokens) = .ok rest) :
    next (t :: tokens) = .ok (t, rest) := by
  have hlift : (liftM (advance (t :: tokens)) : Reader Tokens) (t :: tokens) =
      .ok (rest, t :: tokens) := by
    show (advance (t :: tokens) >>= fun more => .ok (more, t :: tokens)) = _
    rw [h]
    rfl
  exact (bind_eq (current_cons t tokens) _).trans ((bind_eq rfl _).trans (bind_eq hlift _))

theorem repeatUpTo_stop {step : σ → Reader (Option σ)} {state : σ}
    (h : step state tokens = .ok (none, rest)) (fuel : Nat) :
    repeatUpTo step (fuel + 1) state tokens = .ok (state, rest) :=
  bind_eq h _

theorem repeatUpTo_next {step : σ → Reader (Option σ)} {state next : σ}
    (h : step state tokens = .ok (some next, rest)) (fuel : Nat) :
    repeatUpTo step (fuel + 1) state tokens = repeatUpTo step fuel next rest :=
  bind_eq h _

end Reader

/-! ## Names of placeholders -/

variable {name : Text}

/-- The name is none of a constant, and not the word for negation. -/
structure StandsAlone (name : Text) : Prop where
  isName : Grammar.nameExpr name = .name name
  isOperand : name ≠ "not".toList

theorem standsAlone_of_notMem (h : name ∉ reservedNames) : StandsAlone name := by
  simp only [reservedNames, List.mem_cons, List.mem_append, not_or] at h
  obtain ⟨hnot, -, hconstants, -⟩ := h
  refine ⟨?_, hnot⟩
  have hfind : Grammar.constantNames.find? (fun entry => entry.1.toList = name) = none := by
    rw [List.find?_eq_none]
    intro entry hentry hname
    exact hconstants (List.mem_map.mpr ⟨entry, hentry, of_decide_eq_true hname⟩)
  unfold Grammar.nameExpr
  rw [hfind]

/-- The reader takes the name of a placeholder, up to the end of the placeholder. -/
def Reads (name : Text) (reader : Reader Term) : Prop :=
  ∀ (line after : Nat) (more : Tokens),
    reader (⟨line, .name name⟩ :: ⟨after, .variableEnd⟩ :: more) =
      .ok (.name name, ⟨after, .variableEnd⟩ :: more)

/-- The step finds nothing more to take at the end of a placeholder. -/
def Stops {σ : Type} (step : σ → Reader (Option σ)) : Prop :=
  ∀ (state : σ) (line : Nat) (more : Tokens),
    step state (⟨line, .variableEnd⟩ :: more) = .ok (none, ⟨line, .variableEnd⟩ :: more)

theorem Stops.repeatWhile {σ : Type} {step : σ → Reader (Option σ)} (h : Stops step) (state : σ)
    (line : Nat) (more : Tokens) :
    repeatWhile step state (⟨line, .variableEnd⟩ :: more) =
      .ok (state, ⟨line, .variableEnd⟩ :: more) :=
  repeatUpTo_stop (h state line more) more.length

theorem Reads.bind {first : Reader Term} {next : Term → Reader Term} (h : Reads name first)
    (hnext : ∀ line more, next (.name name) (⟨line, .variableEnd⟩ :: more) =
      .ok (.name name, ⟨line, .variableEnd⟩ :: more)) : Reads name (first >>= next) :=
  fun line after more => (bind_eq (h line after more) next).trans (hnext after more)

theorem Reads.repeated {first : Reader Term} {step : Term → Reader (Option Term)}
    (h : Reads name first) (hstep : Stops step) :
    Reads name (do repeatWhile step (← first)) :=
  h.bind (hstep.repeatWhile _)

/-! ## Levels of the grammar -/

namespace Grammar

variable {inner : Reader Term}

theorem stops_postfixStep : Stops (postfixStep inner) := fun _ _ _ => rfl

theorem stops_refineStep : Stops (refineStep inner) := fun _ _ _ => rfl

theorem stops_concatStep : Stops (concatStep inner) := fun _ _ _ => rfl

theorem stops_compareStep : Stops (compareStep inner) := fun _ _ _ => rfl

theorem reads_primary (h : StandsAlone name) : Reads name (primary inner) := by
  intro line after more
  rw [← h.isName]
  rfl

theorem reads_signed (h : StandsAlone name) (fuel : Nat) (refines : Bool) :
    Reads name (signed inner fuel refines) := by
  cases fuel with
  | zero => exact reads_primary h
  | succ fuel =>
      have hprimary : Reads name (primary inner) := reads_primary h
      have hpostfixes : ∀ line more, withPostfixes inner (.name name)
          (⟨line, .variableEnd⟩ :: more) = .ok (.name name, ⟨line, .variableEnd⟩ :: more) :=
        stops_postfixStep.repeatWhile _
      intro line after more
      rw [signed]
      refine (bind_eq (peek_cons _ _) _).trans ((bind_eq (hprimary line after more) _).trans
        ((bind_eq (hpostfixes after more) _).trans ?_))
      cases refines with
      | false => rfl
      | true => exact stops_refineStep.repeatWhile _ after more

theorem reads_unary (h : StandsAlone name) : Reads name (unary inner) :=
  fun line after more => reads_signed h _ true line after more

theorem reads_powers (h : StandsAlone name) : Reads name (powers inner) :=
  (reads_unary h).repeated fun _ _ _ => rfl

theorem reads_products (h : StandsAlone name) : Reads name (products inner) :=
  (reads_powers h).repeated fun _ _ _ => rfl

theorem reads_concats (h : StandsAlone name) : Reads name (concats inner) :=
  (reads_products h).bind fun line more => bind_eq (stops_concatStep.repeatWhile _ line more) _

theorem reads_sums (h : StandsAlone name) : Reads name (sums inner) :=
  (reads_concats h).repeated fun _ _ _ => rfl

theorem reads_comparisons (h : StandsAlone name) : Reads name (comparisons inner) :=
  (reads_sums h).bind fun line more => bind_eq (stops_compareStep.repeatWhile _ line more) _

theorem reads_negations (h : StandsAlone name) (fuel : Nat) :
    Reads name (negations inner fuel) := by
  cases fuel with
  | zero => exact reads_comparisons h
  | succ fuel =>
      intro line after more
      have hword : decide (Token.name name = .name "not".toList) = false :=
        decide_eq_false fun heq => h.isOperand (Token.name.inj heq)
      have hahead : wordAhead "not" (⟨line, .name name⟩ :: ⟨after, .variableEnd⟩ :: more) =
          .ok (false, ⟨line, .name name⟩ :: ⟨after, .variableEnd⟩ :: more) := by
        rw [← hword]
        rfl
      have hskip : skipWord "not" (⟨line, .name name⟩ :: ⟨after, .variableEnd⟩ :: more) =
          .ok (false, ⟨line, .name name⟩ :: ⟨after, .variableEnd⟩ :: more) := bind_eq hahead _
      exact (bind_eq hskip _).trans (reads_comparisons h line after more)

theorem reads_negation (h : StandsAlone name) : Reads name (negation inner) :=
  fun line after more => reads_negations h _ line after more

theorem reads_conjunctions (h : StandsAlone name) : Reads name (conjunctions inner) :=
  (reads_negation h).repeated fun _ _ _ => rfl

theorem reads_disjunctions (h : StandsAlone name) : Reads name (disjunctions inner) :=
  (reads_conjunctions h).repeated fun _ _ _ => rfl

theorem reads_choices (h : StandsAlone name) (fuel : Nat) : Reads name (choices inner fuel) := by
  cases fuel with
  | zero => exact reads_disjunctions h
  | succ fuel =>
      intro line after more
      rw [choices]
      refine (bind_eq (current_cons _ _) _).trans
        ((bind_eq (reads_disjunctions h line after more) _).trans
          (bind_eq (Stops.repeatWhile ?_ _ after more) _))
      exact fun _ _ _ => rfl

theorem reads_expression (h : StandsAlone name) (depth : Nat) :
    Reads name (expression (depth + 1)) :=
  fun line after more => reads_choices h _ line after more

theorem reads_tupleExpr {element : Reader Term} (h : Reads name element) :
    Reads name (tupleExpr element [] false) := by
  intro line after more
  have hstep : listStep element [] ⟨[], false, true⟩
      (⟨line, .name name⟩ :: ⟨after, .variableEnd⟩ :: more) =
        .ok (some ⟨[.name name], false, false⟩, ⟨after, .variableEnd⟩ :: more) :=
    (bind_eq (peek_cons _ _) _).trans (bind_eq (h line after more) _)
  have hrow : repeatWhile (listStep element []) ⟨[], false, true⟩
      (⟨line, .name name⟩ :: ⟨after, .variableEnd⟩ :: more) =
        .ok (⟨[.name name], false, false⟩, ⟨after, .variableEnd⟩ :: more) :=
    (repeatUpTo_next hstep _).trans (repeatUpTo_stop rfl _)
  have htupled : tupled element [] false (⟨line, .name name⟩ :: ⟨after, .variableEnd⟩ :: more) =
      .ok (.single (.name name), ⟨after, .variableEnd⟩ :: more) := bind_eq hrow _
  exact bind_eq htupled _

end Grammar

/-! ## Statements -/

/-- The statement that a part is. -/
def Part.statement : Part → Stmt
  | .text content => .data content
  | .value name => .output (.name name)

namespace IsCut

variable {row : List Part} {tokens : Tokens}

/-- There is no fault among the tokens. -/
theorem advance (h : IsCut row tokens) (t : Located) :
    Reader.advance (t :: tokens) = .ok tokens := by
  cases h <;> rfl

theorem length_le (h : IsCut row tokens) : row.length ≤ tokens.length := by
  induction h with
  | nil => exact Nat.zero_le _
  | text line _ ih => exact Nat.succ_le_succ ih
  | value first second third _ ih =>
      simp only [List.length_cons]
      omega

end IsCut

namespace Statement

open Grammar

variable {depth : Nat} {body : BodyReader} {around : Enclosing} {ends : List String}
  {row : List Part} {tokens : Tokens}

theorem statementStep_text (hrest : IsCut row tokens) (line : Nat) (content : Text)
    (statements : List Stmt) :
    statementStep depth body around ends ⟨statements, true⟩ (⟨line, .data content⟩ :: tokens) =
      .ok (some ⟨.data content :: statements, true⟩, tokens) := by
  have hnext := next_cons (hrest.advance ⟨line, .data content⟩)
  exact (bind_eq (peek_cons _ _) _).trans (bind_eq hnext _)

theorem statementStep_value (h : StandsAlone name) (hrest : IsCut row tokens)
    (first second third : Nat) (statements : List Stmt) :
    statementStep (depth + 1) body around ends ⟨statements, true⟩
        (⟨first, .variableBegin⟩ :: ⟨second, .name name⟩ :: ⟨third, .variableEnd⟩ :: tokens) =
      .ok (some ⟨.output (.name name) :: statements, true⟩, tokens) := by
  have hname := reads_tupleExpr (reads_expression h depth) second third tokens
  have hnext := next_cons (hrest.advance ⟨third, .variableEnd⟩)
  have hend : expect .variableEnd (⟨third, .variableEnd⟩ :: tokens) = .ok ((), tokens) :=
    (bind_eq (peek_cons _ _) _).trans (bind_eq hnext _)
  exact (bind_eq (peek_cons _ _) _).trans ((bind_eq (next_cons rfl) _).trans
    ((bind_eq hname _).trans (bind_eq hend _)))

/-- The statements of a row are read one after the other, up to the end of the template. -/
theorem repeatUpTo_statements (hcut : IsCut row tokens)
    (hnames : ∀ name ∈ placeholders row, StandsAlone name) {fuel : Nat}
    (hfuel : row.length ≤ fuel) (statements : List Stmt) :
    ∃ rest, repeatUpTo (statementStep (depth + 1) body around ends) fuel ⟨statements, true⟩ tokens =
      .ok (⟨(row.map Part.statement).reverse ++ statements, true⟩, rest) := by
  induction hcut generalizing fuel statements with
  | nil line =>
      refine ⟨[⟨line, .eof⟩], ?_⟩
      cases fuel with
      | zero => rfl
      | succ fuel => exact repeatUpTo_stop rfl fuel
  | @text content rest tokens line hrest ih =>
      obtain ⟨fuel, rfl⟩ := Nat.exists_eq_add_of_lt hfuel
      obtain ⟨last, hread⟩ := ih hnames (Nat.le_add_right _ _) (.data content :: statements)
      refine ⟨last, (repeatUpTo_next (statementStep_text hrest line content _) _).trans ?_⟩
      rw [hread, List.map_cons, List.reverse_cons, List.append_assoc]
      rfl
  | @value name rest tokens first second third hrest ih =>
      rw [placeholders_value, List.forall_mem_cons] at hnames
      obtain ⟨fuel, rfl⟩ := Nat.exists_eq_add_of_lt hfuel
      obtain ⟨last, hread⟩ := ih hnames.2 (Nat.le_add_right _ _)
        (.output (.name name) :: statements)
      refine ⟨last, (repeatUpTo_next (statementStep_value hnames.1 hrest first second third _)
        _).trans ?_⟩
      rw [hread, List.map_cons, List.reverse_cons, List.append_assoc]
      rfl

theorem statements_of_isCut (hcut : IsCut row tokens)
    (hnames : ∀ name ∈ placeholders row, StandsAlone name) :
    ∃ rest, statements (depth + 1) body around ends tokens =
      .ok (row.map Part.statement, rest) := by
  obtain ⟨rest, hread⟩ := repeatUpTo_statements hcut hnames hcut.length_le []
  have hwhile : repeatWhile (statementStep (depth + 1) body around ends) ⟨[], true⟩ tokens = _ :=
    hread
  refine ⟨rest, (bind_eq hwhile _).trans ?_⟩
  rw [List.append_nil, List.reverse_reverse]
  rfl

end Statement

/-- A row of parts is read as a list of statements, one for each part. -/
theorem parse_of_isCut {text : Text} {row : List Part} (hcut : IsCut row (tokenize text))
    (hnames : ∀ name ∈ placeholders row, StandsAlone name) :
    parse text = .ok (row.map Part.statement) := by
  have hparse : parse text =
      (Statement.template ((tokenize text).length + 1) (tokenize text)).map Prod.fst := by
    unfold parse
    generalize tokenize text = tokens at hcut
    cases hcut <;> rfl
  obtain ⟨rest, htemplate⟩ := Statement.statements_of_isCut hcut hnames
  rw [hparse, Statement.template, htemplate]
  rfl

/-! ## Surveys -/

namespace Survey

/-- The survey of a template that has looked at the names and has assigned none. -/
def asking (names : List Text) : Survey := ⟨names.map fun name => (name, .asked name), []⟩

theorem lookup_asking (names : List Text) (name : Text) :
    (asking names).starts.lookup name = if name ∈ names then some (.asked name) else none := by
  induction names with
  | nil => rfl
  | cons first rest ih =>
      have hrest : (asking (first :: rest)).starts =
          (first, .asked first) :: (asking rest).starts := rfl
      rw [hrest, List.lookup_cons, ih]
      by_cases heq : name = first
      · subst heq
        simp
      · rw [beq_eq_false_iff_ne.mpr heq]
        simp [heq]

theorem load_asking (names : List Text) (name : Text) :
    (asking names).load [] name = asking (if name ∈ names then names else names ++ [name]) := by
  have hlookup := lookup_asking names name
  unfold load knows
  by_cases hknown : name ∈ names
  · rw [if_pos hknown] at hlookup ⊢
    rw [hlookup]
    rfl
  · rw [if_neg hknown] at hlookup ⊢
    rw [hlookup]
    show note (asking names) name (.asked name) = _
    rw [note, setEntry_of_lookup_eq_none hlookup]
    simp [asking]

theorem exists_visitBody (names : List Text) (row : List Part) :
    ∃ asked, (asking names).visitBody [] (row.map Part.statement) = asking asked ∧
      ∀ name, name ∈ asked ↔ name ∈ names ∨ name ∈ placeholders row := by
  induction row generalizing names with
  | nil => exact ⟨names, by simp [visitBody], by simp⟩
  | cons part rest ih =>
      rw [List.map_cons, visitBody]
      cases part with
      | text content =>
          obtain ⟨asked, hvisit, hasked⟩ := ih names
          exact ⟨asked, by rw [Part.statement, visitStmt, hvisit], by simpa using hasked⟩
      | value name =>
          rw [Part.statement, visitStmt, visit, load_asking]
          obtain ⟨asked, hvisit, hasked⟩ := ih (if name ∈ names then names else names ++ [name])
          refine ⟨asked, hvisit, fun other => (hasked other).trans ?_⟩
          rw [placeholders_value, List.mem_cons]
          grind

theorem entrance_asking {names : List Text} (hnames : ∀ name ∈ names, Text.IsAscii name) :
    (asking names).entrance 0 = names.map fun name => (⟨0, name⟩, .asked name) := by
  have hvariables : (names.map fun name => (name, Start.asked name)).map
      (fun entry => ((⟨0, Text.compatible entry.1⟩, entry.2) : Variable × Start)) =
        names.map fun name => (⟨0, name⟩, .asked name) := by
    rw [List.map_map]
    refine List.map_congr_left fun name hname => ?_
    rw [Function.comp_apply, Text.compatible_of_isAscii (hnames name hname)]
  unfold entrance asking
  dsimp only
  rw [List.filter_eq_self.mpr, List.filter_eq_nil_iff.mpr, hvariables, List.map_nil,
    List.append_nil]
  · simp
  · simp

end Survey

/-! ## Plans -/

/-- The piece of a plan that a part is. -/
def Part.piece : Part → Piece
  | .text content => .word (.data content)
  | .value name => .word (.value (.asked name))

namespace Planning

variable {α β : Type} {indent : Nat}

/-- In a block of the given depth the part is made as stated, and without a flaw. -/
def Yields (indent : Nat) (a : α) (part : Planner α) : Prop :=
  ∀ draft, IsSound indent draft → ∃ next, IsSound indent next ∧ part draft = .ok (a, next)

namespace Yields

theorem pure (a : α) : Yields indent a (pure a : Planner α) :=
  fun draft hdraft => ⟨draft, hdraft, rfl⟩

theorem bind {part : Planner α} {next : α → Planner β} {a : α} {b : β} (h : Yields indent a part)
    (hnext : Yields indent b (next a)) : Yields indent b (part >>= next) := by
  intro draft hdraft
  obtain ⟨middle, hmiddle, hpart⟩ := h draft hdraft
  obtain ⟨last, hlast, hrest⟩ := hnext middle hmiddle
  refine ⟨last, hlast, ?_⟩
  show (part draft >>= _) = _
  rw [hpart]
  exact hrest

theorem newLine (hindent : indent ≤ maxIndent) : Yields indent () newLine := by
  intro draft hdraft
  have hshallow : ¬ maxIndent < draft.indent := by
    rw [hdraft.indent]
    exact Nat.not_lt.mpr hindent
  refine ⟨{ draft with line := draft.line + 1 },
    ⟨hdraft.indent, hdraft.unreadable, hdraft.unfit⟩, ?_⟩
  show ((if maxIndent < draft.indent then note .indentation else Pure.pure ()) _) = _
  rw [if_neg hshallow]
  rfl

theorem newLines (hindent : indent ≤ maxIndent) (n : Nat) : Yields indent () (newLines n) := by
  induction n with
  | zero => exact .pure ()
  | succ n ih => exact (newLine hindent).bind ih

theorem optional {p : Prop} [Decidable p] {part : Planner Unit} (h : Yields indent () part) :
    Yields indent () (if p then part else Pure.pure ()) := by
  split
  · exact h
  · exact .pure ()

/-- A part begins with what is known. -/
theorem get_bind {next : Draft → Planner α} {a : α} (h : ∀ draft, IsSound indent draft →
    ∃ after, IsSound indent after ∧ next draft draft = .ok (a, after)) :
    Yields indent a (get >>= next) := h

theorem compute {computation : Run α} {a : α}
    (h : ∀ around memory, computation around memory = .ok (a, memory)) :
    Yields indent a (compute computation) := by
  refine get_bind fun draft hdraft => ⟨draft, hdraft, ?_⟩
  rw [h]
  rfl

end Yields

variable {site : Site} {names : List Text}

theorem beginWriting_yields (hindent : indent ≤ maxIndent) (hsite : site.isBuffered = false)
    (last : Writing) (isConstant : Bool) :
    Yields indent () (beginWriting site last isConstant) := by
  unfold beginWriting
  rw [hsite, Bool.and_false, if_neg Bool.false_ne_true]
  exact .optional (.newLine hindent)

theorem endWriting_yields (hsite : site.isBuffered = false) (last : Writing) :
    Yields indent () (endWriting site last) := by
  unfold endWriting
  rw [hsite, Bool.and_false, if_neg Bool.false_ne_true]
  exact .pure ()

theorem formula_yields (hscopes : site.scopes = [.asking names]) (hname : name ∈ names)
    (hascii : Text.IsAscii name) :
    Yields indent (.name (.asked name)) (formula site (.name name)) := by
  have hfind : site.scopes.find? name = some (⟨0, name⟩, .asked name) := by
    rw [hscopes, Scopes.find?, Survey.lookup_asking, if_pos hname,
      Text.compatible_of_isAscii hascii]
    rfl
  have hsimplify : Yields indent (Expr.name name) (compute (Constant.simplify (.name name))) :=
    .compute fun around memory => by rw [Constant.simplify]; rfl
  have hwrite : Yields indent (.name (.asked name)) (write site (.name name)) := by
    rw [write, hfind]
    exact .pure _
  have hunchecked : Yields indent (.name (.asked name)) (unchecked site (.name name)) := by
    rw [unchecked]
    · exact hsimplify.bind hwrite
    all_goals simp
  refine hunchecked.bind ?_
  rw [Listing.flaws]
  exact Yields.bind (.pure ()) (.pure _)

theorem step_yields (hindent : indent ≤ maxIndent) (hsite : site.isBuffered = false)
    (hscopes : site.scopes = [.asking names]) {part : Part}
    (hpart : ∀ name, part = .value name → name ∈ names ∧ Text.IsAscii name) (last : Writing) :
    ∃ behind, Yields indent (part.piece.step, behind) (step site last part.statement) := by
  cases part with
  | text content =>
      rw [Part.statement, step]
      exact ⟨.constant, (beginWriting_yields hindent hsite last true).bind (.pure _)⟩
  | value name =>
      obtain ⟨hname, hascii⟩ := hpart name rfl
      -- a name has no constant value, so that nothing is computed in advance
      have htext : Yields indent none (compute (Constant.text? (.name name))) :=
        .compute fun around memory => by
          unfold Constant.text?
          rw [Constant.value]
          rfl
      rw [Part.statement, step]
      exact ⟨.computed, htext.bind ((beginWriting_yields hindent hsite last false).bind
        ((formula_yields hscopes hname hascii).bind (.pure _)))⟩

theorem steps_yields (hindent : indent ≤ maxIndent) (hsite : site.isBuffered = false)
    (hscopes : site.scopes = [.asking names]) {row : List Part}
    (hrow : ∀ name ∈ placeholders row, name ∈ names ∧ Text.IsAscii name) (last : Writing) :
    Yields indent ((row.map Part.piece).map Piece.step)
      (steps site last (row.map Part.statement)) := by
  induction row generalizing last with
  | nil =>
      show Yields indent [] (steps site last [])
      rw [steps]
      exact (endWriting_yields hsite last).bind (.pure _)
  | cons part rest ih =>
      have hpart : ∀ name, part = .value name → name ∈ names ∧ Text.IsAscii name := by
        rintro name rfl
        exact hrow name List.mem_cons_self
      have hrest : ∀ name ∈ placeholders rest, name ∈ names ∧ Text.IsAscii name := by
        intro name hname
        refine hrow name ?_
        cases part with
        | text content => exact hname
        | value other => exact List.mem_cons_of_mem _ hname
      obtain ⟨behind, hstep⟩ := step_yields hindent hsite hscopes hpart last
      simp only [List.map_cons]
      rw [steps]
      exact hstep.bind ((ih hrest behind).bind (.pure _))

theorem enter_yields (hindent : indent ≤ maxIndent)
    (hnames : ∀ name ∈ names, Text.IsAscii name) :
    Yields indent (names.map fun name => (⟨0, name⟩, .asked name)) (enter (.asking names) 0) := by
  unfold enter
  rw [Survey.entrance_asking hnames]
  exact (Yields.newLines hindent _).bind (.pure _)

/-- Names are looked at, and that is all that occurs in a row of parts. -/
theorem mem_inBody {row : List Part} {occurrence : Occurrence}
    (h : occurrence ∈ Occurrence.inBody (row.map Part.statement)) :
    ∃ name ∈ placeholders row, occurrence = .looked name := by
  induction row with
  | nil => exact absurd h List.not_mem_nil
  | cons part rest ih =>
      rw [List.map_cons, Occurrence.inBody, List.mem_append] at h
      cases part with
      | text content =>
          rw [Part.statement, Occurrence.inStmt] at h
          exact ih (h.resolve_left List.not_mem_nil)
      | value name =>
          rw [Part.statement, Occurrence.inStmt, Occurrence.inTerm, List.mem_singleton] at h
          obtain rfl | hrest := h
          · exact ⟨name, List.mem_cons_self, rfl⟩
          · obtain ⟨other, hother, heq⟩ := ih hrest
            exact ⟨other, List.mem_cons_of_mem _ hother, heq⟩

theorem whole_yields {row : List Part}
    (hrow : ∀ name ∈ placeholders row, Text.IsAscii name ∧ name ≠ selfName) :
    ∃ names, (∀ name, name ∈ names ↔ name ∈ placeholders row) ∧
      Yields 1 (.plain names (row.map Part.piece)) (whole (row.map Part.statement)) := by
  have hitself : Occurrence.looksFirst selfName (Occurrence.inBody (row.map Part.statement)) =
      false := by
    refine decide_eq_false fun hfound => ?_
    obtain ⟨name, hname, heq⟩ := mem_inBody (List.mem_of_find?_eq_some hfound)
    exact (hrow name hname).2 (Occurrence.looked.inj heq).symm
  have hhelpers : Occurrence.helpers (Occurrence.inBody (row.map Part.statement)) = [] := by
    unfold Occurrence.helpers
    rw [List.filterMap_eq_nil_iff.mpr, List.filterMap_eq_nil_iff.mpr]
    · rfl
    all_goals
      intro occurrence hoccurrence
      obtain ⟨name, -, rfl⟩ := mem_inBody hoccurrence
      rfl
  obtain ⟨names, hsurvey, hasked⟩ := Survey.exists_visitBody [] row
  have hnames : ∀ name, name ∈ names ↔ name ∈ placeholders row := by simpa using hasked
  have hascii : ∀ name ∈ names, Text.IsAscii name :=
    fun name hname => (hrow name ((hnames name).mp hname)).1
  have hsteps : Yields 1 ((row.map Part.piece).map Piece.step) (startBody
      (steps ⟨[.asking names], true, false, false, false, 0⟩ .nothing (row.map Part.statement))) :=
    (Yields.newLine (by decide)).bind (steps_yields (by decide) rfl rfl
      (fun name hname => ⟨(hnames name).mpr hname, (hrow name hname).1⟩) .nothing)
  have hstart : Survey.supplying [] = .asking [] := rfl
  refine ⟨names, hnames, ?_⟩
  unfold whole
  dsimp only
  rw [hitself, hhelpers, if_neg Bool.false_ne_true, if_neg Bool.false_ne_true, hstart, hsurvey]
  exact (enter_yields (by decide) hascii).bind ((Yields.newLines (by decide) 0).bind
    (hsteps.bind (.pure _)))

end Planning

/-- The plan of a row of parts asks for the names in it, and has a piece for each part. -/
theorem Plan.of_row {row : List Part}
    (hrow : ∀ name ∈ placeholders row, Text.IsAscii name ∧ name ≠ Planning.selfName) :
    ∃ names, (∀ name, name ∈ names ↔ name ∈ placeholders row) ∧
      Plan.of (row.map Part.statement) = .ok (.plain names (row.map Part.piece)) := by
  obtain ⟨names, hnames, hwhole⟩ := Planning.whole_yields hrow
  obtain ⟨draft, hsound, hmade⟩ :=
    hwhole ⟨Memory.empty, Planning.firstLines, 1, none, none⟩ ⟨rfl, rfl, rfl⟩
  refine ⟨names, hnames, ?_⟩
  unfold Plan.of
  rw [hmade, ok_bind]
  dsimp only
  rw [hsound.unreadable, hsound.unfit]
  rfl

/-- The template that a row of parts is has a piece for each part of a row that differs from it
in line feeds at the end only. -/
theorem compile_written {parts : List Part} (hparts : ∀ part ∈ parts, part.IsProper) :
    ∃ (names : List Text) (row : List Part),
      compile (written parts) = .ok ⟨.plain names (row.map Part.piece)⟩ ∧
      (∀ name, name ∈ names ↔ name ∈ placeholders row) ∧
      placeholders row = placeholders parts ∧
      ∀ textOf : Text → Text, ∃ n, parts.flatMap (Part.fill textOf) =
        row.flatMap (Part.fill textOf) ++ List.replicate n '\n' := by
  obtain ⟨row, hcut, hsame, hfill⟩ := exists_isCut hparts
  have hproper : ∀ name ∈ placeholders row, Text.IsAscii name ∧ name ∉ reservedNames :=
    fun name hname => (isProper_of_mem_placeholders hparts (hsame ▸ hname)).2
  have hself : Planning.selfName ∈ reservedNames := List.mem_cons_of_mem _ List.mem_cons_self
  obtain ⟨names, hnames, hplan⟩ := Plan.of_row fun name hname =>
    ⟨(hproper name hname).1, fun heq => (hproper name hname).2 (heq ▸ hself)⟩
  refine ⟨names, row, ?_, hnames, hsame, hfill⟩
  unfold compile
  rw [parse_of_isCut hcut fun name hname => standsAlone_of_notMem (hproper name hname).2, ok_bind,
    hplan]
  rfl

end Template
end LintScaffold
