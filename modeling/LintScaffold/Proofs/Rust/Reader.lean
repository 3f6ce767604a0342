import LintScaffold.Proofs.Rust.Lexer
import Mathlib.Data.List.Forall2

/-!
# Readers of lexemes

A reader makes something of the lexemes at the start of a list, and leaves the others.  Lists
of things are read in two forms: with commas between the things, up to a closing mark, as in
JSON, and with a comma behind each of them, as in the vectors of the test.

That a reader `Reads` lexemes as a thing says that it does so whatever stands behind them.  So
it neither stops short nor reads on, and things that are read can be put in a row.
-/

namespace LintScaffold.Rust

variable {α : Type}

/-- What is made of the lexemes at the start of a list, and the lexemes behind them. -/
abbrev Reader (α : Type) := List Lexeme → Option (α × List Lexeme)

/-- The reader makes `x` of these lexemes, whatever stands behind them. -/
def Reads (reader : Reader α) (lexemes : List Lexeme) (x : α) : Prop :=
  ∀ rest, reader (lexemes ++ rest) = some (x, rest)

/-- The reader makes nothing of lexemes that begin with the mark. -/
def Refuses (reader : Reader α) (c : Char) : Prop :=
  ∀ rest, reader (.mark c :: rest) = none

/-- What a reader reads does not begin with a mark that it refuses. -/
theorem Reads.head?_ne {reader : Reader α} {close : Char} {lexemes : List Lexeme} {x : α}
    (h : Reads reader lexemes x) (hclose : Refuses reader close) (rest : List Lexeme) :
    (lexemes ++ rest).head? ≠ some (.mark close) := by
  cases lexemes with
  | nil =>
      have hread := h [.mark close]
      rw [List.nil_append, hclose] at hread
      simp at hread
  | cons first others =>
      rw [List.cons_append, List.head?_cons]
      intro hfirst
      obtain rfl := Option.some.inj hfirst
      have hread := h []
      rw [List.cons_append, hclose] at hread
      simp at hread

/-! ## Commas between things -/

/-- Reads things with commas between them up to a closing mark; `count` bounds their number. -/
def readSeparated (reader : Reader α) (close : Char) : (count : Nat) → Reader (List α)
  | 0, _ => none
  | count + 1, lexemes =>
      if lexemes.head? = some (.mark close) then some ([], lexemes.tail)
      else
        match reader lexemes with
        | some (x, .mark c :: rest) =>
            if c = close then some ([x], rest)
            else if c = ',' then
              (readSeparated reader close count rest).map fun (xs, rest) => (x :: xs, rest)
            else none
        | _ => none

/-- Pieces with commas between them and a closing mark. -/
def separated (close : Char) : List (List Lexeme) → List Lexeme
  | [] => [.mark close]
  | [piece] => piece ++ [.mark close]
  | piece :: rest => piece ++ .mark ',' :: separated close rest

theorem length_le_separated (close : Char) (pieces : List (List Lexeme)) :
    pieces.length ≤ (separated close pieces).length := by
  induction pieces with
  | nil => exact Nat.zero_le _
  | cons piece rest ih =>
      cases rest with
      | nil => simp [separated]
      | cons other later =>
          simp only [separated, List.length_append, List.length_cons] at ih ⊢
          omega

theorem length_le_separated_of_mem (close : Char) {pieces : List (List Lexeme)}
    {piece : List Lexeme} (hpiece : piece ∈ pieces) :
    piece.length ≤ (separated close pieces).length := by
  induction pieces with
  | nil => simp at hpiece
  | cons first rest ih =>
      cases rest with
      | nil =>
          obtain rfl : piece = first := by simpa using hpiece
          simp [separated]
      | cons other later =>
          rw [separated, List.length_append, List.length_cons]
          · rcases List.mem_cons.mp hpiece with rfl | hlater
            · omega
            · have hshort := ih hlater
              omega
          · simp

/-- Pieces with commas between them are read piece by piece. -/
theorem reads_separated {reader : Reader α} {close : Char} (hcomma : close ≠ ',')
    (hclose : Refuses reader close) {pieces : List (List Lexeme)} {xs : List α}
    (h : List.Forall₂ (Reads reader) pieces xs) {count : Nat} (hcount : pieces.length < count) :
    Reads (readSeparated reader close count) (separated close pieces) xs := by
  intro rest
  induction h generalizing count with
  | nil =>
      obtain ⟨more, rfl⟩ : ∃ more, count = more + 1 := ⟨count - 1, by omega⟩
      rw [separated, readSeparated, if_pos (by rfl)]
      rfl
  | cons hx hxs ih =>
      obtain ⟨more, rfl⟩ : ∃ more, count = more + 1 := ⟨count - 1, by omega⟩
      cases hxs with
      | nil =>
          rw [separated, List.append_assoc, readSeparated, if_neg (hx.head?_ne hclose _), hx]
          simp
      | cons hy hys =>
          have hrest := ih (by simpa using hcount)
          rw [separated, List.append_assoc, readSeparated, if_neg (hx.head?_ne hclose _), hx]
          · dsimp only [List.cons_append]
            rw [if_neg (Ne.symm hcomma), if_pos rfl, hrest]
            rfl
          · simp

/-- There are never more pieces than lexemes. -/
theorem readSeparated_separated {reader : Reader α} {close : Char} (hcomma : close ≠ ',')
    (hclose : Refuses reader close) {pieces : List (List Lexeme)} {xs : List α}
    (h : List.Forall₂ (Reads reader) pieces xs) (rest : List Lexeme) :
    readSeparated reader close ((separated close pieces ++ rest).length + 1)
      (separated close pieces ++ rest) = some (xs, rest) := by
  have hcount := length_le_separated close pieces
  refine reads_separated hcomma hclose h ?_ rest
  rw [List.length_append]
  omega

/-- Texts with commas between them and a closing mark have the lexemes of the texts, with
commas between them. -/
theorem closed_separated (close : Char) (hdelimiter : isDelimiter close = true)
    (hmark : isMark close = true) {texts : List Text} {pieces : List (List Lexeme)}
    (h : List.Forall₂ Lexes texts pieces) :
    Closed (Text.join ", ".toList texts ++ [close]) (separated close pieces) := by
  induction h with
  | nil => exact closed_mark hmark
  | cons hx hxs ih =>
      cases hxs with
      | nil => exact hx.close hdelimiter (closed_mark hmark)
      | cons hy hys =>
          have hcomma : Closed [',', ' '] [.mark ','] := rfl
          have hrest := hcomma.append ih
          rw [separated, Text.join, List.append_assoc, List.append_assoc]
          · exact hx.close (by decide) hrest
          · simp
          · simp

/-! ## Commas behind things -/

/-- Reads things with a comma behind each of them, up to a closing mark, which is left; `count`
bounds their number. -/
def readTerminated (reader : Reader α) (close : Char) : (count : Nat) → Reader (List α)
  | 0, _ => none
  | count + 1, lexemes =>
      if lexemes.head? = some (.mark close) then some ([], lexemes)
      else
        match reader lexemes with
        | some (x, .mark ',' :: rest) =>
            (readTerminated reader close count rest).map fun (xs, rest) => (x :: xs, rest)
        | _ => none

/-- Pieces with a comma behind each of them. -/
def terminated (pieces : List (List Lexeme)) : List Lexeme :=
  pieces.flatMap fun piece => piece ++ [.mark ',']

theorem length_le_terminated (pieces : List (List Lexeme)) :
    pieces.length ≤ (terminated pieces).length := by
  induction pieces with
  | nil => exact Nat.le_refl _
  | cons piece rest ih =>
      simp only [terminated, List.flatMap_cons, List.length_append, List.length_cons] at ih ⊢
      omega

/-- Pieces with commas behind them are read piece by piece, up to the closing mark. -/
theorem readTerminated_terminated {reader : Reader α} {close : Char}
    (hclose : Refuses reader close) {pieces : List (List Lexeme)} {xs : List α}
    (h : List.Forall₂ (Reads reader) pieces xs) {count : Nat} (hcount : pieces.length < count)
    (rest : List Lexeme) :
    readTerminated reader close count (terminated pieces ++ .mark close :: rest) =
      some (xs, .mark close :: rest) := by
  induction h generalizing count with
  | nil =>
      obtain ⟨more, rfl⟩ : ∃ more, count = more + 1 := ⟨count - 1, by omega⟩
      rw [readTerminated, if_pos (by rfl)]
      rfl
  | cons hx hxs ih =>
      obtain ⟨more, rfl⟩ : ∃ more, count = more + 1 := ⟨count - 1, by omega⟩
      have hrest := ih (by simpa using hcount)
      rw [terminated] at hrest ⊢
      rw [List.flatMap_cons, List.append_assoc, List.append_assoc, readTerminated,
        if_neg (hx.head?_ne hclose _), hx]
      simp [hrest]

end LintScaffold.Rust
