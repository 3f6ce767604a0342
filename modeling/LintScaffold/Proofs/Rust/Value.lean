import LintScaffold.Literal.Json
import LintScaffold.Proofs.Attempt
import LintScaffold.Proofs.Datum.Ordered
import LintScaffold.Proofs.Number.Shortest
import LintScaffold.Proofs.Rust.Literal
import LintScaffold.Proofs.Rust.Reader

/-!
# JSON literals are read back

The literal of a datum is looked at in two steps.  As a text it has the lexemes
`Datum.lexemes` of the datum with its tables in order: words for the scalars, literals for the
texts, and marks around and between items and entries.  And from its lexemes a datum is read
again by a reader that knows nothing of the writing but the syntax of JSON.

Both steps go along the datum.  The reader is bounded in its depth, which the number of lexemes
is enough for.
-/

namespace LintScaffold

open Rust

/-! ## Lexemes of data -/

namespace Datum

mutual
/-- The lexemes of the literal of a datum. -/
def lexemes : Datum → List Lexeme
  | .null => [.word "null".toList]
  | .bool b => [.word (if b then "true".toList else "false".toList)]
  | .int n => [.word (Text.ofInt n)]
  | .float x => [.word x.text]
  | .text t => [.literal t]
  | .list items => .mark '[' :: separated ']' (itemLexemes items)
  | .table entries => .mark '\x7b' :: separated '\x7d' (entryLexemes entries)
  | _ => []

/-- The lexemes of each item. -/
def itemLexemes : List Datum → List (List Lexeme)
  | [] => []
  | item :: rest => item.lexemes :: itemLexemes rest

/-- The lexemes of each entry: its key, a colon and its value. -/
def entryLexemes : List (Key × Datum) → List (List Lexeme)
  | [] => []
  | (key, item) :: rest =>
      (.literal key.display :: .mark ':' :: item.lexemes) :: entryLexemes rest
end

theorem itemLexemes_eq (items : List Datum) : itemLexemes items = items.map lexemes := by
  induction items with
  | nil => rfl
  | cons item rest ih => rw [itemLexemes, ih, List.map_cons]

/-- The lexemes of an entry whose key is a text. -/
def pairLexemes (entry : Text × Datum) : List Lexeme :=
  .literal entry.1 :: .mark ':' :: entry.2.lexemes

theorem entryLexemes_eq (entries : List (Text × Datum)) :
    entryLexemes (entries.map fun entry => (.text entry.1, entry.2)) =
      entries.map pairLexemes := by
  induction entries with
  | nil => rfl
  | cons entry rest ih => rw [List.map_cons, entryLexemes, ih, List.map_cons]; rfl

end Datum

/-! ## Reading -/

namespace Rust

/-- Reads the key and the value of an entry. -/
def readEntry (reader : Reader Datum) : Reader (Text × Datum)
  | .literal key :: .mark ':' :: rest => (reader rest).map fun (d, rest) => ((key, d), rest)
  | _ => none

/-- Reads a word as a scalar of JSON. -/
def readWord (word : Text) : Option Datum :=
  match Json.readScalar false word with
  | .ok (d, []) => some d
  | _ => none

/-- Reads a value of JSON. -/
def readValue : (depth : Nat) → Reader Datum
  | 0, _ => none
  | depth + 1, lexemes =>
      match lexemes with
      | .literal t :: rest => some (.text t, rest)
      | .word word :: rest => (readWord word).map fun d => (d, rest)
      | .mark '[' :: rest =>
          (readSeparated (readValue depth) ']' (rest.length + 1) rest).map
            fun (items, rest) => (.list items, rest)
      | .mark '\x7b' :: rest =>
          (readSeparated (readEntry (readValue depth)) '\x7d' (rest.length + 1) rest).map
            fun (entries, rest) => (.ofTable entries, rest)
      | _ => none

theorem refuses_readValue (depth : Nat) : Refuses (readValue depth) ']' := by
  intro rest
  cases depth with
  | zero => rfl
  | succ depth => rfl

theorem refuses_readEntry (reader : Reader Datum) : Refuses (readEntry reader) '\x7d' :=
  fun _ => rfl

theorem reads_entry {reader : Reader Datum} {lexemes : List Lexeme} {d : Datum}
    (h : Reads reader lexemes d) (key : Text) :
    Reads (readEntry reader) (.literal key :: .mark ':' :: lexemes) (key, d) := by
  intro rest
  rw [List.cons_append, List.cons_append, readEntry, h]
  rfl

end Rust

/-! ## Words -/

theorem Json.readWord_text {numeral : Json.Numeral} {d : Datum} (h : numeral.IsProper)
    (hvalue : numeral.value = .ok d) : readWord numeral.text = some d := by
  rw [readWord, readScalar_text h, hvalue]
  rfl

theorem Json.lexes_text {numeral : Json.Numeral} (h : numeral.IsProper) :
    Lexes numeral.text [.word numeral.text] := by
  obtain ⟨c, rest, -, htext⟩ := text_eq_cons h
  refine lexes_word ?_ (List.all_eq_true.mpr (isWordChar_text h))
  rw [htext]
  simp

/-! ## From lexemes to data -/

theorem reads_word {word : Text} {d : Datum} (h : readWord word = some d) (depth : Nat) :
    Reads (readValue (depth + 1)) [.word word] d := by
  intro rest
  rw [List.singleton_append, readValue, h]
  rfl

theorem reads_list {depth : Nat} {items : List Datum}
    (h : ∀ item ∈ items, Reads (readValue depth) item.lexemes item) :
    Reads (readValue (depth + 1)) (Datum.list items).lexemes (.list items) := by
  have hall : List.Forall₂ (Reads (readValue depth)) (items.map Datum.lexemes) items := by
    rwa [List.forall₂_map_left_iff, List.forall₂_same]
  intro rest
  rw [Datum.lexemes, Datum.itemLexemes_eq, List.cons_append, readValue,
    readSeparated_separated (by decide) (refuses_readValue depth) hall]
  rfl

theorem reads_table {depth : Nat} {entries : List (Text × Datum)}
    (h : ∀ entry ∈ entries, Reads (readValue depth) entry.2.lexemes entry.2) :
    Reads (readValue (depth + 1)) (Datum.ofTable entries).lexemes (.ofTable entries) := by
  have hall : List.Forall₂ (Reads (readEntry (readValue depth)))
      (entries.map Datum.pairLexemes) entries := by
    rw [List.forall₂_map_left_iff, List.forall₂_same]
    exact fun entry hentry => reads_entry (h entry hentry) entry.1
  intro rest
  rw [Datum.ofTable, Datum.lexemes, Datum.entryLexemes_eq, List.cons_append, readValue,
    readSeparated_separated (by decide) (refuses_readEntry _) hall]
  rfl

/-- Data of JSON are read from their lexemes. -/
theorem Datum.IsJson.reads {d : Datum} (h : d.IsJson) {depth : Nat}
    (hdepth : d.lexemes.length ≤ depth) : Reads (readValue depth) d.lexemes d := by
  have hpos : ∀ d : Datum, d.IsJson → 0 < d.lexemes.length := by
    intro d hd
    cases hd <;> simp [lexemes, ofTable]
  obtain ⟨depth, rfl⟩ : ∃ less, depth = less + 1 := ⟨depth - 1, by have := hpos d h; omega⟩
  induction h generalizing depth with
  | null => exact reads_word rfl depth
  | bool b =>
      cases b with
      | false => exact reads_word rfl depth
      | true => exact reads_word rfl depth
  | int hlong =>
      rw [lexemes, ← Json.text_ofInt]
      exact reads_word (Json.readWord_text (Json.isProper_ofInt _) (Json.value_ofInt hlong)) depth
  | float negative hrank =>
      obtain ⟨numeral, hproper, htext, hvalue⟩ := Binary64.exists_numeral negative hrank
      rw [lexemes, ← htext]
      exact reads_word (Json.readWord_text hproper hvalue) depth
  | text t => exact fun rest => rfl
  | @list items hitems ih =>
      -- an item has fewer lexemes than the list, so that one level less is enough for it
      refine reads_list fun item hitem => ?_
      rw [lexemes, itemLexemes_eq, List.length_cons] at hdepth
      have hshort : item.lexemes.length ≤ (separated ']' (items.map lexemes)).length :=
        length_le_separated_of_mem ']' (List.mem_map_of_mem hitem)
      have hless := hpos item (hitems item hitem)
      obtain ⟨less, rfl⟩ : ∃ less, depth = less + 1 := ⟨depth - 1, by omega⟩
      exact ih item hitem less (by omega)
  | @table entries hkeys hitems ih =>
      refine reads_table fun entry hentry => ?_
      rw [ofTable, lexemes, entryLexemes_eq, List.length_cons] at hdepth
      have hshort : (pairLexemes entry).length ≤
          (separated '\x7d' (entries.map pairLexemes)).length :=
        length_le_separated_of_mem '\x7d' (List.mem_map_of_mem hentry)
      simp only [pairLexemes, List.length_cons] at hshort
      obtain ⟨less, rfl⟩ : ∃ less, depth = less + 1 := ⟨depth - 1, by omega⟩
      exact ih entry hentry less (by omega)

/-! ## From data to texts -/

/-- If every item has a result, which is as it should be, then they all have. -/
theorem exists_mapM {α β γ ε : Type} {f : α → Except ε β} {R : β → γ → Prop} {g : α → γ}
    {items : List α} (h : ∀ item ∈ items, ∃ y, f item = .ok y ∧ R y (g item)) :
    ∃ ys, items.mapM f = .ok ys ∧ List.Forall₂ R ys (items.map g) := by
  induction items with
  | nil => exact ⟨[], rfl, .nil⟩
  | cons item rest ih =>
      obtain ⟨y, hy, hfirst⟩ := h item (by simp)
      obtain ⟨ys, hys, hrest⟩ := ih fun other hother => h other (by simp [hother])
      refine ⟨y :: ys, ?_, .cons hfirst hrest⟩
      rw [List.mapM_cons, hy, hys]
      rfl

namespace JsonLiteral

theorem writeAll_eq (items : List Datum) : writeAll items = items.mapM write := by
  induction items with
  | nil => rfl
  | cons item rest ih =>
      rw [writeAll, List.mapM_cons, ih]

theorem entriesOf_text (entries : List (Text × Datum)) :
    entriesOf (entries.map fun entry => (.text entry.1, entry.2)) =
      .ok (entries.map fun entry => (entry, write entry.2)) := by
  induction entries with
  | nil => rfl
  | cons entry rest ih =>
      rw [List.map_cons, entriesOf, ih]
      rfl

theorem lexes_writeEntry {entry : Text × Datum} {text : Text} (hwrite : write entry.2 = .ok text)
    (htext : Lexes text entry.2.ordered.lexemes) :
    ∃ line, writeEntry (entry, write entry.2) = .ok line ∧
      Lexes line (Datum.pairLexemes (entry.1, entry.2.ordered)) := by
  have hcolon : Closed ": ".toList [.mark ':'] := rfl
  refine ⟨EscapedString.write entry.1 ++ ": ".toList ++ text, ?_, ?_⟩
  · rw [writeEntry, hwrite]
    rfl
  · exact htext.prepend ((EscapedString.closed_write entry.1).append hcolon)

end JsonLiteral

open JsonLiteral in
/-- Data of JSON have literals, with the lexemes of the data in order. -/
theorem Datum.IsJson.lexes {d : Datum} (h : d.IsJson) :
    ∃ text, write d = .ok text ∧ Lexes text d.ordered.lexemes := by
  induction h with
  | null => exact ⟨_, rfl, lexes_word (by decide) (by decide)⟩
  | bool b =>
      cases b with
      | false => exact ⟨_, rfl, lexes_word (by decide) (by decide)⟩
      | true => exact ⟨_, rfl, lexes_word (by decide) (by decide)⟩
  | @int n hlong =>
      refine ⟨Text.ofInt n, by rw [write, hlong]; rfl, ?_⟩
      show Lexes (Text.ofInt n) [.word (Text.ofInt n)]
      rw [← Json.text_ofInt]
      exact Json.lexes_text (Json.isProper_ofInt n)
  | @float negative rank hrank =>
      obtain ⟨numeral, hproper, htext, -⟩ := Binary64.exists_numeral negative hrank
      refine ⟨(Binary64.finite negative rank).text, rfl, ?_⟩
      show Lexes _ [.word (Binary64.finite negative rank).text]
      rw [← htext]
      exact Json.lexes_text hproper
  | text t => exact ⟨_, rfl, (EscapedString.closed_write t).lexes⟩
  | @list items hitems ih =>
      obtain ⟨texts, htexts, hlexes⟩ := exists_mapM ih
      have hopen : Closed ['['] [.mark '['] := rfl
      have hclosed := hopen.append (closed_separated ']' (by decide) (by decide) hlexes)
      refine ⟨['['] ++ (Text.join ", ".toList texts ++ [']']), ?_, ?_⟩
      · rw [write, writeAll_eq, htexts]
        rfl
      · rw [Datum.ordered, lexemes, itemLexemes_eq, orderedItems_eq, List.map_map]
        exact hclosed.lexes
  | @table entries hkeys hitems ih =>
      -- the values are written before the entries are sorted, and each goes with its entry
      obtain ⟨sorted, hperm, hsort, hordered⟩ :=
        exists_sorted (fun entry => write entry.2) hkeys
      have hlines : ∀ entry ∈ sorted.map fun entry => (entry, write entry.2), ∃ line,
          writeEntry entry = .ok line ∧
            Lexes line (pairLexemes (entry.1.1, entry.1.2.ordered)) := by
        refine List.forall_mem_map.mpr fun entry hentry => ?_
        obtain ⟨text, hwrite, htext⟩ := ih entry (hperm.mem_iff.mp hentry)
        exact lexes_writeEntry hwrite htext
      obtain ⟨lines, hwritten, hlexes⟩ := exists_mapM hlines
      have hopen : Closed ['\x7b'] [.mark '\x7b'] := rfl
      have hclosed := hopen.append (closed_separated '\x7d' (by decide) (by decide) hlexes)
      refine ⟨['\x7b'] ++ (Text.join ", ".toList lines ++ ['\x7d']), ?_, ?_⟩
      · rw [ofTable, write, entriesOf_text]
        dsimp only [bind, Except.bind]
        rw [hsort]
        dsimp only [ok_mapError]
        rw [hwritten]
        rfl
      · rw [hordered, ofTable, lexemes, entryLexemes_eq, List.map_map]
        rw [List.map_map] at hclosed
        exact hclosed.lexes

end LintScaffold
