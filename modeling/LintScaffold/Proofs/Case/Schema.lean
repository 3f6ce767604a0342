import LintScaffold.Proofs.Case.Blame
import LintScaffold.Proofs.Case.Loaded
import LintScaffold.Proofs.Command.Inputs
import LintScaffold.Proofs.Datum.Alike
import LintScaffold.Proofs.Json.LineEnds
import Mathlib

/-!
# What a case file may hold

The schema of case files, written apart from the code that checks it: what the tables of cases
look like (`Table.IsCase`), what may stand under the names of the two groups (`Table.HasCases`),
and which case an item is read as (`TestCase.Keeps`).  Reading an item and reading a group are
each shown to be an iff with the schema.

A file that holds a JSON text is loaded exactly if there is no constant in the text that is not
finite, wherever it stands, and the value fits the schema (`loaded_iff_fits`).  Otherwise the file
is to blame.  The value is the one that a lenient reading finds, so that names that are repeated
or mean nothing count only for the constants.
-/

namespace LintScaffold

/-! ## The schema -/

/-- The keys and values of the table are those of a case. -/
structure Table.IsCase (table : Table) : Prop where
  keys : ∀ key ∈ table.map Prod.fst, key ∈ TestCase.knownKeys
  code : ∃ code, table.get? "code".toList = some (.text code)
  filename : table.get? "filename".toList = none ∨ table.get? "filename".toList = some .null ∨
    ∃ name, table.get? "filename".toList = some (.text name)

/-- The datum is a case: a text, or the table of a case. -/
inductive Datum.IsCase : Datum → Prop
  | text (code : Text) : IsCase (.text code)
  | table {table : Table} (h : table.IsCase) : IsCase (.ofTable table)

/-- Under the name stands a list of cases, or nothing. -/
def Table.HasCases (table : Table) (name : String) : Prop :=
  table.get? name.toList = none ∨ table.get? name.toList = some .null ∨
    ∃ items, table.get? name.toList = some (.list items) ∧ ∀ item ∈ items, item.IsCase

/-- The items of the list under a name. -/
def Table.itemsOf (table : Table) (name : String) : List Datum :=
  match table.get? name.toList with
  | some (.list items) => items
  | _ => []

/-- The datum fits into a case file. -/
inductive Datum.Fits : Datum → Prop
  | table {table : Table} (pass : table.HasCases "pass") (fail : table.HasCases "fail") :
      Fits (.ofTable table)

/-- The case keeps what the item says.  A text is the code alone; a table has its code, its options
and its settings unchanged, missing ones being null, and its file name unless that is empty. -/
inductive TestCase.Keeps : Datum → TestCase → Prop
  | text (code : Text) : Keeps (.text code) ⟨code, .null, .null, none⟩
  | table {table : Table} {case : TestCase}
      (code : table.get? "code".toList = some (.text case.code))
      (options : case.options = (table.get? "options".toList).getD .null)
      (settings : case.settings = (table.get? "settings".toList).getD .null)
      (filename : ∀ name, case.filename = some name ↔
        table.get? "filename".toList = some (.text name) ∧ name ≠ []) :
      Keeps (.ofTable table) case

/-! ## Items -/

namespace TestCase

theorem unknown_isEmpty_iff {table : Table} :
    ((table.map Prod.fst).filter fun key => !knownKeys.contains key).isEmpty = true ↔
      ∀ key ∈ table.map Prod.fst, key ∈ knownKeys := by
  rw [List.isEmpty_iff, List.filter_eq_nil_iff]
  simp

theorem filename?_eq_some {name found : Text} :
    filename? name = some found ↔ name = found ∧ found ≠ [] := by
  cases name with
  | nil => simp [filename?]
  | cons c rest => simp +contextual [filename?, eq_comm]

theorem getD_eq_null {found : Option Datum} :
    found.getD .null = .null ↔ found = none ∨ found = some .null := by
  cases found with
  | none => simp
  | some d => simp

theorem getD_eq_text {found : Option Datum} {t : Text} :
    found.getD .null = .text t ↔ found = some (.text t) := by
  cases found with
  | none => simp
  | some d => simp

/-- There is only one file name to keep. -/
theorem filename_iff {found : Option Datum} {filename : Option Text} (name : Option Text)
    (hname : ∀ n, name = some n ↔ found = some (.text n) ∧ n ≠ []) :
    (∀ n, filename = some n ↔ found = some (.text n) ∧ n ≠ []) ↔ name = filename := by
  constructor
  · intro h
    ext n
    exact (hname n).trans (h n).symm
  · rintro rfl
    exact hname

/-- What the code, the options, the settings and the file name of a table make. -/
theorem keeps_ofTable {table : Table} {case : TestCase} : Keeps (.ofTable table) case ↔
    table.get? "code".toList = some (.text case.code) ∧
      case.options = (table.get? "options".toList).getD .null ∧
      case.settings = (table.get? "settings".toList).getD .null ∧
      ∀ name, case.filename = some name ↔
        table.get? "filename".toList = some (.text name) ∧ name ≠ [] := by
  constructor
  · generalize hd : Datum.ofTable table = d
    intro h
    cases h with
    | text code => simp [Datum.ofTable] at hd
    | table code options settings filename =>
        obtain rfl := Datum.ofTable_inj.mp hd
        exact ⟨code, options, settings, filename⟩
  · rintro ⟨code, options, settings, filename⟩
    exact .table code options settings filename

theorem isCase_ofTable {table : Table} : (Datum.ofTable table).IsCase ↔ table.IsCase := by
  constructor
  · generalize hd : Datum.ofTable table = d
    intro h
    cases h with
    | text code => simp [Datum.ofTable] at hd
    | table h =>
        obtain rfl := Datum.ofTable_inj.mp hd
        exact h
  · exact .table

/-- A table is read as a case exactly if it is one, and then as the case that keeps it. -/
theorem ofDatum_ofTable_eq_ok {table : Table} {case : TestCase} :
    ofDatum (.ofTable table) = .ok case ↔ table.IsCase ∧ Keeps (.ofTable table) case := by
  rw [keeps_ofTable]
  unfold ofDatum Datum.ofTable
  dsimp only
  rw [Table.ofEntries_map]
  obtain ⟨code, options, settings, filename⟩ := case
  split
  · rename_i hunknown
    refine iff_of_false (by simp) fun h => ?_
    rw [unknown_isEmpty_iff.mpr h.1.keys] at hunknown
    simp at hunknown
  · rename_i hunknown
    rw [Bool.not_eq_true, Bool.not_eq_false', unknown_isEmpty_iff] at hunknown
    split
    · rename_i found hcode
      rw [hcode, Option.some.injEq, Datum.text.injEq]
      split
      · rename_i hname
        have hnone := getD_eq_null.mp hname
        have hcase : table.IsCase := ⟨hunknown, ⟨found, hcode⟩, hnone.imp_right .inl⟩
        rw [filename_iff none (by
          intro n
          rcases hnone with h | h <;> rw [h] <;> simp)]
        simp only [Except.ok.injEq, TestCase.mk.injEq, hcase, true_and, eq_comm]
      · rename_i name hname
        have hsome := getD_eq_text.mp hname
        have hcase : table.IsCase := ⟨hunknown, ⟨found, hcode⟩, .inr (.inr ⟨name, hsome⟩)⟩
        rw [filename_iff (filename? name) fun n => by
          rw [filename?_eq_some, hsome, Option.some.injEq, Datum.text.injEq]]
        simp only [Except.ok.injEq, TestCase.mk.injEq, hcase, true_and, eq_comm]
      · rename_i hnull htext
        refine iff_of_false (by simp) fun h => ?_
        rcases h.1.filename with hname | hname | ⟨name, hname⟩
        · exact hnull (by rw [hname]; rfl)
        · exact hnull (by rw [hname]; rfl)
        · exact htext name (by rw [hname]; rfl)
    · rename_i hcode
      exact iff_of_false (by simp) fun h => hcode _ h.2.1

/-- A datum of a file is read as a case exactly if it is one, and then as the case that keeps
it. -/
theorem ofDatum_eq_ok {d : Datum} (hd : d.IsLoaded) {case : TestCase} :
    ofDatum d = .ok case ↔ d.IsCase ∧ Keeps d case := by
  cases hd with
  | text code =>
      constructor
      · intro h
        obtain rfl := Except.ok.inj h
        exact ⟨.text code, .text code⟩
      · rintro ⟨-, h⟩
        cases h
        rfl
  | @table table => rw [ofDatum_ofTable_eq_ok, isCase_ofTable]
  | null | bool | int | float | list =>
      refine iff_of_false (by simp [ofDatum]) fun h => ?_
      cases h.1

/-- There is a case that keeps what a case says. -/
theorem exists_keeps {d : Datum} (h : d.IsCase) : ∃ case, Keeps d case := by
  cases h with
  | text code => exact ⟨_, .text code⟩
  | @table table h =>
      obtain ⟨code, hcode⟩ := h.code
      have hname : ∃ name : Option Text, ∀ n, name = some n ↔
          table.get? "filename".toList = some (.text n) ∧ n ≠ [] := by
        rcases h.filename with hname | hname | ⟨name, hname⟩
        · exact ⟨none, fun n => by rw [hname]; simp⟩
        · exact ⟨none, fun n => by rw [hname]; simp⟩
        · exact ⟨filename? name, fun n => by
            rw [filename?_eq_some, hname, Option.some.injEq, Datum.text.injEq]⟩
      obtain ⟨name, hname⟩ := hname
      exact ⟨⟨code, _, _, name⟩, .table hcode rfl rfl hname⟩

/-- The data of a list are read as cases exactly if they are, each as the case that keeps it. -/
theorem forall₂_ofDatum {items : List Datum} (hitems : ∀ item ∈ items, item.IsLoaded)
    {cases : List TestCase} :
    List.Forall₂ (fun item case => ofDatum item = .ok case) items cases ↔
      (∀ item ∈ items, item.IsCase) ∧ List.Forall₂ Keeps items cases := by
  rw [← List.forall₂_and_left]
  induction items generalizing cases with
  | nil => rw [List.forall₂_nil_left_iff, List.forall₂_nil_left_iff]
  | cons item items ih =>
      rw [List.forall_mem_cons] at hitems
      simp only [List.forall₂_cons_left_iff, ofDatum_eq_ok hitems.1, ih hitems.2]

end TestCase

/-! ## Groups -/

namespace CaseFile

variable {table : Table} {name : String}

/-- A group is read exactly if it is a list of cases or nothing, and then item by item. -/
theorem group_eq_ok (htable : (Datum.ofTable table).IsLoaded) {cases : List TestCase} :
    group table name = .ok cases ↔
      table.HasCases name ∧ List.Forall₂ TestCase.Keeps (table.itemsOf name) cases := by
  unfold group Table.HasCases Table.itemsOf
  split
  · rename_i hnone
    rw [hnone, and_iff_right (.inl rfl), List.forall₂_nil_left_iff]
    exact ⟨fun h => (Except.ok.inj h).symm, fun h => h ▸ rfl⟩
  · rename_i hnull
    rw [hnull, and_iff_right (.inr (.inl rfl)), List.forall₂_nil_left_iff]
    exact ⟨fun h => (Except.ok.inj h).symm, fun h => h ▸ rfl⟩
  · rename_i items hitems
    have hloaded := (htable.of_get? hitems).of_list
    rw [hitems, mapM_eq_ok]
    simp only [mapError_eq_ok, TestCase.forall₂_ofDatum hloaded]
    simp
  · rename_i other hnull hlist hother
    refine iff_of_false (by simp) fun h => ?_
    rw [hother] at h
    rcases h.1 with h | h | ⟨items, h, -⟩
    · simp at h
    · exact hnull (Option.some.inj h)
    · exact hlist items (Option.some.inj h)

/-- There are cases that keep what the items of a group say. -/
theorem exists_forall₂_keeps (h : table.HasCases name) :
    ∃ cases, List.Forall₂ TestCase.Keeps (table.itemsOf name) cases := by
  have hitems : ∀ item ∈ table.itemsOf name, item.IsCase := by
    unfold Table.itemsOf
    rcases h with h | h | ⟨items, h, hcases⟩
    · simp [h]
    · simp [h]
    · rwa [h]
  generalize table.itemsOf name = items at hitems ⊢
  induction items with
  | nil => exact ⟨[], .nil⟩
  | cons item items ih =>
      rw [List.forall_mem_cons] at hitems
      obtain ⟨case, hcase⟩ := TestCase.exists_keeps hitems.1
      obtain ⟨cases, hcases⟩ := ih hitems.2
      exact ⟨case :: cases, .cons hcase hcases⟩

/-- The cases of a datum are read exactly if it fits into a case file, and then group by group. -/
theorem groups_eq_ok {d : Datum} (hd : d.IsLoaded) {loaded : Groups} :
    groups d = .ok loaded ↔ ∃ table, d = .ofTable table ∧
      (table.HasCases "pass" ∧ List.Forall₂ TestCase.Keeps (table.itemsOf "pass") loaded.pass) ∧
      (table.HasCases "fail" ∧ List.Forall₂ TestCase.Keeps (table.itemsOf "fail") loaded.fail) := by
  cases hd with
  | @table table hkeys hitems =>
      have htable : (Datum.ofTable table).IsLoaded := .table hkeys hitems
      have hgroups : groups (.ofTable table) = .ok loaded ↔
          group table "pass" = .ok loaded.pass ∧ group table "fail" = .ok loaded.fail := by
        unfold groups Datum.ofTable
        dsimp only
        rw [Table.ofEntries_map, bind_eq_ok]
        simp only [bind_eq_ok]
        constructor
        · rintro ⟨pass, hpass, fail, hfail, h⟩
          obtain rfl := Except.ok.inj h
          exact ⟨hpass, hfail⟩
        · rintro ⟨hpass, hfail⟩
          exact ⟨_, hpass, _, hfail, rfl⟩
      rw [hgroups, group_eq_ok htable, group_eq_ok htable]
      simp [Datum.ofTable_inj]
  | null | bool | int | float | text | list =>
      refine iff_of_false (by simp [groups]) ?_
      rintro ⟨table, h, -⟩
      simp [Datum.ofTable] at h

/-! ## Files -/

/-- At the path stands a file that holds the text, in the encoding of that name. -/
structure Holding (tree : FileTree) (cwd : Place) (path : FilePath) (encoding text : Text) :
    Prop where
  bytes : ∃ bytes known, tree.find cwd path = .ok (.file bytes) ∧
    Encoding.named encoding = .ok known ∧ known.decode bytes = .ok text

variable {tree : FileTree} {cwd : Place} {path : FilePath} {encoding text : Text}

/-- A file that holds a JSON text is loaded as its value says, unless there is a constant. -/
theorem Holding.outcome_eq (h : Holding tree cwd path encoding text) {d : Datum}
    (hjson : Json.read true text = .ok d) :
    (¬ Json.HasConstant text ∧ d.IsLoaded ∧ (loadFrom path (.text encoding)).outcome tree cwd =
        (groups d).mapError fun fault => .content (.file fault)) ∨
      Json.HasConstant text ∧ ∃ word, (loadFrom path (.text encoding)).outcome tree cwd =
        .error (.content (.file (.notFinite word))) := by
  obtain ⟨bytes, known, hfind, hnamed, hdecode⟩ := h
  have hread : Encoding.read encoding bytes = .ok (Text.unifyLines text) := by
    rw [Encoding.read, hnamed, ok_bind, hdecode]
    rfl
  rw [outcome_loadFrom hfind, load, decode_eq_ok.mpr hread, ok_bind, readJson]
  obtain ⟨hstrict, hnone⟩ | ⟨word, hstrict, hconstant⟩ := Json.read_unifyLines_strictly hjson
  · refine .inl ⟨hnone, Json.isLoaded_read hstrict, ?_⟩
    rw [hstrict, ok_bind]
    cases groups d <;> rfl
  · refine .inr ⟨hconstant, word, ?_⟩
    rw [hstrict]
    rfl

/-- The cases of a datum are read if and only if it fits into a case file. -/
theorem exists_groups_iff {d : Datum} (hd : d.IsLoaded) :
    (∃ loaded, groups d = .ok loaded) ↔ d.Fits := by
  simp only [groups_eq_ok hd]
  constructor
  · rintro ⟨loaded, table, rfl, ⟨hpass, -⟩, hfail, -⟩
    exact .table hpass hfail
  · rintro ⟨hpass, hfail⟩
    obtain ⟨pass, hpassCases⟩ := exists_forall₂_keeps hpass
    obtain ⟨fail, hfailCases⟩ := exists_forall₂_keeps hfail
    exact ⟨⟨pass, fail⟩, _, rfl, ⟨hpass, hpassCases⟩, hfail, hfailCases⟩

end CaseFile

/-- A file that holds a JSON text is loaded exactly if there is no constant in the text that is not
finite, and the value of the text fits into a case file.  The cases are then the items of the two
lists, one by one and in their order, each with what its item says.  Otherwise the file is to
blame. -/
theorem loaded_iff_fits {tree : FileTree} {cwd : Place} {path : FilePath} {encoding text : Text}
    {d : Datum} (hjson : Json.read true text = .ok d)
    (hholding : CaseFile.Holding tree cwd path encoding text) :
    ((∃ loaded, (CaseFile.loadFrom path (.text encoding)).outcome tree cwd = .ok loaded) ↔
      ¬ Json.HasConstant text ∧ d.Fits) ∧
    (∀ loaded, (CaseFile.loadFrom path (.text encoding)).outcome tree cwd = .ok loaded →
      ∃ table, d = .ofTable table ∧
        List.Forall₂ TestCase.Keeps (table.itemsOf "pass") loaded.pass ∧
        List.Forall₂ TestCase.Keeps (table.itemsOf "fail") loaded.fail) ∧
    ∀ fault, (CaseFile.loadFrom path (.text encoding)).outcome tree cwd = .error fault →
      ∃ blamed, fault = .content (.file blamed) := by
  obtain ⟨hnone, hd, houtcome⟩ | ⟨hconstant, word, houtcome⟩ := hholding.outcome_eq hjson
  · simp only [houtcome, mapError_eq_ok, mapError_eq_error]
    refine ⟨?_, fun loaded hloaded => ?_, ?_⟩
    · rw [CaseFile.exists_groups_iff hd, and_iff_right hnone]
    · obtain ⟨table, rfl, ⟨-, hpass⟩, -, hfail⟩ := (CaseFile.groups_eq_ok hd).mp hloaded
      exact ⟨table, rfl, hpass, hfail⟩
    · rintro fault ⟨blamed, -, rfl⟩
      exact ⟨blamed, rfl⟩
  · rw [houtcome]
    refine ⟨iff_of_false (by simp) fun h => h.1 hconstant, by simp, fun fault hfault => ?_⟩
    exact ⟨.notFinite word, (Except.error.inj hfault).symm⟩

/-! ## A file with a case, and a file with a constant that counts for nothing -/

/-- The text of a case file with two lines, with a case of either kind. -/
def bothText : Text :=
  "\x7b\"pass\": [\"a\", \x7b\"code\": \"b\", \"filename\": \"\"\x7d],\r\n\"fail\": null\x7d".toList

/-- What the text says. -/
def bothTable : Table :=
  [("pass".toList, .list [.text ['a'],
      .ofTable [("code".toList, .text ['b']), ("filename".toList, .text [])]]),
    ("fail".toList, .null)]

/-- The text of a case file with a constant, under a name that is repeated. -/
def strayText : Text := "\x7b\"a\": NaN, \"a\": 1\x7d".toList

/-- The file tree with such a file. -/
def storedTree (text : Text) : FileTree := FileTree.empty.put [['c']] (.file (Utf8.encode text))

/-- What is found by evaluation: the files hold the texts, and what is read from them. -/
theorem stored_evaluated :
    (∀ text ∈ [bothText, strayText],
      (storedTree text).find [] ⟨.root, [['c']]⟩ = .ok (.file (Utf8.encode text)) ∧
      Encoding.utf8.decode (Utf8.encode text) = .ok text) ∧
    Encoding.named "utf-8".toList = .ok .utf8 ∧
    ¬ Json.HasConstant bothText ∧ Json.HasConstant strayText := by
  refine ⟨by decide +kernel, by decide +kernel, ?_, ?_⟩
  · unfold Json.HasConstant Json.Shows
    decide +kernel
  · unfold Json.HasConstant Json.Shows
    decide +kernel

theorem bothText_read : Json.read true bothText = .ok (.ofTable bothTable) := by cbv

theorem strayText_read : Json.read true strayText = .ok (.ofTable [(['a'], .int 1)]) := by cbv

theorem holding_stored {text : Text} (h : text ∈ [bothText, strayText]) :
    CaseFile.Holding (storedTree text) [] ⟨.root, [['c']]⟩ "utf-8".toList text := by
  obtain ⟨hfiles, hnamed, -⟩ := stored_evaluated
  exact ⟨_, .utf8, (hfiles text h).1, hnamed, (hfiles text h).2⟩

/-- The first file is loaded, with its two cases; the second one is not, because of the constant. -/
theorem both_is_loaded :
    (∃ loaded, (CaseFile.loadFrom ⟨.root, [['c']]⟩ (.text "utf-8".toList)).outcome
        (storedTree bothText) [] = .ok loaded ∧
      List.Forall₂ TestCase.Keeps (bothTable.itemsOf "pass") loaded.pass ∧
      List.Forall₂ TestCase.Keeps (bothTable.itemsOf "fail") loaded.fail) ∧
    ¬ ∃ loaded, (CaseFile.loadFrom ⟨.root, [['c']]⟩ (.text "utf-8".toList)).outcome
        (storedTree strayText) [] = .ok loaded := by
  obtain ⟨-, -, hnone, hconstant⟩ := stored_evaluated
  obtain ⟨hiff, hkeeps, -⟩ := loaded_iff_fits bothText_read (holding_stored List.mem_cons_self)
  have hitem : bothTable.itemsOf "pass" = [.text ['a'],
      .ofTable [("code".toList, .text ['b']), ("filename".toList, .text [])]] := rfl
  have hcases : ∀ item ∈ bothTable.itemsOf "pass", item.IsCase := by
    rw [hitem, List.forall_mem_cons, List.forall_mem_singleton]
    exact ⟨.text _, .table ⟨by decide, ⟨_, rfl⟩, .inr (.inr ⟨_, rfl⟩)⟩⟩
  have hfits : (Datum.ofTable bothTable).Fits :=
    .table (.inr (.inr ⟨_, rfl, hcases⟩)) (.inr (.inl rfl))
  refine ⟨?_, fun hloaded => ?_⟩
  · obtain ⟨loaded, hloaded⟩ := hiff.mpr ⟨hnone, hfits⟩
    obtain ⟨table, htable, hpass, hfail⟩ := hkeeps loaded hloaded
    obtain rfl := Datum.ofTable_inj.mp htable
    exact ⟨loaded, hloaded, hpass, hfail⟩
  · have hstray := loaded_iff_fits strayText_read
      (holding_stored (List.mem_cons_of_mem _ List.mem_cons_self))
    exact (hstray.1.mp hloaded).1 hconstant

end LintScaffold
