import LintScaffold.Proofs.Case.Loaded
import LintScaffold.Toml

/-!
# Data of a TOML document

The data of a document are texts, truth values, numbers and moments, lists of such data, and tables
that have texts as keys and no key twice, however deep they lie: this is `Datum.IsToml`.  Each
change that the reader makes to a table keeps it (`KeepsToml`), and a change keeps it just as well
if it is made at the end of a route.  So it holds of what has been read after every statement, and
in the end of the document (`isToml_read`).
-/

namespace LintScaffold

/-- A datum that a document can write and that has no other data in it. -/
def Datum.isScalar : Datum → Bool
  | .bool _ | .int _ | .float _ | .text _ | .moment _ => true
  | _ => false

/-- The datum can stand in a document. -/
inductive Datum.IsToml : Datum → Prop
  | scalar {d : Datum} (h : d.isScalar = true) : IsToml d
  | list {items : List Datum} (hitems : ∀ item ∈ items, IsToml item) : IsToml (.list items)
  | table {table : Table} (hkeys : (table.map Prod.fst).Nodup)
      (hitems : ∀ entry ∈ table, IsToml entry.2) : IsToml (.ofTable table)

namespace Datum.IsToml

theorem of_list {items : List Datum} (h : (Datum.list items).IsToml) :
    ∀ item ∈ items, item.IsToml := by
  cases h with
  | scalar h => exact absurd h Bool.false_ne_true
  | list hitems => exact hitems

theorem of_table {entries : Toml.Entries} (h : (Datum.table entries).IsToml) :
    ∃ table : Table, Datum.table entries = .ofTable table ∧ (table.map Prod.fst).Nodup ∧
      ∀ entry ∈ table, entry.2.IsToml := by
  cases h with
  | scalar h => exact absurd h Bool.false_ne_true
  | table hkeys hitems => exact ⟨_, rfl, hkeys, hitems⟩

end Datum.IsToml

namespace Toml

/-! ## Changes -/

theorem set_ofTable (table : Table) (name : Text) (d : Datum) :
    Datum.table (Entries.set (table.map fun entry => (.text entry.1, entry.2)) name d) =
      .ofTable (setEntry (· == ·) name d table) := by
  unfold Entries.set Datum.ofTable
  congr 1
  induction table with
  | nil => rfl
  | cons entry rest ih =>
      rw [List.map_cons, setEntry, setEntry]
      by_cases hkey : entry.1 = name
      · rw [if_pos (by simpa using hkey), if_pos (by simpa using hkey), List.map_cons]
      · rw [if_neg (by simpa using hkey), if_neg (by simpa using hkey), List.map_cons, ih]

theorem isToml_set {entries : Entries} (h : (Datum.table entries).IsToml) (name : Text)
    {d : Datum} (hd : d.IsToml) : (Datum.table (entries.set name d)).IsToml := by
  obtain ⟨table, htable, hkeys, hitems⟩ := h.of_table
  obtain rfl := Datum.table.inj htable
  rw [set_ofTable]
  refine .table (nodup_keys_setEntry name d hkeys) fun entry hentry => ?_
  obtain rfl | hentry := eq_or_mem_of_mem_setEntry hentry
  · exact hd
  · exact hitems entry hentry

theorem isToml_get? {entries : Entries} (h : (Datum.table entries).IsToml) {name : Text}
    {d : Datum} (hget : entries.get? name = some d) : d.IsToml := by
  obtain ⟨table, htable, -, hitems⟩ := h.of_table
  obtain rfl := Datum.table.inj htable
  obtain ⟨entry, hentry, hpair⟩ := List.mem_map.mp (mem_of_lookup hget)
  obtain rfl := (Prod.mk.inj hpair).2
  exact hitems entry hentry

theorem isToml_nil : (Datum.table []).IsToml := by
  have htable : (Datum.ofTable []).IsToml := .table List.nodup_nil (List.forall_mem_nil _)
  exact htable

/-- The change leaves a table that can stand in a document. -/
def KeepsToml (change : Entries → Except Mistake Entries) : Prop :=
  ∀ {entries result : Entries}, (Datum.table entries).IsToml → change entries = .ok result →
    (Datum.table result).IsToml

theorem keepsToml_ok : KeepsToml .ok := by
  intro entries result h hresult
  obtain rfl := Except.ok.inj hresult
  exact h

theorem keepsToml_addEntry (name : Text) {d : Datum} (hd : d.IsToml) (taken : Mistake) :
    KeepsToml (addEntry name d taken) := by
  intro entries result h hresult
  unfold addEntry at hresult
  split at hresult
  · simp at hresult
  · obtain rfl := Except.ok.inj hresult
    exact isToml_set h name hd

theorem keepsToml_addTable (name : Text) : KeepsToml (addTable name) := by
  intro entries result h hresult
  unfold addTable at hresult
  split at hresult
  · obtain rfl := Except.ok.inj hresult
    exact isToml_set h name (.list (List.forall_mem_singleton.mpr isToml_nil))
  · rename_i items hget
    obtain rfl := Except.ok.inj hresult
    refine isToml_set h name (.list fun item hitem => ?_)
    obtain hitem | hitem := List.mem_append.mp hitem
    · exact (isToml_get? h hget).of_list item hitem
    · obtain rfl := List.mem_singleton.mp hitem
      exact isToml_nil
  · simp at hresult

theorem isToml_changeNested {change : Entries → Except Mistake Entries}
    (hchange : KeepsToml change) {throughArrays : Bool} {d result : Datum} (h : d.IsToml)
    (hresult : changeNested throughArrays change d = .ok result) : result.IsToml := by
  unfold changeNested at hresult
  split at hresult
  · obtain ⟨entries, hentries, rfl⟩ := map_eq_ok.mp hresult
    exact hchange h hentries
  · split at hresult
    · rename_i items _ _ last hlast
      obtain ⟨entries, hentries, hresult⟩ := bind_eq_ok.mp hresult
      obtain rfl := Except.ok.inj hresult
      have hitems := h.of_list
      refine .list fun item hitem => ?_
      obtain hitem | hitem := List.mem_append.mp hitem
      · exact hitems item (List.dropLast_subset _ hitem)
      · obtain rfl := List.mem_singleton.mp hitem
        exact hchange (hitems _ (List.mem_of_getLast? hlast)) hentries
    · simp at hresult
  · simp at hresult

/-- A change is no worse at the end of a route. -/
theorem keepsToml_changeAt {change : Entries → Except Mistake Entries}
    (hchange : KeepsToml change) (throughArrays : Bool) (route : Route) :
    KeepsToml (changeAt throughArrays change route) := by
  induction route with
  | nil => exact hchange
  | cons name route ih =>
      intro entries result h hresult
      obtain ⟨nested, hnested, hresult⟩ := bind_eq_ok.mp hresult
      obtain rfl := Except.ok.inj hresult
      refine isToml_set h name (isToml_changeNested ih ?_ hnested)
      cases hget : entries.get? name with
      | none => exact isToml_nil
      | some d => exact isToml_get? h hget

/-! ## Values -/

theorem isScalar_value {numeral : Json.Numeral} {d : Datum} (h : numeral.value = .ok d) :
    d.isScalar = true := by
  unfold Json.Numeral.value at h
  split at h
  · split at h
    · simp at h
    · obtain rfl := Except.ok.inj h
      rfl
  · obtain rfl := Except.ok.inj h
    rfl

theorem isScalar_readNumber? {text rest : Text} {d : Datum}
    (h : readNumber? text = some (.ok (d, rest))) : d.isScalar = true := by
  unfold readNumber? at h
  split at h
  · obtain ⟨rfl, -⟩ := Prod.mk.inj (Except.ok.inj (Option.some.inj h))
    rfl
  · split at h
    · split at h
      · rename_i hvalue
        obtain ⟨rfl, -⟩ := Prod.mk.inj (Except.ok.inj (Option.some.inj h))
        exact isScalar_value hvalue
      · simp at h
    · obtain ⟨taken, -, hpair⟩ := Option.map_eq_some_iff.mp h
      obtain ⟨rfl, -⟩ := Prod.mk.inj (Except.ok.inj hpair)
      rfl

theorem isScalar_readMoment? {text rest : Text} {d : Datum}
    (h : readMoment? text = some (.ok (d, rest))) : d.isScalar = true := by
  unfold readMoment? at h
  split at h
  · split at h
    · obtain ⟨rfl, -⟩ := Prod.mk.inj (Except.ok.inj (Option.some.inj h))
      rfl
    · simp at h
  · obtain ⟨taken, -, hpair⟩ := Option.map_eq_some_iff.mp h
    obtain ⟨rfl, -⟩ := Prod.mk.inj (Except.ok.inj hpair)
    rfl

theorem isScalar_readScalar {text rest : Text} {d : Datum}
    (h : readScalar text = .ok (d, rest)) : d.isScalar = true := by
  unfold readScalar at h
  split at h
  · obtain ⟨taken, -, h⟩ := bind_eq_ok.mp h
    obtain ⟨rfl, -⟩ := Prod.mk.inj (Except.ok.inj h)
    rfl
  · split at h
    · rename_i hword
      obtain rfl := Except.ok.inj h
      obtain ⟨entry, hentry, htaken⟩ := List.exists_of_findSome?_eq_some hword
      obtain ⟨behind, -, hpair⟩ := Option.map_eq_some_iff.mp htaken
      obtain ⟨rfl, -⟩ := Prod.mk.inj hpair
      have hwords : ∀ entry ∈ words, entry.2.isScalar = true :=
        List.forall_mem_cons.mpr ⟨rfl, List.forall_mem_singleton.mpr rfl⟩
      exact hwords entry hentry
    · split at h
      · rename_i hmoment
        rw [h] at hmoment
        exact isScalar_readMoment? hmoment
      · cases hnumber : readNumber? text with
        | none => simp [hnumber] at h
        | some outcome =>
            rw [hnumber, Option.getD_some] at h
            rw [h] at hnumber
            exact isScalar_readNumber? hnumber

theorem keepsToml_addInline (route : Route) {d : Datum} (hd : d.IsToml) :
    KeepsToml (addInline route d) := by
  intro entries result h hresult
  unfold addInline at hresult
  split at hresult
  · simp at hresult
  · exact keepsToml_changeAt (keepsToml_addEntry _ hd _) _ _ h hresult

/-- What is read with so many calls can stand in a document. -/
structure ReadsToml (depth : Nat) : Prop where
  value : ∀ {text rest d}, readValue depth text = .ok (d, rest) → d.IsToml
  items : ∀ {text rest items}, readItems depth text = .ok (items, rest) →
    ∀ item ∈ items, item.IsToml
  entries : ∀ {text rest marks entries result}, (Datum.table entries).IsToml →
    readEntries depth marks entries text = .ok (result, rest) → (Datum.table result).IsToml

variable {depth : Nat}

theorem ReadsToml.readValue (h : ReadsToml depth) {text rest : Text} {d : Datum}
    (hread : Toml.readValue (depth + 1) text = .ok (d, rest)) : d.IsToml := by
  unfold Toml.readValue at hread
  split at hread
  · obtain ⟨found, hitems, hread⟩ := bind_eq_ok.mp hread
    obtain ⟨rfl, -⟩ := Prod.mk.inj (Except.ok.inj hread)
    exact .list (h.items hitems)
  · split at hread
    · obtain ⟨rfl, -⟩ := Prod.mk.inj (Except.ok.inj hread)
      exact isToml_nil
    · obtain ⟨found, hentries, hread⟩ := bind_eq_ok.mp hread
      obtain ⟨rfl, -⟩ := Prod.mk.inj (Except.ok.inj hread)
      exact h.entries isToml_nil hentries
  · exact .scalar (isScalar_readScalar hread)

theorem ReadsToml.readItems (h : ReadsToml depth) {text rest : Text} {items : List Datum}
    (hread : Toml.readItems (depth + 1) text = .ok (items, rest)) :
    ∀ item ∈ items, item.IsToml := by
  unfold Toml.readItems at hread
  obtain ⟨start, -, hread⟩ := bind_eq_ok.mp hread
  split at hread
  · obtain ⟨rfl, -⟩ := Prod.mk.inj (Except.ok.inj hread)
    exact List.forall_mem_nil _
  · obtain ⟨first, hfirst, hread⟩ := bind_eq_ok.mp hread
    obtain ⟨behind, -, hread⟩ := bind_eq_ok.mp hread
    split at hread
    · obtain ⟨rfl, -⟩ := Prod.mk.inj (Except.ok.inj hread)
      exact List.forall_mem_singleton.mpr (h.value hfirst)
    · obtain ⟨others, hothers, hread⟩ := bind_eq_ok.mp hread
      obtain ⟨rfl, -⟩ := Prod.mk.inj (Except.ok.inj hread)
      exact List.forall_mem_cons.mpr ⟨h.value hfirst, h.items hothers⟩
    · simp at hread

theorem ReadsToml.readEntries (h : ReadsToml depth) {text rest : Text} {marks : Marks}
    {entries result : Entries} (hentries : (Datum.table entries).IsToml)
    (hread : Toml.readEntries (depth + 1) marks entries text = .ok (result, rest)) :
    (Datum.table result).IsToml := by
  unfold Toml.readEntries at hread
  obtain ⟨assigned, -, hread⟩ := bind_eq_ok.mp hread
  obtain ⟨value, hvalue, hread⟩ := bind_eq_ok.mp hread
  dsimp only at hread
  split at hread
  · simp at hread
  · obtain ⟨added, hadded, hread⟩ := bind_eq_ok.mp hread
    have htoml := keepsToml_addInline assigned.1 (h.value hvalue) hentries
      (mapError_eq_ok.mp hadded)
    split at hread
    · obtain ⟨rfl, -⟩ := Prod.mk.inj (Except.ok.inj hread)
      exact htoml
    · exact h.entries htoml hread
    · simp at hread

theorem readsToml (depth : Nat) : ReadsToml depth := by
  induction depth with
  | zero =>
      constructor
      · intro text rest d hread
        simp [Toml.readValue] at hread
      · intro text rest items hread
        simp [Toml.readItems] at hread
      · intro text rest marks entries result _ hread
        simp [Toml.readEntries] at hread
  | succ depth ih => exact ⟨ih.readValue, ih.readItems, ih.readEntries⟩

/-! ## Documents -/

/-- What has been read so far can stand in a document. -/
def Progress.IsToml (progress : Progress) : Prop := (Datum.table progress.entries).IsToml

namespace Progress.IsToml

variable {progress result : Progress} {route : Route}

theorem assign (h : progress.IsToml) {d : Datum} (hd : d.IsToml)
    (hresult : progress.assign route d = .ok result) : result.IsToml := by
  obtain ⟨marks, -, hresult⟩ := bind_eq_ok.mp hresult
  dsimp only at hresult
  split at hresult
  · simp at hresult
  · obtain ⟨entries, hentries, hresult⟩ := bind_eq_ok.mp hresult
    obtain rfl := Except.ok.inj hresult
    exact keepsToml_changeAt (keepsToml_addEntry _ hd _) _ _ h hentries

theorem openTable (h : progress.IsToml) (hresult : progress.openTable route = .ok result) :
    result.IsToml := by
  unfold Progress.openTable at hresult
  split at hresult
  · simp at hresult
  · obtain ⟨entries, hentries, hresult⟩ := bind_eq_ok.mp hresult
    obtain rfl := Except.ok.inj hresult
    exact keepsToml_changeAt keepsToml_ok _ _ h hentries

theorem openNewTable (h : progress.IsToml) (hresult : progress.openNewTable route = .ok result) :
    result.IsToml := by
  unfold Progress.openNewTable at hresult
  split at hresult
  · simp at hresult
  · obtain ⟨entries, hentries, hresult⟩ := bind_eq_ok.mp hresult
    obtain rfl := Except.ok.inj hresult
    exact keepsToml_changeAt (keepsToml_addTable _) _ _ h hentries

end Progress.IsToml

theorem isToml_readHeader {take : Route → Except Mistake Progress}
    (htake : ∀ {route progress}, take route = .ok progress → progress.IsToml) {mark text : Text}
    {unended : Mistake} {result : Progress × Text}
    (h : readHeader take mark unended text = .ok result) : result.1.IsToml := by
  unfold readHeader at h
  obtain ⟨taken, -, h⟩ := bind_eq_ok.mp h
  obtain ⟨progress, hprogress, h⟩ := bind_eq_ok.mp h
  split at h
  · obtain rfl := Except.ok.inj h
    exact htake (mapError_eq_ok.mp hprogress)
  · simp at h

theorem isToml_readStatement {progress : Progress} (htoml : progress.IsToml) {text : Text}
    {result : Progress × Text} (h : readStatement progress text = .ok result) :
    result.1.IsToml := by
  have hended : progress.endSection.IsToml := htoml
  unfold readStatement at h
  split at h
  · obtain rfl := Except.ok.inj h
    exact htoml
  · exact isToml_readHeader hended.openNewTable h
  · exact isToml_readHeader hended.openTable h
  · split at h
    · obtain ⟨assigned, -, h⟩ := bind_eq_ok.mp h
      obtain ⟨value, hvalue, h⟩ := bind_eq_ok.mp h
      obtain ⟨after, hafter, h⟩ := bind_eq_ok.mp h
      obtain rfl := Except.ok.inj h
      exact htoml.assign ((readsToml _).value hvalue) (mapError_eq_ok.mp hafter)
    · split at h
      · obtain rfl := Except.ok.inj h
        exact htoml
      · simp at h

theorem isToml_readLines {fuel : Nat} {progress result : Progress} (htoml : progress.IsToml)
    {text : Text} (h : readLines fuel progress text = .ok result) : result.IsToml := by
  induction fuel generalizing progress text with
  | zero =>
      obtain rfl := Except.ok.inj h
      exact htoml
  | succ fuel ih =>
      obtain ⟨after, hafter, h⟩ := bind_eq_ok.mp h
      obtain ⟨rest, -, h⟩ := bind_eq_ok.mp h
      have hstatement := isToml_readStatement htoml hafter
      split at h
      · obtain rfl := Except.ok.inj h
        exact hstatement
      · exact ih hstatement h
      · simp at h

/-- The table at the top of a document and all data in it are as those of documents are. -/
theorem isToml_read {text : Text} {table : Table} (h : read text = .ok table) :
    (Datum.ofTable table).IsToml := by
  obtain ⟨progress, hprogress, h⟩ := bind_eq_ok.mp h
  obtain rfl := Except.ok.inj h
  have hstart : Progress.start.IsToml := isToml_nil
  have htoml : (Datum.table progress.entries).IsToml := isToml_readLines hstart hprogress
  obtain ⟨table, htable, -⟩ := htoml.of_table
  rw [htable] at htoml
  rw [Datum.table.inj htable, Table.ofEntries_map]
  exact htoml

end Toml
end LintScaffold
