import LintScaffold.Case.File
import LintScaffold.Proofs.Json.Loaded
import LintScaffold.Proofs.Rust.Case
import LintScaffold.Proofs.Skeleton.Render

/-!
# Cases from a file

The options and settings of a case that a case file holds are data of the file, hence only an
infinite number can keep the case from having an element, and only such a case can keep the
skeleton from having a source.
-/

namespace LintScaffold

/-- The texts among the keys of a table that has no other keys are all its keys. -/
theorem Table.ofEntries_map (entries : Table) :
    Table.ofEntries (entries.map fun entry => (.text entry.1, entry.2)) = entries := by
  rw [Table.ofEntries, List.filterMap_map]
  exact List.filterMap_some

/-! ## Single cases -/

namespace TestCase

/-- The case can come from a case file. -/
structure IsLoaded (case : TestCase) : Prop where
  options : case.options.IsLoaded
  settings : case.settings.IsLoaded

/-- There is an infinite number in the options or in the settings. -/
def hasInfinite (case : TestCase) : Bool :=
  case.options.hasInfinite || case.settings.hasInfinite

theorem isLoaded_ofCode (code : Text) : (ofCode code).IsLoaded := ⟨.null, .null⟩

/-- A case from a file is one of JSON unless there is an infinite number in it. -/
theorem IsLoaded.isJson {case : TestCase} (h : case.IsLoaded) (hfinite : case.hasInfinite = false) :
    case.IsJson := by
  obtain ⟨hoptions, hsettings⟩ := Bool.or_eq_false_iff.mp hfinite
  exact ⟨h.options.isJson hoptions, h.settings.isJson hsettings⟩

theorem failsIf_optional {d : Datum} (h : d.IsLoaded) :
    FailsIf Datum.IsInfinite d.hasInfinite (optional d) := by
  have hmacro : FailsIf Datum.IsInfinite d.hasInfinite (do
      return "Some(".toList ++ (← JsonLiteral.writeMacro d) ++ [')']) :=
    (h.write.bind_pure _).bind_pure _
  cases d with
  | null => exact rfl
  | _ => exact hmacro

theorem failsIf_snippet {case : TestCase} (h : case.IsLoaded) :
    FailsIf Datum.IsInfinite case.hasInfinite case.snippet := by
  have hoptions := failsIf_optional h.options
  rw [hasInfinite, snippet]
  split
  · -- settings that are not written are null
    rename_i hshort
    rw [eq_null (Bool.and_eq_true_iff.mp hshort).1]
    show FailsIf _ (case.options.hasInfinite || false) _
    rw [Bool.or_false]
    split
    · rename_i hcode
      rw [eq_null hcode]
      exact rfl
    · exact hoptions.bind_pure _
  · exact hoptions.bind fun options => (failsIf_optional h.settings).bind_pure _

/-- A value of a table from a file can come from a file, and so can null in its stead. -/
theorem isLoaded_getD {table : Table} (h : ∀ entry ∈ table, entry.2.IsLoaded) (key : Text) :
    ((table.get? key).getD .null).IsLoaded := by
  cases hfound : table.get? key with
  | none => exact .null
  | some d =>
      obtain ⟨before, after, rfl, -⟩ := List.lookup_eq_some_iff.mp hfound
      exact h (key, d) (List.mem_append_right before List.mem_cons_self)

/-- What is read as a case from a datum of a file is a case that can come from a file. -/
theorem isLoaded_ofDatum {d : Datum} (hd : d.IsLoaded) {case : TestCase}
    (h : ofDatum d = .ok case) : case.IsLoaded := by
  cases hd with
  | text code =>
      obtain rfl := Except.ok.inj h
      exact isLoaded_ofCode code
  | @table entries hkeys hitems =>
      unfold ofDatum Datum.ofTable at h
      dsimp only at h
      rw [Table.ofEntries_map] at h
      split at h
      · simp at h
      · split at h
        · split at h
          · obtain rfl := Except.ok.inj h
            exact ⟨isLoaded_getD hitems _, isLoaded_getD hitems _⟩
          · obtain rfl := Except.ok.inj h
            exact ⟨isLoaded_getD hitems _, isLoaded_getD hitems _⟩
          · simp at h
        · simp at h
  | null | bool | int | float | list => simp [ofDatum] at h

end TestCase

/-! ## Case files -/

namespace CaseFile

/-- The cases of both groups can come from a case file. -/
def Groups.IsLoaded (groups : Groups) : Prop :=
  (∀ case ∈ groups.pass, case.IsLoaded) ∧ ∀ case ∈ groups.fail, case.IsLoaded

/-- There is an infinite number in some case. -/
def Groups.hasInfinite (groups : Groups) : Bool :=
  groups.pass.any TestCase.hasInfinite || groups.fail.any TestCase.hasInfinite

theorem isLoaded_group {table : Table} (htable : ∀ entry ∈ table, entry.2.IsLoaded)
    {name : String} {cases : List TestCase} (h : group table name = .ok cases) :
    ∀ case ∈ cases, case.IsLoaded := by
  have hvalue := TestCase.isLoaded_getD htable name.toList
  unfold group at h
  split at h
  · obtain rfl := Except.ok.inj h
    simp
  · obtain rfl := Except.ok.inj h
    simp
  · rename_i items hfound
    rw [hfound, Option.getD_some] at hvalue
    cases hvalue with
    | list hitems =>
        refine forall_of_mapM_eq_ok h fun item hitem case hcase => ?_
        exact TestCase.isLoaded_ofDatum (hitems item hitem) (mapError_eq_ok.mp hcase)
  · simp at h

/-- The cases of a case file can come from a case file, whatever the file holds and however it
is encoded. -/
theorem isLoaded_load {path encoding : Text} {bytes : Bytes} {loaded : Groups}
    (h : load path encoding bytes = .ok loaded) : loaded.IsLoaded := by
  obtain ⟨text, -, h⟩ := bind_eq_ok.mp h
  obtain ⟨d, hread, h⟩ := bind_eq_ok.mp h
  have hd : d.IsLoaded := by
    unfold readJson at hread
    split at hread
    · rename_i hjson
      obtain rfl := Except.ok.inj hread
      exact Json.isLoaded_read hjson
    · simp at hread
    · simp at hread
    · simp at hread
  rw [mapError_eq_ok] at h
  cases hd with
  | @table entries hkeys hitems =>
      unfold groups Datum.ofTable at h
      dsimp only at h
      rw [Table.ofEntries_map] at h
      obtain ⟨pass, hpass, h⟩ := bind_eq_ok.mp h
      obtain ⟨fail, hfail, h⟩ := bind_eq_ok.mp h
      obtain rfl := Except.ok.inj h
      exact ⟨isLoaded_group hitems hpass, isLoaded_group hitems hfail⟩
  | null | bool | int | float | text | list => simp [groups] at h

end CaseFile

/-! ## Lists of cases -/

/-- The fault of a list of cases is an infinite number. -/
def SnippetFault.IsInfinite (fault : SnippetFault) : Prop :=
  ∃ negative, fault = .embed (.notFinite (.infinite negative))

/-- Cases from a file have elements unless there is an infinite number in one of them. -/
theorem failsIf_snippets {cases : List TestCase} (h : ∀ case ∈ cases, case.IsLoaded) :
    FailsIf SnippetFault.IsInfinite (cases.any TestCase.hasInfinite)
      (snippets (cases.map .case)) := by
  rw [snippets, List.mapM_map]
  refine failsIf_mapM fun case hcase => (TestCase.failsIf_snippet (h case hcase)).mapError ?_
  rintro fault ⟨negative, rfl⟩
  exact ⟨negative, rfl⟩

/-- Cases from a file that have elements are cases of JSON. -/
theorem isJson_of_snippets {cases : List TestCase} (h : ∀ case ∈ cases, case.IsLoaded)
    {texts : List Text} (hsnippets : snippets (cases.map .case) = .ok texts) :
    ∀ case ∈ cases, case.IsJson := by
  have hfinite := List.any_eq_false.mp ((failsIf_snippets h).isOk_iff.mp ⟨texts, hsnippets⟩)
  exact fun case hcase => (h case hcase).isJson (Bool.eq_false_iff.mpr (hfinite case hcase))

/-- The fault of rendering is an infinite number. -/
def RenderFault.IsInfinite (fault : RenderFault) : Prop :=
  ∃ negative, fault = .snippet (.embed (.notFinite (.infinite negative)))

/-- The skeleton has a source for cases from a file unless there is an infinite number in one of
them. -/
theorem Skeleton.failsIf_render {pass fail : List TestCase}
    (hpass : ∀ case ∈ pass, case.IsLoaded) (hfail : ∀ case ∈ fail, case.IsLoaded)
    (category : Text) (name : RuleName) (hasFilename : Bool) :
    FailsIf RenderFault.IsInfinite
      (pass.any TestCase.hasInfinite || fail.any TestCase.hasInfinite)
      ((renderer category).render name hasFilename (pass.map .case) (fail.map .case)) := by
  have hfault : ∀ fault : SnippetFault, fault.IsInfinite →
      (RenderFault.snippet fault).IsInfinite := by
    rintro fault ⟨negative, rfl⟩
    exact ⟨negative, rfl⟩
  unfold Renderer.render
  refine ((failsIf_snippets hpass).mapError hfault).bind fun passTexts => ?_
  rw [← Bool.or_false (fail.any TestCase.hasInfinite)]
  refine ((failsIf_snippets hfail).mapError hfault).bind fun failTexts => ?_
  -- the skeleton itself always has a text
  have htext := render_template (renderer category) name hasFilename passTexts failTexts
  rw [renderer] at htext ⊢
  rw [htext]
  exact rfl

end LintScaffold
