import LintScaffold.Command.New
import LintScaffold.Proofs.Case.Blame
import LintScaffold.Proofs.Case.Loaded
import LintScaffold.Proofs.Datum.Alike
import Mathlib

/-!
# Cases that say the same

Two cases are alike if they have the same code, options and settings that are alike as data, and
the same file name, an empty one counting as none.  The element of the vector is a canonical form
of a case in this sense (`snippets_are_canonical`):

* alike cases have the same element, since the parts of the element depend on nothing else
  (`Alike.snippet_eq`);
* cases with the same element are alike, since the case in order is read back from the element
  (`alike_of_snippet_eq`).

So nothing of a case is dropped, however little it says, and what a case file makes of a rule does
not depend on the order of the keys in the file.  The latter also needs that alike data are the
same case files: they hold alike cases, or are refused for the same reason (`agree_groups`).
-/

namespace LintScaffold

/-! ## Keys in order -/

namespace Text

theorem perm_insertSorted (text : Text) (texts : List Text) :
    (insertSorted text texts).Perm (text :: texts) := by
  induction texts with
  | nil => exact .refl _
  | cons other rest ih =>
      rw [insertSorted]
      split
      · exact .refl _
      · exact (ih.cons other).trans (.swap text other rest)

theorem perm_sort (texts : List Text) : (sort texts).Perm texts := by
  induction texts with
  | nil => exact .nil
  | cons text rest ih => exact (perm_insertSorted text _).trans (ih.cons text)

theorem pairwise_insertSorted (text : Text) {texts : List Text}
    (h : texts.Pairwise (· ≤ ·)) : (insertSorted text texts).Pairwise (· ≤ ·) := by
  induction texts with
  | nil => exact List.pairwise_singleton _ _
  | cons other rest ih =>
      obtain ⟨hother, hrest⟩ := List.pairwise_cons.mp h
      rw [insertSorted, before_eq]
      split
      · rename_i hless
        have hle : text ≤ other := le_of_lt (of_decide_eq_true hless)
        exact List.pairwise_cons.mpr
          ⟨List.forall_mem_cons.mpr ⟨hle, fun t ht => hle.trans (hother t ht)⟩, h⟩
      · rename_i hnot
        refine List.pairwise_cons.mpr ⟨fun t ht => ?_, ih hrest⟩
        rcases List.mem_cons.mp ((perm_insertSorted text rest).mem_iff.mp ht) with rfl | ht
        · exact not_lt.mp fun hless => hnot (decide_eq_true hless)
        · exact hother t ht

theorem pairwise_sort (texts : List Text) : (sort texts).Pairwise (· ≤ ·) := by
  induction texts with
  | nil => exact .nil
  | cons text rest ih => exact pairwise_insertSorted text ih

/-- Sorting does not depend on the order in which the texts are given. -/
theorem sort_eq_of_perm {texts others : List Text} (h : texts.Perm others) :
    sort texts = sort others :=
  ((perm_sort texts).trans (h.trans (perm_sort others).symm)).eq_of_pairwise
    (fun _ _ _ _ hle hge => le_antisymm hle hge) (pairwise_sort texts) (pairwise_sort others)

end Text

/-! ## Single cases -/

namespace TestCase

/-- The cases say the same. -/
structure Alike (a b : TestCase) : Prop where
  code : a.code = b.code
  options : a.options.Alike b.options
  settings : a.settings.Alike b.settings
  filename : a.filename.bind filename? = b.filename.bind filename?

theorem alike_null {d : Datum} : d.Alike .null ↔ d = .null := by
  constructor
  · intro h
    cases h
    rfl
  · rintro rfl
    exact .null

theorem isNull_eq {d e : Datum} (h : d.Alike e) : isNull d = isNull e := by
  cases h <;> rfl

theorem optional_eq {d e : Datum} (h : d.Alike e) (hd : d.IsLoaded) (he : e.IsLoaded) :
    optional d = optional e := by
  by_cases hnull : d = .null
  · subst hnull
    cases h
    rfl
  · have hother : e ≠ .null := by
      rintro rfl
      exact hnull (alike_null.mp h)
    rw [optional_of_ne_null hnull, optional_of_ne_null hother, h.write_eq hd he]

/-- What is done with the file name depends on it as far as it says something. -/
theorem filename_eq (case : TestCase) :
    case.hasFilename = (case.filename.bind filename?).isSome ∧
      case.pathLiteral = match case.filename.bind filename? with
        | some name => "Some(PathBuf::from(".toList ++ EscapedString.write name ++ "))".toList
        | none => "None".toList := by
  rw [hasFilename, pathLiteral]
  cases case.filename with
  | none => exact ⟨rfl, rfl⟩
  | some name => cases name with
    | nil => exact ⟨rfl, rfl⟩
    | cons c rest => exact ⟨rfl, rfl⟩

theorem Alike.hasFilename_eq {a b : TestCase} (h : a.Alike b) : a.hasFilename = b.hasFilename := by
  rw [(filename_eq a).1, (filename_eq b).1, h.filename]

/-- Alike cases from files have the same element, or none for the same reason. -/
theorem Alike.snippet_eq {a b : TestCase} (h : a.Alike b) (ha : a.IsLoaded) (hb : b.IsLoaded) :
    a.snippet = b.snippet := by
  have hpath : a.pathLiteral = b.pathLiteral := by
    rw [(filename_eq a).2, (filename_eq b).2, h.filename]
  rw [snippet, snippet, h.code, isNull_eq h.settings, h.hasFilename_eq, isNull_eq h.options,
    optional_eq h.options ha.options hb.options, optional_eq h.settings ha.settings hb.settings,
    hpath]

theorem IsJson.isLoaded {case : TestCase} (h : case.IsJson) : case.IsLoaded :=
  ⟨h.options.isLoaded, h.settings.isLoaded⟩

/-- Cases with the same element are alike. -/
theorem alike_of_snippet_eq {a b : TestCase} (ha : a.IsJson) (hb : b.IsJson)
    (h : a.snippet = b.snippet) : a.Alike b := by
  obtain ⟨⟨text, htext, hclosed⟩, hread⟩ := ha.snippet_spec
  obtain ⟨⟨other, hother, hclosed'⟩, hread'⟩ := hb.snippet_spec
  -- the elements are one text, which has one row of lexemes, which is read as one case
  obtain rfl : text = other := Except.ok.inj (htext.symm.trans (h.trans hother))
  have hlexemes : a.lexemes = b.lexemes :=
    Option.some.inj (hclosed.lex?_eq.symm.trans hclosed'.lex?_eq)
  have hordered : a.ordered = b.ordered := by
    have hone := hread []
    rw [hlexemes, hread' []] at hone
    exact (Prod.mk.inj (Option.some.inj hone)).1.symm
  obtain ⟨hcode, hoptions, hsettings, hfilename⟩ := TestCase.mk.inj hordered
  exact ⟨hcode, Datum.alike_of_ordered ha.isLoaded.options hb.isLoaded.options hoptions,
    Datum.alike_of_ordered ha.isLoaded.settings hb.isLoaded.settings hsettings, hfilename⟩

/-! ## Cases of a file -/

section Tables

variable {xs ys : Table}

/-- What two tables with the same keys have under a key is alike, or missing in both. -/
theorem get?_rel (hkeys : ∀ key, key ∈ xs.map Prod.fst ↔ key ∈ ys.map Prod.fst)
    (hvalues : ∀ key x y, xs.get? key = some x → ys.get? key = some y → x.Alike y) (key : Text) :
    Option.Rel Datum.Alike (xs.get? key) (ys.get? key) := by
  have hsome := hkeys key
  rw [Table.isSome_get?, Table.isSome_get?] at hsome
  cases hx : xs.get? key with
  | none => cases hy : ys.get? key with
    | none => exact .none
    | some y => exact absurd (hsome.mpr ⟨y, hy⟩) (by simp [hx])
  | some x => cases hy : ys.get? key with
    | none => exact absurd (hsome.mp ⟨x, hx⟩) (by simp [hy])
    | some y => exact .some (hvalues key x y hx hy)

theorem getD_alike {x y : Option Datum} (h : Option.Rel Datum.Alike x y) :
    (x.getD .null).Alike (y.getD .null) := by
  cases h with
  | some hxy => exact hxy
  | none => exact .null

/-- Alike tables have the same keys that mean nothing. -/
theorem unknown_perm (hxs : (xs.map Prod.fst).Nodup) (hys : (ys.map Prod.fst).Nodup)
    (hkeys : ∀ key, key ∈ xs.map Prod.fst ↔ key ∈ ys.map Prod.fst) :
    ((xs.map Prod.fst).filter fun key => !knownKeys.contains key).Perm
      ((ys.map Prod.fst).filter fun key => !knownKeys.contains key) :=
  ((List.perm_ext_iff_of_nodup hxs hys).mpr hkeys).filter _

end Tables

/-- Alike data of a file are alike as cases, or are no cases for the same reason. -/
theorem agree_ofDatum {d e : Datum} (h : d.Alike e) (hd : d.IsLoaded) (he : e.IsLoaded) :
    Agree Alike (ofDatum d) (ofDatum e) := by
  cases h with
  | text t => exact ⟨rfl, .null, .null, rfl⟩
  | null | bool | int | float | list => exact rfl
  | @table xs ys hkeys hvalues =>
      have hperm := unknown_perm hd.of_table.1 he.of_table.1 hkeys
      have hget := get?_rel hkeys hvalues
      unfold ofDatum Datum.ofTable
      dsimp only
      rw [Table.ofEntries_map, Table.ofEntries_map, hperm.isEmpty_eq, Text.sort_eq_of_perm hperm]
      split
      · exact rfl
      · have hoptions := getD_alike (hget "options".toList)
        have hsettings := getD_alike (hget "settings".toList)
        have hfilename := getD_alike (hget "filename".toList)
        have hcode := hget "code".toList
        generalize xs.get? "code".toList = code, ys.get? "code".toList = code' at hcode ⊢
        generalize (xs.get? "filename".toList).getD .null = name,
          (ys.get? "filename".toList).getD .null = name' at hfilename ⊢
        cases hcode with
        | none => exact rfl
        | some hcode => cases hcode with
          | text code =>
              dsimp only
              cases hfilename with
              | null => exact ⟨rfl, hoptions, hsettings, rfl⟩
              | text name => exact ⟨rfl, hoptions, hsettings, rfl⟩
              | _ => exact rfl
          | _ => exact rfl

end TestCase

/-! ## Case files -/

namespace CaseFile

/-- The groups hold alike cases in the same order. -/
structure Groups.Alike (groups others : Groups) : Prop where
  pass : List.Forall₂ TestCase.Alike groups.pass others.pass
  fail : List.Forall₂ TestCase.Alike groups.fail others.fail

theorem agree_group {xs ys : Table} (hxs : (Datum.ofTable xs).IsLoaded)
    (hys : (Datum.ofTable ys).IsLoaded) {name : String}
    (h : Option.Rel Datum.Alike (xs.get? name.toList) (ys.get? name.toList)) :
    Agree (List.Forall₂ TestCase.Alike) (group xs name) (group ys name) := by
  unfold group
  generalize hx : xs.get? name.toList = x, hy : ys.get? name.toList = y at h ⊢
  cases h with
  | none => exact List.Forall₂.nil
  | some hxy =>
      have hd := hxs.of_get? hx
      have he := hys.of_get? hy
      cases hxy with
      | null => exact List.Forall₂.nil
      | @list items others hlength hitems =>
          refine agree_mapM (List.forall₂_iff_get.mpr ⟨hlength, fun n hn hn' => ?_⟩)
          refine Agree.mapError (TestCase.agree_ofDatum ?_ ?_ ?_) _
          · exact hitems n _ _ (List.getElem?_eq_getElem hn) (List.getElem?_eq_getElem hn')
          · exact hd.of_list _ (List.getElem_mem hn)
          · exact he.of_list _ (List.getElem_mem hn')
      | _ => exact rfl

/-- Alike data of a file hold alike cases, or are refused for the same reason. -/
theorem agree_groups {d e : Datum} (h : d.Alike e) (hd : d.IsLoaded) (he : e.IsLoaded) :
    Agree Groups.Alike (groups d) (groups e) := by
  cases h with
  | null | bool | int | float | text | list => exact rfl
  | @table xs ys hkeys hvalues =>
      unfold groups Datum.ofTable
      dsimp only
      rw [Table.ofEntries_map, Table.ofEntries_map]
      have hget := TestCase.get?_rel hkeys hvalues
      refine (agree_group hd he (hget _)).bind fun pass pass' hpass => ?_
      exact (agree_group hd he (hget _)).bind fun fail fail' hfail => ⟨hpass, hfail⟩

/-- The bytes hold a datum as JSON. -/
def Holds (encoding : Text) (bytes : Bytes) (d : Datum) : Prop :=
  ∃ text, Encoding.read encoding bytes = .ok text ∧ Json.read false text = .ok d

theorem Holds.isLoaded {encoding : Text} {bytes : Bytes} {d : Datum}
    (h : Holds encoding bytes d) : d.IsLoaded := by
  obtain ⟨text, -, hread⟩ := h
  exact Json.isLoaded_read hread

theorem Holds.load_eq {encoding : Text} {bytes : Bytes} {d : Datum} (h : Holds encoding bytes d)
    (path : Text) : load path encoding bytes = (groups d).mapError .file := by
  obtain ⟨text, htext, hread⟩ := h
  rw [load, decode_eq_ok.mpr htext, ok_bind, readJson, hread, ok_bind]

end CaseFile

/-! ## Sources -/

theorem snippets_eq {cases others : List TestCase} (h : List.Forall₂ TestCase.Alike cases others)
    (hcases : ∀ case ∈ cases, case.IsLoaded) (hothers : ∀ case ∈ others, case.IsLoaded) :
    (cases.map CaseItem.case).mapM CaseItem.snippet =
      (others.map CaseItem.case).mapM CaseItem.snippet := by
  induction h with
  | nil => rfl
  | @cons case other cases others hfirst hrest ih =>
      rw [List.forall_mem_cons] at hcases hothers
      have hsnippet := hfirst.snippet_eq hcases.1 hothers.1
      rw [List.map_cons, List.map_cons, List.mapM_cons, List.mapM_cons, CaseItem.snippet, hsnippet,
        ih hcases.2 hothers.2]
      rfl

theorem any_hasFilename_eq {cases others : List TestCase}
    (h : List.Forall₂ TestCase.Alike cases others) :
    (cases.map CaseItem.case).any CaseItem.hasFilename =
      (others.map CaseItem.case).any CaseItem.hasFilename := by
  induction h with
  | nil => rfl
  | cons hfirst hrest ih =>
      rw [List.map_cons, List.map_cons, List.any_cons, List.any_cons, ih, CaseItem.hasFilename,
        hfirst.hasFilename_eq]
      rfl

namespace NewRequest

variable (request : NewRequest)

/-- The source that a renderer gives for the cases of the options and of a case file. -/
def rendered (renderer : Renderer) (name : RuleName) (groups : CaseFile.Groups) :
    Except RenderFault Text :=
  renderer.render name (request.needsFilename groups) (request.passCases groups)
    (request.failCases groups)

/-- Alike groups of files give the same source. -/
theorem rendered_eq {groups others : CaseFile.Groups} (h : groups.Alike others)
    (hgroups : groups.IsLoaded) (hothers : others.IsLoaded) (renderer : Renderer)
    (name : RuleName) :
    request.rendered renderer name groups = request.rendered renderer name others := by
  have hpass : snippets (request.passCases groups) = snippets (request.passCases others) := by
    simp only [snippets, passCases, List.map_append, List.mapM_append,
      snippets_eq h.pass hgroups.1 hothers.1]
  have hfail : snippets (request.failCases groups) = snippets (request.failCases others) := by
    simp only [snippets, failCases, List.map_append, List.mapM_append,
      snippets_eq h.fail hgroups.2 hothers.2]
  have hneeds : request.needsFilename groups = request.needsFilename others := by
    simp only [needsFilename, anyFilename, passCases, failCases, List.any_cons, List.any_nil,
      List.map_append, List.any_append, any_hasFilename_eq h.pass, any_hasFilename_eq h.fail]
  rw [rendered, rendered, Renderer.render, Renderer.render, hpass, hfail, hneeds]

end NewRequest

/-- The element of the vector is a canonical form of a case: every case of JSON has one, and two of
them have the same one exactly if they are alike.  In particular options and settings are never
dropped, whatever they are.  And two case files that differ at most in the order of keys give the
same source, whatever else it is made from, or are refused for the same reason. -/
theorem snippets_are_canonical :
    (∀ a b : TestCase, a.IsJson → b.IsJson →
      ∃ s t, a.snippet = .ok s ∧ b.snippet = .ok t ∧ (s = t ↔ a.Alike b)) ∧
    (∀ (a : TestCase) (d : Datum), a.IsJson → d.IsJson → d ≠ .null →
      { a with options := d }.snippet ≠ { a with options := .null }.snippet ∧
      { a with settings := d }.snippet ≠ { a with settings := .null }.snippet) ∧
    ∀ {encoding encoding' : Text} {bytes bytes' : Bytes} {d e : Datum},
      CaseFile.Holds encoding bytes d → CaseFile.Holds encoding' bytes' e → d.Alike e →
        ∀ (path path' : Text) (request : NewRequest) (renderer : Renderer) (name : RuleName),
          (CaseFile.load path encoding bytes).map (request.rendered renderer name) =
            (CaseFile.load path' encoding' bytes').map (request.rendered renderer name) := by
  refine ⟨fun a b ha hb => ?_, fun a d ha hd hnull => ⟨fun hsame => ?_, fun hsame => ?_⟩, ?_⟩
  · obtain ⟨⟨s, hs, -⟩, -⟩ := ha.snippet_spec
    obtain ⟨⟨t, ht, -⟩, -⟩ := hb.snippet_spec
    refine ⟨s, t, hs, ht, fun hst => ?_, fun h => ?_⟩
    · exact TestCase.alike_of_snippet_eq ha hb (by rw [hs, ht, hst])
    · have hsame := h.snippet_eq ha.isLoaded hb.isLoaded
      rw [hs, ht] at hsame
      exact Except.ok.inj hsame
  · have h := TestCase.alike_of_snippet_eq (a := { a with options := d })
      (b := { a with options := .null }) ⟨hd, ha.settings⟩ ⟨.null, ha.settings⟩ hsame
    exact hnull (TestCase.alike_null.mp h.options)
  · have h := TestCase.alike_of_snippet_eq (a := { a with settings := d })
      (b := { a with settings := .null }) ⟨ha.options, hd⟩ ⟨ha.options, .null⟩ hsame
    exact hnull (TestCase.alike_null.mp h.settings)
  · intro encoding encoding' bytes bytes' d e hd he h path path' request renderer name
    have hagree := (CaseFile.agree_groups h hd.isLoaded he.isLoaded).mapError LoadCasesFault.file
    rw [← hd.load_eq path, ← he.load_eq path'] at hagree
    cases hload : CaseFile.load path encoding bytes with
    | error fault => cases hload' : CaseFile.load path' encoding' bytes' with
      | error other =>
          rw [hload, hload'] at hagree
          exact congrArg Except.error hagree
      | ok others =>
          rw [hload, hload'] at hagree
          exact absurd hagree id
    | ok groups => cases hload' : CaseFile.load path' encoding' bytes' with
      | error other =>
          rw [hload, hload'] at hagree
          exact absurd hagree id
      | ok others =>
          rw [hload, hload'] at hagree
          exact congrArg Except.ok (request.rendered_eq hagree (CaseFile.isLoaded_load hload)
            (CaseFile.isLoaded_load hload') renderer name)

/-! ## Keys in another order -/

/-- Options that say next to nothing. -/
def falsyOptions : Table := [(['a'], .bool false), (['b'], .list []), (['c'], .text [])]

/-- A case with these options, and with an empty file name. -/
def falsyCase : TestCase := ⟨['x'], .ofTable falsyOptions, .int 0, some []⟩

/-- The same case with the keys of the options in another order, and without a file name. -/
def relistedCase : TestCase := ⟨['x'], .ofTable falsyOptions.reverse, .int 0, none⟩

/-- The text of a case file with a case. -/
def listedText : Text :=
  ("\x7b\"pass\": [\x7b\"code\": \"x\", \"options\": \x7b\"a\": 0, \"b\": null\x7d" ++
    "\x7d]\x7d").toList

/-- The text of a case file with the same case, its keys in another order. -/
def relistedText : Text :=
  ("\x7b\"pass\": [\x7b\"options\": \x7b\"a\": 0, \"b\": null\x7d, \"code\": \"x\"" ++
    "\x7d]\x7d").toList

/-- What such a file holds, given the entries of the case. -/
def caseDatum (entries : Table) : Datum := .ofTable [("pass".toList, .list [.ofTable entries])]

/-- The entries of a case. -/
def caseEntries : Table :=
  [("code".toList, .text ['x']), ("options".toList, .ofTable [(['a'], .int 0), (['b'], .null)])]

theorem isJson_falsyOptions :
    (Datum.ofTable falsyOptions).IsJson ∧ (Datum.ofTable falsyOptions.reverse).IsJson := by
  have hitems : ∀ entry ∈ falsyOptions, entry.2.IsJson :=
    List.forall_mem_cons.mpr ⟨.bool false, List.forall_mem_cons.mpr
      ⟨.list (by simp), List.forall_mem_singleton.mpr (.text _)⟩⟩
  exact ⟨.table (by decide) hitems,
    .table (by decide) fun entry hentry => hitems entry (List.mem_reverse.mp hentry)⟩

theorem alike_caseDatum : (caseDatum caseEntries).Alike (caseDatum caseEntries.reverse) := by
  have hoptions : (Datum.ofTable [(['a'], .int 0), (['b'], .null)]).IsLoaded :=
    .table (by decide) (List.forall_mem_cons.mpr
      ⟨.int (by decide), List.forall_mem_singleton.mpr .null⟩)
  have hcase : (Datum.ofTable caseEntries).IsLoaded :=
    .table (by decide) (List.forall_mem_cons.mpr
      ⟨.text _, List.forall_mem_singleton.mpr hoptions⟩)
  refine .table (fun key => Iff.rfl) fun key x y hx hy => ?_
  obtain ⟨rfl, rfl⟩ :
      x = .list [.ofTable caseEntries] ∧ y = .list [.ofTable caseEntries.reverse] := by
    simp only [Table.get?, List.lookup_cons, List.lookup_nil] at hx hy
    split at hx <;> simp_all
  refine .list rfl fun n x y hx hy => ?_
  obtain ⟨hn, rfl⟩ := List.getElem?_eq_some_iff.mp hx
  obtain rfl : n = 0 := by simpa using hn
  obtain rfl : Datum.ofTable caseEntries.reverse = y := by simpa using hy
  exact Datum.alike_of_perm (List.reverse_perm _).symm hcase

/-- What is found by evaluation: what the two files hold. -/
theorem holds_listed :
    CaseFile.Holds "utf-8".toList (Utf8.encode listedText) (caseDatum caseEntries) ∧
    CaseFile.Holds "latin-1".toList (Utf8.encode relistedText)
      (caseDatum caseEntries.reverse) :=
  ⟨⟨listedText, by decide +kernel, by cbv⟩, ⟨relistedText, by decide +kernel, by cbv⟩⟩

theorem relisted_is_canonical :
    (falsyCase.IsJson ∧ relistedCase.IsJson ∧
      ∃ s t, falsyCase.snippet = .ok s ∧ relistedCase.snippet = .ok t ∧
        (s = t ↔ falsyCase.Alike relistedCase)) ∧
    (Datum.ofTable falsyOptions ≠ .null ∧
      { falsyCase with options := .ofTable falsyOptions }.snippet ≠
        { falsyCase with options := .null }.snippet) ∧
    (caseDatum caseEntries).Alike (caseDatum caseEntries.reverse) ∧
    ∀ (request : NewRequest) (renderer : Renderer) (name : RuleName),
      (CaseFile.load ['c'] "utf-8".toList (Utf8.encode listedText)).map (request.rendered renderer name) =
        (CaseFile.load ['d'] "latin-1".toList (Utf8.encode relistedText)).map
          (request.rendered renderer name) := by
  have hfalsy : falsyCase.IsJson := ⟨isJson_falsyOptions.1, .int (by decide)⟩
  have hrelisted : relistedCase.IsJson := ⟨isJson_falsyOptions.2, .int (by decide)⟩
  obtain ⟨hcanonical, hkept, hfiles⟩ := snippets_are_canonical
  refine ⟨⟨hfalsy, hrelisted, hcanonical _ _ hfalsy hrelisted⟩, ⟨by simp [Datum.ofTable], ?_⟩,
    alike_caseDatum, fun request renderer name => ?_⟩
  · exact (hkept falsyCase _ hfalsy isJson_falsyOptions.1 (by simp [Datum.ofTable])).1
  · exact hfiles holds_listed.1 holds_listed.2 alike_caseDatum _ _ request renderer name

end LintScaffold
