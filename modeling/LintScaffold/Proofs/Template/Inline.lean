import LintScaffold.Proofs.Command.TemplateFault
import LintScaffold.Proofs.Json.LineEnds
import LintScaffold.Proofs.Text.Utf8

/-!
# Templates in files and in settings

A template that stands in a file has its line ends unified when the file is read, and one that
stands in the settings has not.  But cutting a template begins with unifying its line ends, and to
unify them a second time changes nothing (`Text.unifyLines_unifyLines`).  So a text is as good a
template as what is read from a file that holds it: the plans are the same, and so are the faults,
with the places that they name (`Template.compile_unifyLines`).  Together with
`Utf8.decode_encode`, by which the file is read back, this is `Renderer.inline_agrees_with_file`.
-/

namespace LintScaffold

/-! ## Line ends that are unified -/

namespace Text

theorem return_notMem_unifyLines (text : Text) : '\r' ∉ unifyLines text := by
  fun_induction unifyLines text with
  | case1 => exact List.not_mem_nil
  | case2 rest ih => exact List.not_mem_cons_of_ne_of_not_mem (by decide) ih
  | case3 c rest hnext ih =>
      refine List.not_mem_cons_of_ne_of_not_mem (fun hc => ?_) ih
      split at hc
      · exact absurd hc (by decide)
      · rename_i hreturn
        exact hreturn hc.symm

theorem unifyLines_of_notMem {text : Text} (h : '\r' ∉ text) : unifyLines text = text := by
  have hpart := unifyLines_append (fun c hc hreturn => h (hreturn ▸ hc)) []
  rwa [List.append_nil, unifyLines, List.append_nil] at hpart

theorem unifyLines_unifyLines (text : Text) : unifyLines (unifyLines text) = unifyLines text :=
  unifyLines_of_notMem (return_notMem_unifyLines text)

end Text

namespace Template

theorem sourceOf_unifyLines (text : Text) : sourceOf (Text.unifyLines text) = sourceOf text := by
  unfold sourceOf
  rw [Text.unifyLines_unifyLines]

/-- What a template means does not depend on how its lines end. -/
theorem compile_unifyLines (text : Text) : compile (Text.unifyLines text) = compile text := by
  unfold compile parse tokenize
  rw [sourceOf_unifyLines]

end Template

/-! ## Files -/

/-- The files that the settings are about are read as UTF-8. -/
def TemplateSettings.ReadsUtf8 (settings : TemplateSettings) : Prop :=
  ∃ name, (if settings.encoding.isTruthy then settings.encoding
      else .text Renderer.standardEncoding) = .text name ∧
    Encoding.named name = .ok .utf8

theorem Encoding.read_encode {name : Text} (hname : named name = .ok .utf8) (text : Text) :
    read name (Utf8.encode text) = .ok (Text.unifyLines text) := by
  unfold read
  rw [hname, ok_bind, decode, Utf8.decode_encode]
  rfl

namespace Renderer

variable {tree : FileTree} {cwd : Place} {base : Option FilePath}

theorem ofText_unifyLines (text category : Text) :
    ofText (Text.unifyLines text) category = ofText text category := by
  unfold ofText
  rw [Template.compile_unifyLines]

/-- A template file is read up to its line ends. -/
theorem outcome_templateText_of_file {settings : TemplateSettings} {path : FilePath} {text : Text}
    (hpath : settings.PathIs cwd base path) (hencoding : settings.ReadsUtf8)
    (hfind : tree.find cwd path = .ok (.file (Utf8.encode text))) :
    (templateText settings cwd base).outcome tree cwd = .ok (Text.unifyLines text) := by
  obtain ⟨hnone, hgiven, hresolved⟩ := hpath
  obtain ⟨name, hname, hutf8⟩ := hencoding
  have hread := outcome_readFile_eq_ok.mpr ⟨name, _, hname, hfind, Encoding.read_encode hutf8 text⟩
  unfold templateText
  rw [if_neg (Bool.eq_false_iff.mp hnone), if_pos hgiven, hresolved, ← hread]
  exact Task.outcome_bind_of_ok rfl (oblivious_readFile path settings.encoding)

/-- A template that stands in the settings and a file that holds its UTF-8 encoding are the same
to whoever renders: the renderers that are built agree, or else the faults do, and with every call
the same rule is written or the same fault arises. -/
theorem inline_agrees_with_file {text : Text} (htext : text ≠ []) {inline filed : TemplateSettings}
    (hinline : inline.text = .text text) {path : FilePath} (hpath : filed.PathIs cwd base path)
    (hencoding : filed.ReadsUtf8) (hfind : tree.find cwd path = .ok (.file (Utf8.encode text)))
    (rule : RuleSettings) (inlineBase : Option FilePath) :
    (build inline rule cwd inlineBase).outcome tree cwd =
      (build filed rule cwd base).outcome tree cwd ∧
    ∀ (given : GivenName) (hasFilename : Bool) (pass fail : List CaseItem),
      ((build inline rule cwd inlineBase).outcome tree cwd).map
          (·.renderGiven given hasFilename pass fail) =
        ((build filed rule cwd base).outcome tree cwd).map
          (·.renderGiven given hasFilename pass fail) := by
  have hempty : text.isEmpty = false := List.isEmpty_eq_false_iff.mpr htext
  have hsame : (build inline rule cwd inlineBase).outcome tree cwd =
      (build filed rule cwd base).outcome tree cwd := by
    rw [outcome_build, outcome_build, outcome_templateText hinline hempty,
      outcome_templateText_of_file hpath hencoding hfind, ok_bind, ok_bind, ofText_unifyLines]
  exact ⟨hsame, fun given hasFilename pass fail => by rw [hsame]⟩

/-- Lines that end in three ways, and a mark that no template has, as the tenth character if each
end counts as one. -/
def strayText : Text := "a\r\nb\rc\n\x7b\x7b ! \x7d\x7d".toList

/-- The fault of this text. -/
def strayFault : Template.CompileFault := .mistake (.unexpectedChar '!' 9)

/-- A file `t` that holds this text. -/
def strayTree : FileTree := FileTree.empty.put [['t']] (.file (Utf8.encode strayText))

/-- What is found by evaluation: the fault of the text, and where its file is. -/
theorem stray_evaluated :
    (match Template.compile strayText with
      | .error fault => decide (fault = strayFault)
      | .ok _ => false) = true ∧
    FilePath.parse "/t".toList = ⟨.root, [['t']]⟩ ∧
    Encoding.named standardEncoding = .ok .utf8 ∧
    strayTree.find [] ⟨.root, [['t']]⟩ = .ok (.file (Utf8.encode strayText)) := by
  decide +kernel

/-- The stray mark is found at the same place in the settings and in the file. -/
theorem stray_mark_agrees :
    ∃ inline filed,
      TemplateSettings.ofTable [("text".toList, .text strayText)] = .ok inline ∧
      TemplateSettings.ofTable [("path".toList, .text "/t".toList)] = .ok filed ∧
      strayTree.find [] ⟨.root, [['t']]⟩ = .ok (.file (Utf8.encode strayText)) ∧
      (build inline .standard [] none).outcome strayTree [] = .error (.template strayFault) ∧
      (build filed .standard [] none).outcome strayTree [] = .error (.template strayFault) := by
  obtain ⟨hfault, hparse, hnamed, hfind⟩ := stray_evaluated
  let inline : TemplateSettings := { TemplateSettings.standard with text := .text strayText }
  let filed : TemplateSettings := { TemplateSettings.standard with path := .text "/t".toList }
  have hgiven : filed.path.path = .ok ⟨.root, [['t']]⟩ := congrArg Except.ok hparse
  have hpath : filed.PathIs [] none ⟨.root, [['t']]⟩ := by
    refine ⟨rfl, rfl, ?_⟩
    unfold TemplateSettings.resolvePath
    rw [hgiven]
    rfl
  have hcompile : Template.compile strayText = .error strayFault := by
    cases hresult : Template.compile strayText with
    | ok template =>
        rw [hresult] at hfault
        exact absurd hfault Bool.false_ne_true
    | error fault =>
        rw [hresult] at hfault
        rw [of_decide_eq_true hfault]
  have hsettings : (build inline .standard [] none).outcome strayTree [] =
      .error (.template strayFault) := by
    rw [outcome_build, outcome_templateText rfl (by decide), ok_bind, ofText, hcompile]
  have hsame := (inline_agrees_with_file (by decide : strayText ≠ []) (rfl : inline.text = _) hpath
    ⟨_, rfl, hnamed⟩ hfind .standard none).1
  exact ⟨inline, filed, rfl, rfl, hfind, hsettings, hsame.symm.trans hsettings⟩

end Renderer

end LintScaffold
