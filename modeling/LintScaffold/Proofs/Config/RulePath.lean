import LintScaffold.Config.Settings
import LintScaffold.Proofs.Path.Resolved
import LintScaffold.Proofs.Rule.ModuleName

/-!
# The files of rules

A rule has its file in the directory of its kind, which lies below the directory of all rules.  The
directory of all rules may be written in any way, so that nothing is known about its names.  But the
last two names of the path are known:

* the directory of a kind is one of a few words, and no two kinds share it;
* the snake form of an accepted name is made of letters, digits and underscores in any script, so
  that there is no slash in it, and with `.rs` behind it it is neither a point nor a step up.

Hence the path cannot lead out of the directory of the kind, and it tells both the kind and the
snake form.
-/

namespace LintScaffold

/-! ## Kinds -/

namespace RuleKind

theorem mem_all (kind : RuleKind) : kind ∈ all := by
  cases kind <;> decide

/-- The name of a kind is one of its spellings. -/
theorem parse_name (kind : RuleKind) : parse kind.name = .ok kind := by
  cases kind <;> decide +kernel

theorem directory_inj {kind other : RuleKind} : kind.directory = other.directory ↔ kind = other := by
  have hdistinct : ∀ kind ∈ all, ∀ other ∈ all, kind.directory = other.directory → kind = other := by
    decide
  exact ⟨hdistinct kind kind.mem_all other other.mem_all, fun h => h ▸ rfl⟩

theorem isStep_directory (kind : RuleKind) : FilePath.isStep kind.directory = true := by
  cases kind <;> decide

end RuleKind

/-! ## Files -/

/-- What the file of a rule is called. -/
def RuleName.fileName (name : RuleName) : Text := name.snake ++ ".rs".toList

namespace RuleName

theorem fileName_inj {name other : RuleName} :
    name.fileName = other.fileName ↔ name.snake = other.snake :=
  List.append_left_inj _

/-- There is no slash in what a file is called, whatever letters are in the name of the rule. -/
theorem slash_not_mem_fileName {given : Text} {name : RuleName} (h : parse given = .ok name) :
    '/' ∉ name.fileName := by
  have htype := (parse_eq_ok.mp h).1
  rw [fileName, snake_eq h, List.mem_append, mem_join (lowerWords_ne_nil htype)]
  rintro ((⟨word, hword, hslash⟩ | ⟨hmark, -⟩) | hend)
  · exact mark_not_mem htype (by decide) word hword hslash
  · exact absurd hmark (by decide)
  · exact absurd hend (by decide)

theorem length_fileName (name : RuleName) : name.fileName.length = name.snake.length + 3 := by
  rw [fileName, List.length_append]
  rfl

theorem fileName_ne_point (name : RuleName) : name.fileName ≠ ['.'] := by
  intro h
  have hlength := congrArg List.length h
  rw [length_fileName] at hlength
  simp at hlength

theorem fileName_ne_up (name : RuleName) : name.fileName ≠ FilePath.up := by
  intro h
  have hlength := congrArg List.length h
  rw [length_fileName] at hlength
  simp [FilePath.up] at hlength

theorem isStep_fileName (name : RuleName) : FilePath.isStep name.fileName = true := by
  have hne : name.fileName ≠ [] := by simp [fileName]
  exact FilePath.isStep_eq_true_iff.mpr ⟨hne, name.fileName_ne_point⟩

end RuleName

/-- The directory of a kind below the directory of all rules. -/
def FilePath.ofKind (root : FilePath) (kind : RuleKind) : FilePath :=
  ⟨root.anchor, root.names ++ [kind.directory]⟩

namespace OutputSettings

variable {settings : OutputSettings} {dir : Text}

theorem ruleFile_eq (root : FilePath) (kind : RuleKind) (name : RuleName) :
    ruleFile root kind name =
      ⟨root.anchor, root.names ++ [kind.directory, name.fileName]⟩ := by
  rw [ruleFile, FilePath.child, FilePath.child, if_pos kind.isStep_directory, ← RuleName.fileName,
    if_pos name.isStep_fileName]
  simp

theorem parent_ruleFile (root : FilePath) (kind : RuleKind) (name : RuleName) :
    (ruleFile root kind name).parent = root.ofKind kind := by
  rw [ruleFile_eq, FilePath.parent, FilePath.ofKind]
  simp [List.dropLast_append_of_ne_nil]

/-- The path tells the kind and the snake form. -/
theorem ruleFile_inj {root : FilePath} {kind other : RuleKind} {name next : RuleName} :
    ruleFile root kind name = ruleFile root other next ↔
      kind = other ∧ name.snake = next.snake := by
  rw [ruleFile_eq, ruleFile_eq, FilePath.mk.injEq, List.append_right_inj, List.cons.injEq,
    List.cons.injEq, RuleKind.directory_inj, RuleName.fileName_inj]
  simp

theorem rulePath_of_text (h : settings.rulesDir = .text dir) (base : FilePath) (kind : RuleKind)
    (name : RuleName) :
    settings.rulePath base kind name = .ok (ruleFile (base.append (.parse dir)) kind name) := by
  rw [rulePath, rulesRoot, h]
  rfl

/-- A kind can be named in any of its spellings. -/
theorem rulePathNamed_of_parse (settings : OutputSettings) (base : FilePath) {spelling : Text}
    {kind : RuleKind} (hkind : RuleKind.parse spelling = .ok kind) (name : RuleName) :
    settings.rulePathNamed base spelling name =
      (settings.rulePath base kind name).mapError .noPath := by
  rw [rulePathNamed, rulePath, hkind]
  cases settings.rulesRoot base with
  | ok root => rfl
  | error fault => rfl

end OutputSettings
end LintScaffold
