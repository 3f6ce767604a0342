import LintScaffold.Proofs.Command.Arguments
import LintScaffold.Proofs.Command.Conclusion

/-!
# What a run reads

The command that makes a rule looks at no more than three files before it decides: its
configuration, its cases, and the template that the configuration names.  Each of them is read as
a whole, and what is made of it depends on nothing but its content.  So each reading is described
by one equivalence: it has a result exactly if the path leads to a file, and its content is in
order.

Hence what a run has found out in one tree it finds out in any other tree that has the same three
files, whatever else is there; see `NewRequest.Finds.mono`.
-/

namespace LintScaffold

variable {tree other : FileTree} {cwd : Place} {path : FilePath}

/-! ## Single files -/

namespace Inquiry

theorem answer_isFile_eq_true :
    (isFile path).answer tree cwd = .ok true ↔
      ∃ content, tree.find cwd path = .ok (.file content) := by
  unfold isFile
  rw [answer_bind, answer_look]
  split <;> simp_all

theorem answer_read_eq_ok {content : Bytes} :
    (read path).answer tree cwd = .ok content ↔ tree.find cwd path = .ok (.file content) := by
  unfold read
  rw [answer_bind, answer_look]
  split <;> simp_all

theorem answer_isThere_eq_true :
    (isThere path).answer tree cwd = .ok true ↔ ∃ node, tree.find cwd path = .ok node := by
  unfold isThere
  rw [answer_bind, answer_look]
  split <;> simp_all

end Inquiry

/-- What is loaded from a file that is there is what its content says. -/
theorem Config.outcome_load {content : Bytes}
    (hfind : tree.find cwd path = .ok (.file content)) :
    (Config.load path).outcome tree cwd = Config.ofBytes path.parent content := by
  have hfile := Inquiry.answer_isFile_eq_true.mpr ⟨content, hfind⟩
  have hread := Inquiry.answer_read_eq_ok.mpr hfind
  refine (Task.outcome_bind_of_ok (Task.outcome_tryAsk_of_ok hfile)
    (.bind (.tryAsk _ _) fun _ => .check _ _)).trans ?_
  refine (Task.outcome_bind_of_ok (Task.outcome_tryAsk_of_ok hread) (.check _ _)).trans ?_
  rw [Task.outcome_check]
  cases Config.ofBytes path.parent content <;> rfl

/-- A configuration is loaded from a file with the right content, and from nothing else. -/
theorem Config.outcome_load_eq_ok {config : Config} :
    (Config.load path).outcome tree cwd = .ok config ↔
      ∃ content, tree.find cwd path = .ok (.file content) ∧
        Config.ofBytes path.parent content = .ok config := by
  constructor
  · intro h
    obtain ⟨there, -, h⟩ := (Task.yields_of_outcome h).bind
    split at h
    · exact absurd h (Task.not_yields_stop _ _)
    · obtain ⟨content, hcontent, h⟩ := h.bind
      exact ⟨content, Inquiry.answer_read_eq_ok.mp hcontent.tryAsk, Task.yields_check.mp h⟩
  · rintro ⟨content, hfind, hbytes⟩
    exact (Config.outcome_load hfind).trans hbytes

theorem outcome_requireFile_of_find {description : Text} {node : Node}
    (h : tree.find cwd path = .ok node) :
    (requireFile description path).outcome tree cwd = .ok () := by
  have hthere := Inquiry.answer_isThere_eq_true.mpr ⟨node, h⟩
  exact Task.outcome_bind_of_ok (Task.outcome_tryAsk_of_ok hthere) (.pure ())

namespace CaseFile

/-- Where a path leads to a file, the cases are those of its content. -/
theorem outcome_loadFrom {content : Bytes} (hfind : tree.find cwd path = .ok (.file content))
    (encoding : Text) :
    (loadFrom path (.text encoding)).outcome tree cwd =
      (load path.text encoding content).mapError .content := by
  have hread := Inquiry.answer_read_eq_ok.mpr hfind
  have hrequired : (Task.rephrase LoadFault.required
      (requireFile "case file".toList path)).outcome tree cwd = .ok () := by
    rw [Task.outcome_rephrase _ (oblivious_requireFile _ _), outcome_requireFile_of_find hfind]
    rfl
  refine (Task.outcome_bind_of_ok hrequired ?_).trans ?_
  · exact .bind (.tryAsk _ _) fun _ => .bind (.check _ _) fun _ =>
      .bind (.report _ _ _) fun _ => .pure _
  · refine (Task.outcome_bind_of_ok (Task.outcome_tryAsk_of_ok hread)
      (.bind (.check _ _) fun _ => .bind (.report _ _ _) fun _ => .pure _)).trans ?_
    rw [Task.outcome_bind fun _ => .bind (.report _ _ _) fun _ => .pure _, Task.outcome_check]
    cases load path.text encoding content with
    | ok groups => rfl
    | error fault => rfl

/-- Cases are loaded from a file with the right content, and from nothing else. -/
theorem outcome_loadFrom_eq_ok {encoding : Datum} {groups : Groups} :
    (loadFrom path encoding).outcome tree cwd = .ok groups ↔
      ∃ name content, encoding = .text name ∧ tree.find cwd path = .ok (.file content) ∧
        load path.text name content = .ok groups := by
  constructor
  · intro h
    obtain ⟨_, -, hyields⟩ := (Task.yields_of_outcome h).bind
    split at hyields
    · rename_i name
      obtain ⟨content, hcontent, -⟩ := hyields.bind
      have hfind := Inquiry.answer_read_eq_ok.mp hcontent.tryAsk
      rw [outcome_loadFrom hfind, mapError_eq_ok] at h
      exact ⟨name, content, rfl, hfind, h⟩
    · exact absurd hyields (Task.not_yields_stop _ _)
  · rintro ⟨name, content, rfl, hfind, hload⟩
    rw [outcome_loadFrom hfind, hload]
    rfl

end CaseFile

namespace Renderer

/-- A template is read from a file with the right content, and from nothing else. -/
theorem outcome_readFile_eq_ok {encoding : Datum} {text : Text} :
    (readFile path encoding).outcome tree cwd = .ok text ↔
      ∃ name content,
        (if encoding.isTruthy then encoding else .text standardEncoding) = .text name ∧
        tree.find cwd path = .ok (.file content) ∧ Encoding.read name content = .ok text := by
  constructor
  · intro h
    obtain ⟨there, -, h⟩ := (Task.yields_of_outcome h).bind
    dsimp only at h
    split at h
    · exact absurd h (Task.not_yields_stop_bind _ _ _)
    · obtain ⟨-, -, h⟩ := h.bind
      split at h
      · rename_i name hname
        obtain ⟨content, hcontent, h⟩ := h.bind
        exact ⟨name, content, hname, Inquiry.answer_read_eq_ok.mp hcontent.tryAsk,
          Task.yields_check.mp h⟩
      · exact absurd h (Task.not_yields_stop _ _)
  · rintro ⟨name, content, hname, hfind, hread⟩
    have hthere := Inquiry.answer_isThere_eq_true.mpr ⟨_, hfind⟩
    have hcontent := Inquiry.answer_read_eq_ok.mpr hfind
    unfold readFile
    rw [hname]
    refine (Task.outcome_bind_of_ok (Task.outcome_tryAsk_of_ok hthere)
      (.bind (.report _ _ _) fun _ => .bind (.tryAsk _ _) fun _ => .check _ _)).trans ?_
    refine (Task.outcome_bind_of_ok (Task.outcome_report _ _ _)
      (.bind (.tryAsk _ _) fun _ => .check _ _)).trans ?_
    refine (Task.outcome_bind_of_ok (Task.outcome_tryAsk_of_ok hcontent) (.check _ _)).trans ?_
    exact Task.outcome_check_of_ok hread

end Renderer

/-- The path is that of a template file: one is configured, and no text stands in for it. -/
def TemplateSettings.PathIs (settings : TemplateSettings) (cwd : Place) (base : Option FilePath)
    (path : FilePath) : Prop :=
  settings.text.isTruthy = false ∧ settings.path.isTruthy = true ∧
    settings.resolvePath cwd base settings.path = .ok path

namespace Renderer

variable {settings : TemplateSettings} {base : Option FilePath}

/-- A renderer is built from the text of the template. -/
theorem outcome_build (rule : RuleSettings) :
    (build settings rule cwd base).outcome tree cwd =
      (templateText settings cwd base).outcome tree cwd >>= (ofText · rule.category) := by
  have hreport : ∀ (text : Text) (renderer : Renderer), Task.Oblivious (do
      Task.report .debug .renderer
        (Text.join [] ["Created rule renderer using template (".toList, Text.ofNat text.length,
          " chars, category=".toList, rule.category, ")".toList])
      return renderer : Task RendererFault Renderer) := fun text renderer =>
    .bind (.report _ _ _) fun _ => .pure _
  unfold build
  rw [Task.outcome_bind fun text => .bind (.check _ _) (hreport text)]
  congr 1
  funext text
  rw [Task.outcome_bind (hreport text), Task.outcome_check]
  cases ofText text rule.category with
  | ok renderer => rfl
  | error fault => rfl

end Renderer

/-! ## Values that name files -/

/-- Both trees have the same file at a path, if the first one has a file there. -/
def FileTree.SharesFile (tree other : FileTree) (cwd : Place) (path : FilePath) : Prop :=
  ∀ content, tree.find cwd path = .ok (.file content) → other.find cwd path = .ok (.file content)

/-- A value names a file that is there. -/
theorem Step.outcome_existingFile_eq_ok {form : OptionForm} {value : Text} :
    (Step.existingFile cwd form value).outcome tree cwd = .ok path ↔
      (FilePath.parse value).hasNul = false ∧ (FilePath.parse value).resolve cwd = path ∧
        ∃ content, tree.find cwd path = .ok (.file content) := by
  constructor
  · intro h
    have hyields := Task.yields_of_outcome h
    unfold Step.existingFile at hyields
    dsimp only at hyields
    split at hyields
    · exact absurd hyields (Task.not_yields_stop_bind _ _ _)
    · rename_i hnul
      obtain ⟨finding, hfinding, hyields⟩ := hyields.bind
      have hfind := hfinding.ask
      rw [Inquiry.answer_look] at hfind
      split at hyields
      · rename_i content
        obtain rfl := Task.yields_pure.mp hyields
        exact ⟨Bool.eq_false_iff.mpr hnul, rfl, content, hfind⟩
      · exact absurd hyields (Task.not_yields_stop _ _)
      · exact absurd hyields (Task.not_yields_stop _ _)
  · rintro ⟨hnul, rfl, content, hfind⟩
    unfold Step.existingFile
    dsimp only
    rw [hnul, if_neg Bool.false_ne_true]
    refine (Task.outcome_bind_of_ok (Task.outcome_ask _) ?_).trans ?_
    · rw [Inquiry.answer_look, hfind]
      exact .pure _
    · rw [Inquiry.answer_look, hfind]
      rfl

namespace NewRequest

variable {request : NewRequest} {config : Config} {name : RuleName} {text : Text}

/-- The path is that of a file that the request is to read: its configuration, its cases, or the
template that its configuration names. -/
inductive IsInput (request : NewRequest) (tree : FileTree) (cwd : Place) (path : FilePath) : Prop
  | config (h : request.config = some path)
  | cases (h : request.cases = some path)
  | template {config : Config} (hloaded : request.loadConfig.outcome tree cwd = .ok config)
      (h : config.template.PathIs cwd request.folder? path)

/-- A request loads the standard configuration, or that of its file. -/
theorem outcome_loadConfig_eq_ok :
    request.loadConfig.outcome tree cwd = .ok config ↔
      (request.config = none ∧ config = .standard) ∨
      ∃ path content, request.config = some path ∧
        tree.find cwd path = .ok (.file content) ∧
        Config.ofBytes path.parent content = .ok config := by
  unfold loadConfig
  cases request.config with
  | none => simp [eq_comm]
  | some path =>
      have hload := Config.oblivious_load path
      rw [Task.outcome_bind fun _ => .bind (.report _ _ _) fun _ => .pure _,
        Step.outcome_settle _ _ hload, bind_eq_ok]
      simp only [mapError_eq_ok, Config.outcome_load_eq_ok]
      constructor
      · rintro ⟨found, ⟨content, hfind, hbytes⟩, hfound⟩
        obtain rfl : found = config := Except.ok.inj hfound
        exact .inr ⟨path, content, rfl, hfind, hbytes⟩
      · rintro (⟨hnone, -⟩ | ⟨found, content, hfound, hfind, hbytes⟩)
        · simp at hnone
        · obtain rfl := Option.some.inj hfound
          exact ⟨config, ⟨content, hfind, hbytes⟩, rfl⟩

/-- A request loads no cases, or those of its file. -/
theorem outcome_loadCases_eq_ok {groups : CaseFile.Groups} :
    (request.loadCases config).outcome tree cwd = .ok groups ↔
      (request.cases = none ∧ groups = ⟨[], []⟩) ∨
      ∃ path encoding content, request.cases = some path ∧
        config.template.encoding = .text encoding ∧ tree.find cwd path = .ok (.file content) ∧
        CaseFile.load path.text encoding content = .ok groups := by
  unfold loadCases
  cases request.cases with
  | none => simp [eq_comm]
  | some path =>
      dsimp only
      rw [Step.outcome_settle _ _ (CaseFile.oblivious_loadFrom _ _), mapError_eq_ok,
        CaseFile.outcome_loadFrom_eq_ok]
      simp

/-! ### The same files in another tree -/

theorem loadConfig_mono (h : request.loadConfig.outcome tree cwd = .ok config)
    (hshares : ∀ path, request.config = some path → tree.SharesFile other cwd path) :
    request.loadConfig.outcome other cwd = .ok config := by
  rw [outcome_loadConfig_eq_ok] at h ⊢
  obtain hstandard | ⟨path, content, hpath, hfind, hbytes⟩ := h
  · exact .inl hstandard
  · exact .inr ⟨path, content, hpath, hshares path hpath content hfind, hbytes⟩

end NewRequest
end LintScaffold
