import LintScaffold.Config.Settings
import LintScaffold.Proofs.Attempt
import LintScaffold.Proofs.Path.Growth
import LintScaffold.Proofs.Text.Pieces

/-!
# Resolved paths

A relative path is resolved by going along its names from a base, and every step up undoes the step
before.  At the root there is no step to undo, so that climbing further stays there.  What comes out
is in normal form (`IsNormal`): it starts at the root, and its names are such as files and
directories have.  A path in normal form is not changed by resolving it again, and its written form
is read as the path.

Without links the resolved path is the place that the path leads to, in every file tree in which it
leads anywhere (`FileTree.names_resolve_of_locate`): directories are left by the way that led into
them.

The one obstacle is a NUL, which no name of a file has.  A text with a NUL is read as a path all the
same, but such a path cannot be resolved.
-/

namespace LintScaffold

namespace FilePath

variable {cwd : Place}

/-! ## Names -/

/-- A name that a file or directory can have. -/
structure IsName (name : Text) : Prop where
  ne_nil : name ≠ []
  ne_point : name ≠ ['.']
  ne_up : name ≠ up
  noSlash : '/' ∉ name

theorem isStep_eq_true_iff {name : Text} : isStep name = true ↔ name ≠ [] ∧ name ≠ ['.'] := by
  simp [isStep]

/-- The names of a path that is read are names of files and directories, or steps up. -/
theorem isName_of_mem_parse {text name : Text} (h : name ∈ (parse text).names) (hup : name ≠ up) :
    IsName name := by
  obtain ⟨hpiece, hstep⟩ := List.mem_filter.mp h
  obtain ⟨hne, hpoint⟩ := isStep_eq_true_iff.mp hstep
  exact ⟨hne, hpoint, hup, Text.notMem_of_mem_splitAt hpiece⟩

/-- Of the characters of a text only slashes and points are lost where it is read as a path. -/
theorem count_names {c : Char} (hslash : c ≠ '/') (hpoint : c ≠ '.') (text : Text) :
    (parse text).names.flatten.count c = text.count c := by
  have hfilter : ∀ names : List Text,
      (names.filter isStep).flatten.count c = names.flatten.count c := by
    intro names
    induction names with
    | nil => rfl
    | cons name rest ih =>
        rw [List.filter_cons, List.flatten_cons, List.count_append]
        split
        · rw [List.flatten_cons, List.count_append, ih]
        · rename_i hstep
          have hnone : name.count c = 0 := by
            rw [isStep_eq_true_iff, not_and_or, not_not, not_not] at hstep
            rcases hstep with rfl | rfl
            · rfl
            · rw [List.count_singleton, if_neg (by simpa using Ne.symm hpoint)]
          omega
  exact (hfilter _).trans (Text.count_flatten_splitAt hslash text)

theorem hasNul_parse (text : Text) : (parse text).hasNul = true ↔ Char.ofNat 0 ∈ text := by
  have hcount := count_names (c := Char.ofNat 0) (by decide) (by decide) text
  rw [← List.count_pos_iff, ← hcount, List.count_pos_iff, List.mem_flatten]
  simp [hasNul]

/-! ## Normal form -/

/-- The path starts at the root, and all its names are names of files and directories. -/
structure IsNormal (path : FilePath) : Prop where
  anchor : path.anchor = .root
  named : ∀ name ∈ path.names, IsName name

theorem IsNormal.isAbsolute {path : FilePath} (h : path.IsNormal) : path.isAbsolute = true := by
  rw [FilePath.isAbsolute, h.anchor]
  rfl

/-- A single slash in front is the root. -/
theorem anchorOf_slash {c : Char} (hc : c ≠ '/') (rest : Text) :
    anchorOf ('/' :: c :: rest) = .root := by
  unfold anchorOf
  split
  · rfl
  · rename_i heq
    exact absurd (List.cons.inj (List.cons.inj heq).2).1 hc
  · rfl
  · rename_i hother
    exact absurd rfl (hother _)

/-- A path in normal form is read from its written form. -/
theorem IsNormal.parse_text {path : FilePath} (h : path.IsNormal) : parse path.text = path := by
  obtain ⟨anchor, names⟩ := path
  obtain rfl : anchor = .root := h.anchor
  have hnamed : ∀ name ∈ names, IsName name := h.named
  cases names with
  | nil => rfl
  | cons first rest =>
      have htext : text ⟨.root, first :: rest⟩ = '/' :: Text.join ['/'] (first :: rest) := rfl
      have hpieces : Text.splitAt '/' (Text.join ['/'] (first :: rest)) = first :: rest :=
        Text.splitAt_join (List.cons_ne_nil first rest) fun name hname =>
          (hnamed name hname).noSlash
      have hanchor : anchorOf ('/' :: Text.join ['/'] (first :: rest)) = .root := by
        obtain ⟨hne, -, -, hslash⟩ := hnamed first List.mem_cons_self
        obtain ⟨c, more, rfl⟩ := List.exists_cons_of_ne_nil hne
        rw [List.mem_cons, not_or] at hslash
        cases rest <;> exact anchorOf_slash (Ne.symm hslash.1) _
      have hsteps : (first :: rest).filter isStep = first :: rest := by
        rw [List.filter_eq_self]
        intro name hname
        exact isStep_eq_true_iff.mpr ⟨(hnamed name hname).ne_nil, (hnamed name hname).ne_point⟩
      rw [htext, parse, hanchor, Text.splitAt, if_pos rfl, hpieces, List.filter_cons, hsteps]
      rfl

/-! ## Resolving -/

theorem mem_follow {place : Place} {names : List Text} {name : Text}
    (h : name ∈ follow place names) : name ∈ place ∨ name ∈ names ∧ name ≠ up := by
  induction names generalizing place with
  | nil => exact .inl h
  | cons next rest ih =>
      rw [follow, List.foldl_cons] at h
      rcases ih h with hstep | ⟨hrest, hup⟩
      · rw [step] at hstep
        split at hstep
        · exact .inl (List.dropLast_subset place hstep)
        · rename_i hnext
          rw [List.mem_append, List.mem_singleton] at hstep
          rcases hstep with hplace | rfl
          · exact .inl hplace
          · exact .inr ⟨List.mem_cons_self, hnext⟩
      · exact .inr ⟨List.mem_cons_of_mem next hrest, hup⟩

/-- Going along names without steps up appends them. -/
theorem follow_of_notMem {names : List Text} (h : up ∉ names) (place : Place) :
    follow place names = place ++ names := by
  induction names generalizing place with
  | nil => rw [follow, List.foldl_nil, List.append_nil]
  | cons name rest ih =>
      rw [List.mem_cons, not_or] at h
      rw [follow, List.foldl_cons, ← follow, step, if_neg (Ne.symm h.1), ih h.2, List.append_assoc,
        List.singleton_append]

theorem names_resolve (cwd : Place) (path : FilePath) :
    (path.resolve cwd).names = follow (if path.isAbsolute then [] else cwd) path.names := by
  obtain ⟨anchor, names⟩ := path
  cases anchor <;> rfl

theorem isAbsolute_resolve (cwd : Place) (path : FilePath) :
    (path.resolve cwd).isAbsolute = true := by
  rw [isAbsolute, resolve_anchor]
  rfl

theorem isNormal_resolve (hcwd : ∀ name ∈ cwd, IsName name) {path : FilePath}
    (hpath : ∀ name ∈ path.names, name ≠ up → IsName name) : (path.resolve cwd).IsNormal where
  anchor := resolve_anchor cwd path
  named := by
    intro name hname
    rw [names_resolve] at hname
    rcases mem_follow hname with hstart | ⟨hname, hup⟩
    · split at hstart
      · exact absurd hstart List.not_mem_nil
      · exact hcwd name hstart
    · exact hpath name hname hup

theorem IsNormal.resolve_eq {path : FilePath} (h : path.IsNormal) (cwd : Place) :
    path.resolve cwd = path := by
  have hup : up ∉ path.names := fun hup => (h.named up hup).ne_up rfl
  have hnames : (path.resolve cwd).names = path.names := by
    rw [names_resolve, h.isAbsolute, if_pos rfl, follow_of_notMem hup, List.nil_append]
  have hanchor : (path.resolve cwd).anchor = path.anchor :=
    (resolve_anchor cwd path).trans h.anchor.symm
  cases hresolved : path.resolve cwd
  simp_all

/-! ## Resolving from a base -/

/-- A path is resolved from a base unless it is absolute, or there is a NUL in the way. -/
theorem resolveFrom_eq_ok {base path target : FilePath} :
    resolveFrom cwd base path = .ok target ↔
      (path.isAbsolute = true ∧ path = target) ∨
      (path.isAbsolute = false ∧ (base.append path).hasNul = false ∧
        (base.append path).resolve cwd = target) := by
  unfold resolveFrom
  cases habsolute : path.isAbsolute with
  | true => simp
  | false => cases hnul : (base.append path).hasNul <;> simp [hnul]

theorem hasNul_append {base path : FilePath} (hpath : path.isAbsolute = false) :
    (base.append path).hasNul = (base.hasNul || path.hasNul) := by
  rw [append, if_neg (Bool.eq_false_iff.mp hpath), hasNul, List.any_append, hasNul, hasNul]

theorem isAbsolute_of_resolveFrom {base path target : FilePath}
    (h : resolveFrom cwd base path = .ok target) : target.isAbsolute = true := by
  rcases resolveFrom_eq_ok.mp h with ⟨habsolute, rfl⟩ | ⟨-, -, rfl⟩
  · exact habsolute
  · exact isAbsolute_resolve cwd _

theorem resolveFrom_of_isAbsolute {path : FilePath} (h : path.isAbsolute = true) (cwd : Place)
    (base : FilePath) : resolveFrom cwd base path = .ok path :=
  resolveFrom_eq_ok.mpr (.inl ⟨h, rfl⟩)

theorem isNormal_of_resolveFrom {base path : Text} {target : FilePath}
    (hcwd : ∀ name ∈ cwd, IsName name) (hpath : (parse path).isAbsolute = false)
    (h : resolveFrom cwd (parse base) (parse path) = .ok target) : target.IsNormal := by
  rcases resolveFrom_eq_ok.mp h with ⟨habsolute, -⟩ | ⟨-, -, rfl⟩
  · simp [hpath] at habsolute
  · refine isNormal_resolve hcwd fun name hname hup => ?_
    rw [append, if_neg (Bool.eq_false_iff.mp hpath), List.mem_append] at hname
    rcases hname with hbase | hname
    · exact isName_of_mem_parse hbase hup
    · exact isName_of_mem_parse hname hup

end FilePath

/-- Walking down a tree reaches the place that the names alone give. -/
theorem FileTree.follow_of_foldlM {tree : FileTree} {names : List Text} {start place : Place}
    (h : names.foldlM tree.enter start = .ok place) : FilePath.follow start names = place := by
  induction names generalizing start with
  | nil => exact Except.ok.inj h
  | cons name rest ih =>
      obtain ⟨next, hnext, hrest⟩ := bind_eq_ok.mp h
      have hstep : FilePath.step start name = next := by
        have hsteps := (FileTree.enter_eq_ok.mp hnext).2
        rw [FilePath.step]
        by_cases hup : name = FilePath.up
        · rw [if_pos hup] at hsteps ⊢
          exact hsteps.symm
        · rw [if_neg hup] at hsteps ⊢
          exact hsteps.2.symm
      rw [FilePath.follow, List.foldl_cons, hstep]
      exact ih hrest

/-- Without links a path leads to the place that it is resolved to, if it leads anywhere. -/
theorem FileTree.names_resolve_of_locate {tree : FileTree} {cwd place : Place} {path : FilePath}
    (h : tree.locate cwd path = .ok place) : (path.resolve cwd).names = place := by
  rw [FilePath.names_resolve]
  exact follow_of_foldlM (locate_eq_ok h)

/-- The path of a template is resolved as any other path, whatever the settings. -/
theorem TemplateSettings.resolvePath_text (settings : TemplateSettings) (cwd : Place)
    (base : FilePath) (path : Text) :
    settings.resolvePath cwd (some base) (.text path) =
      (FilePath.resolveFrom cwd base (.parse path)).mapError .nul := by
  unfold resolvePath
  rw [Datum.path, ok_mapError, ok_bind]
  split
  · rename_i habsolute
    rw [FilePath.resolveFrom_of_isAbsolute habsolute]
    rfl
  · rfl

namespace FilePath

variable {cwd : Place}

/-- A relative path without a NUL is resolved from a base, also as the path of a template: to a path
in normal form, which does not change when it is resolved again, from its written form or not, and
which is the place that the path leads to from the base.  With a NUL in the base or in the path
there is no such path. -/
theorem relative_path_resolves (hcwd : ∀ name ∈ cwd, IsName name) {base path : Text}
    (hpath : (parse path).isAbsolute = false) (settings : TemplateSettings) :
    (Char.ofNat 0 ∉ base → Char.ofNat 0 ∉ path → ∃ resolved,
      resolveFrom cwd (parse base) (parse path) = .ok resolved ∧
      settings.resolvePath cwd (some (parse base)) (.text path) = .ok resolved ∧
      resolved.IsNormal ∧
      (∀ later other, resolveFrom later other resolved = .ok resolved ∧
        resolveFrom later other (parse resolved.text) = .ok resolved ∧
        resolved.resolve later = resolved) ∧
      ∀ tree : FileTree, ∀ place, tree.locate cwd ((parse base).append (parse path)) = .ok place →
        resolved.names = place) ∧
    (Char.ofNat 0 ∈ base ∨ Char.ofNat 0 ∈ path →
      resolveFrom cwd (parse base) (parse path) = .error .mk ∧
      settings.resolvePath cwd (some (parse base)) (.text path) = .error (.nul .mk)) := by
  have hwhole : ((parse base).append (parse path)).hasNul = true ↔
      Char.ofNat 0 ∈ base ∨ Char.ofNat 0 ∈ path := by
    rw [hasNul_append hpath, Bool.or_eq_true, hasNul_parse, hasNul_parse]
  rw [settings.resolvePath_text]
  refine ⟨fun hbase hname => ?_, fun hnul => ?_⟩
  · have hfree : ((parse base).append (parse path)).hasNul = false := by
      rw [Bool.eq_false_iff, Ne, hwhole]
      exact not_or.mpr ⟨hbase, hname⟩
    have hresolved : resolveFrom cwd (parse base) (parse path) =
        .ok (((parse base).append (parse path)).resolve cwd) :=
      resolveFrom_eq_ok.mpr (.inr ⟨hpath, hfree, rfl⟩)
    have hnormal := isNormal_of_resolveFrom hcwd hpath hresolved
    refine ⟨_, hresolved, by rw [hresolved, ok_mapError], hnormal, fun later other => ?_,
      fun tree place hplace => FileTree.names_resolve_of_locate hplace⟩
    have hagain := resolveFrom_of_isAbsolute hnormal.isAbsolute later other
    exact ⟨hagain, hnormal.parse_text.symm ▸ hagain, hnormal.resolve_eq later⟩
  · have herror : resolveFrom cwd (parse base) (parse path) = .error .mk := by
      rw [resolveFrom, if_neg (Bool.eq_false_iff.mp hpath)]
      exact if_pos (hwhole.mpr hnul)
    rw [herror]
    exact ⟨rfl, rfl⟩

/-! ### A path that climbs above the root -/

def climbingBase : Text := "below/./here".toList

def climbingPath : Text := "../../../../aside//../file/".toList

/-- The directories on its way. -/
def climbingTree : FileTree :=
  ⟨[(["home".toList], .directory), (["home".toList, "below".toList], .directory),
    (["home".toList, "below".toList, "here".toList], .directory),
    (["aside".toList], .directory)]⟩

theorem climbing_resolves :
    (∀ name ∈ ["home".toList], IsName name) ∧ (parse climbingPath).isAbsolute = false ∧
    (Char.ofNat 0 ∉ climbingBase ∧ Char.ofNat 0 ∉ climbingPath) ∧
    (climbingTree.locate ["home".toList] ((parse climbingBase).append (parse climbingPath)) =
        .ok ["file".toList] ∧
      resolveFrom ["home".toList] (parse climbingBase) (parse climbingPath) =
        .ok ⟨.root, ["file".toList]⟩ ∧
      TemplateSettings.standard.resolvePath ["home".toList] (some (parse climbingBase))
        (.text climbingPath) = .ok ⟨.root, ["file".toList]⟩) ∧
    (Char.ofNat 0 ∈ [Char.ofNat 0] ∧
      resolveFrom ["home".toList] (parse [Char.ofNat 0]) (parse climbingPath) = .error .mk) := by
  have hcwd : ∀ name ∈ ["home".toList], IsName name := by
    intro name hname
    obtain rfl := List.mem_singleton.mp hname
    exact ⟨by decide, by decide, by decide, by decide⟩
  have hpath : (parse climbingPath).isAbsolute = false := by decide
  have hfree : Char.ofNat 0 ∉ climbingBase ∧ Char.ofNat 0 ∉ climbingPath := by decide
  have hplace : climbingTree.locate ["home".toList]
      ((parse climbingBase).append (parse climbingPath)) = .ok ["file".toList] := by
    decide +kernel
  obtain ⟨resolved, hresolved, htemplate, hnormal, -, hleads⟩ :=
    (relative_path_resolves hcwd hpath .standard).1 hfree.1 hfree.2
  have hsame : resolved = ⟨.root, ["file".toList]⟩ := by
    have hnames := hleads climbingTree _ hplace
    have hanchor := hnormal.anchor
    cases resolved
    simp_all
  subst hsame
  exact ⟨hcwd, hpath, hfree, ⟨hplace, hresolved, htemplate⟩, List.mem_singleton.mpr rfl,
    ((relative_path_resolves hcwd hpath .standard).2 (.inl (List.mem_singleton.mpr rfl))).1⟩

/-- A path with a NUL cannot be resolved, although it is relative. -/
theorem nul_is_not_resolved :
    (parse ['a', Char.ofNat 0]).isAbsolute = false ∧
    ¬ ∃ resolved, resolveFrom [] (parse "/b".toList) (parse ['a', Char.ofNat 0]) = .ok resolved := by
  refine ⟨by decide, ?_⟩
  rintro ⟨resolved, hresolved⟩
  have herror : resolveFrom [] (parse "/b".toList) (parse ['a', Char.ofNat 0]) = .error .mk := by
    decide
  rw [herror] at hresolved
  exact absurd hresolved (by simp)

end FilePath
end LintScaffold
