import LintScaffold.Proofs.Command.Inputs
import LintScaffold.Proofs.Config.RulePath
import LintScaffold.Proofs.Datum.Alike
import LintScaffold.Proofs.Text.Utf8
import LintScaffold.Proofs.Toml.Loaded
import Mathlib

/-!
# What a configuration may hold

The schema of configurations, written apart from the code that checks it: which groups a table
has and which settings stand in them (`Table.HasGroup`), and what the configuration then is
(`Config.Keeps`).  A group that is missing is as good as one without settings, so that each group
is read in one way (`Config.group_eq_ok`).

Only the kind and the category of rules are looked at, and only their texts count.  Everything
else is kept as it stands, or has its default; and what stands under other names, or under the
name of the directory of templates, is lost (`Config.ofTable_eq_of_sameGroups`).
-/

namespace LintScaffold

/-! ## The schema -/

/-- The datum has this text.  It has none if a whole number in it has too many digits. -/
def Datum.HasText (d : Datum) (text : Text) : Prop := d.hasLongNumber = false ∧ d.display = text

/-- The group is missing, or a table of settings that it has. -/
def Table.HasGroup (table : Table) (group : Section) : Prop :=
  table.get? group.name = none ∨ ∃ settings : Table,
    table.get? group.name = some (.ofTable settings) ∧
      ∀ name ∈ settings.map Prod.fst, name ∈ group.fields

/-- The settings of a group; a group that is missing has none. -/
def Table.groupOf (table : Table) (group : Section) : Table :=
  match table.get? group.name with
  | some (.table entries) => Table.ofEntries entries
  | _ => []

/-- The datum that is given for a setting, if there is one. -/
def Table.setting? (table : Table) (group : Section) (name : String) : Option Datum :=
  (table.groupOf group).get? name.toList

/-- The table is that of a configuration: it has no other settings than there are, its kind is
known, and its category is not blank. -/
structure Table.IsConfig (table : Table) : Prop where
  groups : ∀ group, table.HasGroup group
  kind : ∀ d, table.setting? .rule "kind" = some d →
    ∃ text kind, d.HasText text ∧ RuleKind.parse text = .ok kind
  category : ∀ d, table.setting? .rule "category" = some d →
    ∃ text, d.HasText text ∧ Text.strip text ≠ []

/-- The configuration keeps what the table says, with the given directory for templates.  The kind
is the one that is meant, the category has no blanks around it, and everything else is as it stands
in the table; what is missing there is standard. -/
structure Config.Keeps (config : Config) (folder : FilePath) (table : Table) : Prop where
  kind : (table.setting? .rule "kind" = none ∧ config.rule.kind = .eslint) ∨
    ∃ d text, table.setting? .rule "kind" = some d ∧ d.HasText text ∧
      RuleKind.parse text = .ok config.rule.kind
  category : (table.setting? .rule "category" = none ∧ config.rule.category = "nursery".toList) ∨
    ∃ d text, table.setting? .rule "category" = some d ∧ d.HasText text ∧
      config.rule.category = Text.strip text ∧ Text.strip text ≠ []
  path : config.template.path = (table.setting? .template "path").getD .null
  text : config.template.text = (table.setting? .template "text").getD .null
  encoding : config.template.encoding =
    (table.setting? .template "encoding").getD (.text "utf-8".toList)
  root : config.template.root = .folder folder
  rulesDir : config.output.rulesDir =
    (table.setting? .output "rules_dir").getD (.text "crates/oxc_linter/src/rules".toList)
  overwrite : config.output.overwrite = (table.setting? .output "overwrite").getD (.bool false)

/-! ## Groups -/

/-- The fields of a group are checked, and nothing else. -/
theorem Section.check_eq_ok {group : Section} {table found : Table} :
    group.check table = .ok found ↔
      table = found ∧ ∀ name ∈ table.map Prod.fst, name ∈ group.fields := by
  unfold Section.check
  cases hfind : table.find? fun entry => !group.fields.contains entry.1 with
  | some entry =>
      have hunknown : entry.1 ∉ group.fields := by simpa using List.find?_some hfind
      have hmem := List.mem_of_find?_eq_some hfind
      refine iff_of_false ?_ fun h => hunknown (h.2 _ (List.mem_map_of_mem hmem))
      dsimp only
      split <;> simp
  | none =>
      have hall : ∀ name ∈ table.map Prod.fst, name ∈ group.fields := by
        intro name hname
        obtain ⟨entry, hentry, rfl⟩ := List.mem_map.mp hname
        simpa using List.find?_eq_none.mp hfind entry hentry
      rw [Except.ok.injEq, and_iff_left hall]

theorem Datum.IsToml.get? {table : Table} (h : (Datum.ofTable table).IsToml) {name : Text}
    {d : Datum} (hget : table.get? name = some d) : d.IsToml := by
  obtain ⟨same, hsame, -, hitems⟩ := h.of_table
  obtain rfl := Datum.ofTable_inj.mp hsame
  exact hitems _ (mem_of_lookup hget)

/-- A group is read if it is missing, or a table; a group that is missing is read as if it had no
settings. -/
theorem Config.group_eq_ok {α : Type} {table : Table} (htable : (Datum.ofTable table).IsToml)
    {group : Section} {standard settings : α} {ofTable : Table → Except SettingsFault α}
    (hstandard : ofTable [] = .ok standard)
    (hchecked : ∀ {entries}, ofTable entries = .ok settings →
      ∀ name ∈ entries.map Prod.fst, name ∈ group.fields) :
    Config.group table group standard ofTable = .ok settings ↔
      table.HasGroup group ∧ ofTable (table.groupOf group) = .ok settings := by
  unfold Config.group Table.HasGroup Table.groupOf
  cases hget : table.get? group.name with
  | none => simp [hstandard]
  | some d =>
      have htoml := htable.get? hget
      cases d with
      | table entries =>
          obtain ⟨given, hgiven, -⟩ := htoml.of_table
          obtain rfl := Datum.table.inj hgiven
          dsimp only
          rw [Table.ofEntries_map]
          exact ⟨fun h => ⟨.inr ⟨given, rfl, hchecked h⟩, h⟩, fun h => h.2⟩
      | _ => simp [Datum.ofTable]

/-- There are only settings that a group has. -/
theorem Table.HasGroup.fields {table : Table} {group : Section} (h : table.HasGroup group) :
    ∀ name ∈ (table.groupOf group).map Prod.fst, name ∈ group.fields := by
  unfold Table.groupOf
  obtain hnone | ⟨settings, hsettings, hfields⟩ := h
  · rw [hnone]
    simp
  · rw [hsettings]
    show ∀ name ∈ (Table.ofEntries _).map Prod.fst, _
    rw [Table.ofEntries_map]
    exact hfields

/-! ## Rules -/

namespace RuleSettings

theorem kindOf_eq_ok {d : Datum} {kind : RuleKind} :
    kindOf d = .ok kind ↔ ∃ text, d.HasText text ∧ RuleKind.parse text = .ok kind := by
  unfold kindOf Datum.HasText
  cases d.hasLongNumber with
  | true => simp
  | false => simp [mapError_eq_ok]

theorem categoryOf_eq_ok {d : Datum} {category : Text} :
    categoryOf d = .ok category ↔
      ∃ text, d.HasText text ∧ category = Text.strip text ∧ Text.strip text ≠ [] := by
  unfold categoryOf Datum.HasText
  cases d.hasLongNumber with
  | true => simp
  | false =>
      dsimp only
      rw [if_neg Bool.false_ne_true]
      cases hstrip : Text.strip d.display with
      | nil => simp [hstrip]
      | cons c rest => simp [hstrip, eq_comm]

theorem ofTable_eq_ok {table : Table} {settings : RuleSettings} :
    ofTable table = .ok settings ↔
      (∀ name ∈ table.map Prod.fst, name ∈ Section.rule.fields) ∧
      kindOf ((table.get? "kind".toList).getD (.text standard.kind.name)) = .ok settings.kind ∧
      categoryOf ((table.get? "category".toList).getD (.text standard.category)) =
        .ok settings.category := by
  unfold ofTable
  constructor
  · intro h
    obtain ⟨checked, hchecked, h⟩ := bind_eq_ok.mp h
    obtain ⟨rfl, hfields⟩ := Section.check_eq_ok.mp hchecked
    obtain ⟨kind, hkind, h⟩ := bind_eq_ok.mp h
    obtain ⟨category, hcategory, h⟩ := bind_eq_ok.mp h
    obtain rfl := Except.ok.inj h
    exact ⟨hfields, hkind, hcategory⟩
  · rintro ⟨hfields, hkind, hcategory⟩
    rw [Section.check_eq_ok.mpr ⟨rfl, hfields⟩, ok_bind, hkind, ok_bind, hcategory, ok_bind]
    rfl

theorem ofTable_nil : ofTable [] = .ok standard := by
  have hcategory : categoryOf (.text standard.category) = .ok standard.category := by
    decide +kernel
  refine ofTable_eq_ok.mpr ⟨by simp, kindOf_eq_ok.mpr ⟨_, ⟨rfl, rfl⟩, ?_⟩, hcategory⟩
  exact RuleKind.parse_name standard.kind

end RuleSettings

/-! ## Templates and output -/

/-- The settings that are read from a table if there are no others in it. -/
def TemplateSettings.stated (table : Table) : TemplateSettings :=
  ⟨(table.get? "path".toList).getD .null, (table.get? "text".toList).getD .null,
    (table.get? "encoding".toList).getD (.text "utf-8".toList),
    match table.get? "_config_root".toList with
    | some d => .given d
    | none => .given .null⟩

theorem TemplateSettings.ofTable_eq_ok {table : Table} {settings : TemplateSettings} :
    ofTable table = .ok settings ↔
      (∀ name ∈ table.map Prod.fst, name ∈ Section.template.fields) ∧ stated table = settings := by
  unfold ofTable
  constructor
  · intro h
    obtain ⟨checked, hchecked, h⟩ := bind_eq_ok.mp h
    obtain ⟨rfl, hfields⟩ := Section.check_eq_ok.mp hchecked
    exact ⟨hfields, Except.ok.inj h⟩
  · rintro ⟨hfields, rfl⟩
    rw [Section.check_eq_ok.mpr ⟨rfl, hfields⟩, ok_bind]
    rfl

theorem OutputSettings.ofTable_eq_ok {table : Table} {settings : OutputSettings} :
    ofTable table = .ok settings ↔
      (∀ name ∈ table.map Prod.fst, name ∈ Section.output.fields) ∧
      settings.rulesDir =
        (table.get? "rules_dir".toList).getD (.text "crates/oxc_linter/src/rules".toList) ∧
      settings.overwrite = (table.get? "overwrite".toList).getD (.bool false) := by
  unfold ofTable
  constructor
  · intro h
    obtain ⟨checked, hchecked, h⟩ := bind_eq_ok.mp h
    obtain ⟨rfl, hfields⟩ := Section.check_eq_ok.mp hchecked
    obtain rfl := Except.ok.inj h
    exact ⟨hfields, rfl, rfl⟩
  · obtain ⟨rulesDir, overwrite⟩ := settings
    rintro ⟨hfields, rfl, rfl⟩
    rw [Section.check_eq_ok.mpr ⟨rfl, hfields⟩, ok_bind]
    rfl

/-! ## Configurations -/

namespace Config

variable {table : Table} {folder : FilePath} {config : Config}

/-- A configuration is read from a table with the right groups, and from nothing else. -/
theorem ofTable_eq_ok (htable : (Datum.ofTable table).IsToml) :
    ofTable folder table = .ok config ↔ (∀ group, table.HasGroup group) ∧
      RuleSettings.ofTable (table.groupOf .rule) = .ok config.rule ∧
      (∃ template, TemplateSettings.ofTable (table.groupOf .template) = .ok template ∧
        config.template = { template with root := .folder folder }) ∧
      OutputSettings.ofTable (table.groupOf .output) = .ok config.output := by
  have hrule : ∀ settings, Config.group table .rule .standard RuleSettings.ofTable = .ok settings ↔
      _ := fun settings =>
    group_eq_ok htable RuleSettings.ofTable_nil fun h => (RuleSettings.ofTable_eq_ok.mp h).1
  have htemplate : ∀ settings,
      Config.group table .template .standard TemplateSettings.ofTable = .ok settings ↔ _ :=
    fun settings =>
      group_eq_ok htable rfl fun h => (TemplateSettings.ofTable_eq_ok.mp h).1
  have houtput : ∀ settings,
      Config.group table .output .standard OutputSettings.ofTable = .ok settings ↔ _ :=
    fun settings =>
      group_eq_ok htable rfl fun h => (OutputSettings.ofTable_eq_ok.mp h).1
  unfold ofTable
  constructor
  · intro h
    obtain ⟨rule, hruleOk, h⟩ := bind_eq_ok.mp h
    obtain ⟨template, htemplateOk, h⟩ := bind_eq_ok.mp h
    obtain ⟨output, houtputOk, h⟩ := bind_eq_ok.mp h
    obtain rfl := Except.ok.inj h
    obtain ⟨hruleGroup, hruleOk⟩ := (hrule rule).mp hruleOk
    obtain ⟨htemplateGroup, htemplateOk⟩ := (htemplate template).mp htemplateOk
    obtain ⟨houtputGroup, houtputOk⟩ := (houtput output).mp houtputOk
    refine ⟨fun group => ?_, hruleOk, ⟨template, htemplateOk, rfl⟩, houtputOk⟩
    cases group with
    | rule => exact hruleGroup
    | template => exact htemplateGroup
    | output => exact houtputGroup
  · rintro ⟨hgroups, hruleOk, ⟨template, htemplateOk, hroot⟩, houtputOk⟩
    rw [(hrule config.rule).mpr ⟨hgroups .rule, hruleOk⟩, ok_bind,
      (htemplate template).mpr ⟨hgroups .template, htemplateOk⟩, ok_bind,
      (houtput config.output).mpr ⟨hgroups .output, houtputOk⟩, ok_bind, ← hroot]
    rfl

theorem kindOf_iff_keeps {found : Option Datum} {kind : RuleKind} :
    RuleSettings.kindOf (found.getD (.text RuleSettings.standard.kind.name)) = .ok kind ↔
      (found = none ∧ kind = .eslint) ∨
        ∃ d text, found = some d ∧ d.HasText text ∧ RuleKind.parse text = .ok kind := by
  cases found with
  | none =>
      have hstandard := (RuleSettings.ofTable_eq_ok.mp RuleSettings.ofTable_nil).2.1
      rw [Option.getD_none]
      rw [Table.get?, List.lookup_nil, Option.getD_none] at hstandard
      rw [hstandard]
      simp [RuleSettings.standard, eq_comm]
  | some d => simp [RuleSettings.kindOf_eq_ok]

theorem categoryOf_iff_keeps {found : Option Datum} {category : Text} :
    RuleSettings.categoryOf (found.getD (.text RuleSettings.standard.category)) = .ok category ↔
      (found = none ∧ category = "nursery".toList) ∨
        ∃ d text, found = some d ∧ d.HasText text ∧ category = Text.strip text ∧
          Text.strip text ≠ [] := by
  cases found with
  | none =>
      have hstandard := (RuleSettings.ofTable_eq_ok.mp RuleSettings.ofTable_nil).2.2
      rw [Option.getD_none]
      rw [Table.get?, List.lookup_nil, Option.getD_none] at hstandard
      rw [hstandard]
      constructor
      · exact fun h => .inl ⟨rfl, (Except.ok.inj h).symm⟩
      · rintro (⟨-, rfl⟩ | ⟨d, text, hd, -⟩)
        · rfl
        · simp at hd
  | some d => simp [RuleSettings.categoryOf_eq_ok]

/-- A configuration is read exactly if it keeps what the table says. -/
theorem ofTable_iff_keeps (htable : (Datum.ofTable table).IsToml) :
    ofTable folder table = .ok config ↔
      (∀ group, table.HasGroup group) ∧ config.Keeps folder table := by
  rw [ofTable_eq_ok htable, RuleSettings.ofTable_eq_ok, OutputSettings.ofTable_eq_ok,
    kindOf_iff_keeps, categoryOf_iff_keeps]
  simp only [TemplateSettings.ofTable_eq_ok]
  constructor
  · rintro ⟨hgroups, ⟨-, hkind, hcategory⟩, ⟨template, ⟨-, rfl⟩, htemplate⟩, -, hrulesDir,
      hoverwrite⟩
    refine ⟨hgroups, hkind, hcategory, ?_, ?_, ?_, ?_, hrulesDir, hoverwrite⟩
    all_goals rw [htemplate]
    all_goals rfl
  · rintro ⟨hgroups, h⟩
    refine ⟨hgroups, ⟨(hgroups .rule).fields, h.kind, h.category⟩,
      ⟨_, ⟨(hgroups .template).fields, rfl⟩, ?_⟩, (hgroups .output).fields, h.rulesDir,
      h.overwrite⟩
    rw [TemplateSettings.mk.injEq]
    exact ⟨h.path, h.text, h.encoding, h.root⟩

/-- A table is that of a configuration if one keeps what it says. -/
theorem exists_keeps_iff :
    (∃ config : Config, (∀ group, table.HasGroup group) ∧ config.Keeps folder table) ↔
      table.IsConfig := by
  constructor
  · rintro ⟨config, hgroups, h⟩
    refine ⟨hgroups, fun d hd => ?_, fun d hd => ?_⟩
    · obtain ⟨hnone, -⟩ | ⟨found, text, hfound, htext, hparse⟩ := h.kind
      · simp [hd] at hnone
      · obtain rfl : d = found := Option.some.inj (hd.symm.trans hfound)
        exact ⟨text, _, htext, hparse⟩
    · obtain ⟨hnone, -⟩ | ⟨found, text, hfound, htext, -, hblank⟩ := h.category
      · simp [hd] at hnone
      · obtain rfl : d = found := Option.some.inj (hd.symm.trans hfound)
        exact ⟨text, htext, hblank⟩
  · intro h
    have hkind : ∃ kind, (table.setting? .rule "kind" = none ∧ kind = RuleKind.eslint) ∨
        ∃ d text, table.setting? .rule "kind" = some d ∧ d.HasText text ∧
          RuleKind.parse text = .ok kind := by
      cases hd : table.setting? .rule "kind" with
      | none => exact ⟨_, .inl ⟨rfl, rfl⟩⟩
      | some d =>
          obtain ⟨text, kind, htext, hparse⟩ := h.kind d hd
          exact ⟨kind, .inr ⟨d, text, rfl, htext, hparse⟩⟩
    have hcategory : ∃ category,
        (table.setting? .rule "category" = none ∧ category = "nursery".toList) ∨
        ∃ d text, table.setting? .rule "category" = some d ∧ d.HasText text ∧
          category = Text.strip text ∧ Text.strip text ≠ [] := by
      cases hd : table.setting? .rule "category" with
      | none => exact ⟨_, .inl ⟨rfl, rfl⟩⟩
      | some d =>
          obtain ⟨text, htext, hblank⟩ := h.category d hd
          exact ⟨_, .inr ⟨d, text, rfl, htext, rfl, hblank⟩⟩
    obtain ⟨kind, hkind⟩ := hkind
    obtain ⟨category, hcategory⟩ := hcategory
    exact ⟨⟨⟨kind, category⟩, ⟨_, _, _, _⟩, ⟨_, _⟩⟩, h.groups, hkind, hcategory, rfl, rfl, rfl, rfl,
      rfl, rfl⟩

end Config

/-! ## What is lost -/

/-- The tables have the same entries, apart from those under one name. -/
def Table.SameBut (name : Text) (table other : Table) : Prop :=
  (table.filter fun entry => entry.1 ≠ name) = other.filter fun entry => entry.1 ≠ name

/-- The name under which the directory of templates stands. -/
def rootField : Text := "_config_root".toList

/-- The tables have the same groups, apart from the directory of templates. -/
structure Table.SameGroups (table other : Table) : Prop where
  rule : table.get? Section.rule.name = other.get? Section.rule.name
  template : table.get? Section.template.name = other.get? Section.template.name ∨
    ∃ settings others : Table, table.get? Section.template.name = some (.ofTable settings) ∧
      other.get? Section.template.name = some (.ofTable others) ∧ settings.SameBut rootField others
  output : table.get? Section.output.name = other.get? Section.output.name

namespace Table.SameBut

variable {name : Text} {table other : Table}

theorem get?_filter {key : Text} (hkey : key ≠ name) (table : Table) :
    Table.get? (table.filter fun entry => entry.1 ≠ name) key = table.get? key := by
  unfold Table.get?
  induction table with
  | nil => rfl
  | cons entry rest ih =>
      by_cases hentry : entry.1 = name
      · have hother : (key == entry.1) = false := by simpa [hentry] using hkey
        rw [List.filter_cons_of_neg (by simpa using hentry), ih, List.lookup_cons, hother]
      · rw [List.filter_cons_of_pos (by simpa using hentry), List.lookup_cons, List.lookup_cons, ih]

theorem get? (h : SameBut name table other) {key : Text} (hkey : key ≠ name) :
    table.get? key = other.get? key := by
  rw [← get?_filter hkey table, h, get?_filter hkey]

theorem check (h : SameBut name table other) {group : Section} (hname : name ∈ group.fields) :
    (group.check table = .ok table ∧ group.check other = .ok other) ∨
      ∃ fault, group.check table = .error fault ∧ group.check other = .error fault := by
  -- an entry that does not belong to the group is not one of those that are left out
  have hfind : ∀ table : Table, (table.find? fun entry => !group.fields.contains entry.1) =
      (table.filter fun entry => entry.1 ≠ name).find? fun entry =>
        !group.fields.contains entry.1 := by
    intro table
    rw [List.find?_filter]
    congr 1
    funext entry
    by_cases hentry : entry.1 = name
    · simp [hentry, hname]
    · simp [hentry]
  unfold Section.check
  rw [hfind table, hfind other, h]
  cases (other.filter fun entry => entry.1 ≠ name).find? fun entry =>
      !group.fields.contains entry.1 with
  | none => exact .inl ⟨rfl, rfl⟩
  | some entry =>
      dsimp only
      split
      · exact .inr ⟨_, rfl, rfl⟩
      · exact .inr ⟨_, rfl, rfl⟩

end Table.SameBut

/-- Settings that are read from such tables differ in the directory of templates only. -/
theorem TemplateSettings.ofTable_sameBut {table other : Table}
    (h : table.SameBut rootField other) (root : ConfigRoot) :
    (ofTable table).map (fun settings => { settings with root := root }) =
      (ofTable other).map fun settings => { settings with root := root } := by
  unfold ofTable
  obtain ⟨htable, hother⟩ | ⟨fault, htable, hother⟩ :=
    h.check (by decide : rootField ∈ Section.template.fields)
  · rw [htable, hother, ok_bind, ok_bind, h.get? (by decide), h.get? (by decide),
      h.get? (by decide)]
    rfl
  · rw [htable, hother]

/-- What stands in other places of a table does not matter. -/
theorem Config.ofTable_eq_of_sameGroups {table other : Table} (h : table.SameGroups other)
    (folder : FilePath) : ofTable folder table = ofTable folder other := by
  have hrule : Config.group table .rule .standard RuleSettings.ofTable =
      Config.group other .rule .standard RuleSettings.ofTable := by
    unfold Config.group
    rw [h.rule]
  have houtput : Config.group table .output .standard OutputSettings.ofTable =
      Config.group other .output .standard OutputSettings.ofTable := by
    unfold Config.group
    rw [h.output]
  have htemplate : (Config.group table .template .standard TemplateSettings.ofTable).map
        (fun settings => { settings with root := .folder folder }) =
      (Config.group other .template .standard TemplateSettings.ofTable).map
        fun settings => { settings with root := .folder folder } := by
    unfold Config.group
    obtain hsame | ⟨settings, others, hsettings, hothers, hbut⟩ := h.template
    · rw [hsame]
    · rw [hsettings, hothers]
      dsimp only [Datum.ofTable]
      rw [Table.ofEntries_map, Table.ofEntries_map]
      exact TemplateSettings.ofTable_sameBut hbut _
  -- the directory that was read is replaced in any case, whatever comes behind
  have hreplaced : ∀ (read : Except SettingsFault TemplateSettings)
      (next : TemplateSettings → Except SettingsFault Config),
      (read >>= fun settings => next { settings with root := .folder folder }) =
        (read.map fun settings => { settings with root := .folder folder }) >>= next := by
    intro read next
    cases read with
    | ok settings => rfl
    | error fault => rfl
  unfold ofTable
  rw [hrule, houtput]
  congr 1
  funext rule
  let next (template : TemplateSettings) : Except SettingsFault Config := do
    let output ← Config.group other .output .standard OutputSettings.ofTable
    return ⟨rule, template, output⟩
  exact (hreplaced _ next).trans ((congrArg (· >>= next) htemplate).trans (hreplaced _ next).symm)

/-! ## Files -/

/-- At the path stands a TOML document with this table. -/
def FileTree.HoldsToml (tree : FileTree) (cwd : Place) (path : FilePath) (table : Table) : Prop :=
  ∃ content text, tree.find cwd path = .ok (.file content) ∧ Utf8.decode content = .ok text ∧
    Toml.read text = .ok table

namespace FileTree.HoldsToml

variable {tree : FileTree} {cwd : Place} {path : FilePath} {table : Table}

theorem isToml (h : tree.HoldsToml cwd path table) : (Datum.ofTable table).IsToml := by
  obtain ⟨content, text, -, -, hread⟩ := h
  exact Toml.isToml_read hread

theorem outcome_load (h : tree.HoldsToml cwd path table) :
    (Config.load path).outcome tree cwd =
      (Config.ofTable path.parent table).mapError .settings := by
  obtain ⟨content, text, hfind, hdecode, hread⟩ := h
  rw [Config.outcome_load hfind, Config.ofBytes, hdecode, ok_mapError, ok_bind, hread, ok_mapError,
    ok_bind]

theorem outcome_load_eq_ok (h : tree.HoldsToml cwd path table) {config : Config} :
    (Config.load path).outcome tree cwd = .ok config ↔
      (∀ group, table.HasGroup group) ∧ config.Keeps path.parent table := by
  rw [h.outcome_load, mapError_eq_ok, Config.ofTable_iff_keeps h.isToml]

end FileTree.HoldsToml

/-- A TOML document is loaded exactly if it is that of a configuration.  The configuration then
keeps what the document says, and everything else is standard, with the directory of the file as
that of templates.  Another document at the same path that has the same groups, whatever it has
beside them and as the directory of templates, has the same outcome. -/
theorem configuration_loads_iff {tree : FileTree} {cwd : Place} {path : FilePath} {table : Table}
    (hholds : tree.HoldsToml cwd path table) :
    ((∃ config, (Config.load path).outcome tree cwd = .ok config) ↔ table.IsConfig) ∧
    (∀ config, (Config.load path).outcome tree cwd = .ok config →
      config.Keeps path.parent table) ∧
    ∀ {changed : FileTree} {other : Table}, changed.HoldsToml cwd path other →
      table.SameGroups other →
      (Config.load path).outcome changed cwd = (Config.load path).outcome tree cwd := by
  refine ⟨?_, fun config hconfig => (hholds.outcome_load_eq_ok.mp hconfig).2, ?_⟩
  · simp only [hholds.outcome_load_eq_ok]
    exact Config.exists_keeps_iff
  · intro changed other hother hsame
    rw [hother.outcome_load, hholds.outcome_load, Config.ofTable_eq_of_sameGroups hsame]

/-! ## Two documents with the same groups -/

/-- A document with settings that are not as they will be, and with more than settings. -/
def statedText : Text :=
  ("[rule]\nkind = 'React'\ncategory = 7\n[template]\n_config_root = 1\npath = 't'\n" ++
    "[output]\noverwrite = true\n[more]\n").toList

/-- Its groups, but not in their order, and written in another way. -/
def dottedText : Text :=
  ("rule = \x7b kind = 'React', category = 7 \x7d\n" ++
    "output.overwrite = true\ntemplate.path = 't'\n").toList

/-- What stands in the group of rules. -/
def statedRule : Table := [("kind".toList, .text "React".toList), ("category".toList, .int 7)]

/-- What stands in the group of templates, apart from their directory. -/
def statedTemplate : Table := [("path".toList, .text ['t'])]

/-- What stands in the group of output. -/
def statedOutput : Table := [("overwrite".toList, .bool true)]

/-- The table of the first document. -/
def statedTable : Table :=
  [("rule".toList, .ofTable statedRule),
    ("template".toList, .ofTable ((rootField, .int 1) :: statedTemplate)),
    ("output".toList, .ofTable statedOutput), ("more".toList, .ofTable [])]

/-- The table of the second document. -/
def dottedTable : Table :=
  [("rule".toList, .ofTable statedRule), ("output".toList, .ofTable statedOutput),
    ("template".toList, .ofTable statedTemplate)]

theorem statedText_read : Toml.read statedText = .ok statedTable := by cbv

theorem dottedText_read : Toml.read dottedText = .ok dottedTable := by cbv

/-- A file `c` with this text. -/
def documentTree (text : Text) : FileTree := FileTree.empty.put [['c']] (.file (Utf8.encode text))

theorem find_documentTree (text : Text) :
    (documentTree text).find [] ⟨.root, [['c']]⟩ = .ok (.file (Utf8.encode text)) := rfl

theorem holdsToml_documentTree {text : Text} {table : Table} (h : Toml.read text = .ok table) :
    (documentTree text).HoldsToml [] ⟨.root, [['c']]⟩ table :=
  ⟨_, _, find_documentTree text, Utf8.decode_encode text, h⟩

/-- What is found by evaluation: the kind and the category. -/
theorem stated_evaluated :
    RuleKind.parse "React".toList = .ok .react ∧
    (Datum.int 7).hasLongNumber = false ∧ Text.strip (Datum.int 7).display = ['7'] := by
  decide +kernel

/-- Both documents are loaded, as the same configuration. -/
theorem stated_is_loaded :
    ∃ config, (Config.load ⟨.root, [['c']]⟩).outcome (documentTree statedText) [] = .ok config ∧
      (Config.load ⟨.root, [['c']]⟩).outcome (documentTree dottedText) [] = .ok config ∧
      config.rule = ⟨.react, ['7']⟩ ∧ config.template.path = .text ['t'] ∧
      config.template.root = .folder ⟨.root, []⟩ ∧ config.output.overwrite = .bool true := by
  obtain ⟨hparse, hshort, hstrip⟩ := stated_evaluated
  obtain ⟨hloads, hkeeps, hsame⟩ :=
    configuration_loads_iff (holdsToml_documentTree statedText_read)
  have hgroups : ∀ group, statedTable.HasGroup group := by
    intro group
    cases group with
    | rule => exact .inr ⟨statedRule, rfl, by decide⟩
    | template => exact .inr ⟨_, rfl, by decide⟩
    | output => exact .inr ⟨statedOutput, rfl, by decide⟩
  have hkind : statedTable.setting? .rule "kind" = some (.text "React".toList) := rfl
  have hcategory : statedTable.setting? .rule "category" = some (.int 7) := rfl
  have hconfig : statedTable.IsConfig := by
    refine ⟨hgroups, fun d hd => ?_, fun d hd => ?_⟩
    · obtain rfl := Option.some.inj (hkind.symm.trans hd)
      exact ⟨_, _, ⟨rfl, rfl⟩, hparse⟩
    · obtain rfl := Option.some.inj (hcategory.symm.trans hd)
      exact ⟨_, ⟨hshort, rfl⟩, by rw [hstrip]; decide⟩
  obtain ⟨config, hconfig⟩ := hloads.mpr hconfig
  have hkept := hkeeps config hconfig
  have hgroup : statedTable.SameGroups dottedTable := ⟨rfl, .inr ⟨_, _, rfl, rfl, rfl⟩, rfl⟩
  have hagain := (hsame (holdsToml_documentTree dottedText_read) hgroup).trans hconfig
  refine ⟨config, hconfig, hagain, ?_, hkept.path, hkept.root, hkept.overwrite⟩
  have hreact : config.rule.kind = .react := by
    obtain ⟨hnone, -⟩ | ⟨d, text, hd, ⟨-, rfl⟩, hparsed⟩ := hkept.kind
    · exact absurd (hkind.symm.trans hnone) (by simp)
    · obtain rfl := Option.some.inj (hkind.symm.trans hd)
      exact Except.ok.inj (hparsed.symm.trans hparse)
  have hseven : config.rule.category = ['7'] := by
    obtain ⟨hnone, -⟩ | ⟨d, text, hd, ⟨-, rfl⟩, hstripped, -⟩ := hkept.category
    · exact absurd (hcategory.symm.trans hnone) (by simp)
    · obtain rfl := Option.some.inj (hcategory.symm.trans hd)
      exact hstripped.trans hstrip
  rw [← hreact, ← hseven]

end LintScaffold
