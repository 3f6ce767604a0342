import LintScaffold.Proofs.Command.Destination
import LintScaffold.Proofs.Command.Report
import LintScaffold.Proofs.Text.Pieces

/-!
# The listing of kinds

The command that lists kinds writes the directory of each kind as a text, and the command that
makes a rule goes there along a path.  They start from the same setting, the directory of all
rules, but the one joins texts and the other joins paths.  There are three settings on which they
part:

* a line feed ends the line before the directory does;
* a control sequence is dropped from what is printed, but not from a path;
* an empty text is the path that leads nowhere, whereas with a slash behind it it is the root.

`lists_places_iff` says that they agree on all other settings, whatever slashes there are.  To say
so the listing is read back: a row is a mark, the name of a kind up to a fixed width, and the
directory.
-/

namespace LintScaffold

open Text (dropControlSequences HasControlSequence IsBarrier escapeChar)

variable {tree : FileTree} {cwd : Place}

/-! ## Paths -/

namespace FilePath

/-- The paths go through the same names from the same start, two slashes at the start being the
root. -/
def SameWay (path other : FilePath) : Prop :=
  path.isAbsolute = other.isAbsolute ∧ path.names = other.names

theorem names_parse_below {name : Text} (hslash : '/' ∉ name) (hstep : isStep name = true)
    (dir : Text) : (parse (dir ++ '/' :: name)).names = (parse dir).names ++ [name] := by
  show (Text.splitAt '/' (dir ++ '/' :: name)).filter isStep = (Text.splitAt '/' dir).filter isStep ++ _
  rw [Text.splitAt_append_cons, Text.splitAt_of_not_mem hslash, List.filter_append,
    List.filter_cons, if_pos hstep, List.filter_nil]

theorem isAbsolute_parse (text : Text) : (parse text).isAbsolute = (text.head? == some '/') := by
  show (anchorOf text != .relative) = _
  unfold anchorOf
  split
  · rfl
  · rfl
  · rfl
  · rename_i hother
    cases text with
    | nil => rfl
    | cons c rest =>
        have hslash : c ≠ '/' := fun h => hother rest (h ▸ rfl)
        simp [hslash]

/-- A slash behind a text makes it absolute only if there is nothing in front. -/
theorem isAbsolute_parse_below (dir name : Text) :
    (parse (dir ++ '/' :: name)).isAbsolute = (dir.isEmpty || (parse dir).isAbsolute) := by
  rw [isAbsolute_parse, isAbsolute_parse]
  cases dir <;> simp

end FilePath

theorem RuleKind.name_inj {kind other : RuleKind} : kind.name = other.name ↔ kind = other := by
  refine ⟨fun h => ?_, fun h => h ▸ rfl⟩
  have hparse := kind.parse_name
  rw [h, other.parse_name] at hparse
  exact (Except.ok.inj hparse).symm

theorem RuleKind.slash_not_mem_directory (kind : RuleKind) : '/' ∉ kind.directory := by
  cases kind <;> decide

theorem RuleKind.escape_not_mem_directory (kind : RuleKind) : escapeChar ∉ kind.directory := by
  cases kind <;> decide

theorem isBarrier_slash : IsBarrier '/' := ⟨by decide, by decide, by decide, by decide⟩

theorem isBarrier_blank : IsBarrier ' ' := ⟨by decide, by decide, by decide, by decide⟩

theorem isBarrier_lineFeed : IsBarrier '\n' := ⟨by decide, by decide, by decide, by decide⟩

namespace FilePath

theorem names_append (base next : FilePath) :
    (base.append next).names = (if next.isAbsolute then [] else base.names) ++ next.names := by
  unfold append
  split <;> rfl

theorem isAbsolute_parse_dropped {dir : Text} (h : (parse dir).isAbsolute = true) :
    (parse (dropControlSequences dir)).isAbsolute = true := by
  rw [isAbsolute_parse, beq_iff_eq] at h ⊢
  cases dir with
  | nil => simp at h
  | cons c rest =>
      obtain rfl : c = '/' := by simpa using h
      rw [← List.nil_append ('/' :: rest), Text.dropControlSequences_append_cons isBarrier_slash]
      rfl

/-- What is printed for the directory of a kind leads where the path of a rule leads, exactly if
nothing is dropped from it and it does not lead to the root by mistake. -/
theorem sameWay_ofKind_iff {base : FilePath} (hbase : base.isAbsolute = true) (dir : Text)
    (kind : RuleKind) :
    SameWay (base.append (parse (dropControlSequences dir ++ '/' :: kind.directory)))
        ((base.append (parse dir)).ofKind kind) ↔
      ¬ HasControlSequence dir ∧ (dir = [] → base.names = []) := by
  have hstart : (base.append (parse (dropControlSequences dir ++ '/' :: kind.directory))).isAbsolute
      = ((base.append (parse dir)).ofKind kind).isAbsolute :=
    (NewRequest.isAbsolute_append hbase).trans (NewRequest.isAbsolute_append hbase).symm
  have hprinted := names_append base (parse (dropControlSequences dir ++ '/' :: kind.directory))
  rw [isAbsolute_parse_below, names_parse_below kind.slash_not_mem_directory
    kind.isStep_directory] at hprinted
  have hsaved : ((base.append (parse dir)).ofKind kind).names =
      (if (parse dir).isAbsolute then [] else base.names) ++ (parse dir).names ++
        [kind.directory] := by
    rw [ofKind, names_append]
  by_cases hsequence : HasControlSequence dir
  · refine iff_of_false (fun hsame => ?_) fun h => h.1 hsequence
    -- the path that is printed has lost an escape character
    have hless := Text.count_dropControlSequences_lt hsequence
    have hcount := congrArg (fun names : List Text => names.flatten.count escapeChar) hsame.2
    have hescapes := @count_names escapeChar (by decide) (by decide)
    simp only [hprinted, hsaved, List.flatten_append, List.count_append, hescapes] at hcount
    have hmore : (if (dropControlSequences dir).isEmpty ||
          (parse (dropControlSequences dir)).isAbsolute then [] else base.names).flatten.count
            escapeChar ≤
        (if (parse dir).isAbsolute then [] else base.names).flatten.count escapeChar := by
      cases habsolute : (parse dir).isAbsolute with
      | true => rw [isAbsolute_parse_dropped habsolute, Bool.or_true, if_pos rfl]
      | false =>
          rw [if_neg Bool.false_ne_true]
          split
          · exact Nat.zero_le _
          · exact Nat.le_refl _
    omega
  · rw [Text.dropControlSequences_eq_self_iff.mpr hsequence] at hstart hprinted ⊢
    rw [SameWay, and_iff_right hstart, hprinted, hsaved, ← List.append_assoc,
      List.append_left_inj, List.append_left_inj]
    cases dir with
    | nil => simp [isAbsolute_parse, hsequence, eq_comm]
    | cons c rest => simp [hsequence]

end FilePath

/-! ## Rows -/

namespace KindsRequest

/-- A row of the listing. -/
structure Row where
  isMarked : Bool
  name : Text
  directory : Text
  deriving DecidableEq

namespace Row

/-- The mark of a row. -/
def mark (row : Row) : Char := if row.isMarked then '*' else ' '

/-- The written form of a row. -/
def text (row : Row) : Text :=
  row.mark :: ' ' :: Text.padEnd nameWidth row.name ++ ' ' :: row.directory

/-- Reads a row: a star or a blank, the name of a kind with blanks up to its width, and the
directory, with a blank in front of each. -/
def read? : Text → Option Row
  | mark :: ' ' :: rest =>
      match rest.drop nameWidth with
      | ' ' :: directory =>
          if mark = '*' ∨ mark = ' ' then
            some ⟨mark = '*', Text.dropEndWhile (· = ' ') (rest.take nameWidth), directory⟩
          else none
      | _ => none
  | _ => none

theorem mark_cases (row : Row) :
    row.isMarked = true ∧ row.mark = '*' ∨ row.isMarked = false ∧ row.mark = ' ' := by
  unfold mark
  cases row.isMarked <;> simp

end Row

/-- Reads a listing: each line has its line feed, and is a row. -/
def readListing? (output : Text) : Option (List Row) :=
  let lines := Text.splitAt '\n' output
  if lines.getLast? = some [] then lines.dropLast.mapM Row.read? else none

/-- The row of a kind, where `directory` is what it says of the directory of all rules. -/
def row (config : Config) (directory : Text) (kind : RuleKind) : Row :=
  ⟨kind = config.rule.kind, kind.name, directory ++ '/' :: kind.directory⟩

variable {config : Config} {dir : Text}

theorem line_eq (h : config.output.rulesDir = .text dir) (kind : RuleKind) :
    line config kind = (row config dir kind).text ++ ['\n'] := by
  have hdisplay : (Datum.text dir).display = dir := rfl
  have hmark : (if kind = config.rule.kind then ['*'] else [' ']) =
      [(row config dir kind).mark] := by
    by_cases hkind : kind = config.rule.kind <;> simp [Row.mark, row, hkind]
  rw [line, h, hdisplay, hmark]
  simp [Row.text, row, Text.join]

/-- The names of kinds fit into their column, and have no blank, line feed or escape character. -/
theorem name_spec (kind : RuleKind) :
    (Text.padEnd nameWidth kind.name).length = nameWidth ∧
    Text.dropEndWhile (· = ' ') (Text.padEnd nameWidth kind.name) = kind.name ∧
    ' ' ∉ kind.name ∧ '\n' ∉ Text.padEnd nameWidth kind.name ∧
    escapeChar ∉ Text.padEnd nameWidth kind.name := by
  cases kind <;> decide

theorem read?_row (directory : Text) (kind : RuleKind) :
    Row.read? (row config directory kind).text = some (row config directory kind) := by
  obtain ⟨hwidth, hname, -⟩ := name_spec kind
  have htake : (Text.padEnd nameWidth kind.name ++ ' ' :: (directory ++ '/' :: kind.directory)).take
      nameWidth = Text.padEnd nameWidth kind.name := List.take_left' hwidth
  have hdrop : (Text.padEnd nameWidth kind.name ++ ' ' :: (directory ++ '/' :: kind.directory)).drop
      nameWidth = ' ' :: (directory ++ '/' :: kind.directory) := List.drop_left' hwidth
  show Row.read? ((row config directory kind).mark :: ' ' :: (Text.padEnd nameWidth kind.name ++
    ' ' :: (directory ++ '/' :: kind.directory))) = _
  simp only [Row.read?, htake, hdrop, hname]
  obtain ⟨hmarked, hmark⟩ | ⟨hmarked, hmark⟩ := Row.mark_cases (row config directory kind)
  · have hkind : decide (kind = config.rule.kind) = true := hmarked
    rw [hmark, if_pos (.inl rfl), row, hkind]
    rfl
  · have hkind : decide (kind = config.rule.kind) = false := hmarked
    rw [hmark, if_pos (.inr rfl), row, hkind]
    rfl

/-- Within a row control sequences are only dropped from the directory of all rules. -/
theorem dropControlSequences_row (directory : Text) (kind : RuleKind) :
    dropControlSequences (row config directory kind).text =
      (row config (dropControlSequences directory) kind).text := by
  have hfront : escapeChar ∉ (row config directory kind).mark :: ' ' ::
      Text.padEnd nameWidth kind.name := by
    have hname := (name_spec kind).2.2.2.2
    simp only [List.mem_cons, not_or]
    refine ⟨?_, by decide, hname⟩
    obtain ⟨-, hmark⟩ | ⟨-, hmark⟩ := Row.mark_cases (row config directory kind)
    all_goals rw [hmark]; decide
  show dropControlSequences (((row config directory kind).mark :: ' ' ::
    Text.padEnd nameWidth kind.name) ++ ' ' :: (directory ++ '/' :: kind.directory)) = _
  rw [Text.dropControlSequences_append_cons isBarrier_blank,
    Text.dropControlSequences_append_cons isBarrier_slash,
    Text.dropControlSequences_eq_self hfront,
    Text.dropControlSequences_eq_self kind.escape_not_mem_directory]
  rfl

theorem count_lineFeed_row (directory : Text) (kind : RuleKind) :
    (row config directory kind).text.count '\n' = directory.count '\n' := by
  have hname : (Text.padEnd nameWidth kind.name).count '\n' = 0 :=
    List.count_eq_zero.mpr (name_spec kind).2.2.2.1
  have hkind : kind.directory.count '\n' = 0 := by cases kind <;> decide
  have hfront : [(row config directory kind).mark, ' '].count '\n' = 0 := by
    obtain ⟨-, hmark⟩ | ⟨-, hmark⟩ := Row.mark_cases (row config directory kind)
    all_goals rw [hmark]; decide
  show ([(row config directory kind).mark, ' '] ++ Text.padEnd nameWidth kind.name ++
    ' ' :: (directory ++ '/' :: kind.directory)).count '\n' = _
  rw [List.count_append, List.count_append, hfront, hname, List.count_cons, List.count_append,
    List.count_cons, hkind]
  simp

/-! ## The listing read back -/

theorem mapM_eq_some_iff {α β : Type} {f : α → Option β} {items : List α} {results : List β} :
    items.mapM f = some results ↔ items.map f = results.map some := by
  induction items generalizing results with
  | nil => cases results <;> simp
  | cons item rest ih =>
      have hstep : (item :: rest).mapM f = some results ↔
          ∃ first, f item = some first ∧ ∃ others, rest.mapM f = some others ∧
            first :: others = results := by
        rw [List.mapM_cons]
        simp [Option.bind_eq_some_iff]
      rw [hstep, List.map_cons]
      simp only [ih]
      cases results with
      | nil => simp
      | cons first others => simp

theorem readListing?_of_splitAt {output : Text} {lines : List Text}
    (h : Text.splitAt '\n' output = lines ++ [[]]) :
    readListing? output = lines.mapM Row.read? := by
  simp [readListing?, h]

theorem readListing?_listing (hdir : config.output.rulesDir = .text dir) (h : '\n' ∉ dir) :
    readListing? (dropControlSequences (listing config)) =
      some (RuleKind.all.map (row config (dropControlSequences dir))) := by
  have hline : ∀ kind ∈ RuleKind.all, '\n' ∉ (row config dir kind).text := fun kind _ => by
    rw [← List.count_eq_zero, count_lineFeed_row, List.count_eq_zero]
    exact h
  have hlines : Text.splitAt '\n' (listing config) =
      RuleKind.all.map (fun kind => (row config dir kind).text) ++ [[]] := by
    rw [listing, List.flatMap_congr fun kind _ => line_eq hdir kind]
    exact Text.splitAt_flatMap hline
  have hprinted : Text.splitAt '\n' (dropControlSequences (listing config)) =
      (RuleKind.all.map fun kind => (row config dir kind).text).map dropControlSequences ++ [[]] := by
    rw [Text.splitAt_dropControlSequences isBarrier_lineFeed, hlines, List.map_append]
    rfl
  rw [readListing?_of_splitAt hprinted, mapM_eq_some_iff, List.map_map, List.map_map, List.map_map]
  refine List.map_congr_left fun kind _ => ?_
  show Row.read? (dropControlSequences (row config dir kind).text) = _
  rw [dropControlSequences_row, read?_row]
  rfl

/-- A line feed in the directory of all rules makes more rows than there are kinds. -/
theorem lt_length_of_lineFeed {rows : List Row} (hdir : config.output.rulesDir = .text dir)
    (h : '\n' ∈ dir) (hread : readListing? (dropControlSequences (listing config)) = some rows) :
    RuleKind.all.length < rows.length := by
  have hcount : (listing config).count '\n' = RuleKind.all.length * (dir.count '\n' + 1) := by
    rw [listing, List.count_flatMap, List.map_congr_left (g := fun _ => dir.count '\n' + 1)]
    · rw [List.map_const', List.sum_replicate_nat]
    · intro kind _
      show (line config kind).count '\n' = _
      rw [line_eq hdir, List.count_append, count_lineFeed_row]
      rfl
  rw [readListing?] at hread
  split at hread
  · have hlength := congrArg List.length (mapM_eq_some_iff.mp hread)
    rw [List.length_map, List.length_map, List.length_dropLast,
      Text.splitAt_dropControlSequences isBarrier_lineFeed, List.length_map, Text.length_splitAt,
      hcount, Nat.add_sub_cancel] at hlength
    rw [← hlength]
    have hpos := List.count_pos_iff.mpr h
    have hkinds : RuleKind.all.length = 14 := rfl
    rw [hkinds]
    omega
  · simp at hread

/-! ## What the command comes to -/

theorem oblivious_deed (request : KindsRequest) : Task.Oblivious request.deed := by
  unfold deed
  refine .bind ?_ fun config => .ite (.stop _) (.pure _)
  split
  · exact .pure _
  · exact Step.oblivious_settle _ _ (Config.oblivious_load _)

theorem outcome_read_config {value : Text} {content : Bytes}
    (hnul : (FilePath.parse value).hasNul = false)
    (hfind : tree.find cwd ((FilePath.parse value).resolve cwd) = .ok (.file content)) :
    (read cwd ["--config".toList, value]).outcome tree cwd =
      .ok ⟨some ((FilePath.parse value).resolve cwd)⟩ := by
  have hread : Arguments.read KindsOption.vocabulary true ["--config".toList, value] =
      .ok ⟨[(.config, value)], []⟩ :=
    @Arguments.precedes_value _ _ _ (by decide) (by decide) [] _ rfl value []
  have hfile : (Step.existingFile cwd Step.configForm value).outcome tree cwd =
      .ok ((FilePath.parse value).resolve cwd) :=
    Step.outcome_existingFile_eq_ok.mpr ⟨hnul, rfl, content, hfind⟩
  unfold read
  rw [hread]
  have hsome : (some <$> Step.existingFile cwd Step.configForm value : Step _).outcome tree cwd =
      .ok (some ((FilePath.parse value).resolve cwd)) :=
    Task.outcome_bind_of_ok hfile (.pure _)
  exact Task.outcome_bind_of_ok hsome (.pure _)

/-- With a configuration file the command loads it, and then prints its listing. -/
theorem outcome_deed (path : FilePath) :
    (deed ⟨some path⟩).outcome tree cwd = (do
      let config ← ((Config.load path).outcome tree cwd).mapError (.fault ∘ .config)
      if config.output.rulesDir.hasLongNumber then .error (.fault .tooLong)
      else .ok (.print (listing config))) := by
  have hprint : ∀ config : Config, Task.Oblivious (if config.output.rulesDir.hasLongNumber then
      (do Task.stop (.fault .tooLong); return .print (listing config) : Step Deed)
      else return .print (listing config)) := fun config => .ite (.bind (.stop _) fun _ => .pure _)
    (.pure _)
  show Task.outcome tree cwd (Step.settle (fun _ => none) .config (Config.load path) >>=
    fun config => _) = _
  refine (Task.outcome_bind hprint).trans ?_
  rw [Step.outcome_settle _ _ (Config.oblivious_load _)]
  congr 1
  funext config
  split <;> rfl

/-! ## Agreement -/

/-- The rows are those of the kinds, and one of them is marked: that of the kind of new rules. -/
structure ListsKinds (config : Config) (rows : List Row) : Prop where
  names : rows.map Row.name = RuleKind.all.map RuleKind.name
  marked : (rows.filter Row.isMarked).map Row.name = [config.rule.kind.name]

/-- The directory of each row leads from `base` to where rules of the kind are saved. -/
def ListsPlaces (config : Config) (base : FilePath) (rows : List Row) : Prop :=
  ∀ row ∈ rows, ∀ kind : RuleKind, row.name = kind.name → ∀ name target,
    config.output.rulePath base kind name = .ok target →
      FilePath.SameWay (base.append (.parse row.directory)) target.parent

theorem listsKinds_rows (config : Config) (directory : Text) :
    ListsKinds config (RuleKind.all.map (row config directory)) := by
  have hone : ∀ kind, RuleKind.all.filter (fun other => decide (other = kind)) = [kind] := by
    intro kind
    cases kind <;> decide
  refine ⟨List.map_map, ?_⟩
  rw [List.filter_map, List.map_map]
  exact congrArg (List.map RuleKind.name) (hone config.rule.kind)

theorem listsPlaces_rows_iff {base : FilePath} (hbase : base.isAbsolute = true)
    (hdir : config.output.rulesDir = .text dir) :
    ListsPlaces config base (RuleKind.all.map (row config (dropControlSequences dir))) ↔
      ¬ HasControlSequence dir ∧ (dir = [] → base.names = []) := by
  constructor
  · intro h
    have hplace := h _ (List.mem_map_of_mem (RuleKind.mem_all .eslint)) .eslint rfl RuleName.sharp _
      (OutputSettings.rulePath_of_text hdir base .eslint RuleName.sharp)
    rw [OutputSettings.parent_ruleFile] at hplace
    exact (FilePath.sameWay_ofKind_iff hbase dir .eslint).mp hplace
  · intro h found hfound kind hname name target htarget
    obtain ⟨other, -, rfl⟩ := List.mem_map.mp hfound
    obtain rfl : other = kind := RuleKind.name_inj.mp hname
    obtain rfl := Except.ok.inj
      ((OutputSettings.rulePath_of_text hdir base other name).symm.trans htarget)
    rw [OutputSettings.parent_ruleFile]
    exact (FilePath.sameWay_ofKind_iff hbase dir other).mpr h

end KindsRequest

/-- The call of the command with a configuration file. -/
def kindsCall (threshold : Int) (value : Text) : Call :=
  ⟨threshold, .kinds, ["--config".toList, value]⟩

theorem ending_kindsCall {value : Text} {content : Bytes} {config : Config} {dir : Text}
    (threshold : Int) (hnul : (FilePath.parse value).hasNul = false)
    (hfind : tree.find cwd ((FilePath.parse value).resolve cwd) = .ok (.file content))
    (hconfig : Config.ofBytes ((FilePath.parse value).resolve cwd).parent content = .ok config)
    (hdir : config.output.rulesDir = .text dir) :
    ((kindsCall threshold value).run tree cwd).ending = .done (KindsRequest.listing config) := by
  have hdeed : ((kindsCall threshold value).deed cwd).outcome tree cwd =
      .ok (.print (KindsRequest.listing config)) := by
    refine (Task.outcome_bind_of_ok (KindsRequest.outcome_read_config hnul hfind)
      (KindsRequest.oblivious_deed _)).trans ?_
    have hload := Config.outcome_load_eq_ok.mpr ⟨content, hfind, hconfig⟩
    rw [KindsRequest.outcome_deed, hload, ok_mapError, ok_bind, hdir]
    rfl
  exact (Call.ending_of_outcome hdeed).1

/-- The listing of every configuration file names all kinds and marks that of new rules, exactly if
there is no line feed in the directory of all rules.  The directories that it names are those that
rules are saved in, exactly if moreover there is no control sequence in it, and if it is not empty,
unless the file stands at the root.  A run that saves a rule with this configuration takes these
settings, and the marked kind where it is given no other one. -/
theorem lists_places_iff {value dir : Text} {content : Bytes} {config : Config} (threshold : Int)
    (hnul : (FilePath.parse value).hasNul = false)
    (hfind : tree.find cwd ((FilePath.parse value).resolve cwd) = .ok (.file content))
    (hconfig : Config.ofBytes ((FilePath.parse value).resolve cwd).parent content = .ok config)
    (hdir : config.output.rulesDir = .text dir) :
    let base := ((FilePath.parse value).resolve cwd).parent
    let listing := (kindsCall threshold value).run tree cwd
    listing.ending.exitCode = 0 ∧
    ((∃ rows, KindsRequest.readListing? listing.ending.output = some rows ∧
        KindsRequest.ListsKinds config rows) ↔ '\n' ∉ dir) ∧
    ((∃ rows, KindsRequest.readListing? listing.ending.output = some rows ∧
        KindsRequest.ListsKinds config rows ∧ KindsRequest.ListsPlaces config base rows) ↔
      '\n' ∉ dir ∧ ¬ HasControlSequence dir ∧ (dir = [] → base.names = [])) ∧
    ∀ {call : Call} {arguments : Arguments NewOption} {given : Text} {found : Config}
      {root : FilePath} {kind : RuleKind} {name : RuleName} {target : FilePath},
      arguments.value? .config = some given →
      (FilePath.parse given).resolve cwd = (FilePath.parse value).resolve cwd →
      call.SavesRule tree cwd arguments found root kind name target →
        found = config ∧ root = base ∧ config.output.rulePath base kind name = .ok target ∧
        (arguments.value? .kind = none → kind = config.rule.kind) := by
  intro base listing
  have hending := ending_kindsCall threshold hnul hfind hconfig hdir
  have hbase : base.isAbsolute = true := FilePath.isAbsolute_resolve cwd (.parse value)
  have hoverfull : '\n' ∈ dir → ∀ rows, KindsRequest.readListing? listing.ending.output =
      some rows → ¬ KindsRequest.ListsKinds config rows := by
    intro hfeed rows hread hkinds
    rw [hending] at hread
    have hmore := KindsRequest.lt_length_of_lineFeed hdir hfeed hread
    have hlength := congrArg List.length hkinds.names
    rw [List.length_map, List.length_map] at hlength
    omega
  have hread : '\n' ∉ dir → KindsRequest.readListing? listing.ending.output =
      some (RuleKind.all.map (KindsRequest.row config (dropControlSequences dir))) := by
    intro hfeed
    rw [hending]
    exact KindsRequest.readListing?_listing hdir hfeed
  refine ⟨by rw [hending]; rfl, ⟨?_, ?_⟩, ⟨?_, ?_⟩, ?_⟩
  · rintro ⟨rows, hrows, hkinds⟩ hfeed
    exact hoverfull hfeed rows hrows hkinds
  · exact fun hfeed => ⟨_, hread hfeed, KindsRequest.listsKinds_rows config _⟩
  · rintro ⟨rows, hrows, hkinds, hplaces⟩
    have hfeed : '\n' ∉ dir := fun hfeed => hoverfull hfeed rows hrows hkinds
    obtain rfl := Option.some.inj ((hread hfeed).symm.trans hrows)
    exact ⟨hfeed, (KindsRequest.listsPlaces_rows_iff hbase hdir).mp hplaces⟩
  · rintro ⟨hfeed, hplaces⟩
    exact ⟨_, hread hfeed, KindsRequest.listsKinds_rows config _,
      (KindsRequest.listsPlaces_rows_iff hbase hdir).mpr hplaces⟩
  · intro call arguments given found root kind name target hgiven hsame hsaves
    have hconfigured := hsaves.configured
    unfold Arguments.ConfigIs at hconfigured
    rw [hgiven] at hconfigured
    obtain ⟨bytes, rfl, hbytes, hfound⟩ := hconfigured
    rw [hsame] at hbytes hfound
    obtain rfl : content = bytes := Node.file.inj (Except.ok.inj (hfind.symm.trans hbytes))
    obtain rfl := Except.ok.inj (hconfig.symm.trans hfound)
    have hpath := hsaves.path
    rw [hsame] at hpath
    refine ⟨rfl, congrArg FilePath.parent hsame, hpath, fun hnone => ?_⟩
    have hasked := hsaves.asked
    unfold Arguments.KindIs at hasked
    rwa [hnone] at hasked

/-! ## A directory outside, and one that is empty -/

/-- A file `c` that configures an empty directory of all rules, and a short template. -/
def emptyDirTree : FileTree :=
  FileTree.empty.put [['a']] .directory |>.put [['a'], ['c']]
    (.file (Utf8.encode "output.rules_dir = \"\"\ntemplate.text = \"new\"".toList))

/-- The directory of the file is printed as one at the root, where nothing is saved. -/
theorem empty_directory_is_listed_at_root :
    let listing := (kindsCall 20 "/a/c".toList).run emptyDirTree []
    let saving := (Call.mk 20 .new ["no-foo".toList, "-c".toList, "/a/c".toList,
      "--write".toList]).run emptyDirTree []
    listing.ending.exitCode = 0 ∧ saving.ending.exitCode = 0 ∧
    (KindsRequest.readListing? listing.ending.output).bind List.head? =
      some ⟨true, "eslint".toList, "/eslint".toList⟩ ∧
    ((⟨.root, [['a']]⟩ : FilePath).append (.parse "/eslint".toList)).resolve [] =
      ⟨.root, ["eslint".toList]⟩ ∧
    saving.files.node? ["eslint".toList] = none ∧
    saving.files.file? [['a'], "eslint".toList, "no_foo.rs".toList] =
      some (Utf8.encode "new\n".toList) := by
  decide +kernel

/-- What is found by evaluation: what stands in the file, and which directory it configures. -/
theorem asideConfig_evaluated :
    ∃ content, asideTree.find [] ⟨.root, [['a'], ['c']]⟩ = .ok (.file content) ∧
      ((Config.ofBytes ⟨.root, [['a']]⟩ content).toOption.any
        fun config => config.output.rulesDir.isText "../r".toList) = true :=
  ⟨Utf8.encode "rule.kind = \"node\"\noutput.rules_dir = \"../r\"\ntemplate.text = \"new\"".toList,
    by decide +kernel⟩

/-- A directory outside that of the file is listed as it is, and what is saved for a kind is saved
in the directory of its row. -/
theorem aside_is_listed :
    ∃ content config, asideTree.find [] ⟨.root, [['a'], ['c']]⟩ = .ok (.file content) ∧
      Config.ofBytes ⟨.root, [['a']]⟩ content = .ok config ∧
      config.output.rulesDir = .text "../r".toList ∧
      ∃ rows, KindsRequest.readListing?
          ((kindsCall 20 "/a/c".toList).run asideTree []).ending.output = some rows ∧
        KindsRequest.ListsKinds config rows ∧
        KindsRequest.ListsPlaces config ⟨.root, [['a']]⟩ rows ∧
        ∃ name target, (Call.mk 20 .new (asideLine.drop 1)).SavesRule asideTree [] asideArguments
            config ⟨.root, [['a']]⟩ .jsxA11y name target ∧
          config.output.rulePath ⟨.root, [['a']]⟩ .jsxA11y name = .ok target := by
  obtain ⟨content, hfind, hevaluated⟩ := asideConfig_evaluated
  obtain ⟨hcall, hread, hdone, hkind⟩ := aside_evaluated
  cases hconfig : Config.ofBytes ⟨.root, [['a']]⟩ content with
  | error fault => simp [hconfig, Except.toOption] at hevaluated
  | ok config =>
      rw [hconfig] at hevaluated
      have hdir := Datum.eq_text_of_isText hevaluated
      obtain ⟨-, -, hplaces, hsaved⟩ := @lists_places_iff asideTree [] "/a/c".toList
        "../r".toList content config 20 (by decide) hfind hconfig hdir
      obtain ⟨rows, hrows, hkinds, hplaces⟩ := hplaces.mpr
        ⟨by decide, Text.dropControlSequences_eq_self_iff.mp (by decide), by decide⟩
      rw [runLine, hcall] at hdone
      obtain ⟨found, root, kind, name, target, hsaves⟩ :=
        Call.exists_savesRule rfl hread rfl hdone
      -- the kind that has been found is the one that is spelled
      obtain rfl : kind = .jsxA11y := Except.ok.inj (hsaves.asked.symm.trans hkind)
      obtain ⟨rfl, rfl, hpath, -⟩ := hsaved rfl rfl hsaves
      exact ⟨content, found, hfind, hconfig, hdir, rows, hrows, hkinds, hplaces, name, target,
        hsaves, hpath⟩

end LintScaffold
