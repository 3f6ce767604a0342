import LintScaffold.Proofs.Config.RulePath
import LintScaffold.Proofs.Rule.Closest
import LintScaffold.Rule.Kind
import Mathlib.Algebra.Order.Field.Rat
import Mathlib.Algebra.Order.Field.Basic
import Mathlib.Tactic.Positivity

/-!
# Reading a kind

A kind is looked up by the lower case of the given text, which is that of all of Unicode, while
the suggestion for an unknown kind is found by case folding.

* The names of the kinds are in ASCII, and the only character beyond ASCII whose lower case is in
  ASCII becomes a letter that no name has.  So a text is read as a kind exactly when it spells
  the name character by character (`parse_eq_ok_iff`).
* The lower case of a text has the same normal form as the text (`normalize_lookupForm`), so that
  the suggestion is the kind that is most similar to the given text.
* A similarity of sixty percent or more leaves the text so short that the order of scores is
  exact.  A longer text is below that with every kind, and so is its score
  (`isBelow_iff`, `suggests`).
-/

namespace LintScaffold.RuleKind

open Similarity

/-! ## Accepted texts -/

/-- The character stands for one of a name: it is the same up to the case of ASCII letters, or an
underscore for a hyphen. -/
def StandsFor (c d : Char) : Prop := c.toLower = d ∨ c = '_' ∧ d = '-'

/-- The text without the blanks around it spells the name of the kind. -/
def Spells (text : Text) (kind : RuleKind) : Prop :=
  List.Forall₂ StandsFor (Text.strip text) kind.name

/-- What is needed about the names of the kinds: a kind is found by its name; the names are in
ASCII, with neither an underscore nor the letter that is the lower case of the Kelvin sign; they
are their own normal forms, and have from three to ten characters. -/
theorem names_evaluated : all.all (fun kind =>
    decide (named? kind.name = some kind) &&
      kind.name.all (fun d => decide (d.toNat < 128 ∧ d ≠ '_' ∧ d ≠ 'k')) &&
      decide (normalize kind.name = kind.name ∧ 3 ≤ kind.name.length ∧
        kind.name.length ≤ 10)) = true := by
  decide +kernel

theorem name_facts (kind : RuleKind) :
    named? kind.name = some kind ∧
      (∀ d ∈ kind.name, d.toNat < 128 ∧ d ≠ '_' ∧ d ≠ 'k') ∧
      normalize kind.name = kind.name ∧ 3 ≤ kind.name.length ∧ kind.name.length ≤ 10 := by
  have hkind := List.all_eq_true.mp names_evaluated kind (mem_all kind)
  rw [Bool.and_eq_true, Bool.and_eq_true, List.all_eq_true, decide_eq_true_eq,
    decide_eq_true_eq] at hkind
  exact ⟨hkind.1.1, fun d hd => of_decide_eq_true (hkind.1.2 d hd), hkind.2⟩

theorem named?_eq_some {text : Text} {kind : RuleKind} :
    named? text = some kind ↔ text = kind.name := by
  constructor
  · intro h
    have hfound := List.find?_some (p := fun kind : RuleKind => decide (kind.name = text)) h
    exact (of_decide_eq_true hfound).symm
  · rintro rfl
    exact (name_facts kind).1

theorem toLower_of_beyond_ascii {c : Char} (hc : 128 ≤ c.toNat) : c.toLower = c := by
  unfold Char.toLower
  refine dif_neg fun h => ?_
  have hlast : c.toNat ≤ 'Z'.toNat := UInt32.le_iff_toNat_le.mp h.2
  exact absurd (hc.trans hlast) (by decide)

theorem StandsFor.isAscii {c d : Char} (h : StandsFor c d) (hd : d.toNat < 128) :
    c.toNat < 128 := by
  rcases h with hlower | ⟨rfl, -⟩
  · by_contra hc
    rw [toLower_of_beyond_ascii (Nat.le_of_not_lt hc)] at hlower
    exact hc (hlower ▸ hd)
  · decide

/-- In ASCII, what stands for a character of a name is looked up as that character. -/
theorem standsFor_iff {c d : Char} (hc : c.toNat < 128) (hd : d ≠ '_') :
    StandsFor c d ↔ (if c.toLower = '_' then '-' else c.toLower) = d := by
  have hmark : c.toLower = '_' ↔ c = '_' :=
    Text.forall_char_lt (P := fun c => c.toLower = '_' ↔ c = '_') (by decide +kernel) hc
  unfold StandsFor
  rw [← hmark]
  split
  · rename_i hlower
    rw [hlower]
    exact ⟨fun h => h.elim (fun hsame => absurd hsame.symm hd) (fun h => h.2.symm),
      fun h => .inr ⟨rfl, h.symm⟩⟩
  · rename_i hlower
    exact ⟨fun h => h.elim id fun h => absurd h.1 hlower, .inl⟩

/-- What is lowered to a text in ASCII without the letter `k` is in ASCII. -/
theorem toNat_lt_of_lowerAfter_cons {cased : Bool} {c : Char} {rest : Text}
    (h : Text.IsAscii (Text.lowerAfter cased (c :: rest)))
    (hk : 'k' ∉ Text.lowerAfter cased (c :: rest)) :
    c.toNat < 128 := by
  have hc : c ≠ 'Σ' := by
    rintro rfl
    exact Text.not_isAscii_lowerAfter_sigma cased rest h
  obtain ⟨next, hnext⟩ := Text.lowerAfter_cons hc cased rest
  rw [hnext] at h hk
  by_contra hbeyond
  have hkelvin := Text.eq_kelvin (Nat.le_of_not_lt hbeyond) (Text.isAscii_append.mp h).1
  rw [hkelvin, Text.lowersTo_beyond_ascii.1.lower] at hk
  exact hk (by simp)

theorem lowerAfter_cons_of_ascii {c : Char} (hc : c.toNat < 128) (cased : Bool) (rest : Text) :
    ∃ next, Text.lowerAfter cased (c :: rest) = c.toLower :: Text.lowerAfter next rest := by
  have hsigma : c ≠ 'Σ' := by
    rintro rfl
    exact absurd hc (by decide)
  obtain ⟨next, hnext⟩ := Text.lowerAfter_cons hsigma cased rest
  exact ⟨next, by rw [hnext, (Text.case_of_ascii hc).2, List.singleton_append]⟩

/-- The lower case of a text is a name exactly when the text spells it. -/
theorem lowerAfter_eq_iff {cased : Bool} {text name : Text}
    (hname : ∀ d ∈ name, d.toNat < 128 ∧ d ≠ '_' ∧ d ≠ 'k') :
    Text.replaceChar '_' '-' (Text.lowerAfter cased text) = name ↔
      List.Forall₂ StandsFor text name := by
  induction text generalizing cased name with
  | nil =>
      rw [List.forall₂_nil_left_iff]
      exact eq_comm
  | cons c rest ih =>
      constructor
      · rintro rfl
        -- an underscore is in ASCII, and all other characters are kept
        have hmem : ∀ x ∈ Text.lowerAfter cased (c :: rest), x.toNat < 128 ∧ x ≠ 'k' := by
          intro x hx
          by_cases hx' : x = '_'
          · rw [hx']
            decide
          · have hkept := hname x (List.mem_map.mpr ⟨x, hx, if_neg hx'⟩)
            exact ⟨hkept.1, hkept.2.2⟩
        have hc := toNat_lt_of_lowerAfter_cons (fun x hx => (hmem x hx).1) fun hk => (hmem _ hk).2 rfl
        obtain ⟨next, hnext⟩ := lowerAfter_cons_of_ascii hc cased rest
        rw [hnext, Text.replaceChar, List.map_cons] at hname ⊢
        obtain ⟨hfirst, hrest⟩ := List.forall_mem_cons.mp hname
        exact .cons ((standsFor_iff hc hfirst.2.1).mpr rfl) ((ih hrest).mp rfl)
      · intro h
        obtain ⟨d, later, hcd, hrest, rfl⟩ := List.forall₂_cons_left_iff.mp h
        obtain ⟨hfirst, hlater⟩ := List.forall_mem_cons.mp hname
        have hc := hcd.isAscii hfirst.1
        obtain ⟨next, hnext⟩ := lowerAfter_cons_of_ascii hc cased rest
        rw [hnext, Text.replaceChar, List.map_cons, ← Text.replaceChar, (ih hlater).mpr hrest,
          (standsFor_iff hc hfirst.2.1).mp hcd]

/-- A text is read as a kind exactly when it spells its name. -/
theorem parse_eq_ok_iff {text : Text} {kind : RuleKind} :
    parse text = .ok kind ↔ Spells text kind := by
  have hform : lookupForm text = kind.name ↔ Spells text kind :=
    lowerAfter_eq_iff (name_facts kind).2.1
  rw [← hform, ← named?_eq_some]
  unfold parse
  dsimp only
  cases named? (lookupForm text) with
  | some other => simp
  | none => simp

/-- There is no character beyond ASCII in the spelling of a name. -/
theorem Spells.isAscii {text : Text} {kind : RuleKind} (h : Spells text kind) :
    Text.IsAscii (Text.strip text) := by
  have hname := (name_facts kind).2.1
  unfold Spells at h
  generalize Text.strip text = spelling, kind.name = name at h hname
  induction h with
  | nil => exact fun c hc => absurd hc List.not_mem_nil
  | cons hcd _ ih =>
      obtain ⟨hfirst, hlater⟩ := List.forall_mem_cons.mp hname
      exact List.forall_mem_cons.mpr ⟨hcd.isAscii hfirst.1, ih hlater⟩

/-! ## Similarities -/

/-- How similar the text is to the kind: twice the length of a longest common subsequence of the
normal forms, divided by their total length. -/
def likeness (text : Text) (kind : RuleKind) : ℚ :=
  (2 * commonLength (normalize text) kind.name : ℕ) /
    ((normalize text).length + kind.name.length : ℕ)

/-- The first kind that no other one is more similar to the text than. -/
def IsMostAlike (text : Text) (kind : RuleKind) : Prop :=
  ∃ before after, all = before ++ kind :: after ∧
    (∀ other ∈ before, likeness text other < likeness text kind) ∧
    ∀ other ∈ after, likeness text other ≤ likeness text kind

/-- The suggestion is the name of the first of the most similar kinds, if the similarity is sixty
percent at least. -/
def Suggests (text : Text) : Option Text → Prop
  | none => ∀ kind, likeness text kind < 3 / 5
  | some name => ∃ kind, kind.name = name ∧ IsMostAlike text kind ∧ 3 / 5 ≤ likeness text kind

variable {text : Text} {kind other : RuleKind}

/-- The lower case of a text has the normal form of the text. -/
theorem normalize_lookupForm (text : Text) : normalize (lookupForm text) = normalize text := by
  have htrim := (Text.isTrim_strip text).lower
  calc normalize (lookupForm text)
      = Text.replaceChar '_' '-' (Text.fold (Text.lower (Text.strip text))) :=
        normalize_replaceChar htrim
    _ = normalize text := by rw [Text.fold_lower]; rfl

theorem suggestion?_lookupForm (text : Text) :
    suggestion? (lookupForm text) = suggestion? text := by
  unfold suggestion? closest
  rw [normalize_lookupForm]

/-- The length of both texts, which is that of the longest common subsequence counted twice and the
distance. -/
theorem common_add_distance (text : Text) (kind : RuleKind) :
    2 * commonLength (normalize text) kind.name + distance (normalize text) kind.name =
      (normalize text).length + kind.name.length := by
  have hle := commonLength_le (normalize text) kind.name
  unfold distance
  omega

theorem total_pos (text : Text) (kind : RuleKind) :
    (0 : ℚ) < ((normalize text).length + kind.name.length : ℕ) := by
  have hlength := (name_facts kind).2.2.2.1
  exact Nat.cast_pos.mpr (by omega)

theorem likeness_lt_iff : likeness text other < likeness text kind ↔
    distance (normalize text) kind.name * ((normalize text).length + other.name.length) <
      distance (normalize text) other.name * ((normalize text).length + kind.name.length) := by
  have hkind := congrArg (· * ((normalize text).length + other.name.length))
    (common_add_distance text kind)
  have hother := congrArg (· * ((normalize text).length + kind.name.length))
    (common_add_distance text other)
  rw [Nat.add_mul] at hkind hother
  rw [Nat.mul_comm (_ + other.name.length)] at hother
  unfold likeness
  rw [div_lt_div_iff₀ (total_pos text other) (total_pos text kind), ← Nat.cast_mul,
    ← Nat.cast_mul, Nat.cast_lt]
  omega

theorem likeness_lt_sixty_iff : likeness text kind < 3 / 5 ↔
    2 * ((normalize text).length + kind.name.length) < distance (normalize text) kind.name * 5 := by
  have hkind := common_add_distance text kind
  unfold likeness
  rw [div_lt_div_iff₀ (total_pos text kind) (by norm_num)]
  norm_cast
  omega

/-! ## Scores of kinds -/

/-- The cutoff is the score of two texts that are apart by two fifths, and the hundredth part of
it is their similarity. -/
theorem cutoff_evaluated :
    defaultThreshold.mul hundred = Binary64.ofRatio false 60 1 ∧
      scoreUnits 2 5 = 60 * Binary64.scale ∧
      Binary64.rounded (60 * Binary64.scale) 100 = alikeUnits 2 5 ∧
      scoreUnits 1 2 < 60 * Binary64.scale ∧ IsShare defaultThreshold := by
  decide +kernel

/-- A similarity of sixty percent is reached by short texts only. -/
theorem length_le_of_likeness (h : ¬ likeness text kind < 3 / 5) :
    (normalize text).length ≤ 30 := by
  have hcommon := (commonLength_le (normalize text) kind.name).2
  have hkind := common_add_distance text kind
  have hlength := (name_facts kind).2.2.2.2
  rw [likeness_lt_sixty_iff] at h
  omega

theorem isBelow_name_iff : IsBelow defaultThreshold text kind.name ↔
    scoreUnits (distance (normalize text) kind.name)
      ((normalize text).length + kind.name.length) < 60 * Binary64.scale := by
  have hcutoff := Binary64.hasUnits_whole (by decide : 60 ≤ 100)
  rw [← cutoff_evaluated.1] at hcutoff
  rw [IsBelow, (hasUnits_score _ _).lt_iff hcutoff, (name_facts kind).2.2.1]

/-- The score of a kind is below the cutoff exactly when the similarity is below sixty percent. -/
theorem isBelow_iff : IsBelow defaultThreshold text kind.name ↔ likeness text kind < 3 / 5 := by
  have hlength := (name_facts kind).2.2.2
  rw [isBelow_name_iff]
  by_cases hshort : (normalize text).length ≤ 2 ^ 20
  · rw [← cutoff_evaluated.2.1, likeness_lt_sixty_iff]
    exact scoreUnits_lt_iff (by decide) (by omega) (distance_le _ _) (by omega)
  · -- no more than twenty characters belong to a common subsequence
    refine iff_of_true ?_ ?_
    · refine Nat.lt_of_le_of_lt ?_ cutoff_evaluated.2.2.2.1
      have hcommon := (commonLength_le (normalize text) kind.name).2
      have hkind := common_add_distance text kind
      exact scoreUnits_anti (by decide) (by omega) (by omega)
    · by_contra hlike
      have hle := length_le_of_likeness hlike
      omega

/-- No kind is lost. -/
theorem not_isLost : ¬ IsLost defaultThreshold text kind.name := by
  intro hlost
  obtain ⟨hcutoff, -, hpart, -, hshare⟩ := cutoff_evaluated
  have hlength := (name_facts kind).2.2.2.1
  have hlike : ¬ likeness text kind < 3 / 5 := isBelow_iff.not.mp (hlost.not_isBelow hshare)
  have hcutoff' := (Binary64.hasUnits_whole (by decide : 60 ≤ 100)).div_hundred
    (Nat.mul_le_mul_right Binary64.scale (by decide))
  rw [← hcutoff, hpart] at hcutoff'
  have hless := ((hasUnits_similarity _ _).lt_iff hcutoff').mp hlost.2
  rw [(name_facts kind).2.2.1] at hless
  rw [likeness_lt_sixty_iff] at hlike
  exact absurd (alikeUnits_anti (by omega) (by decide) (by omega)) (Nat.not_le.mpr hless)

/-- The scores of kinds are ordered as the similarities are, unless the text is very long. -/
theorem score_lt_name_iff (hshort : (normalize text).length ≤ 30) :
    (score (normalize text) (normalize other.name)).lt
        (score (normalize text) (normalize kind.name)) = true ↔
      likeness text other < likeness text kind := by
  obtain ⟨-, -, hsame, hpos, hten⟩ := name_facts kind
  obtain ⟨-, -, hsame', hpos', hten'⟩ := name_facts other
  rw [(hasUnits_score _ _).lt_iff (hasUnits_score _ _), hsame, hsame', likeness_lt_iff]
  refine scoreUnits_lt_iff (by omega) (by omega) (distance_le _ _) ?_
  calc ((normalize text).length + kind.name.length) *
        ((normalize text).length + other.name.length)
      ≤ 40 * 40 := Nat.mul_le_mul (by omega) (by omega)
    _ ≤ 2 ^ 45 := by decide

/-! ## Suggestions -/

/-- The suggestion for a text is the first of the most similar kinds. -/
theorem suggests_suggestion? (text : Text) : Suggests text (suggestion? text) := by
  obtain ⟨result, hresult, hclosest⟩ :=
    isClosest_iff cutoff_evaluated.2.2.2.2 text (all.map name)
  have hnames : ∀ best ∈ all.map name, ¬ IsLost defaultThreshold text best := by
    intro best hbest
    obtain ⟨kind, -, rfl⟩ := List.mem_map.mp hbest
    exact not_isLost
  have hspec := hclosest.mpr (.inr fun best hbest => hnames best (isFirstBest_iff.mp hbest).mem)
  rw [suggestion?, hresult]
  cases result with
  | none =>
      intro kind
      rcases hspec with hempty | hnone | hbelow
      · have hcommon := (commonLength_le (normalize text) kind.name).1
        have hdistance := common_add_distance text kind
        have hlength := (name_facts kind).2.2.2.1
        rw [likeness_lt_sixty_iff]
        rw [hempty, List.length_nil] at hcommon hdistance ⊢
        omega
      · exact absurd hnone (by decide)
      · exact isBelow_iff.mp (hbelow kind.name (List.mem_map_of_mem (mem_all kind)))
  | some best =>
      obtain ⟨-, hbelow, before, after, hall, hbefore, hafter⟩ := hspec
      obtain ⟨kinds, later, hkinds, rfl, hlater⟩ := List.map_eq_append_iff.mp hall
      obtain ⟨kind, rest, rfl, rfl, rfl⟩ := List.map_eq_cons_iff.mp hlater
      rw [isBelow_iff] at hbelow
      have hshort := length_le_of_likeness hbelow
      refine ⟨kind, rfl, ⟨kinds, rest, hkinds, fun other hother => ?_, fun other hother => ?_⟩,
        not_lt.mp hbelow⟩
      · exact (score_lt_name_iff hshort).mp (hbefore other.name (List.mem_map_of_mem hother))
      · have hnot := hafter other.name (List.mem_map_of_mem hother)
        rw [← Bool.not_eq_true, score_lt_name_iff hshort] at hnot
        exact not_lt.mp hnot

/-! ## One edit -/

/-- One inserted, deleted or replaced character leads from one text to the other. -/
inductive OneEdit : Text → Text → Prop
  | insert (before after : Text) (c : Char) : OneEdit (before ++ after) (before ++ c :: after)
  | delete (before after : Text) (c : Char) : OneEdit (before ++ c :: after) (before ++ after)
  | replace (before after : Text) (c d : Char) :
      OneEdit (before ++ c :: after) (before ++ d :: after)

/-- All but one character of the longer text belong to both texts. -/
theorem OneEdit.length_le {xs ys : Text} (h : OneEdit xs ys) :
    xs.length + ys.length ≤ 2 * commonLength xs ys + 2 ∧
      (xs.length ≠ ys.length → xs.length + ys.length ≤ 2 * commonLength xs ys + 1) := by
  cases h with
  | insert before after c =>
      have hcommon := length_le_commonLength (List.Sublist.refl (before ++ after))
        ((List.Sublist.refl before).append (List.sublist_cons_self c after))
      simp only [List.length_append, List.length_cons] at hcommon ⊢
      omega
  | delete before after c =>
      have hcommon := length_le_commonLength
        ((List.Sublist.refl before).append (List.sublist_cons_self c after))
        (List.Sublist.refl (before ++ after))
      simp only [List.length_append, List.length_cons] at hcommon ⊢
      omega
  | replace before after c d =>
      have hcommon := length_le_commonLength
        ((List.Sublist.refl before).append (List.sublist_cons_self c after))
        ((List.Sublist.refl before).append (List.sublist_cons_self d after))
      simp only [List.length_append, List.length_cons] at hcommon ⊢
      omega

/-- A text one edit away from a kind is similar to it. -/
theorem OneEdit.likeness (h : OneEdit (normalize text) kind.name) :
    ¬ RuleKind.likeness text kind < 3 / 5 := by
  have hcommon := h.length_le
  have hdistance := common_add_distance text kind
  have hlength := (name_facts kind).2.2.2.1
  rw [likeness_lt_sixty_iff]
  omega

/-! ## Reading -/

theorem parse_ok_or_error (text : Text) :
    (∃ kind, parse text = .ok kind) ∨ parse text = .error ⟨text, suggestion? text⟩ := by
  unfold parse
  dsimp only
  rw [suggestion?_lookupForm]
  cases named? (lookupForm text) with
  | some kind => exact .inl ⟨kind, rfl⟩
  | none => exact .inr rfl

/-- A text is read as a kind exactly when it spells its name, and then it is in ASCII.  Every
other text is refused as it stands, with the first of the most similar kinds if their similarity
is sixty percent at least, which it is if one edit leads from the normal form of the text to the
name of a kind. -/
theorem parse_spells_or_suggests (text : Text) :
    (∀ kind, parse text = .ok kind ↔ Spells text kind) ∧
    (∀ kind, parse text = .ok kind → Text.IsAscii (Text.strip text)) ∧
    ((∀ kind, ¬ Spells text kind) → ∃ suggestion, parse text = .error ⟨text, suggestion⟩ ∧
      Suggests text suggestion ∧
      ((∃ kind : RuleKind, OneEdit (normalize text) kind.name) →
        ∃ kind : RuleKind, suggestion = some kind.name)) := by
  refine ⟨fun kind => parse_eq_ok_iff, fun kind hkind => (parse_eq_ok_iff.mp hkind).isAscii,
    fun hnone => ⟨suggestion? text, ?_, suggests_suggestion? text, ?_⟩⟩
  · refine (parse_ok_or_error text).resolve_left ?_
    rintro ⟨kind, hkind⟩
    exact hnone kind (parse_eq_ok_iff.mp hkind)
  · rintro ⟨kind, hedit⟩
    have hsuggests := suggests_suggestion? text
    cases hsuggestion : suggestion? text with
    | none =>
        rw [hsuggestion] at hsuggests
        exact absurd (hsuggests kind) hedit.likeness
    | some name =>
        rw [hsuggestion] at hsuggests
        obtain ⟨other, rfl, -⟩ := hsuggests
        exact ⟨other, rfl⟩

instance (c d : Char) : Decidable (StandsFor c d) := inferInstanceAs (Decidable (_ ∨ _))

instance (text : Text) (kind : RuleKind) : Decidable (Spells text kind) :=
  inferInstanceAs (Decidable (List.Forall₂ _ _ _))

/-- A kind may be spelled with capitals, an underscore and blanks around it; one wrong letter is
refused with a suggestion. -/
theorem reakt_is_refused : parse " Jsx_A11Y\n".toList = .ok .jsxA11y ∧
    ∃ kind : RuleKind, parse "Reakt".toList = .error ⟨"Reakt".toList, some kind.name⟩ := by
  have hreakt : ∀ kind, ¬ Spells "Reakt".toList kind := by
    intro kind
    cases kind <;> decide +kernel
  have hedit : OneEdit (normalize "Reakt".toList) react.name := by
    have hform : normalize "Reakt".toList = "rea".toList ++ 'k' :: "t".toList := by decide +kernel
    rw [hform]
    exact .replace "rea".toList "t".toList 'k' 'c'
  refine ⟨((parse_spells_or_suggests _).1 .jsxA11y).mpr (by decide +kernel), ?_⟩
  obtain ⟨suggestion, hparse, -, hsome⟩ := (parse_spells_or_suggests _).2.2 hreakt
  obtain ⟨kind, rfl⟩ := hsome ⟨.react, hedit⟩
  exact ⟨kind, hparse⟩

end LintScaffold.RuleKind
