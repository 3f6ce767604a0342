import LintScaffold.Rule.Words
import Mathlib.Data.List.Basic

/-!
# Letters whose case is ASCII

Upper and lower case leave ASCII alone in the sense that an ASCII character only ever becomes
another one (`case_of_ascii`).  The other direction fails.  There are letters beyond ASCII that enter it:
`outsiders` lists those whose upper case is ASCII, from the sharp s, which becomes two letters,
to the ligatures of f; and the Kelvin sign is the only one with an ASCII lower case.

Both lists are read off the tables, run by run: a run whose targets are all beyond ASCII is out
of the question for any character, so that a check of the table settles the matter for all of
Unicode.  From there the lower case of a text is followed character by character.  If it is
ASCII, then it does not depend on what stands before the text, and it is its own lower case.
-/

namespace LintScaffold.Text

/-- All characters of the text are ASCII. -/
abbrev IsAscii (text : Text) : Prop := ∀ c ∈ text, c.toNat < 128

theorem isAscii_append {text other : Text} :
    IsAscii (text ++ other) ↔ IsAscii text ∧ IsAscii other :=
  List.forall_mem_append

theorem isAscii_singleton {c : Char} : IsAscii [c] ↔ c.toNat < 128 := List.forall_mem_singleton

/-- What holds of all characters up to a code point can be checked code by code. -/
theorem forall_char_lt {bound : Nat} {P : Char → Prop}
    (h : ∀ n < bound, P (Char.ofNat n)) {c : Char} (hc : c.toNat < bound) : P c := by
  have hcode := h c.toNat hc
  rwa [Char.ofNat_toNat] at hcode

theorem toNat_lt_of_letter_or_digit {c : Char} (h : (isAsciiLetter c || isAsciiDigit c) = true) :
    c.toNat < 128 := by
  have hlast : c ≤ 'z' := by
    simp only [isAsciiLetter, isAsciiDigit, Bool.or_eq_true, Bool.and_eq_true,
      decide_eq_true_eq] at h
    rcases h with (hsmall | hcapital) | hdigit
    · exact hsmall.2
    · exact Char.le_trans hcapital.2 (by decide)
    · exact Char.le_trans hdigit.2 (by decide)
  exact Nat.lt_of_le_of_lt (m := 'z'.toNat) hlast (by decide)

/-! ## What the tables say -/

/-- The run leads from ASCII, from one of the `sources`, or to characters beyond ASCII only. -/
def CaseRun.isApart (sources : List Nat) (run : CaseRun) : Bool :=
  decide (run.last < 128) || (decide (run.first = run.last) && sources.contains run.first) ||
    (decide (128 ≤ run.target) && decide (run.target + (run.last - run.first) < 0xd800)) ||
    (decide (0xe000 ≤ run.target) && decide (run.target + (run.last - run.first) < 0x110000))

/-- The entry is one of the `sources`, or holds a character beyond ASCII. -/
def isApartEntry (sources : List Nat) (entry : Nat × List Nat) : Bool :=
  sources.contains entry.1 || entry.2.any fun n => decide (128 ≤ (Char.ofNat n).toNat)

/-- The run says something about the code point. -/
def CaseRun.Meets (run : CaseRun) (n : Nat) : Prop :=
  run.first ≤ n ∧ n ≤ run.last ∧ (n - run.first) % run.stride = 0

theorem CaseRun.find?_eq_some {runs : List CaseRun} {n m : Nat} (h : find? runs n = some m) :
    ∃ run ∈ runs, run.Meets n ∧ m = run.target + (n - run.first) := by
  induction runs with
  | nil => simp [find?] at h
  | cons run rest ih =>
      have hlater : find? rest n = some m →
          ∃ run' ∈ run :: rest, run'.Meets n ∧ m = run'.target + (n - run'.first) := by
        intro hrest
        obtain ⟨found, hmem, hfound⟩ := ih hrest
        exact ⟨found, List.mem_cons_of_mem run hmem, hfound⟩
      unfold find? at h
      split at h
      · simp at h
      · rename_i hfirst
        split at h
        · rename_i hlast
          split at h
          · rename_i hstride
            exact ⟨run, List.mem_cons_self, ⟨Nat.le_of_not_lt hfirst, hlast, hstride⟩,
              (Option.some.inj h).symm⟩
          · exact hlater h
        · exact hlater h

theorem toNat_ofNat_of_valid {n : Nat} (h : n < 0xd800 ∨ 0xe000 ≤ n ∧ n < 0x110000) :
    (Char.ofNat n).toNat = n := by
  have hvalid : n.isValidChar := by
    rcases h with hlow | ⟨hhigh, hlast⟩
    · exact .inl hlow
    · exact .inr ⟨by omega, hlast⟩
  rw [Char.ofNat, dif_pos hvalid]
  rfl

/-- A mapping is that of an entry for several characters, or of a run. -/
theorem mapCase_eq_some {special : List (Nat × List Nat)} {runs : List CaseRun} {c : Char}
    {text : Text} (h : mapCase special runs c = some text) :
    (∃ codes, (c.toNat, codes) ∈ special ∧ text = ofCodes codes) ∨
      ∃ run ∈ runs, run.Meets c.toNat ∧
        text = [Char.ofNat (run.target + (c.toNat - run.first))] := by
  unfold mapCase at h
  cases hlookup : special.lookup c.toNat with
  | some codes =>
      rw [hlookup] at h
      obtain ⟨before, after, rfl, -⟩ := List.lookup_eq_some_iff.mp hlookup
      exact .inl ⟨codes, by simp, (Option.some.inj h).symm⟩
  | none =>
      rw [hlookup] at h
      obtain ⟨m, hm, rfl⟩ := Option.map_eq_some_iff.mp h
      obtain ⟨run, hrun, hmeets, rfl⟩ := CaseRun.find?_eq_some hm
      exact .inr ⟨run, hrun, hmeets, rfl⟩

/-- A character beyond ASCII that a mapping brings into ASCII is one of the `sources`, provided
that its tables pass the check. -/
theorem mem_sources_of_isAscii {special : List (Nat × List Nat)} {runs : List CaseRun}
    {sources : List Nat} (hspecial : special.all (isApartEntry sources) = true)
    (hruns : runs.all (CaseRun.isApart sources) = true) {c : Char} (hc : 128 ≤ c.toNat)
    (h : IsAscii ((mapCase special runs c).getD [c])) : c.toNat ∈ sources := by
  cases hmap : mapCase special runs c with
  | none =>
      rw [hmap] at h
      have hascii := h c (by simp)
      omega
  | some text =>
      rw [hmap, Option.getD_some] at h
      obtain ⟨codes, hentry, rfl⟩ | ⟨run, hrun, ⟨hfirst, hlast, -⟩, rfl⟩ := mapCase_eq_some hmap
      · have hapart := List.all_eq_true.mp hspecial _ hentry
        simp only [isApartEntry, Bool.or_eq_true, List.contains_iff_mem, List.any_eq_true,
          decide_eq_true_eq] at hapart
        rcases hapart with hsource | ⟨n, hn, hbeyond⟩
        · exact hsource
        · have hascii := h (Char.ofNat n) (List.mem_map_of_mem hn)
          omega
      · have hascii := h (Char.ofNat (run.target + (c.toNat - run.first))) (by simp)
        have hapart := List.all_eq_true.mp hruns run hrun
        simp only [CaseRun.isApart, Bool.or_eq_true, Bool.and_eq_true, decide_eq_true_eq,
          List.contains_iff_mem] at hapart
        rcases hapart with ((hlow | ⟨hsingle, hsource⟩) | ⟨hbeyond, hvalid⟩) | ⟨hbeyond, hvalid⟩
        · omega
        · have hstart : c.toNat = run.first := by omega
          exact hstart ▸ hsource
        -- in the other runs the target is a character beyond ASCII
        · rw [toNat_ofNat_of_valid (.inl (by omega))] at hascii
          omega
        · rw [toNat_ofNat_of_valid (.inr (by omega))] at hascii
          omega

/-! ## Single characters -/

/-- What a character becomes is read off the runs if all several-character mappings are those of
characters beyond ASCII. -/
theorem mapCase_of_ascii {special : List (Nat × List Nat)}
    (hspecial : special.all (fun entry => decide (128 ≤ entry.1)) = true) (runs : List CaseRun)
    {c : Char} (hc : c.toNat < 128) :
    mapCase special runs c = (CaseRun.find? runs c.toNat).map fun n => [Char.ofNat n] := by
  have hlookup : special.lookup c.toNat = none := by
    cases h : special.lookup c.toNat with
    | none => rfl
    | some codes =>
        obtain ⟨before, after, rfl, -⟩ := List.lookup_eq_some_iff.mp h
        have hbeyond := List.all_eq_true.mp hspecial (c.toNat, codes) (by simp)
        exact absurd hc (Nat.not_lt.mpr (of_decide_eq_true hbeyond))
  rw [mapCase, hlookup]

/-- An ASCII character becomes the ASCII character that it is in the other case. -/
theorem case_of_ascii {c : Char} (hc : c.toNat < 128) :
    upperChar c = [c.toUpper] ∧ lowerChar c = [c.toLower] := by
  rw [upperChar, lowerChar, mapCase_of_ascii (by decide +kernel) upperRuns hc,
    mapCase_of_ascii (by decide +kernel) lowerRuns hc]
  exact forall_char_lt (P := fun c =>
    ((CaseRun.find? upperRuns c.toNat).map fun n => [Char.ofNat n]).getD [c] = [c.toUpper] ∧
    ((CaseRun.find? lowerRuns c.toNat).map fun n => [Char.ofNat n]).getD [c] = [c.toLower])
    (by decide +kernel) hc

/-- The code points of the letters beyond ASCII whose upper case is ASCII: the sharp s, the
dotless i, the long s and seven ligatures. -/
def outsiderCodes : List Nat :=
  [0xdf, 0x131, 0x17f, 0xfb00, 0xfb01, 0xfb02, 0xfb03, 0xfb04, 0xfb05, 0xfb06]

/-- The letters beyond ASCII whose upper case is ASCII. -/
def outsiders : Text := ofCodes outsiderCodes

/-- The code point of the Kelvin sign. -/
def kelvinCode : Nat := 0x212a

theorem mem_outsiders {c : Char} (hc : 128 ≤ c.toNat) (h : IsAscii (upperChar c)) :
    c ∈ outsiders := by
  have hcode : c.toNat ∈ outsiderCodes :=
    mem_sources_of_isAscii (by decide +kernel) (by decide +kernel) hc h
  exact List.mem_map.mpr ⟨c.toNat, hcode, Char.ofNat_toNat c⟩

theorem eq_kelvin {c : Char} (hc : 128 ≤ c.toNat) (h : IsAscii (lowerChar c)) :
    c = Char.ofNat kelvinCode := by
  have hcode : c.toNat ∈ [kelvinCode] :=
    mem_sources_of_isAscii (by decide +kernel) (by decide +kernel) hc h
  rw [← List.mem_singleton.mp hcode, Char.ofNat_toNat]

/-- The lower case of `c` is the single character `d`, which is no capital and is its own lower
case. -/
structure LowersTo (c d : Char) : Prop where
  lower : lowerChar c = [d]
  stays : lowerChar d = [d]
  small : Words.isCapital d = false

instance (c d : Char) : Decidable (LowersTo c d) :=
  decidable_of_iff (lowerChar c = [d] ∧ lowerChar d = [d] ∧ Words.isCapital d = false)
    ⟨fun h => ⟨h.1, h.2.1, h.2.2⟩, fun h => ⟨h.lower, h.stays, h.small⟩⟩

/-- An ASCII character is lowered once and for all.  If it is a letter or a digit, then so is its
lower case, which is ASCII and has the same upper case. -/
theorem lowersTo_of_ascii {c : Char} (hc : c.toNat < 128) :
    ∃ d, LowersTo c d ∧ (isAlphanumeric c = true → isAlphanumeric d = true ∧
      upperChar d = upperChar c ∧ c ∉ outsiders ∧ d.toNat < 128) := by
  obtain ⟨hascii, hstays, hsmall, hupper, hnot, hword⟩ := forall_char_lt (P := fun c =>
    c.toLower.toNat < 128 ∧ c.toLower.toLower = c.toLower ∧ Words.isCapital c.toLower = false ∧
      c.toLower.toUpper = c.toUpper ∧ c ∉ outsiders ∧
      (isAlphanumeric c = true → isAlphanumeric c.toLower = true)) (by decide +kernel) hc
  have hcase := case_of_ascii hascii
  rw [hstays, hupper] at hcase
  refine ⟨c.toLower, ⟨(case_of_ascii hc).2, hcase.2, hsmall⟩, fun halnum => ?_⟩
  exact ⟨hword halnum, hcase.1.trans (case_of_ascii hc).1.symm, hnot, hascii⟩

/-- So is the Kelvin sign, and the outsiders are small letters already. -/
theorem lowersTo_beyond_ascii : LowersTo (Char.ofNat kelvinCode) 'k' ∧
    outsiders.all (fun x => decide (LowersTo x x)) = true := by
  decide +kernel

/-- A character whose lower case is ASCII is lowered once and for all. -/
theorem exists_lowersTo {c : Char} (h : IsAscii (lowerChar c)) : ∃ d, LowersTo c d := by
  by_cases hc : c.toNat < 128
  · obtain ⟨d, hd, -⟩ := lowersTo_of_ascii hc
    exact ⟨d, hd⟩
  · rw [eq_kelvin (Nat.le_of_not_lt hc) h]
    exact ⟨'k', lowersTo_beyond_ascii.1⟩

/-- A letter or digit whose upper case is ASCII is lowered once and for all as well, and its
lower case has the same upper case.  The lower case is ASCII itself unless the letter is an
outsider. -/
theorem exists_lowersTo_of_upper {c : Char} (hword : isAlphanumeric c = true)
    (h : IsAscii (upperChar c)) :
    ∃ d, LowersTo c d ∧ isAlphanumeric d = true ∧ upperChar d = upperChar c ∧
      (c ∉ outsiders ∧ d.toNat < 128 ∨ c ∈ outsiders ∧ d = c) := by
  by_cases hc : c.toNat < 128
  · obtain ⟨d, hd, hcase⟩ := lowersTo_of_ascii hc
    obtain ⟨halnum, hupper, hnot, hascii⟩ := hcase hword
    exact ⟨d, hd, halnum, hupper, .inl ⟨hnot, hascii⟩⟩
  · have hmem := mem_outsiders (Nat.le_of_not_lt hc) h
    have hstays := of_decide_eq_true (List.all_eq_true.mp lowersTo_beyond_ascii.2 c hmem)
    exact ⟨c, hstays, hword, rfl, .inr ⟨hmem, rfl⟩⟩

/-! ## Texts -/

/-- The capital sigma is its own upper case, and has another lower case. -/
theorem case_sigma : upperChar 'Σ' = ['Σ'] ∧ lowerChar 'Σ' ≠ ['Σ'] := by
  decide +kernel

theorem isAscii_sigma : ¬ IsAscii ['σ'] ∧ ¬ IsAscii ['ς'] ∧ ¬ IsAscii (upperChar 'Σ') := by
  rw [case_sigma.1, isAscii_singleton, isAscii_singleton, isAscii_singleton]
  decide

theorem lowerAfter_cons {c : Char} (hc : c ≠ 'Σ') (cased : Bool) (rest : Text) :
    ∃ next, lowerAfter cased (c :: rest) = lowerChar c ++ lowerAfter next rest := by
  rw [lowerAfter, if_neg hc]
  exact ⟨_, rfl⟩

theorem not_isAscii_lowerAfter_sigma (cased : Bool) (rest : Text) :
    ¬ IsAscii (lowerAfter cased ('Σ' :: rest)) := by
  intro h
  unfold lowerAfter at h
  rw [if_pos rfl, isAscii_append] at h
  obtain ⟨hσ, hς, -⟩ := isAscii_sigma
  split at h
  · exact hς h.1
  · exact hσ h.1

theorem LowersTo.ne_sigma {c d : Char} (h : LowersTo c d) : d ≠ 'Σ' := by
  rintro rfl
  exact case_sigma.2 h.stays

/-- A lower case that is ASCII does not depend on what stands before the text.  It is its own
lower case, and there are no capitals in it. -/
theorem lowerAfter_of_isAscii {cased : Bool} {text : Text}
    (h : IsAscii (lowerAfter cased text)) (other : Bool) :
    lowerAfter other text = lowerAfter cased text ∧
      lowerAfter other (lowerAfter cased text) = lowerAfter cased text ∧
      ∀ d ∈ lowerAfter cased text, Words.isCapital d = false := by
  induction text generalizing cased other with
  | nil => simp [lowerAfter]
  | cons c rest ih =>
      have hc : c ≠ 'Σ' := by
        rintro rfl
        exact not_isAscii_lowerAfter_sigma cased rest h
      obtain ⟨next, hnext⟩ := lowerAfter_cons hc cased rest
      obtain ⟨next', hnext'⟩ := lowerAfter_cons hc other rest
      rw [hnext, isAscii_append] at h
      obtain ⟨d, hd⟩ := exists_lowersTo h.1
      obtain ⟨hsame, -, hsmall⟩ := ih h.2 next'
      rw [hnext, hnext', hsame, hd.lower, List.singleton_append]
      refine ⟨rfl, ?_, ?_⟩
      · obtain ⟨later, hlater⟩ := lowerAfter_cons hd.ne_sigma other (lowerAfter next rest)
        rw [hlater, hd.stays, (ih h.2 later).2.1, List.singleton_append]
      · exact List.forall_mem_cons.mpr ⟨hd.small, hsmall⟩

end LintScaffold.Text
