import LintScaffold.Proofs.Rule.Words
import Mathlib.Data.List.Forall2

/-!
# What case folding forgets

Case folding leaves alone what it has made (`fold_fold`), and it does not see whether a text is
in lower case already (`fold_lower`).  Neither lower case nor case folding makes a blank out of
another character or drops a character, so that a text without blanks at its ends stays so
(`IsTrim.flatten`).

What has to be known about the tables is checked run by run, and only where two runs meet code
point by code point.  The table of the characters with several targets is a table of runs as
well, with one run for each target (`moves`).
-/

namespace LintScaffold.Text

/-! ## Runs -/

namespace CaseRun

/-- The run of a single code point. -/
def single (n target : Nat) : CaseRun := ⟨n, n, 1, target⟩

/-- The code points to which the run leads. -/
def image (run : CaseRun) : CaseRun :=
  ⟨run.target, run.target + (run.last - run.first), run.stride, run.target⟩

/-- The code points between the first and the last one of the run. -/
def codes (run : CaseRun) : List Nat := List.range' run.first (run.last + 1 - run.first)

/-- One run has the even code points of its range, and the other one the odd ones. -/
def interleaves (run other : CaseRun) : Bool :=
  (run.stride == 2 || run.first == run.last) && (other.stride == 2 || other.first == other.last) &&
    (run.first + other.first) % 2 == 1

/-- The runs have no code point in common. -/
def isApartFrom (run other : CaseRun) : Bool :=
  Nat.blt run.last other.first || Nat.blt other.last run.first || run.interleaves other

/-- None of the runs says anything about a code point of `run`.  Like the search of a code point
this ends at the first run that begins beyond it. -/
def misses (run : CaseRun) : List CaseRun → Bool
  | [] => true
  | other :: rest =>
      Nat.blt run.last other.first ||
        ((Nat.blt other.last run.first || run.interleaves other) && run.misses rest)

variable {run other : CaseRun} {n : Nat}

theorem Meets.mem_codes (h : run.Meets n) : n ∈ run.codes := by
  obtain ⟨hfirst, hlast, -⟩ := h
  exact List.mem_range'_1.mpr ⟨hfirst, by omega⟩

theorem meets_single (n target : Nat) : (single n target).Meets n :=
  ⟨Nat.le_refl n, Nat.le_refl n, Nat.mod_one _⟩

theorem Meets.image (h : run.Meets n) : run.image.Meets (run.target + (n - run.first)) := by
  obtain ⟨hfirst, hlast, hstep⟩ := h
  refine ⟨Nat.le_add_right _ _, Nat.add_le_add_left (Nat.sub_le_sub_right hlast _) _, ?_⟩
  rwa [CaseRun.image, Nat.add_sub_cancel_left]

theorem Meets.mod_two (h : run.Meets n) (hside : run.stride = 2 ∨ run.first = run.last) :
    n % 2 = run.first % 2 := by
  obtain ⟨hfirst, hlast, hstep⟩ := h
  rcases hside with hstride | hsingle
  · rw [hstride] at hstep
    omega
  · have hn : n = run.first := by omega
    rw [hn]

theorem not_meets_of_interleaves (h : run.interleaves other = true) (hrun : run.Meets n) :
    ¬ other.Meets n := by
  intro hother
  simp only [interleaves, Bool.and_eq_true, Bool.or_eq_true, beq_iff_eq] at h
  obtain ⟨⟨hside, hside'⟩, hodd⟩ := h
  have heven := hrun.mod_two hside
  have heven' := hother.mod_two hside'
  omega

theorem not_meets_of_isApartFrom (h : run.isApartFrom other = true) (hrun : run.Meets n) :
    ¬ other.Meets n := by
  simp only [isApartFrom, Bool.or_eq_true, Nat.blt_eq] at h
  rcases h with (hbefore | hbehind) | hmixed
  · exact fun hother => absurd hother.1 (by have hlast := hrun.2.1; omega)
  · exact fun hother => absurd hother.2.1 (by have hfirst := hrun.1; omega)
  · exact not_meets_of_interleaves hmixed hrun

theorem find?_of_misses {runs : List CaseRun} (h : run.misses runs = true) (hrun : run.Meets n) :
    find? runs n = none := by
  induction runs with
  | nil => rfl
  | cons other rest ih =>
      simp only [misses, Bool.or_eq_true, Bool.and_eq_true, Nat.blt_eq] at h
      rw [find?]
      rcases h with hbefore | ⟨happart, hrest⟩
      · rw [if_pos (Nat.lt_of_le_of_lt hrun.2.1 hbefore)]
      · have hnot : ¬ other.Meets n := by
          rcases happart with hbehind | hmixed
          · exact fun hother => absurd hother.2.1 (by have hfirst := hrun.1; omega)
          · exact not_meets_of_interleaves hmixed hrun
        split
        · rfl
        · rename_i hfirst
          split
          · rename_i hlast
            rw [if_neg fun hstep => hnot ⟨Nat.le_of_not_lt hfirst, hlast, hstep⟩]
            exact ih hrest
          · exact ih hrest

end CaseRun

/-! ## Tables -/

section Tables

variable {special : List (Nat × List Nat)} {runs : List CaseRun} {c : Char} {text : Text}

/-- All that a mapping does, as runs. -/
def moves (special : List (Nat × List Nat)) (runs : List CaseRun) : List CaseRun :=
  special.flatMap (fun entry => entry.2.map (CaseRun.single entry.1)) ++ runs

/-- All that a mapping says something about, as runs; where they lead does not matter. -/
def starts (special : List (Nat × List Nat)) (runs : List CaseRun) : List CaseRun :=
  special.map (fun entry => CaseRun.single entry.1 entry.1) ++ runs

/-- The mapping says nothing about the code points of the run. -/
def CaseRun.isFree (special : List (Nat × List Nat)) (runs : List CaseRun) (run : CaseRun) :
    Bool :=
  special.all (fun entry => run.isApartFrom (.single entry.1 entry.1)) && run.misses runs

theorem mapCase_of_isFree {run : CaseRun} (h : run.isFree special runs = true)
    (hrun : run.Meets c.toNat) : mapCase special runs c = none := by
  rw [CaseRun.isFree, Bool.and_eq_true, List.all_eq_true] at h
  have hlookup : special.lookup c.toNat = none := by
    cases hfound : special.lookup c.toNat with
    | none => rfl
    | some codes =>
        obtain ⟨before, after, rfl, -⟩ := List.lookup_eq_some_iff.mp hfound
        have hapart := h.1 (c.toNat, codes) (by simp)
        exact absurd (CaseRun.meets_single _ _) (CaseRun.not_meets_of_isApartFrom hapart hrun)
  rw [mapCase, hlookup, CaseRun.find?_of_misses h.2 hrun]
  rfl

/-- Where a mapping leads, a move leads. -/
theorem exists_move (h : mapCase special runs c = some text) {x : Char} (hx : x ∈ text) :
    ∃ move ∈ moves special runs, move.Meets c.toNat ∧
      x = Char.ofNat (move.target + (c.toNat - move.first)) := by
  obtain ⟨codes, hentry, rfl⟩ | ⟨run, hrun, hmeets, rfl⟩ := mapCase_eq_some h
  · obtain ⟨n, hn, rfl⟩ := List.mem_map.mp hx
    refine ⟨.single c.toNat n, ?_, CaseRun.meets_single _ _, ?_⟩
    · exact List.mem_append_left _ (List.mem_flatMap.mpr ⟨_, hentry, List.mem_map_of_mem hn⟩)
    · simp [CaseRun.single]
  · exact ⟨run, List.mem_append_right _ hrun, hmeets, List.mem_singleton.mp hx⟩

theorem exists_start (h : mapCase special runs c = some text) :
    ∃ start ∈ starts special runs, start.Meets c.toNat := by
  obtain ⟨codes, hentry, -⟩ | ⟨run, hrun, hmeets, -⟩ := mapCase_eq_some h
  · exact ⟨_, List.mem_append_left _ (List.mem_map_of_mem hentry), CaseRun.meets_single _ _⟩
  · exact ⟨run, List.mem_append_right _ hrun, hmeets⟩

theorem mapCase_ne_nil (hspecial : special.all (fun entry => !entry.2.isEmpty) = true)
    (h : mapCase special runs c = some text) : text ≠ [] := by
  obtain ⟨codes, hentry, rfl⟩ | ⟨run, hrun, hmeets, rfl⟩ := mapCase_eq_some h
  · have hcodes := List.all_eq_true.mp hspecial _ hentry
    simpa [ofCodes] using hcodes
  · exact List.cons_ne_nil _ _

end Tables

/-! ## What the tables say -/

/-- The code points of the run are characters, and none of them is a blank. -/
def CaseRun.isSolid (run : CaseRun) : Bool :=
  (Nat.blt run.last 0xd800 || (Nat.ble 0xe000 run.first && Nat.blt run.last 0x110000)) &&
    blankTable.all fun range => Nat.blt run.last range.1 || Nat.blt range.2 run.first

/-- Case folding keeps the characters of the run. -/
def CaseRun.isKept (run : CaseRun) : Bool :=
  (run.isFree foldSpecial foldRuns && run.isFree lowerSpecial lowerRuns) ||
    run.codes.all fun n => decide (foldChar (Char.ofNat n) = [Char.ofNat n])

/-- Case folding has an entry of its own for every character of the run. -/
def CaseRun.isFolded (run : CaseRun) : Bool :=
  run.codes.all fun n => (mapCase foldSpecial foldRuns (Char.ofNat n)).isSome

/-- Case folding agrees for the characters of the run and for their lower case. -/
def CaseRun.isLevel (run : CaseRun) : Bool :=
  run.isFree lowerSpecial lowerRuns || run.codes.all fun n =>
    decide ((lowerChar (Char.ofNat n)).flatMap foldChar = foldChar (Char.ofNat n))

theorem special_ne_nil : foldSpecial.all (fun entry => !entry.2.isEmpty) = true ∧
    lowerSpecial.all (fun entry => !entry.2.isEmpty) = true := by
  decide +kernel

theorem moves_solid :
    (moves foldSpecial foldRuns).all (fun move => move.image.isSolid) = true ∧
      (moves lowerSpecial lowerRuns).all (fun move => move.image.isSolid) = true := by
  decide +kernel

theorem foldMoves_kept :
    (moves foldSpecial foldRuns).all (fun move => move.image.isKept) = true := by
  decide +kernel

/-- The lower case of some letters is not kept, but these letters fold in a way of their own. -/
theorem lowerMoves_kept : (moves lowerSpecial lowerRuns).all
    (fun move => move.image.isKept || move.isFolded) = true := by
  decide +kernel

theorem foldStarts_level : (starts foldSpecial foldRuns).all CaseRun.isLevel = true := by
  decide +kernel

/-! ## Single characters -/

variable {c x : Char} {text : Text}

/-- The text is not empty, and there are no blanks in it. -/
def IsSolid (text : Text) : Prop := text ≠ [] ∧ ∀ x ∈ text, isBlank x = false

theorem CaseRun.Meets.of_solid {run : CaseRun} {n : Nat} (hn : run.Meets n)
    (h : run.isSolid = true) :
    run.Meets (Char.ofNat n).toNat ∧ isBlank (Char.ofNat n) = false := by
  obtain ⟨hfirst, hlast, -⟩ := id hn
  simp only [isSolid, Bool.and_eq_true, Bool.or_eq_true, Nat.blt_eq, Nat.ble_eq,
    List.all_eq_true] at h
  have hcode : (Char.ofNat n).toNat = n := toNat_ofNat_of_valid (by omega)
  refine ⟨hcode.symm ▸ hn, Bool.eq_false_iff.mpr fun hblank => ?_⟩
  obtain ⟨range, hrange, hstart, hend⟩ := CharTable.exists_range hblank
  have hapart := h.2 range hrange
  omega

/-- A character that one of the two mappings makes is no blank. -/
theorem exists_image {special : List (Nat × List Nat)} {runs : List CaseRun}
    (hsolid : (moves special runs).all (fun move => move.image.isSolid) = true)
    (h : mapCase special runs c = some text) (hx : x ∈ text) :
    ∃ move ∈ moves special runs, move.Meets c.toNat ∧ move.image.Meets x.toNat ∧
      isBlank x = false := by
  obtain ⟨move, hmove, hmeets, rfl⟩ := exists_move h hx
  have himage := hmeets.image.of_solid (List.all_eq_true.mp hsolid move hmove)
  exact ⟨move, hmove, hmeets, himage⟩

theorem isSolid_mapCase {special : List (Nat × List Nat)} {runs : List CaseRun}
    (hspecial : special.all (fun entry => !entry.2.isEmpty) = true)
    (hsolid : (moves special runs).all (fun move => move.image.isSolid) = true)
    {other : Text} (hother : IsSolid other) : IsSolid ((mapCase special runs c).getD other) := by
  cases h : mapCase special runs c with
  | none => exact hother
  | some text =>
      refine ⟨mapCase_ne_nil hspecial h, fun x hx => ?_⟩
      obtain ⟨move, -, -, -, hblank⟩ := exists_image hsolid h hx
      exact hblank

theorem isSolid_lowerChar (hc : isBlank c = false) : IsSolid (lowerChar c) :=
  isSolid_mapCase special_ne_nil.2 moves_solid.2 ⟨by simp, by simpa using hc⟩

theorem isSolid_foldChar (hc : isBlank c = false) : IsSolid (foldChar c) :=
  isSolid_mapCase special_ne_nil.1 moves_solid.1 (isSolid_lowerChar hc)

theorem foldChar_of_isKept {run : CaseRun} (h : run.isKept = true) (hrun : run.Meets x.toNat) :
    foldChar x = [x] := by
  rw [CaseRun.isKept, Bool.or_eq_true, Bool.and_eq_true] at h
  rcases h with ⟨hfold, hlower⟩ | hcodes
  · rw [foldChar, lowerChar, mapCase_of_isFree hfold hrun, mapCase_of_isFree hlower hrun]
    rfl
  · have hcode := of_decide_eq_true (List.all_eq_true.mp hcodes x.toNat hrun.mem_codes)
    rwa [Char.ofNat_toNat] at hcode

/-- Case folding keeps the characters that it makes. -/
theorem foldChar_of_mem (hx : x ∈ foldChar c) : foldChar x = [x] := by
  cases hfold : mapCase foldSpecial foldRuns c with
  | some text =>
      rw [foldChar, hfold] at hx
      obtain ⟨move, hmove, -, himage, -⟩ := exists_image moves_solid.1 hfold hx
      exact foldChar_of_isKept (List.all_eq_true.mp foldMoves_kept move hmove) himage
  | none =>
      have hsame : foldChar c = lowerChar c := by rw [foldChar, hfold, Option.getD_none]
      cases hlower : mapCase lowerSpecial lowerRuns c with
      | some text =>
          rw [hsame, lowerChar, hlower] at hx
          obtain ⟨move, hmove, hmeets, himage, -⟩ := exists_image moves_solid.2 hlower hx
          have hkept := List.all_eq_true.mp lowerMoves_kept move hmove
          rw [Bool.or_eq_true] at hkept
          rcases hkept with hkept | hfolded
          · exact foldChar_of_isKept hkept himage
          · have hcode := List.all_eq_true.mp hfolded c.toNat hmeets.mem_codes
            rw [Char.ofNat_toNat, hfold] at hcode
            simp at hcode
      | none =>
          have hself : foldChar c = [c] := by rw [hsame, lowerChar, hlower, Option.getD_none]
          rw [hself, List.mem_singleton] at hx
          rw [hx, hself]

theorem flatMap_eq_self {f : Char → Text} (h : ∀ x ∈ text, f x = [x]) : text.flatMap f = text := by
  rw [List.flatMap_congr h, List.flatMap_singleton']

/-- Case folding does not see whether a character is in lower case already. -/
theorem flatMap_lowerChar (c : Char) : (lowerChar c).flatMap foldChar = foldChar c := by
  cases hfold : mapCase foldSpecial foldRuns c with
  | none =>
      have hsame : lowerChar c = foldChar c := by rw [foldChar, hfold, Option.getD_none]
      rw [hsame]
      exact flatMap_eq_self fun x hx => foldChar_of_mem hx
  | some text =>
      obtain ⟨start, hstart, hmeets⟩ := exists_start hfold
      have hlevel := List.all_eq_true.mp foldStarts_level start hstart
      rw [CaseRun.isLevel, Bool.or_eq_true] at hlevel
      rcases hlevel with hfree | hcodes
      · rw [lowerChar, mapCase_of_isFree hfree hmeets, Option.getD_none, List.flatMap_singleton]
      · have hcode := of_decide_eq_true (List.all_eq_true.mp hcodes c.toNat hmeets.mem_codes)
        rwa [Char.ofNat_toNat] at hcode

/-! ## Texts -/

/-- Case folding leaves alone what it has made. -/
theorem fold_fold (text : Text) : fold (fold text) = fold text := by
  refine flatMap_eq_self fun x hx => ?_
  obtain ⟨c, -, hc⟩ := List.mem_flatMap.mp hx
  exact foldChar_of_mem hc

/-- The piece stands for the character in a text in lower case. -/
def Lowers (c : Char) (piece : Text) : Prop := piece = lowerChar c ∨ c = 'Σ' ∧ piece = ['ς']

theorem sigma_evaluated : lowerChar 'Σ' = ['σ'] ∧ foldChar 'ς' = foldChar 'Σ' ∧
    isBlank 'ς' = false := by
  decide +kernel

theorem Lowers.fold {c : Char} {piece : Text} (h : Lowers c piece) :
    Text.fold piece = foldChar c := by
  rcases h with rfl | ⟨rfl, rfl⟩
  · exact flatMap_lowerChar c
  · exact (List.flatMap_singleton _ _).trans sigma_evaluated.2.1

theorem Lowers.isSolid {c : Char} {piece : Text} (h : Lowers c piece) (hc : isBlank c = false) :
    IsSolid piece := by
  rcases h with rfl | ⟨rfl, rfl⟩
  · exact isSolid_lowerChar hc
  · exact ⟨by simp, by simpa using sigma_evaluated.2.2⟩

theorem exists_pieces (cased : Bool) (text : Text) :
    ∃ pieces, List.Forall₂ Lowers text pieces ∧ lowerAfter cased text = pieces.flatten := by
  induction text generalizing cased with
  | nil => exact ⟨[], .nil, rfl⟩
  | cons c rest ih =>
      rw [lowerAfter]
      obtain ⟨pieces, hpieces, hrest⟩ :=
        ih (if caseIgnorableTable.holds c then cased else casedTable.holds c)
      have hlow : ∃ piece, Lowers c piece ∧
          (if c = 'Σ' then (if cased && !startsCased rest then ['ς'] else ['σ'])
            else lowerChar c) = piece := by
        split
        · rename_i hsigma
          subst hsigma
          split
          · exact ⟨_, .inr ⟨rfl, rfl⟩, rfl⟩
          · exact ⟨_, .inl sigma_evaluated.1.symm, rfl⟩
        · exact ⟨_, .inl rfl, rfl⟩
      obtain ⟨piece, hpiece, hlow⟩ := hlow
      exact ⟨piece :: pieces, .cons hpiece hpieces, by rw [hlow, hrest, List.flatten_cons]⟩

/-- Case folding does not see whether a text is in lower case already. -/
theorem fold_lower (text : Text) : fold (lower text) = fold text := by
  obtain ⟨pieces, hpieces, hlower⟩ := exists_pieces false text
  rw [lower, hlower]
  clear hlower
  induction hpieces with
  | nil => rfl
  | cons hpiece hpieces ih =>
      rw [List.flatten_cons, fold, List.flatMap_append, ← fold, ← fold, hpiece.fold, ih]
      rfl

/-! ## Blanks at the ends -/

/-- The text neither begins nor ends with a blank. -/
def IsTrim (text : Text) : Prop :=
  (∀ c ∈ text.head?, isBlank c = false) ∧ ∀ c ∈ text.getLast?, isBlank c = false

theorem strip_of_isTrim (h : IsTrim text) : strip text = text := by
  have hdrop : ∀ {text : Text}, (∀ c ∈ text.head?, isBlank c = false) →
      text.dropWhile isBlank = text := by
    intro text hhead
    cases text with
    | nil => rfl
    | cons c rest => rw [List.dropWhile_cons_of_neg (by simp [hhead c rfl])]
  rw [strip, stripStart, hdrop h.1, stripEnd, dropEndWhile, hdrop, List.reverse_reverse]
  rw [List.head?_reverse]
  exact h.2

theorem isTrim_strip (text : Text) : IsTrim (strip text) := by
  have hhead : ∀ text : Text, ∀ c ∈ (text.dropWhile isBlank).head?, isBlank c = false := by
    intro text c hc
    have hnot := List.head?_dropWhile_not isBlank text
    rwa [hc] at hnot
  constructor
  · intro c hc
    obtain ⟨rest, hrest, -⟩ := dropEndWhile_append isBlank (stripStart text)
    refine hhead text c ?_
    change c ∈ (stripStart text).head?
    rw [hrest]
    exact List.mem_head?_append_of_mem_head? hc
  · intro c hc
    refine hhead (stripStart text).reverse c ?_
    rwa [← List.getLast?_reverse]

/-- Texts that replace the characters of a text without blanks at its ends make up such a text
as well, provided that no blank replaces another character. -/
theorem IsTrim.flatten {pieces : List Text}
    (h : List.Forall₂ (fun c piece => isBlank c = false → IsSolid piece) text pieces)
    (htrim : IsTrim text) : IsTrim pieces.flatten := by
  have hhead : ∀ {text : Text} {pieces : List Text},
      List.Forall₂ (fun c piece => isBlank c = false → IsSolid piece) text pieces →
      (∀ c ∈ text.head?, isBlank c = false) →
      ∀ x ∈ pieces.flatten.head?, isBlank x = false := by
    intro text pieces h hfirst x hx
    cases h with
    | nil => simp at hx
    | @cons c piece rest pieces hpiece hrest =>
        obtain ⟨hne, hsolid⟩ := hpiece (hfirst c rfl)
        rw [List.flatten_cons, List.head?_append_of_ne_nil _ hne] at hx
        exact hsolid x (List.mem_of_mem_head? hx)
  refine ⟨hhead h htrim.1, fun x hx => ?_⟩
  -- the end of the text is the head of the reversed text
  rw [← List.head?_reverse, List.reverse_flatten] at hx
  refine hhead (List.forall₂_reverse_iff.mpr ?_) (List.head?_reverse ▸ htrim.2) x hx
  refine List.forall₂_map_right_iff.mpr (h.imp fun c piece hpiece hc => ?_)
  obtain ⟨hne, hsolid⟩ := hpiece hc
  exact ⟨by simpa using hne, fun x hx => hsolid x (List.mem_reverse.mp hx)⟩

theorem IsTrim.flatMap {f : Char → Text} (hf : ∀ c, isBlank c = false → IsSolid (f c))
    (h : IsTrim text) : IsTrim (text.flatMap f) := by
  rw [List.flatMap_def]
  refine h.flatten (List.forall₂_map_right_iff.mpr ?_)
  exact List.forall₂_same.mpr fun c _ => hf c

theorem IsTrim.lower (h : IsTrim text) : IsTrim (Text.lower text) := by
  obtain ⟨pieces, hpieces, hlower⟩ := exists_pieces false text
  rw [Text.lower, hlower]
  exact h.flatten (hpieces.imp fun c piece hpiece => hpiece.isSolid)

theorem IsTrim.fold (h : IsTrim text) : IsTrim (Text.fold text) :=
  h.flatMap fun _ hc => isSolid_foldChar hc

end LintScaffold.Text
