import LintScaffold.Proofs.Rule.Words

/-!
# Words as maximal factors

`Words.split` makes the words of a name by recursion along the text.  Here it is said by places
alone which words these are.  A factor is a stretch of letters and digits with no camel boundary
between two of its characters, and it is maximal if no other factor contains it.  The words are
the maximal factors in the order in which they stand in the text: `split_eq_maximal_factors`.

The proof goes along the recursion.  A character in front of a text moves every place by one, and
then there are three cases:

* it belongs to no word, and the maximal factors stay what they were (`Lists.skip`);
* the word at the head of the text goes on from it, and the factor at the place 0 gets longer
  (`Lists.extend`);
* it is the end of a word, and so a maximal factor by itself (`Lists.begin`).

Whether a boundary lies behind a place is seen from three characters at most, so that nothing is
cut inside a word that stands alone: `split_of_mem`.
-/

namespace LintScaffold.Words

open Text (isAlphanumeric isAsciiDigit strip)

/-! ## Factors -/

/-- A camel boundary lies between the places `i` and `i + 1`: a small letter or a digit is
followed by a capital there, or a capital by another one with a small letter behind it. -/
def BoundaryBehind (text : Text) (i : Nat) : Prop :=
  text[i]?.any (fun c => isSmall c || isAsciiDigit c) = true ∧
      text[i + 1]?.any isCapital = true ∨
    text[i]?.any isCapital = true ∧ text[i + 1]?.any isCapital = true ∧
      text[i + 2]?.any isSmall = true

/-- The places from `start` up to `stop`, which is not one of them, hold letters and digits
without a boundary between them. -/
structure IsFactor (text : Text) (start stop : Nat) : Prop where
  nonempty : start < stop
  alphanumeric : ∀ i, start ≤ i → i < stop → text[i]?.any isAlphanumeric = true
  uncut : ∀ i, start ≤ i → i + 1 < stop → ¬ BoundaryBehind text i

/-- The factor lies in no other one. -/
structure IsMaximal (text : Text) (start stop : Nat) : Prop where
  isFactor : IsFactor text start stop
  unique : ∀ start' stop', IsFactor text start' stop' → start' ≤ start → stop ≤ stop' →
    start' = start ∧ stop' = stop

/-- The places are those of the maximal factors, from left to right. -/
structure Lists (text : Text) (places : List (Nat × Nat)) : Prop where
  maximal : ∀ place, place ∈ places ↔ IsMaximal text place.1 place.2
  ordered : places.Pairwise fun place next => place.2 ≤ next.1

/-! ## A character in front -/

variable {c : Char} {rest : Text}

theorem boundaryBehind_zero {d : Char} {after : Text} :
    BoundaryBehind (c :: d :: after) 0 ↔ boundary c d after = true := by
  cases after with
  | nil => simp [BoundaryBehind, boundary]
  | cons e more => simp [BoundaryBehind, boundary, and_assoc]

/-- The word that `c` belongs to goes on behind it. -/
def GoesOn (c : Char) (rest : Text) : Prop :=
  rest[0]?.any isAlphanumeric = true ∧ ¬ BoundaryBehind (c :: rest) 0

theorem split_of_goesOn (hc : isAlphanumeric c = true) (h : GoesOn c rest) :
    split (c :: rest) = extend c (split rest) := by
  cases rest with
  | nil => exact absurd h.1 (by simp)
  | cons d after =>
      obtain ⟨hd, hcut⟩ := h
      have hd : isAlphanumeric d = true := by simpa using hd
      rw [boundaryBehind_zero, Bool.not_eq_true] at hcut
      rw [split_cons_cons hc, hd, hcut]
      rfl

theorem split_of_not_goesOn (hc : isAlphanumeric c = true) (h : ¬ GoesOn c rest) :
    split (c :: rest) = [c] :: split rest := by
  cases rest with
  | nil => exact split_singleton hc
  | cons d after =>
      have hend : (isAlphanumeric d && !boundary c d after) = false := by
        by_contra hgoes
        rw [Bool.not_eq_false, Bool.and_eq_true, Bool.not_eq_true'] at hgoes
        refine h ⟨by simpa using hgoes.1, ?_⟩
        rw [boundaryBehind_zero, hgoes.2]
        exact Bool.false_ne_true
      rw [split_cons_cons hc, hend]
      rfl

theorem isFactor_succ {start stop : Nat} :
    IsFactor (c :: rest) (start + 1) (stop + 1) ↔ IsFactor rest start stop := by
  constructor
  · rintro ⟨hne, halnum, huncut⟩
    refine ⟨by omega, fun i hstart hstop => ?_, fun i hstart hstop => ?_⟩
    · exact halnum (i + 1) (by omega) (by omega)
    · exact huncut (i + 1) (by omega) (by omega)
  · rintro ⟨hne, halnum, huncut⟩
    refine ⟨by omega, fun i hstart hstop => ?_, fun i hstart hstop => ?_⟩
    · obtain ⟨i, rfl⟩ : ∃ less, i = less + 1 := ⟨i - 1, by omega⟩
      exact halnum i (by omega) (by omega)
    · obtain ⟨i, rfl⟩ : ∃ less, i = less + 1 := ⟨i - 1, by omega⟩
      exact huncut i (by omega) (by omega)

/-- A factor at the head of the text is its first character, or goes on from there. -/
theorem isFactor_zero {stop : Nat} : IsFactor (c :: rest) 0 (stop + 1) ↔
    isAlphanumeric c = true ∧ (stop = 0 ∨ GoesOn c rest ∧ IsFactor rest 0 stop) := by
  constructor
  · rintro ⟨-, halnum, huncut⟩
    refine ⟨by simpa using halnum 0 (by omega) (by omega), ?_⟩
    by_cases hstop : stop = 0
    · exact .inl hstop
    · refine .inr ⟨⟨halnum 1 (by omega) (by omega), huncut 0 (by omega) (by omega)⟩, ?_⟩
      refine ⟨by omega, fun i _ hi => ?_, fun i _ hi => ?_⟩
      · exact halnum (i + 1) (by omega) (by omega)
      · exact huncut (i + 1) (by omega) (by omega)
  · rintro ⟨hc, rfl | ⟨⟨-, hgoes⟩, -, halnum, huncut⟩⟩
    · refine ⟨by omega, fun i _ hi => ?_, fun i _ hi => by omega⟩
      obtain rfl : i = 0 := by omega
      simpa using hc
    · refine ⟨by omega, fun i _ hi => ?_, fun i _ hi => ?_⟩
      · cases i with
        | zero => simpa using hc
        | succ i => exact halnum i (by omega) (by omega)
      · cases i with
        | zero => exact hgoes
        | succ i => exact huncut i (by omega) (by omega)

/-! ## Maximal factors with a character in front -/

theorem isMaximal_succ {start stop : Nat} : IsMaximal (c :: rest) (start + 1) (stop + 1) ↔
    IsMaximal rest start stop ∧ ¬ (start = 0 ∧ isAlphanumeric c = true ∧ GoesOn c rest) := by
  constructor
  · rintro ⟨hfactor, hunique⟩
    rw [isFactor_succ] at hfactor
    refine ⟨⟨hfactor, fun start' stop' hfactor' hstart hstop => ?_⟩, ?_⟩
    · have heq := hunique (start' + 1) (stop' + 1) (isFactor_succ.mpr hfactor') (by omega)
        (by omega)
      omega
    · -- the factor would go on from the character in front
      rintro ⟨rfl, hc, hgoes⟩
      have heq := hunique 0 (stop + 1) (isFactor_zero.mpr ⟨hc, .inr ⟨hgoes, hfactor⟩⟩)
        (by omega) (Nat.le_refl _)
      omega
  · rintro ⟨⟨hfactor, hunique⟩, hfree⟩
    refine ⟨isFactor_succ.mpr hfactor, fun start' stop' hfactor' hstart hstop => ?_⟩
    have hpos := hfactor.nonempty
    obtain ⟨stop', rfl⟩ : ∃ less, stop' = less + 1 := ⟨stop' - 1, by omega⟩
    cases start' with
    | zero =>
        obtain ⟨hc, rfl | ⟨hgoes, hlater⟩⟩ := isFactor_zero.mp hfactor'
        · omega
        · have heq := hunique 0 stop' hlater (by omega) (by omega)
          exact absurd ⟨heq.1.symm, hc, hgoes⟩ hfree
    | succ start' =>
        have heq := hunique start' stop' (isFactor_succ.mp hfactor') (by omega) (by omega)
        omega

theorem isMaximal_zero {stop : Nat} : IsMaximal (c :: rest) 0 (stop + 1) ↔
    isAlphanumeric c = true ∧
      (¬ GoesOn c rest ∧ stop = 0 ∨ GoesOn c rest ∧ IsMaximal rest 0 stop) := by
  constructor
  · rintro ⟨hfactor, hunique⟩
    obtain ⟨hc, hcases⟩ := isFactor_zero.mp hfactor
    refine ⟨hc, ?_⟩
    by_cases hgoes : GoesOn c rest
    · have hlonger : ∀ stop', IsFactor rest 0 stop' → stop ≤ stop' → stop' = stop := by
        intro stop' hfactor' hstop
        have heq := hunique 0 (stop' + 1) (isFactor_zero.mpr ⟨hc, .inr ⟨hgoes, hfactor'⟩⟩)
          (Nat.le_refl 0) (by omega)
        omega
      refine .inr ⟨hgoes, ?_, fun start' stop' hfactor' hstart hstop => ?_⟩
      · rcases hcases with rfl | ⟨-, hfactor'⟩
        · -- the two characters at the head are a factor as well
          have hone : IsFactor rest 0 1 := by
            refine ⟨by omega, fun i _ hi => ?_, fun i _ hi => by omega⟩
            obtain rfl : i = 0 := by omega
            exact hgoes.1
          exact absurd (hlonger 1 hone (by omega)) (by omega)
        · exact hfactor'
      · obtain rfl : start' = 0 := by omega
        exact ⟨rfl, hlonger stop' hfactor' hstop⟩
    · rcases hcases with hstop | ⟨hgoes', -⟩
      · exact .inl ⟨hgoes, hstop⟩
      · exact absurd hgoes' hgoes
  · rintro ⟨hc, hcases⟩
    have hfactor : IsFactor (c :: rest) 0 (stop + 1) := by
      refine isFactor_zero.mpr ⟨hc, ?_⟩
      rcases hcases with ⟨-, hstop⟩ | ⟨hgoes, hmax⟩
      · exact .inl hstop
      · exact .inr ⟨hgoes, hmax.isFactor⟩
    refine ⟨hfactor, fun start' stop' hfactor' hstart hstop => ?_⟩
    obtain rfl : start' = 0 := by omega
    obtain ⟨stop', rfl⟩ : ∃ less, stop' = less + 1 := ⟨stop' - 1, by omega⟩
    obtain ⟨-, hcases'⟩ := isFactor_zero.mp hfactor'
    rcases hcases with ⟨hgoes, rfl⟩ | ⟨hgoes, hmax⟩
    · rcases hcases' with rfl | ⟨hgoes', -⟩
      · exact ⟨rfl, rfl⟩
      · exact absurd hgoes' hgoes
    · have hpos := hmax.isFactor.nonempty
      rcases hcases' with rfl | ⟨-, hlater⟩
      · omega
      · have heq := hmax.unique 0 stop' hlater (Nat.le_refl 0) (by omega)
        omega

/-! ## The list of the maximal factors -/

/-- A stretch of a text, in the text with a character in front. -/
def shift (place : Nat × Nat) : Nat × Nat := (place.1 + 1, place.2 + 1)

theorem pairwise_shift {places : List (Nat × Nat)}
    (h : places.Pairwise fun place next => place.2 ≤ next.1) :
    (places.map shift).Pairwise fun place next => place.2 ≤ next.1 :=
  List.pairwise_map.mpr (h.imp fun hle => Nat.succ_le_succ hle)

/-- A maximal factor begins at the head of the text or lies behind its first character. -/
theorem IsMaximal.cases_place {place : Nat × Nat} (h : IsMaximal (c :: rest) place.1 place.2) :
    (∃ stop, place = (0, stop + 1) ∧ IsMaximal (c :: rest) 0 (stop + 1)) ∨
      ∃ later, place = shift later ∧ IsMaximal rest later.1 later.2 ∧
        ¬ (later.1 = 0 ∧ isAlphanumeric c = true ∧ GoesOn c rest) := by
  obtain ⟨start, stop⟩ := place
  have hpos := h.isFactor.nonempty
  dsimp only at h hpos
  obtain ⟨stop, rfl⟩ : ∃ less, stop = less + 1 := ⟨stop - 1, by omega⟩
  cases start with
  | zero => exact .inl ⟨stop, rfl, h⟩
  | succ start => exact .inr ⟨(start, stop), rfl, isMaximal_succ.mp h⟩

namespace Lists

variable {places : List (Nat × Nat)}

theorem skip (h : Lists rest places) (hc : isAlphanumeric c = false) :
    Lists (c :: rest) (places.map shift) := by
  refine ⟨fun place => ⟨fun hmem => ?_, fun hmax => ?_⟩, pairwise_shift h.ordered⟩
  · obtain ⟨later, hlater, rfl⟩ := List.mem_map.mp hmem
    exact isMaximal_succ.mpr ⟨(h.maximal later).mp hlater, by simp [hc]⟩
  · rcases hmax.cases_place with ⟨stop, -, hzero⟩ | ⟨later, rfl, hlater, -⟩
    · rw [isMaximal_zero, hc] at hzero
      exact absurd hzero.1 (by decide)
    · exact List.mem_map_of_mem ((h.maximal later).mpr hlater)

theorem begin (h : Lists rest places) (hc : isAlphanumeric c = true) (hgoes : ¬ GoesOn c rest) :
    Lists (c :: rest) ((0, 1) :: places.map shift) := by
  refine ⟨fun place => ⟨fun hmem => ?_, fun hmax => ?_⟩, List.pairwise_cons.mpr
    ⟨fun place hplace => ?_, pairwise_shift h.ordered⟩⟩
  · rcases List.mem_cons.mp hmem with rfl | hmem
    · exact isMaximal_zero.mpr ⟨hc, .inl ⟨hgoes, rfl⟩⟩
    · obtain ⟨later, hlater, rfl⟩ := List.mem_map.mp hmem
      exact isMaximal_succ.mpr ⟨(h.maximal later).mp hlater, fun hall => hgoes hall.2.2⟩
  · rcases hmax.cases_place with ⟨stop, rfl, hzero⟩ | ⟨later, rfl, hlater, -⟩
    · rcases (isMaximal_zero.mp hzero).2 with ⟨-, rfl⟩ | ⟨hgoes', -⟩
      · exact List.mem_cons_self
      · exact absurd hgoes' hgoes
    · exact List.mem_cons_of_mem _ (List.mem_map_of_mem ((h.maximal later).mpr hlater))
  · obtain ⟨later, -, rfl⟩ := List.mem_map.mp hplace
    exact Nat.le_add_left 1 later.1

theorem extend {stop : Nat} {others : List (Nat × Nat)} (h : Lists rest ((0, stop) :: others))
    (hc : isAlphanumeric c = true) (hgoes : GoesOn c rest) :
    Lists (c :: rest) ((0, stop + 1) :: others.map shift) := by
  obtain ⟨hbehind, hordered⟩ := List.pairwise_cons.mp h.ordered
  have hfirst : IsMaximal rest 0 stop := (h.maximal (0, stop)).mp List.mem_cons_self
  have hpos := hfirst.isFactor.nonempty
  refine ⟨fun place => ⟨fun hmem => ?_, fun hmax => ?_⟩, List.pairwise_cons.mpr
    ⟨fun place hplace => ?_, pairwise_shift hordered⟩⟩
  · rcases List.mem_cons.mp hmem with rfl | hmem
    · exact isMaximal_zero.mpr ⟨hc, .inr ⟨hgoes, hfirst⟩⟩
    · obtain ⟨later, hlater, rfl⟩ := List.mem_map.mp hmem
      have hstart := hbehind later hlater
      refine isMaximal_succ.mpr ⟨(h.maximal later).mp (List.mem_cons_of_mem _ hlater), ?_⟩
      rintro ⟨hzero, -⟩
      omega
  · rcases hmax.cases_place with ⟨stop', rfl, hzero⟩ | ⟨later, rfl, hlater, hfree⟩
    · rcases (isMaximal_zero.mp hzero).2 with ⟨hgoes', -⟩ | ⟨-, hmax'⟩
      · exact absurd hgoes hgoes'
      · -- there is one maximal factor only at the head of the rest
        rcases List.mem_cons.mp ((h.maximal (0, stop')).mpr hmax') with heq | hother
        · rw [(Prod.mk.inj heq).2]
          exact List.mem_cons_self
        · have hstart := hbehind _ hother
          dsimp only at hstart
          omega
    · rcases List.mem_cons.mp ((h.maximal later).mpr hlater) with rfl | hother
      · exact absurd ⟨rfl, hc, hgoes⟩ hfree
      · exact List.mem_cons_of_mem _ (List.mem_map_of_mem hother)
  · obtain ⟨later, hlater, rfl⟩ := List.mem_map.mp hplace
    exact Nat.succ_le_succ (hbehind later hlater)

end Lists

/-! ## The words -/

theorem flatten_split (text : Text) : (split text).flatten = text.filter isAlphanumeric := by
  have hextend : ∀ (c : Char) (words : List Text), (Words.extend c words).flatten =
      c :: words.flatten := by
    intro c words
    cases words with
    | nil => rfl
    | cons word others => rfl
  induction text with
  | nil => rfl
  | cons c rest ih =>
      by_cases hc : isAlphanumeric c = true
      · rw [List.filter_cons_of_pos hc, ← ih]
        by_cases hgoes : GoesOn c rest
        · rw [split_of_goesOn hc hgoes, hextend]
        · rw [split_of_not_goesOn hc hgoes, List.flatten_cons, List.singleton_append]
      · rw [List.filter_cons_of_neg hc, split_cons_of_not (by simpa using hc), ih]

theorem map_extract_shift (places : List (Nat × Nat)) :
    (places.map shift).map (fun place => (c :: rest).extract place.1 place.2) =
      places.map fun place => rest.extract place.1 place.2 := by
  rw [List.map_map]
  refine List.map_congr_left fun place _ => ?_
  simp [shift, List.extract_eq_take_drop]

/-- The maximal factors can be listed so that the words are what stands there, one by one.  A
text with a word at its head has its first factor there. -/
theorem exists_lists (text : Text) : ∃ places, Lists text places ∧
    split text = places.map (fun place => text.extract place.1 place.2) ∧
    (text[0]?.any isAlphanumeric = true → ∃ stop others, places = (0, stop) :: others) := by
  induction text with
  | nil =>
      refine ⟨[], ⟨fun place => ⟨fun hmem => absurd hmem (by simp), fun hmax => ?_⟩, .nil⟩, rfl,
        fun hword => absurd hword (by simp)⟩
      have hword := hmax.isFactor.alphanumeric place.1 (Nat.le_refl _) hmax.isFactor.nonempty
      exact absurd hword (by simp)
  | cons c rest ih =>
      obtain ⟨places, hlists, hsplit, hhead⟩ := ih
      by_cases hc : isAlphanumeric c = true
      · by_cases hgoes : GoesOn c rest
        · obtain ⟨stop, others, rfl⟩ := hhead hgoes.1
          refine ⟨_, hlists.extend hc hgoes, ?_, fun _ => ⟨_, _, rfl⟩⟩
          rw [split_of_goesOn hc hgoes, hsplit, List.map_cons, List.map_cons, map_extract_shift]
          rfl
        · refine ⟨_, hlists.begin hc hgoes, ?_, fun _ => ⟨_, _, rfl⟩⟩
          rw [split_of_not_goesOn hc hgoes, hsplit, List.map_cons, map_extract_shift]
          rfl
      · rw [Bool.not_eq_true] at hc
        refine ⟨_, hlists.skip hc, ?_, fun hword => ?_⟩
        · rw [split_cons_of_not hc, hsplit, map_extract_shift]
        · simp [hc] at hword

/-! ## A word by itself -/

/-- A row of letters and digits without a boundary in it is one word. -/
theorem split_of_uncut {word : Text} (hword : IsWord word)
    (huncut : ∀ i, i + 1 < word.length → ¬ BoundaryBehind word i) : split word = [word] := by
  obtain ⟨hne, halnum⟩ := hword
  induction word with
  | nil => exact absurd rfl hne
  | cons c rest ih =>
      obtain ⟨hc, hrest⟩ := List.forall_mem_cons.mp halnum
      cases rest with
      | nil => exact split_singleton hc
      | cons d after =>
          have hgoes : GoesOn c (d :: after) :=
            ⟨by simpa using hrest d List.mem_cons_self, huncut 0 (by simp)⟩
          have hlater : split (d :: after) = [d :: after] :=
            ih (fun i hi => huncut (i + 1) (Nat.succ_lt_succ hi)) (by simp) hrest
          rw [split_of_goesOn hc hgoes, hlater]
          rfl

/-- A word stands somewhere in the text, and is one word if it stands alone. -/
theorem split_of_mem {text word : Text} (h : word ∈ split text) :
    (∃ before after, text = before ++ word ++ after) ∧ split word = [word] := by
  obtain ⟨places, hlists, hsplit, -⟩ := exists_lists text
  have hword := isWord_of_mem_split h
  rw [hsplit] at h
  obtain ⟨⟨start, stop⟩, hplace, rfl⟩ := List.mem_map.mp h
  have hfactor := ((hlists.maximal _).mp hplace).isFactor
  have hpos := hfactor.nonempty
  dsimp only at hfactor hpos hword ⊢
  rw [List.extract_eq_take_drop] at hword ⊢
  refine ⟨⟨text.take start, text.drop stop, ?_⟩, split_of_uncut hword fun i hi hcut => ?_⟩
  · have hdrop : text.drop stop = (text.drop start).drop (stop - start) := by
      rw [List.drop_drop, Nat.add_sub_cancel' hpos.le]
    rw [List.append_assoc, hdrop, List.take_append_drop, List.take_append_drop]
  · -- what is seen of the word alone is seen at the same place of the text
    have hany : ∀ (p : Char → Bool) (j : Nat),
        ((text.drop start).take (stop - start))[j]?.any p = true →
        text[start + j]?.any p = true := by
      intro p j hj
      rw [List.getElem?_take] at hj
      split at hj
      · rwa [List.getElem?_drop] at hj
      · exact absurd hj (by simp)
    have hlength : ((text.drop start).take (stop - start)).length ≤ stop - start :=
      List.length_take_le _ _
    refine hfactor.uncut (start + i) (by omega) (by omega) ?_
    rcases hcut with ⟨hleft, hright⟩ | ⟨hleft, hright, hnext⟩
    · exact .inl ⟨hany _ i hleft, hany _ (i + 1) hright⟩
    · exact .inr ⟨hany _ i hleft, hany _ (i + 1) hright, hany _ (i + 2) hnext⟩

/-! ## The main statement -/

/-- The words of a text are its maximal factors, from left to right.  Put together they are the
letters and digits of the text, each at its turn, and the blanks around a text do not matter. -/
theorem split_eq_maximal_factors (text : Text) :
    (∃ places, Lists text places ∧
      split text = places.map fun place => text.extract place.1 place.2) ∧
    (split text).flatten = text.filter isAlphanumeric ∧
    split (strip text) = split text := by
  obtain ⟨places, hlists, hsplit, -⟩ := exists_lists text
  exact ⟨⟨places, hlists, hsplit⟩, flatten_split text, split_strip text⟩

/-- A capital ends a row of capitals if a small letter follows it, and a digit is no such letter. -/
example : split "no_XMLHttp2x URL9".toList =
    ["no".toList, "XML".toList, "Http2x".toList, "URL9".toList] := by decide +kernel

end LintScaffold.Words
