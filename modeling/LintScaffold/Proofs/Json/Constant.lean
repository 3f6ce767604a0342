import LintScaffold.Proofs.Json.Excess

/-!
# Constants that are not finite

A lenient reading admits `NaN`, `Infinity` and `-Infinity`, and a strict one does not.  Whether a
text has such a constant is seen without reading it: the scan `bare` leaves out what stands in
strings, and the text has a constant if one of the three words stands in what is left
(`HasConstant`).  This finds constants wherever they stand, also under names that mean nothing
and under names that are repeated later.

For a text that is read leniently, `read_strictly` says what a strict reading does: it reads the
same if there is no constant, and is stopped by a constant if there is one.  The two readers go
side by side through the text (`Judged`), and every part that is read without a constant has
neither `N` nor `I` outside of strings, with which all three words are spelled.
-/

namespace LintScaffold.Json

open Text (isAsciiDigit)

/-! ## What stands outside of strings -/

/-- Where a scan stands: outside of strings, in a string, or behind a backslash in a string. -/
inductive Scan
  | outside
  | inside
  | escaped

/-- What stands outside of strings, with their opening quotation marks. -/
def bareFrom : Scan → Text → Text
  | _, [] => []
  | .outside, c :: rest => c :: bareFrom (if c = '"' then .inside else .outside) rest
  | .inside, c :: rest =>
      bareFrom (if c = '"' then .outside else if c = '\\' then .escaped else .inside) rest
  | .escaped, _ :: rest => bareFrom .inside rest

/-- What stands outside of strings in a whole text. -/
def bare (text : Text) : Text := bareFrom .outside text

/-- One of the words for numbers that are not finite is among the characters. -/
def Shows (part : Text) : Prop := ∃ entry ∈ notFiniteWords, entry.1.toList <:+: part

/-- One of the words for numbers that are not finite stands outside of strings. -/
def HasConstant (text : Text) : Prop := Shows (bare text)

theorem bare_cons {c : Char} (hc : c ≠ '"') (rest : Text) : bare (c :: rest) = c :: bare rest := by
  rw [bare, bareFrom, if_neg hc]
  rfl

theorem bare_append {part : Text} (hpart : ∀ c ∈ part, c ≠ '"') (rest : Text) :
    bare (part ++ rest) = part ++ bare rest := by
  induction part with
  | nil => rfl
  | cons c part ih =>
      rw [List.forall_mem_cons] at hpart
      rw [List.cons_append, bare_cons hpart.1, ih hpart.2, List.cons_append]

/-- In a string a character is passed over, unless it is a mark. -/
theorem bareFrom_inside_append {part : Text} (hpart : ∀ c ∈ part, c ≠ '"' ∧ c ≠ '\\')
    (rest : Text) : bareFrom .inside (part ++ rest) = bareFrom .inside rest := by
  induction part with
  | nil => rfl
  | cons c part ih =>
      rw [List.forall_mem_cons] at hpart
      rw [List.cons_append, bareFrom, if_neg hpart.1.1, if_neg hpart.1.2, ih hpart.2]

/-- In a string the escape of a code unit is passed over. -/
theorem bareFrom_inside_unit {a b c d : Char} {unit : Nat} (h : hexUnit? a b c d = some unit)
    (rest : Text) :
    bareFrom .inside ('\\' :: 'u' :: a :: b :: c :: d :: rest) = bareFrom .inside rest := by
  have hdigits : ∀ digit ∈ [a, b, c, d], digit ≠ '"' ∧ digit ≠ '\\' := fun digit hdigit =>
    ⟨(hexUnit?_digits h digit hdigit).1, (hexUnit?_digits h digit hdigit).2.1⟩
  exact bareFrom_inside_append hdigits rest

/-- A scan comes out of a string where a reading does. -/
theorem Body.bareFrom_inside {body t : Text} (h : Body body t) (rest : Text) :
    bareFrom .inside (body ++ '"' :: rest) = bare rest := by
  induction h with
  | nil => rfl
  | plain hquote hslash _ _ ih =>
      rw [← ih, List.cons_append, bareFrom, if_neg hquote, if_neg hslash]
  | short _ _ ih => exact ih
  | unit hunit _ _ ih => exact (bareFrom_inside_unit hunit _).trans ih
  | pair hfirst _ hsecond _ _ ih =>
      exact (bareFrom_inside_unit hfirst _).trans ((bareFrom_inside_unit hsecond _).trans ih)

theorem bare_of_readString {start : Nat} {text t rest : Text}
    (hread : readString start text = .ok (t, rest)) : bare ('"' :: text) = '"' :: bare rest := by
  obtain ⟨body, rfl, hbody⟩ := body_of_readString hread
  exact congrArg ('"' :: ·) (hbody.bareFrom_inside rest)

/-! ## What is read without a constant -/

/-- Neither of the letters with which every constant is spelled is among the characters. -/
def Lacks (part : Text) : Prop := 'N' ∉ part ∧ 'I' ∉ part

theorem Lacks.append {part other : Text} (h : Lacks part) (hother : Lacks other) :
    Lacks (part ++ other) :=
  ⟨fun hmem => (List.mem_append.mp hmem).elim h.1 hother.1,
    fun hmem => (List.mem_append.mp hmem).elim h.2 hother.2⟩

theorem Shows.append_left {part : Text} (h : Shows part) (other : Text) :
    Shows (part ++ other) := by
  obtain ⟨entry, hentry, hword⟩ := h
  exact ⟨entry, hentry, hword.trans (List.prefix_append part other).isInfix⟩

theorem Shows.append_right {part : Text} (h : Shows part) (other : Text) :
    Shows (other ++ part) := by
  obtain ⟨entry, hentry, hword⟩ := h
  exact ⟨entry, hentry, hword.trans (List.suffix_append other part).isInfix⟩

theorem Shows.not_lacks {part : Text} (h : Shows part) : ¬ Lacks part := by
  obtain ⟨entry, hentry, hword⟩ := h
  rintro ⟨hN, hI⟩
  have hletter : ∀ entry ∈ notFiniteWords, 'N' ∈ entry.1.toList ∨ 'I' ∈ entry.1.toList := by
    decide
  rcases hletter entry hentry with hmem | hmem
  · exact hN (hword.subset hmem)
  · exact hI (hword.subset hmem)

/-- The character neither begins a string nor is one of these letters. -/
def IsOther (c : Char) : Prop := c ≠ '"' ∧ c ≠ 'N' ∧ c ≠ 'I'

/-- Only such characters stand in the text before the rest. -/
def Passes (text rest : Text) : Prop := ∃ part, text = part ++ rest ∧ ∀ c ∈ part, IsOther c

theorem Passes.refl (text : Text) : Passes text text := ⟨[], rfl, by simp⟩

theorem Passes.trans {text mid rest : Text} (h : Passes text mid) (hrest : Passes mid rest) :
    Passes text rest := by
  obtain ⟨part, rfl, hpart⟩ := h
  obtain ⟨other, rfl, hother⟩ := hrest
  exact ⟨part ++ other, (List.append_assoc ..).symm, List.forall_mem_append.mpr ⟨hpart, hother⟩⟩

theorem passes_cons {c : Char} (hc : IsOther c) (rest : Text) : Passes (c :: rest) rest :=
  ⟨[c], rfl, List.forall_mem_singleton.mpr hc⟩

theorem passes_dropWhile {P : Char → Bool} (hP : ∀ c, P c = true → IsOther c) (text : Text) :
    Passes text (text.dropWhile P) :=
  ⟨text.takeWhile P, List.takeWhile_append_dropWhile.symm, fun c hc =>
    hP c (List.all_eq_true.mp List.all_takeWhile c hc)⟩

/-- What stands outside of strings in what is passed has neither of the letters. -/
theorem Passes.bare_eq {text rest : Text} (h : Passes text rest) :
    ∃ part, bare text = part ++ bare rest ∧ Lacks part := by
  obtain ⟨part, rfl, hpart⟩ := h
  exact ⟨part, bare_append (fun c hc => (hpart c hc).1) rest,
    fun hN => (hpart 'N' hN).2.1 rfl, fun hI => (hpart 'I' hI).2.2 rfl⟩

theorem passes_skipBlanks (text : Text) : Passes text (skipBlanks text) := by
  refine passes_dropWhile (fun c hc => ?_) text
  simp only [Bool.or_eq_true, decide_eq_true_eq] at hc
  rcases hc with ((rfl | rfl) | rfl) | rfl
  all_goals exact ⟨by decide, by decide, by decide⟩

theorem passes_takeDigits (text : Text) : Passes text (takeDigits text).2 := by
  refine passes_dropWhile (fun c hc => ⟨?_, ?_, ?_⟩) text
  all_goals
    rintro rfl
    exact absurd hc (by decide)

theorem passes_takeWhole? {text whole rest : Text} (h : takeWhole? text = some (whole, rest)) :
    Passes text rest := by
  unfold takeWhole? at h
  split at h
  · obtain ⟨-, rfl⟩ := Prod.mk.inj (Option.some.inj h)
    exact passes_cons ⟨by decide, by decide, by decide⟩ _
  · split at h
    · rw [← (Prod.mk.inj (Option.some.inj h)).2]
      exact passes_takeDigits _
    · simp at h
  · simp at h

theorem passes_takeFraction (text : Text) : Passes text (takeFraction text).2 := by
  unfold takeFraction
  split
  · rename_i rest
    have hrest := passes_takeDigits rest
    split
    · exact .refl _
    · rename_i hdigits
      rw [hdigits] at hrest
      exact (passes_cons ⟨by decide, by decide, by decide⟩ _).trans hrest
  · exact .refl _

theorem passes_takeExponent (text : Text) : Passes text (takeExponent text).2 := by
  unfold takeExponent
  split
  rename_i marked behind hmark
  have hbehind : Passes text behind := by
    split at hmark
    all_goals obtain ⟨-, rfl⟩ := Prod.mk.inj hmark
    · exact passes_cons ⟨by decide, by decide, by decide⟩ _
    · exact passes_cons ⟨by decide, by decide, by decide⟩ _
    · exact .refl _
  split
  rename_i negative unsigned hsign
  have hunsigned : Passes behind unsigned := by
    split at hsign
    all_goals obtain ⟨-, rfl⟩ := Prod.mk.inj hsign
    · exact passes_cons ⟨by decide, by decide, by decide⟩ _
    · exact passes_cons ⟨by decide, by decide, by decide⟩ _
    · exact .refl _
  split
  · rename_i htaken
    have hrest := passes_takeDigits unsigned
    rw [htaken] at hrest
    exact hbehind.trans (hunsigned.trans hrest)
  · exact .refl _

theorem passes_takeNumeral? {text rest : Text} {numeral : Numeral}
    (h : takeNumeral? text = some (numeral, rest)) : Passes text rest := by
  unfold takeNumeral? at h
  split at h
  rename_i negative unsigned hsign
  have hunsigned : Passes text unsigned := by
    split at hsign
    all_goals obtain ⟨-, rfl⟩ := Prod.mk.inj hsign
    · exact passes_cons ⟨by decide, by decide, by decide⟩ _
    · exact .refl _
  split at h
  · simp at h
  · rename_i whole behind hwhole
    obtain ⟨-, rfl⟩ := Prod.mk.inj (Option.some.inj h)
    exact hunsigned.trans ((passes_takeWhole? hwhole).trans
      ((passes_takeFraction behind).trans (passes_takeExponent _)))

/-! ## A strict reading beside a lenient one -/

/-- Beside a lenient reading of a text, which has a result and a rest, a strict one either reads
the same and meets no constant, or is stopped by a constant. -/
def Judged {α : Type} (text rest : Text) (a : α) (strict : Except Fault (α × Text)) : Prop :=
  ∃ part, bare text = part ++ bare rest ∧
    ((strict = .ok (a, rest) ∧ Lacks part) ∨
      ∃ word, strict = .error (.notFinite word) ∧ Shows part)

variable {α β : Type} {text mid rest : Text} {a : α} {b : β}

/-- What is passed before a reading does not matter. -/
theorem Judged.behind {strict : Except Fault (α × Text)} (h : Judged mid rest a strict)
    (hpass : Passes text mid) : Judged text rest a strict := by
  obtain ⟨before, hbefore, hlacks⟩ := hpass.bare_eq
  obtain ⟨part, hpart, hread⟩ := h
  refine ⟨before ++ part, by rw [hbefore, hpart, List.append_assoc], ?_⟩
  exact hread.imp (fun ⟨hstrict, hnone⟩ => ⟨hstrict, hlacks.append hnone⟩)
    fun ⟨word, hstrict, hword⟩ => ⟨word, hstrict, hword.append_right before⟩

/-- A reading goes on where another one has ended. -/
theorem Judged.bind {strict : Except Fault (α × Text)} {next : α × Text → Except Fault (β × Text)}
    (h : Judged text mid a strict) (hnext : Judged mid rest b (next (a, mid))) :
    Judged text rest b (strict >>= next) := by
  obtain ⟨part, hpart, ⟨rfl, hlacks⟩ | ⟨word, rfl, hword⟩⟩ := h
  · obtain ⟨other, hother, hread⟩ := hnext
    refine ⟨part ++ other, by rw [hpart, hother, List.append_assoc], ?_⟩
    exact hread.imp (fun ⟨hstrict, hnone⟩ => ⟨hstrict, hlacks.append hnone⟩)
      fun ⟨word, hstrict, hword⟩ => ⟨word, hstrict, hword.append_right part⟩
  · obtain ⟨other, hother, -⟩ := hnext
    exact ⟨part ++ other, by rw [hpart, hother, List.append_assoc],
      .inr ⟨word, rfl, hword.append_left other⟩⟩

theorem Judged.pure (hpass : Passes text rest) (a : α) : Judged text rest a (.ok (a, rest)) := by
  obtain ⟨part, hpart, hlacks⟩ := hpass.bare_eq
  exact ⟨part, hpart, .inl ⟨rfl, hlacks⟩⟩

/-- What is made of a result does not matter. -/
theorem Judged.map {strict : Except Fault (α × Text)} (h : Judged text rest a strict) (f : α → β) :
    Judged text rest (f a) (strict >>= fun found => .ok (f found.1, found.2)) :=
  h.bind (.pure (.refl rest) (f a))

theorem judged_string {start : Nat} {text t rest : Text}
    (hread : readString start text = .ok (t, rest)) :
    Judged ('"' :: text) rest t (readString start text) :=
  ⟨['"'], bare_of_readString hread, .inl ⟨hread, by decide, by decide⟩⟩

theorem words_evaluated :
    (∀ entry ∈ words, ∀ c ∈ entry.1.toList, c ≠ '"' ∧ c ≠ 'N' ∧ c ≠ 'I') ∧
      ∀ entry ∈ notFiniteWords, ∀ c ∈ entry.1.toList, c ≠ '"' := by
  have hall : (words.all fun entry => entry.1.toList.all fun c =>
        decide (c ≠ '"' ∧ c ≠ 'N' ∧ c ≠ 'I')) = true ∧
      (notFiniteWords.all fun entry => entry.1.toList.all fun c => decide (c ≠ '"')) = true := by
    decide +kernel
  simpa only [List.all_eq_true, decide_eq_true_eq] using hall

theorem passes_word {entry : String × Datum} {rest : Text} (hentry : entry ∈ words) :
    Passes (entry.1.toList ++ rest) rest :=
  ⟨entry.1.toList, rfl, words_evaluated.1 entry hentry⟩

theorem judged_scalar {d : Datum} (h : readScalar true text = .ok (d, rest)) :
    Judged text rest d (readScalar false text) := by
  unfold readScalar at h ⊢
  split at h
  · rename_i result hword
    obtain rfl := Except.ok.inj h
    obtain ⟨entry, hentry, htaken⟩ := List.exists_of_findSome?_eq_some hword
    obtain ⟨behind, hbehind, hpair⟩ := Option.map_eq_some_iff.mp htaken
    obtain ⟨-, rfl⟩ := Prod.mk.inj hpair
    obtain rfl := Text.dropStart?_eq_some.mp hbehind
    exact .pure (passes_word hentry) d
  · dsimp only at h ⊢
    split at h
    · rename_i word x behind hspecial
      obtain ⟨-, rfl⟩ := Prod.mk.inj (Except.ok.inj h)
      obtain ⟨entry, hentry, htaken⟩ := List.exists_of_findSome?_eq_some hspecial
      obtain ⟨left, hleft, hpair⟩ := Option.map_eq_some_iff.mp htaken
      obtain ⟨-, -, rfl⟩ : entry.1 = word ∧ entry.2 = x ∧ left = behind := by simpa using hpair
      obtain rfl := Text.dropStart?_eq_some.mp hleft
      exact ⟨entry.1.toList, bare_append (words_evaluated.2 entry hentry) left,
        .inr ⟨word, rfl, entry, hentry, List.infix_rfl⟩⟩
    · split at h
      · simp at h
      · rename_i numeral behind htaken
        obtain ⟨value, hvalue, h⟩ := bind_eq_ok.mp h
        obtain ⟨rfl, rfl⟩ := Prod.mk.inj (Except.ok.inj h)
        rw [hvalue]
        exact .pure (passes_takeNumeral? htaken) _

/-- Beside every lenient reading with so many calls a strict one is judged. -/
structure Judges (depth : Nat) : Prop where
  value : ∀ {text rest d}, Json.readValue true depth text = .ok (d, rest) →
    Judged text rest d (Json.readValue false depth text)
  items : ∀ {text rest items}, Json.readItems true depth text = .ok (items, rest) →
    Judged text rest items (Json.readItems false depth text)
  members : ∀ {text rest entries}, Json.readMembers true depth text = .ok (entries, rest) →
    Judged text rest entries (Json.readMembers false depth text)

/-- A mark behind blanks is passed. -/
theorem passes_of_skipBlanks {mark : Char} (hmark : IsOther mark)
    (h : skipBlanks text = mark :: rest) : Passes text rest :=
  (passes_skipBlanks text).trans (h ▸ passes_cons hmark rest)

variable {depth : Nat}

theorem Judges.readValue (h : Judges depth) {d : Datum}
    (hread : Json.readValue true (depth + 1) text = .ok (d, rest)) :
    Judged text rest d (Json.readValue false (depth + 1) text) := by
  unfold Json.readValue at hread ⊢
  split at hread
  · obtain ⟨⟨t, behind⟩, hfound, hread⟩ := bind_eq_ok.mp hread
    obtain ⟨rfl, rfl⟩ := Prod.mk.inj (Except.ok.inj hread)
    exact (judged_string hfound).map Datum.text
  · rename_i inner
    have hinner : Passes ('\x7b' :: inner) (skipBlanks inner) :=
      (passes_cons ⟨by decide, by decide, by decide⟩ _).trans (passes_skipBlanks inner)
    dsimp only
    split at hread
    · rename_i hclosed
      obtain ⟨rfl, rfl⟩ := Prod.mk.inj (Except.ok.inj hread)
      rw [hclosed] at hinner
      exact .pure (hinner.trans (passes_cons ⟨by decide, by decide, by decide⟩ _)) _
    · obtain ⟨⟨entries, behind⟩, hmembers, hread⟩ := bind_eq_ok.mp hread
      obtain ⟨rfl, rfl⟩ := Prod.mk.inj (Except.ok.inj hread)
      exact ((h.members hmembers).map
        fun entries => Datum.ofTable (tableOf (· == ·) entries)).behind hinner
  · rename_i inner
    have hinner : Passes ('[' :: inner) (skipBlanks inner) :=
      (passes_cons ⟨by decide, by decide, by decide⟩ _).trans (passes_skipBlanks inner)
    dsimp only
    split at hread
    · rename_i hclosed
      obtain ⟨rfl, rfl⟩ := Prod.mk.inj (Except.ok.inj hread)
      rw [hclosed] at hinner
      exact .pure (hinner.trans (passes_cons ⟨by decide, by decide, by decide⟩ _)) _
    · obtain ⟨⟨items, behind⟩, hitems, hread⟩ := bind_eq_ok.mp hread
      obtain ⟨rfl, rfl⟩ := Prod.mk.inj (Except.ok.inj hread)
      exact ((h.items hitems).map Datum.list).behind hinner
  · exact judged_scalar hread

theorem Judges.readItems (h : Judges depth) {items : List Datum}
    (hread : Json.readItems true (depth + 1) text = .ok (items, rest)) :
    Judged text rest items (Json.readItems false (depth + 1) text) := by
  unfold Json.readItems at hread ⊢
  obtain ⟨⟨first, behind⟩, hfirst, hread⟩ := bind_eq_ok.mp hread
  refine (h.value hfirst).bind ?_
  dsimp only at hread ⊢
  split at hread
  · rename_i hclosed
    obtain ⟨rfl, rfl⟩ := Prod.mk.inj (Except.ok.inj hread)
    exact .pure (passes_of_skipBlanks ⟨by decide, by decide, by decide⟩ hclosed) _
  · rename_i hcomma
    obtain ⟨⟨others, left⟩, hothers, hread⟩ := bind_eq_ok.mp hread
    obtain ⟨rfl, rfl⟩ := Prod.mk.inj (Except.ok.inj hread)
    exact ((h.items hothers).map (first :: ·)).behind
      ((passes_of_skipBlanks ⟨by decide, by decide, by decide⟩ hcomma).trans (passes_skipBlanks _))
  · simp at hread

theorem Judges.readMembers (h : Judges depth) {entries : Table}
    (hread : Json.readMembers true (depth + 1) text = .ok (entries, rest)) :
    Judged text rest entries (Json.readMembers false (depth + 1) text) := by
  unfold Json.readMembers at hread ⊢
  split at hread
  · obtain ⟨⟨name, behindName⟩, hname, hread⟩ := bind_eq_ok.mp hread
    refine (judged_string hname).bind ?_
    dsimp only at hread ⊢
    split at hread
    · rename_i hcolon
      obtain ⟨⟨value, behind⟩, hvalue, hread⟩ := bind_eq_ok.mp hread
      refine ((h.value hvalue).bind ?_).behind ((passes_of_skipBlanks
        ⟨by decide, by decide, by decide⟩ hcolon).trans (passes_skipBlanks _))
      dsimp only at hread ⊢
      split at hread
      · rename_i hclosed
        obtain ⟨rfl, rfl⟩ := Prod.mk.inj (Except.ok.inj hread)
        exact .pure (passes_of_skipBlanks ⟨by decide, by decide, by decide⟩ hclosed) _
      · rename_i hcomma
        obtain ⟨⟨others, left⟩, hothers, hread⟩ := bind_eq_ok.mp hread
        obtain ⟨rfl, rfl⟩ := Prod.mk.inj (Except.ok.inj hread)
        exact ((h.members hothers).map ((name, value) :: ·)).behind ((passes_of_skipBlanks
          ⟨by decide, by decide, by decide⟩ hcomma).trans (passes_skipBlanks _))
      · simp at hread
    · simp at hread
  · simp at hread

theorem judges (depth : Nat) : Judges depth := by
  induction depth with
  | zero =>
      constructor
      · intro text rest d hread
        simp [Json.readValue] at hread
      · intro text rest items hread
        simp [Json.readItems] at hread
      · intro text rest entries hread
        simp [Json.readMembers] at hread
  | succ depth ih => exact ⟨ih.readValue, ih.readItems, ih.readMembers⟩

/-- A text that is read leniently is read strictly, and then in the same way, exactly if it has no
constant.  Otherwise a constant stops the strict reading.  A constant is there as soon as one of
the letters is. -/
theorem read_strictly {d : Datum} (h : read true text = .ok d) :
    (read false text = .ok d ∧ Lacks (bare text)) ∨
      ∃ word, read false text = .error (.notFinite word) ∧ HasConstant text := by
  unfold read at h ⊢
  split at h
  · simp at h
  · rename_i hmark
    rw [if_neg hmark]
    obtain ⟨⟨d', behind⟩, hvalue, h⟩ := bind_eq_ok.mp h
    have hjudged := ((judges _).value hvalue).behind (passes_skipBlanks text)
    dsimp only at h
    split at h
    · rename_i hend
      obtain rfl := Except.ok.inj h
      obtain ⟨blanks, hblanks, hlacks⟩ := (passes_skipBlanks behind).bare_eq
      obtain ⟨part, hpart, ⟨hstrict, hnone⟩ | ⟨word, hstrict, hword⟩⟩ := hjudged
      · rw [hstrict, hpart, hblanks, hend]
        refine .inl ⟨?_, hnone.append (hlacks.append ⟨List.not_mem_nil, List.not_mem_nil⟩)⟩
        rw [ok_bind]
        dsimp only
        rw [hend]
        rfl
      · rw [hstrict, HasConstant, hpart]
        exact .inr ⟨word, rfl, hword.append_left _⟩
    · simp at h

end LintScaffold.Json
