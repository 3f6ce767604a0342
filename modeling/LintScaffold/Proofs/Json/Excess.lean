import LintScaffold.Proofs.Json.Loaded
import LintScaffold.Proofs.Json.Strings

/-!
# Numbers with too many digits

Whatever a reader of JSON leaves of its text is the end of the text.  So a reading that gives up
because of too many digits has met them in the text, all in a row: see `hasExcess_of_read`.
-/

namespace LintScaffold

theorem Text.dropStart?_eq_some {start text rest : Text} :
    Text.dropStart? start text = some rest ↔ text = start ++ rest := by
  induction start generalizing text with
  | nil => rw [Text.dropStart?, Option.some.injEq, List.nil_append]
  | cons c start ih =>
      cases text with
      | nil => simp [Text.dropStart?]
      | cons d behind =>
          rw [Text.dropStart?, List.cons_append, List.cons.injEq]
          split
          · rename_i hfirst
            rw [ih, eq_comm (a := d), and_iff_right hfirst]
          · rename_i hfirst
            exact iff_of_false (by simp) fun h => hfirst h.1.symm

theorem Text.dropStart?_suffix {start text rest : Text}
    (h : Text.dropStart? start text = some rest) : rest <:+ text :=
  Text.dropStart?_eq_some.mp h ▸ List.suffix_append start rest

namespace Json

open Text (isAsciiDigit)

/-! ## What is left of a text -/

theorem skipBlanks_suffix (text : Text) : skipBlanks text <:+ text := List.dropWhile_suffix _

theorem readString_suffix {start : Nat} {text t rest : Text}
    (hread : readString start text = .ok (t, rest)) : rest <:+ text := by
  obtain ⟨body, rfl, -⟩ := body_of_readString hread
  exact (List.suffix_cons '"' rest).trans (List.suffix_append body _)

theorem takeWhole?_suffix {text whole rest : Text} (h : takeWhole? text = some (whole, rest)) :
    rest <:+ text ∧ whole <+: text := by
  unfold takeWhole? at h
  split at h
  · obtain ⟨rfl, rfl⟩ := Prod.mk.inj (Option.some.inj h)
    exact ⟨List.suffix_cons _ _, List.prefix_append ['0'] _⟩
  · split at h
    · obtain ⟨rfl, rfl⟩ := Prod.mk.inj (Option.some.inj h)
      exact ⟨List.dropWhile_suffix _, List.takeWhile_prefix _⟩
    · simp at h
  · simp at h

theorem takeDigits_suffix (text : Text) : (takeDigits text).2 <:+ text := List.dropWhile_suffix _

theorem takeFraction_suffix (text : Text) : (takeFraction text).2 <:+ text := by
  unfold takeFraction
  split
  · rename_i rest
    have hrest := takeDigits_suffix rest
    split
    · exact List.suffix_refl _
    · rename_i hdigits
      rw [hdigits] at hrest
      exact hrest.trans (List.suffix_cons _ _)
  · exact List.suffix_refl _

theorem takeExponent_suffix (text : Text) : (takeExponent text).2 <:+ text := by
  unfold takeExponent
  split
  rename_i marked behind hmark
  have hbehind : behind <:+ text := by
    split at hmark
    · obtain ⟨-, rfl⟩ := Prod.mk.inj hmark
      exact List.suffix_cons _ _
    · obtain ⟨-, rfl⟩ := Prod.mk.inj hmark
      exact List.suffix_cons _ _
    · obtain ⟨-, rfl⟩ := Prod.mk.inj hmark
      exact List.suffix_refl _
  split
  rename_i negative unsigned hsign
  have hunsigned : unsigned <:+ behind := by
    split at hsign
    · obtain ⟨-, rfl⟩ := Prod.mk.inj hsign
      exact List.suffix_cons _ _
    · obtain ⟨-, rfl⟩ := Prod.mk.inj hsign
      exact List.suffix_cons _ _
    · obtain ⟨-, rfl⟩ := Prod.mk.inj hsign
      exact List.suffix_refl _
  split
  · rename_i htaken
    have hrest := takeDigits_suffix unsigned
    rw [htaken] at hrest
    exact hrest.trans (hunsigned.trans hbehind)
  · exact List.suffix_refl _

/-- What is left of a numeral is the end of the text, and its whole part is in the text. -/
theorem takeNumeral?_suffix {text rest : Text} {numeral : Numeral}
    (h : takeNumeral? text = some (numeral, rest)) : rest <:+ text ∧ numeral.whole <:+: text := by
  unfold takeNumeral? at h
  split at h
  rename_i negative unsigned hsign
  have hunsigned : unsigned <:+ text := by
    split at hsign
    · obtain ⟨-, rfl⟩ := Prod.mk.inj hsign
      exact List.suffix_cons _ _
    · obtain ⟨-, rfl⟩ := Prod.mk.inj hsign
      exact List.suffix_refl _
  split at h
  · simp at h
  · rename_i whole behind hwhole
    obtain ⟨hbehind, hprefix⟩ := takeWhole?_suffix hwhole
    have hfraction := takeFraction_suffix behind
    have hexponent := takeExponent_suffix (takeFraction behind).2
    obtain ⟨rfl, rfl⟩ := Prod.mk.inj (Option.some.inj h)
    exact ⟨hexponent.trans (hfraction.trans (hbehind.trans hunsigned)),
      hprefix.isInfix.trans hunsigned.isInfix⟩

theorem readScalar_suffix {lenient : Bool} {text rest : Text} {d : Datum}
    (h : readScalar lenient text = .ok (d, rest)) : rest <:+ text := by
  unfold readScalar at h
  split at h
  · rename_i result hword
    obtain rfl := Except.ok.inj h
    obtain ⟨⟨word, found⟩, -, htaken⟩ := List.exists_of_findSome?_eq_some hword
    obtain ⟨behind, hbehind, hpair⟩ := Option.map_eq_some_iff.mp htaken
    obtain ⟨-, rfl⟩ := Prod.mk.inj hpair
    exact Text.dropStart?_suffix hbehind
  · dsimp only at h
    split at h
    · rename_i word x behind hspecial
      split at h
      · obtain ⟨-, rfl⟩ := Prod.mk.inj (Except.ok.inj h)
        obtain ⟨⟨known, found⟩, -, htaken⟩ := List.exists_of_findSome?_eq_some hspecial
        obtain ⟨left, hleft, hpair⟩ := Option.map_eq_some_iff.mp htaken
        obtain ⟨-, -, rfl⟩ : known = word ∧ found = x ∧ left = behind := by simpa using hpair
        exact Text.dropStart?_suffix hleft
      · simp at h
    · split at h
      · simp at h
      · rename_i htaken
        obtain ⟨value, -, h⟩ := bind_eq_ok.mp h
        obtain ⟨-, rfl⟩ := Prod.mk.inj (Except.ok.inj h)
        exact (takeNumeral?_suffix htaken).1

/-- Whatever is left by a reading with so many calls is the end of the text. -/
structure LeavesEnd (lenient : Bool) (depth : Nat) : Prop where
  value : ∀ {text rest d}, Json.readValue lenient depth text = .ok (d, rest) → rest <:+ text
  items : ∀ {text rest items}, Json.readItems lenient depth text = .ok (items, rest) →
    rest <:+ text
  members : ∀ {text rest entries}, Json.readMembers lenient depth text = .ok (entries, rest) →
    rest <:+ text

/-- What stands behind a mark, where blanks are skipped, is the end of the text. -/
theorem suffix_of_skipBlanks {text rest : Text} {mark : Char}
    (h : skipBlanks text = mark :: rest) : rest <:+ text :=
  (List.suffix_cons mark rest).trans (h ▸ skipBlanks_suffix text)

variable {lenient : Bool} {depth : Nat}

theorem LeavesEnd.readValue (h : LeavesEnd lenient depth) {text rest : Text} {d : Datum}
    (hread : Json.readValue lenient (depth + 1) text = .ok (d, rest)) : rest <:+ text := by
  unfold Json.readValue at hread
  split at hread
  · obtain ⟨found, hfound, hread⟩ := bind_eq_ok.mp hread
    obtain ⟨-, rfl⟩ := Prod.mk.inj (Except.ok.inj hread)
    exact (readString_suffix hfound).trans (List.suffix_cons _ _)
  · split at hread
    · rename_i hclosed
      obtain ⟨-, rfl⟩ := Prod.mk.inj (Except.ok.inj hread)
      exact (suffix_of_skipBlanks hclosed).trans (List.suffix_cons _ _)
    · obtain ⟨found, hmembers, hread⟩ := bind_eq_ok.mp hread
      obtain ⟨-, rfl⟩ := Prod.mk.inj (Except.ok.inj hread)
      exact (h.members hmembers).trans ((skipBlanks_suffix _).trans (List.suffix_cons _ _))
  · split at hread
    · rename_i hclosed
      obtain ⟨-, rfl⟩ := Prod.mk.inj (Except.ok.inj hread)
      exact (suffix_of_skipBlanks hclosed).trans (List.suffix_cons _ _)
    · obtain ⟨found, hitems, hread⟩ := bind_eq_ok.mp hread
      obtain ⟨-, rfl⟩ := Prod.mk.inj (Except.ok.inj hread)
      exact (h.items hitems).trans ((skipBlanks_suffix _).trans (List.suffix_cons _ _))
  · exact readScalar_suffix hread

theorem LeavesEnd.readItems (h : LeavesEnd lenient depth) {text rest : Text} {items : List Datum}
    (hread : Json.readItems lenient (depth + 1) text = .ok (items, rest)) : rest <:+ text := by
  unfold Json.readItems at hread
  obtain ⟨⟨first, behind⟩, hfirst, hread⟩ := bind_eq_ok.mp hread
  have hbehind := h.value hfirst
  dsimp only at hread
  split at hread
  · rename_i hclosed
    obtain ⟨-, rfl⟩ := Prod.mk.inj (Except.ok.inj hread)
    exact (suffix_of_skipBlanks hclosed).trans hbehind
  · rename_i hcomma
    obtain ⟨others, hothers, hread⟩ := bind_eq_ok.mp hread
    obtain ⟨-, rfl⟩ := Prod.mk.inj (Except.ok.inj hread)
    exact (h.items hothers).trans
      ((skipBlanks_suffix _).trans ((suffix_of_skipBlanks hcomma).trans hbehind))
  · simp at hread

theorem LeavesEnd.readMembers (h : LeavesEnd lenient depth) {text rest : Text} {entries : Table}
    (hread : Json.readMembers lenient (depth + 1) text = .ok (entries, rest)) : rest <:+ text := by
  unfold Json.readMembers at hread
  split at hread
  · obtain ⟨⟨name, behindName⟩, hname, hread⟩ := bind_eq_ok.mp hread
    have hbehindName := (readString_suffix hname).trans (List.suffix_cons '"' _)
    dsimp only at hread
    split at hread
    · rename_i hcolon
      obtain ⟨⟨value, behind⟩, hvalue, hread⟩ := bind_eq_ok.mp hread
      have hbehind := (h.value hvalue).trans
        ((skipBlanks_suffix _).trans ((suffix_of_skipBlanks hcolon).trans hbehindName))
      dsimp only at hread
      split at hread
      · rename_i hclosed
        obtain ⟨-, rfl⟩ := Prod.mk.inj (Except.ok.inj hread)
        exact (suffix_of_skipBlanks hclosed).trans hbehind
      · rename_i hcomma
        obtain ⟨others, hothers, hread⟩ := bind_eq_ok.mp hread
        obtain ⟨-, rfl⟩ := Prod.mk.inj (Except.ok.inj hread)
        exact (h.members hothers).trans
          ((skipBlanks_suffix _).trans ((suffix_of_skipBlanks hcomma).trans hbehind))
      · simp at hread
    · simp at hread
  · simp at hread

theorem leavesEnd (lenient : Bool) (depth : Nat) : LeavesEnd lenient depth := by
  induction depth with
  | zero =>
      constructor
      · intro text rest d hread
        simp [Json.readValue] at hread
      · intro text rest items hread
        simp [Json.readItems] at hread
      · intro text rest entries hread
        simp [Json.readMembers] at hread
  | succ depth ih => exact ⟨ih.readValue, ih.readItems, ih.readMembers⟩

/-! ## Too many digits -/

/-- So many digits stand in a row in the text, and they are more than are read. -/
def HasExcess (text : Text) (count : Nat) : Prop :=
  maxDigits < count ∧ ∃ digits, digits <:+: text ∧ digits.length = count ∧
    ∀ c ∈ digits, isAsciiDigit c = true

variable {text inner : Text} {count : Nat}

theorem HasExcess.of_suffix (h : HasExcess inner count) (hinner : inner <:+ text) :
    HasExcess text count := by
  obtain ⟨hmany, digits, hdigits, hrest⟩ := h
  exact ⟨hmany, digits, hdigits.trans hinner.isInfix, hrest⟩

theorem hasExcess_of_value {numeral : Numeral} {rest : Text}
    (htaken : takeNumeral? text = some (numeral, rest))
    (h : numeral.value = .error (.tooManyDigits count)) : HasExcess text count := by
  unfold Numeral.value at h
  split at h
  · split at h
    · rename_i hmany
      obtain rfl := Fault.tooManyDigits.inj (Except.error.inj h)
      exact ⟨hmany, numeral.whole, (takeNumeral?_suffix htaken).2, rfl,
        takeNumeral?_digits htaken⟩
    · simp at h
  · simp at h

theorem hasExcess_of_readScalar
    (h : readScalar lenient text = .error (.tooManyDigits count)) : HasExcess text count := by
  unfold readScalar at h
  split at h
  · simp at h
  · dsimp only at h
    split at h
    · split at h <;> simp at h
    · split at h
      · simp at h
      · rename_i htaken
        obtain hvalue | ⟨d, -, h⟩ := bind_eq_error.mp h
        · exact hasExcess_of_value htaken hvalue
        · simp [pure, Except.pure] at h

theorem readString_ne_excess (start : Nat) (text : Text) (count : Nat) :
    readString start text ≠ .error (.tooManyDigits count) := by
  have hstep : ∀ {read : Except Fault (Text × Text)}
      {next : Text × Text → Except Fault (Text × Text)},
      (∀ found, ∃ whole, next found = .ok (whole, found.2)) →
      read ≠ .error (.tooManyDigits count) → read >>= next ≠ .error (.tooManyDigits count) := by
    intro read next hnext hread h
    obtain hfault | ⟨found, -, h⟩ := bind_eq_error.mp h
    · exact hread hfault
    · obtain ⟨whole, hwhole⟩ := hnext found
      exact absurd (hwhole.symm.trans h) (by simp)
  fun_induction readString start text with
  | case1 | case2 | case3 | case4 | case5 | case6 | case11 | case12 | case14 => simp
  | case7 _ _ _ _ _ _ _ _ _ _ _ _ _ _ _ _ ih => exact hstep (fun _ => ⟨_, rfl⟩) ih
  | case8 _ _ _ _ _ _ _ _ _ _ _ _ _ _ _ _ ih => exact hstep (fun _ => ⟨_, rfl⟩) ih
  | case9 _ _ _ _ _ _ _ _ _ _ _ _ _ ih => exact hstep (fun _ => ⟨_, rfl⟩) ih
  | case10 _ _ _ _ _ _ _ _ _ ih => exact hstep (fun _ => ⟨_, rfl⟩) ih
  | case13 _ _ _ _ _ _ ih => exact hstep (fun _ => ⟨_, rfl⟩) ih
  | case15 _ _ _ _ _ _ _ _ ih => exact hstep (fun _ => ⟨_, rfl⟩) ih

/-- A reading with so many calls gives up because of too many digits only if they are there. -/
structure MeetsExcess (lenient : Bool) (depth : Nat) : Prop where
  value : ∀ {text count}, Json.readValue lenient depth text = .error (.tooManyDigits count) →
    HasExcess text count
  items : ∀ {text count}, Json.readItems lenient depth text = .error (.tooManyDigits count) →
    HasExcess text count
  members : ∀ {text count}, Json.readMembers lenient depth text = .error (.tooManyDigits count) →
    HasExcess text count

theorem MeetsExcess.readValue (h : MeetsExcess lenient depth)
    (hread : Json.readValue lenient (depth + 1) text = .error (.tooManyDigits count)) :
    HasExcess text count := by
  unfold Json.readValue at hread
  split at hread
  · obtain hstring | ⟨found, -, hread⟩ := bind_eq_error.mp hread
    · exact absurd hstring (readString_ne_excess _ _ _)
    · simp [pure, Except.pure] at hread
  · split at hread
    · simp at hread
    · obtain hmembers | ⟨found, -, hread⟩ := bind_eq_error.mp hread
      · exact (h.members hmembers).of_suffix ((skipBlanks_suffix _).trans (List.suffix_cons _ _))
      · simp [pure, Except.pure] at hread
  · split at hread
    · simp at hread
    · obtain hitems | ⟨found, -, hread⟩ := bind_eq_error.mp hread
      · exact (h.items hitems).of_suffix ((skipBlanks_suffix _).trans (List.suffix_cons _ _))
      · simp [pure, Except.pure] at hread
  · exact hasExcess_of_readScalar hread

theorem MeetsExcess.readItems (h : MeetsExcess lenient depth)
    (hread : Json.readItems lenient (depth + 1) text = .error (.tooManyDigits count)) :
    HasExcess text count := by
  unfold Json.readItems at hread
  obtain hfirst | ⟨⟨first, behind⟩, hfirst, hread⟩ := bind_eq_error.mp hread
  · exact h.value hfirst
  · have hbehind := (leavesEnd lenient depth).value hfirst
    dsimp only at hread
    split at hread
    · simp [pure, Except.pure] at hread
    · rename_i hcomma
      obtain hothers | ⟨others, -, hread⟩ := bind_eq_error.mp hread
      · exact (h.items hothers).of_suffix
          ((skipBlanks_suffix _).trans ((suffix_of_skipBlanks hcomma).trans hbehind))
      · simp [pure, Except.pure] at hread
    · simp at hread

theorem MeetsExcess.readMembers (h : MeetsExcess lenient depth)
    (hread : Json.readMembers lenient (depth + 1) text = .error (.tooManyDigits count)) :
    HasExcess text count := by
  unfold Json.readMembers at hread
  split at hread
  · obtain hstring | ⟨⟨name, behindName⟩, hname, hread⟩ := bind_eq_error.mp hread
    · exact absurd hstring (readString_ne_excess _ _ _)
    · have hbehindName := (readString_suffix hname).trans (List.suffix_cons '"' _)
      dsimp only at hread
      split at hread
      · rename_i hcolon
        have hinner := (skipBlanks_suffix _).trans ((suffix_of_skipBlanks hcolon).trans hbehindName)
        obtain hvalue | ⟨⟨value, behind⟩, hvalue, hread⟩ := bind_eq_error.mp hread
        · exact (h.value hvalue).of_suffix hinner
        · have hbehind := ((leavesEnd lenient depth).value hvalue).trans hinner
          dsimp only at hread
          split at hread
          · simp [pure, Except.pure] at hread
          · rename_i hcomma
            obtain hothers | ⟨others, -, hread⟩ := bind_eq_error.mp hread
            · exact (h.members hothers).of_suffix
                ((skipBlanks_suffix _).trans ((suffix_of_skipBlanks hcomma).trans hbehind))
            · simp [pure, Except.pure] at hread
          · simp at hread
      · simp at hread
  · simp at hread

theorem meetsExcess (lenient : Bool) (depth : Nat) : MeetsExcess lenient depth := by
  induction depth with
  | zero =>
      constructor
      · intro text count hread
        simp [Json.readValue] at hread
      · intro text count hread
        simp [Json.readItems] at hread
      · intro text count hread
        simp [Json.readMembers] at hread
  | succ depth ih => exact ⟨ih.readValue, ih.readItems, ih.readMembers⟩

/-- A text is given up because of too many digits only if they stand in it. -/
theorem hasExcess_of_read (h : read lenient text = .error (.tooManyDigits count)) :
    HasExcess text count := by
  unfold read at h
  split at h
  · simp at h
  · obtain hvalue | ⟨⟨d, behind⟩, -, h⟩ := bind_eq_error.mp h
    · exact ((meetsExcess lenient _).value hvalue).of_suffix (skipBlanks_suffix text)
    · dsimp only at h
      split at h
      · simp [pure, Except.pure] at h
      · simp at h

end Json
end LintScaffold
