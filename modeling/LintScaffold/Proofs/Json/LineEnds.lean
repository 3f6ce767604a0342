import LintScaffold.Proofs.Json.Constant
import LintScaffold.Text.Lines

/-!
# Line ends in JSON texts

A text that is read from a file has its line ends unified, so that it is not quite the text that
the file holds.  In JSON this makes no difference: a carriage return can only stand between the
parts of a text, where it is a blank as a line feed is.  So every part of the reader does the same
with the line ends unified, and leaves the rest with its line ends unified.

The text can get shorter in this way, and the reader may spend fewer calls on it.  It is therefore
shown with each value how many calls are enough (`ReadsUnified`).  The result is
`read_unifyLines`, and `read_unifyLines_strictly` with what is known of constants.
-/

namespace LintScaffold

namespace Text

/-! ## Unified line ends -/

theorem unifyLines_cons {c : Char} (hc : c ≠ '\r') (rest : Text) :
    unifyLines (c :: rest) = c :: unifyLines rest := by
  rw [unifyLines, if_neg hc]
  rintro rest rfl
  exact absurd rfl hc

theorem unifyLines_append {part : Text} (hpart : ∀ c ∈ part, c ≠ '\r') (rest : Text) :
    unifyLines (part ++ rest) = part ++ unifyLines rest := by
  induction part with
  | nil => rfl
  | cons c part ih =>
      rw [List.forall_mem_cons] at hpart
      rw [List.cons_append, unifyLines_cons hpart.1, ih hpart.2, List.cons_append]

/-- A carriage return becomes a line feed. -/
theorem unifyLines_return (rest : Text) : ∃ behind, unifyLines ('\r' :: rest) = '\n' :: behind := by
  generalize htext : '\r' :: rest = text
  unfold unifyLines
  split
  · simp at htext
  · exact ⟨_, rfl⟩
  · exact ⟨_, by rw [if_pos (List.cons.inj htext).1.symm]⟩

/-- The text begins with the same mark as before. -/
theorem unifyLines_eq_cons_iff {mark : Char} (hreturn : mark ≠ '\r') (hfeed : mark ≠ '\n')
    {text behind : Text} :
    unifyLines text = mark :: behind ↔ ∃ rest, text = mark :: rest ∧ unifyLines rest = behind := by
  constructor
  · intro h
    cases text with
    | nil => simp [unifyLines] at h
    | cons c rest =>
        by_cases hc : c = '\r'
        · subst hc
          obtain ⟨feed, hfeeds⟩ := unifyLines_return rest
          rw [hfeeds] at h
          exact absurd (List.cons.inj h).1.symm hfeed
        · rw [unifyLines_cons hc] at h
          obtain ⟨rfl, hrest⟩ := List.cons.inj h
          exact ⟨rest, rfl, hrest⟩
  · rintro ⟨rest, rfl, rfl⟩
    exact unifyLines_cons hreturn rest

/-- What is taken off the start of a text, where carriage returns and line feeds are left. -/
theorem span_unifyLines {P : Char → Bool} (hreturn : P '\r' = false) (hfeed : P '\n' = false)
    (text : Text) : (unifyLines text).takeWhile P = text.takeWhile P ∧
      (unifyLines text).dropWhile P = unifyLines (text.dropWhile P) := by
  induction text with
  | nil => exact ⟨rfl, rfl⟩
  | cons c rest ih =>
      by_cases hc : c = '\r'
      · subst hc
        obtain ⟨behind, hbehind⟩ := unifyLines_return rest
        rw [hbehind, List.takeWhile_cons, List.takeWhile_cons, List.dropWhile_cons,
          List.dropWhile_cons, hreturn, hfeed, ← hbehind]
        exact ⟨rfl, rfl⟩
      · rw [unifyLines_cons hc, List.takeWhile_cons, List.takeWhile_cons, List.dropWhile_cons,
          List.dropWhile_cons, ih.1, ih.2]
        refine ⟨rfl, ?_⟩
        split
        · rfl
        · exact (unifyLines_cons hc rest).symm

end Text

namespace Json

open Text (unifyLines unifyLines_cons unifyLines_eq_cons_iff)

/-! ## Scalars -/

theorem skipBlanks_unifyLines (text : Text) :
    skipBlanks (unifyLines text) = unifyLines (skipBlanks text) := by
  fun_induction unifyLines text with
  | case1 => rfl
  | case2 rest ih => exact ih
  | case3 c rest hnext ih =>
      by_cases hc : c = '\r'
      · subst hc
        exact ih
      · rw [if_neg hc, skipBlanks, skipBlanks, List.dropWhile_cons, List.dropWhile_cons]
        split
        · exact ih
        · exact (unifyLines_cons hc rest).symm

theorem takeDigits_unifyLines (text : Text) :
    takeDigits (unifyLines text) = ((takeDigits text).1, unifyLines (takeDigits text).2) := by
  obtain ⟨htaken, hleft⟩ :=
    Text.span_unifyLines (P := Text.isAsciiDigit) (by decide) (by decide) text
  rw [takeDigits, htaken, hleft, takeDigits]

theorem takeWhole?_unifyLines {text whole rest : Text} (h : takeWhole? text = some (whole, rest)) :
    takeWhole? (unifyLines text) = some (whole, unifyLines rest) := by
  unfold takeWhole? at h
  split at h
  · obtain ⟨rfl, rfl⟩ := Prod.mk.inj (Option.some.inj h)
    rw [unifyLines_cons (by decide), takeWhole?]
  · rename_i c behind hzero
    split at h
    · rename_i hdigit
      have hc : c ≠ '\r' := by
        rintro rfl
        exact absurd hdigit (by decide)
      have hdigits := takeDigits_unifyLines (c :: behind)
      rw [Option.some.inj h] at hdigits
      rw [← hdigits, unifyLines_cons hc, takeWhole?, if_pos hdigit]
      exact fun hmark => hzero hmark
    · simp at h
  · simp at h

theorem takeFraction_point (rest : Text) :
    takeFraction ('.' :: rest) =
      match takeDigits rest with
      | ([], _) => (none, '.' :: rest)
      | (digits, behind) => (some digits, behind) := rfl

theorem takeFraction_unifyLines (text : Text) : takeFraction (unifyLines text) =
    ((takeFraction text).1, unifyLines (takeFraction text).2) := by
  by_cases hpoint : ∃ rest, text = '.' :: rest
  · obtain ⟨rest, rfl⟩ := hpoint
    rw [unifyLines_cons (by decide), takeFraction_point, takeFraction_point, takeDigits_unifyLines]
    generalize takeDigits rest = taken
    obtain ⟨digits, left⟩ := taken
    cases digits with
    | nil => exact congrArg (none, ·) (unifyLines_cons (by decide) rest).symm
    | cons => rfl
  · have hnone : ∀ {text}, (¬ ∃ rest, text = '.' :: rest) → takeFraction text = (none, text) := by
      intro text htext
      unfold takeFraction
      split
      · exact absurd ⟨_, rfl⟩ htext
      · rfl
    rw [hnone hpoint, hnone]
    rintro ⟨behind, hbehind⟩
    obtain ⟨rest, rfl, -⟩ := (unifyLines_eq_cons_iff (by decide) (by decide)).mp hbehind
    exact hpoint ⟨rest, rfl⟩

/-- The mark of an exponent. -/
def takeMark (text : Text) : Bool × Text :=
  match text with
  | 'e' :: rest => (true, rest)
  | 'E' :: rest => (true, rest)
  | _ => (false, text)

/-- The sign of an exponent. -/
def takeSign (text : Text) : Bool × Text :=
  match text with
  | '-' :: rest => (true, rest)
  | '+' :: rest => (false, rest)
  | _ => (false, text)

theorem takeMark_unifyLines (text : Text) :
    takeMark (unifyLines text) = ((takeMark text).1, unifyLines (takeMark text).2) := by
  unfold takeMark
  split
  · rename_i hmark
    obtain ⟨rest, rfl, rfl⟩ := (unifyLines_eq_cons_iff (by decide) (by decide)).mp hmark
    rfl
  · rename_i hmark
    obtain ⟨rest, rfl, rfl⟩ := (unifyLines_eq_cons_iff (by decide) (by decide)).mp hmark
    rfl
  · rename_i hlower hupper
    split
    · exact absurd (unifyLines_cons (by decide) _) (hlower _)
    · exact absurd (unifyLines_cons (by decide) _) (hupper _)
    · rfl

theorem takeSign_unifyLines (text : Text) :
    takeSign (unifyLines text) = ((takeSign text).1, unifyLines (takeSign text).2) := by
  unfold takeSign
  split
  · rename_i hmark
    obtain ⟨rest, rfl, rfl⟩ := (unifyLines_eq_cons_iff (by decide) (by decide)).mp hmark
    rfl
  · rename_i hmark
    obtain ⟨rest, rfl, rfl⟩ := (unifyLines_eq_cons_iff (by decide) (by decide)).mp hmark
    rfl
  · rename_i hminus hplus
    split
    · exact absurd (unifyLines_cons (by decide) _) (hminus _)
    · exact absurd (unifyLines_cons (by decide) _) (hplus _)
    · rfl

theorem takeExponent_parts (text : Text) :
    takeExponent text =
      match (takeMark text).1, takeDigits (takeSign (takeMark text).2).2 with
      | true, (d :: digits, rest) => (some ((takeSign (takeMark text).2).1, d :: digits), rest)
      | _, _ => (none, text) := rfl

theorem takeExponent_unifyLines (text : Text) : takeExponent (unifyLines text) =
    ((takeExponent text).1, unifyLines (takeExponent text).2) := by
  rw [takeExponent_parts, takeExponent_parts, takeMark_unifyLines, takeSign_unifyLines,
    takeDigits_unifyLines]
  dsimp only
  generalize (takeMark text).1 = marked, takeDigits (takeSign (takeMark text).2).2 = taken
  obtain ⟨digits, left⟩ := taken
  cases marked with
  | false => rfl
  | true => cases digits with
    | nil => rfl
    | cons d digits => rfl

/-- The sign of a number. -/
def takeMinus (text : Text) : Bool × Text :=
  match text with
  | '-' :: rest => (true, rest)
  | _ => (false, text)

theorem takeMinus_unifyLines (text : Text) :
    takeMinus (unifyLines text) = ((takeMinus text).1, unifyLines (takeMinus text).2) := by
  unfold takeMinus
  split
  · rename_i hmark
    obtain ⟨rest, rfl, rfl⟩ := (unifyLines_eq_cons_iff (by decide) (by decide)).mp hmark
    rfl
  · rename_i hminus
    split
    · exact absurd (unifyLines_cons (by decide) _) (hminus _)
    · rfl

theorem takeNumeral?_parts (text : Text) :
    takeNumeral? text =
      match takeWhole? (takeMinus text).2 with
      | none => none
      | some (whole, rest) => some (⟨(takeMinus text).1, whole, (takeFraction rest).1,
          (takeExponent (takeFraction rest).2).1⟩, (takeExponent (takeFraction rest).2).2) := rfl

theorem takeNumeral?_unifyLines {text rest : Text} {numeral : Numeral}
    (h : takeNumeral? text = some (numeral, rest)) :
    takeNumeral? (unifyLines text) = some (numeral, unifyLines rest) := by
  rw [takeNumeral?_parts] at h ⊢
  rw [takeMinus_unifyLines]
  dsimp only
  split at h
  · simp at h
  · rename_i hwhole
    obtain ⟨rfl, rfl⟩ := Prod.mk.inj (Option.some.inj h)
    rw [takeWhole?_unifyLines hwhole]
    dsimp only
    rw [takeFraction_unifyLines, takeExponent_unifyLines]

theorem readString_unifyLines {start : Nat} {text t rest : Text}
    (h : readString start text = .ok (t, rest)) (start' : Nat) :
    readString start' (unifyLines text) = .ok (t, unifyLines rest) := by
  obtain ⟨body, rfl, hbody⟩ := body_of_readString h
  have hplain : ∀ c ∈ body, c ≠ '\r' := by
    rintro c hc rfl
    exact hbody.not_control _ hc (by decide)
  rw [Text.unifyLines_append hplain, unifyLines_cons (by decide)]
  exact hbody.readString start' _

theorem dropStart?_unifyLines {start : Text} (hstart : ∀ c ∈ start, c ≠ '\r' ∧ c ≠ '\n')
    (text : Text) :
    Text.dropStart? start (unifyLines text) = (Text.dropStart? start text).map unifyLines := by
  ext behind
  rw [Text.dropStart?_eq_some, Option.map_eq_some_iff]
  simp only [Text.dropStart?_eq_some]
  induction start generalizing text with
  | nil => simp
  | cons c start ih =>
      rw [List.forall_mem_cons] at hstart
      rw [List.cons_append, unifyLines_eq_cons_iff hstart.1.1 hstart.1.2]
      constructor
      · rintro ⟨rest, rfl, hrest⟩
        obtain ⟨left, rfl, hleft⟩ := (ih hstart.2 rest).mp hrest
        exact ⟨left, rfl, hleft⟩
      · rintro ⟨left, rfl, hleft⟩
        exact ⟨start ++ left, rfl, (ih hstart.2 _).mpr ⟨left, rfl, hleft⟩⟩

/-- One of some words is found at the start of a text, whatever the line ends are. -/
theorem findSome?_unifyLines {α β : Type} (entries : List (String × α))
    (found : String × α → Text → β) (unified : β → β)
    (hentries : (entries.all fun entry => entry.1.toList.all fun c =>
      decide (c ≠ '\r' ∧ c ≠ '\n')) = true)
    (hfound : ∀ entry rest, unified (found entry rest) = found entry (unifyLines rest))
    (text : Text) :
    (entries.findSome? fun entry =>
        (Text.dropStart? entry.1.toList (unifyLines text)).map (found entry)) =
      (entries.findSome? fun entry =>
        (Text.dropStart? entry.1.toList text).map (found entry)).map unified := by
  induction entries with
  | nil => rfl
  | cons entry entries ih =>
      rw [List.all_cons, Bool.and_eq_true, List.all_eq_true] at hentries
      have hentry := fun c hc => of_decide_eq_true (hentries.1 c hc)
      rw [List.findSome?_cons, List.findSome?_cons, ih hentries.2,
        dropStart?_unifyLines hentry]
      cases Text.dropStart? entry.1.toList text with
      | none => rfl
      | some rest => exact congrArg some (hfound entry rest).symm

theorem readScalar_unifyLines {lenient : Bool} {text rest : Text} {d : Datum}
    (h : readScalar lenient text = .ok (d, rest)) :
    readScalar lenient (unifyLines text) = .ok (d, unifyLines rest) := by
  have hwords := findSome?_unifyLines words (fun entry rest => (entry.2, rest))
    (fun found => (found.1, unifyLines found.2)) (by decide +kernel) (fun _ _ => rfl) text
  have hspecial := findSome?_unifyLines notFiniteWords
    (fun entry rest => (entry.1, entry.2, rest))
    (fun found => (found.1, found.2.1, unifyLines found.2.2)) (by decide +kernel)
    (fun _ _ => rfl) text
  unfold readScalar at h ⊢
  dsimp only at h ⊢
  rw [hwords, hspecial]
  split at h
  · rename_i hword
    obtain rfl := Except.ok.inj h
    rw [hword]
    rfl
  · rename_i hword
    rw [hword]
    split at h
    · rename_i special
      rw [special]
      dsimp only [Option.map]
      split at h
      · rename_i hlenient
        obtain ⟨rfl, rfl⟩ := Prod.mk.inj (Except.ok.inj h)
        rw [if_pos hlenient]
      · simp at h
    · rename_i special
      rw [special]
      dsimp only [Option.map]
      split at h
      · simp at h
      · rename_i htaken
        obtain ⟨value, hvalue, h⟩ := bind_eq_ok.mp h
        obtain ⟨rfl, rfl⟩ := Prod.mk.inj (Except.ok.inj h)
        rw [takeNumeral?_unifyLines htaken]
        dsimp only
        rw [hvalue]
        rfl

/-! ## Values -/

/-- The number of characters of a text, line ends counting once. -/
def size (text : Text) : Nat := (unifyLines text).length

theorem size_skipBlanks_le (text : Text) : size (skipBlanks text) ≤ size text := by
  rw [size, ← skipBlanks_unifyLines]
  exact (skipBlanks_suffix _).length_le

theorem size_cons {mark : Char} (hmark : mark ≠ '\r') (rest : Text) :
    size (mark :: rest) = size rest + 1 := by
  rw [size, unifyLines_cons hmark, List.length_cons, size]

/-- A mark behind blanks stays where it is. -/
theorem mark_unifyLines {text rest : Text} {mark : Char} (hmark : mark ≠ '\r')
    (h : skipBlanks text = mark :: rest) :
    skipBlanks (unifyLines text) = mark :: unifyLines rest ∧ size rest < size text := by
  constructor
  · rw [skipBlanks_unifyLines, h, unifyLines_cons hmark]
  · have hle := size_skipBlanks_le text
    rw [h, size_cons hmark] at hle
    exact hle

/-- With line ends unified the same is read, and it is enough to spend two calls for each
character that is read. -/
structure ReadsUnified (lenient : Bool) (depth : Nat) : Prop where
  value : ∀ {text rest d}, Json.readValue lenient depth text = .ok (d, rest) →
    ∀ depth', 2 * size text < depth' + 2 * size rest →
      Json.readValue lenient depth' (unifyLines text) = .ok (d, unifyLines rest)
  items : ∀ {text rest items}, Json.readItems lenient depth text = .ok (items, rest) →
    size rest < size text ∧ ∀ depth', 2 * size text ≤ depth' + 2 * size rest →
      Json.readItems lenient depth' (unifyLines text) = .ok (items, unifyLines rest)
  members : ∀ {text rest entries}, Json.readMembers lenient depth text = .ok (entries, rest) →
    size rest < size text ∧ ∀ depth', 2 * size text ≤ depth' + 2 * size rest →
      Json.readMembers lenient depth' (unifyLines text) = .ok (entries, unifyLines rest)

variable {lenient : Bool} {depth : Nat} {text rest : Text}

theorem ReadsUnified.size_le (h : ReadsUnified lenient depth) {d : Datum}
    (hread : Json.readValue lenient depth text = .ok (d, rest)) : size rest ≤ size text :=
  ((leavesEnd lenient _).value (h.value hread (2 * size text + 1) (by omega))).length_le

theorem size_le_of_readString {start : Nat} {t : Text}
    (hread : readString start text = .ok (t, rest)) : size rest ≤ size text :=
  (readString_suffix (readString_unifyLines hread start)).length_le

theorem ReadsUnified.readValue (h : ReadsUnified lenient depth) {d : Datum}
    (hread : Json.readValue lenient (depth + 1) text = .ok (d, rest)) (depth' : Nat)
    (hdepth : 2 * size text < depth' + 1 + 2 * size rest) :
    Json.readValue lenient (depth' + 1) (unifyLines text) = .ok (d, unifyLines rest) := by
  unfold Json.readValue at hread
  split at hread
  · obtain ⟨⟨t, behind⟩, hfound, hread⟩ := bind_eq_ok.mp hread
    obtain ⟨rfl, rfl⟩ := Prod.mk.inj (Except.ok.inj hread)
    rw [unifyLines_cons (by decide), Json.readValue, readString_unifyLines hfound]
    rfl
  · rename_i inner
    have hle := size_skipBlanks_le inner
    rw [size_cons (by decide)] at hdepth
    rw [unifyLines_cons (by decide), Json.readValue]
    split at hread
    · rename_i hclosed
      obtain ⟨rfl, rfl⟩ := Prod.mk.inj (Except.ok.inj hread)
      rw [(mark_unifyLines (by decide) hclosed).1]
      rfl
    · rename_i hopen
      obtain ⟨⟨entries, behind⟩, hmembers, hread⟩ := bind_eq_ok.mp hread
      obtain ⟨rfl, rfl⟩ := Prod.mk.inj (Except.ok.inj hread)
      have hmore := (h.members hmembers).2 depth' (by omega)
      rw [← skipBlanks_unifyLines] at hmore
      split
      · rename_i hclosed
        rw [skipBlanks_unifyLines, unifyLines_eq_cons_iff (by decide) (by decide)] at hclosed
        obtain ⟨left, hleft, -⟩ := hclosed
        exact absurd hleft (hopen left)
      · rw [hmore]
        rfl
  · rename_i inner
    have hle := size_skipBlanks_le inner
    rw [size_cons (by decide)] at hdepth
    rw [unifyLines_cons (by decide), Json.readValue]
    split at hread
    · rename_i hclosed
      obtain ⟨rfl, rfl⟩ := Prod.mk.inj (Except.ok.inj hread)
      rw [(mark_unifyLines (by decide) hclosed).1]
      rfl
    · rename_i hopen
      obtain ⟨⟨items, behind⟩, hitems, hread⟩ := bind_eq_ok.mp hread
      obtain ⟨rfl, rfl⟩ := Prod.mk.inj (Except.ok.inj hread)
      have hmore := (h.items hitems).2 depth' (by omega)
      rw [← skipBlanks_unifyLines] at hmore
      split
      · rename_i hclosed
        rw [skipBlanks_unifyLines, unifyLines_eq_cons_iff (by decide) (by decide)] at hclosed
        obtain ⟨left, hleft, -⟩ := hclosed
        exact absurd hleft (hopen left)
      · rw [hmore]
        rfl
  · rename_i hquote hbrace hbracket
    have hscalar := readScalar_unifyLines hread
    unfold Json.readValue
    split
    · rename_i hbegins
      obtain ⟨left, hleft, -⟩ := (unifyLines_eq_cons_iff (by decide) (by decide)).mp hbegins
      exact absurd hleft (hquote left)
    · rename_i hbegins
      obtain ⟨left, hleft, -⟩ := (unifyLines_eq_cons_iff (by decide) (by decide)).mp hbegins
      exact absurd hleft (hbrace left)
    · rename_i hbegins
      obtain ⟨left, hleft, -⟩ := (unifyLines_eq_cons_iff (by decide) (by decide)).mp hbegins
      exact absurd hleft (hbracket left)
    · exact hscalar

theorem ReadsUnified.readItems (h : ReadsUnified lenient depth) {items : List Datum}
    (hread : Json.readItems lenient (depth + 1) text = .ok (items, rest)) :
    size rest < size text ∧ ∀ depth', 2 * size text ≤ depth' + 1 + 2 * size rest →
      Json.readItems lenient (depth' + 1) (unifyLines text) = .ok (items, unifyLines rest) := by
  unfold Json.readItems at hread
  obtain ⟨⟨first, behind⟩, hfirst, hread⟩ := bind_eq_ok.mp hread
  have hbehind := h.size_le hfirst
  dsimp only at hread
  split at hread
  · rename_i hclosed
    obtain ⟨rfl, rfl⟩ := Prod.mk.inj (Except.ok.inj hread)
    obtain ⟨hmark, hless⟩ := mark_unifyLines (by decide) hclosed
    refine ⟨by omega, fun depth' hdepth => ?_⟩
    rw [Json.readItems, h.value hfirst depth' (by omega), ok_bind]
    dsimp only
    rw [hmark]
    rfl
  · rename_i inner hcomma
    obtain ⟨⟨others, left⟩, hothers, hread⟩ := bind_eq_ok.mp hread
    dsimp only at hread
    obtain ⟨rfl, rfl⟩ := Prod.mk.inj (Except.ok.inj hread)
    obtain ⟨hmark, hless⟩ := mark_unifyLines (by decide) hcomma
    obtain ⟨hmore, hitems⟩ := h.items hothers
    have hblanks := size_skipBlanks_le inner
    refine ⟨by omega, fun depth' hdepth => ?_⟩
    rw [Json.readItems, h.value hfirst depth' (by omega), ok_bind]
    dsimp only
    rw [hmark]
    show (Json.readItems lenient depth' (skipBlanks (unifyLines inner)) >>= _) = _
    rw [skipBlanks_unifyLines, hitems depth' (by omega)]
    rfl
  · simp at hread

theorem ReadsUnified.readMembers (h : ReadsUnified lenient depth) {entries : Table}
    (hread : Json.readMembers lenient (depth + 1) text = .ok (entries, rest)) :
    size rest < size text ∧ ∀ depth', 2 * size text ≤ depth' + 1 + 2 * size rest →
      Json.readMembers lenient (depth' + 1) (unifyLines text) = .ok (entries, unifyLines rest) := by
  unfold Json.readMembers at hread
  split at hread
  · rename_i named
    obtain ⟨⟨name, behindName⟩, hname, hread⟩ := bind_eq_ok.mp hread
    have hnameLe := size_le_of_readString hname
    rw [size_cons (by decide)]
    dsimp only at hread
    split at hread
    · rename_i inner hcolon
      obtain ⟨hcolon, hcolonLess⟩ := mark_unifyLines (by decide) hcolon
      obtain ⟨⟨value, behind⟩, hvalue, hread⟩ := bind_eq_ok.mp hread
      have hblanks := size_skipBlanks_le inner
      have hbehind := h.size_le hvalue
      dsimp only at hread
      split at hread
      · rename_i hclosed
        obtain ⟨rfl, rfl⟩ := Prod.mk.inj (Except.ok.inj hread)
        obtain ⟨hmark, hless⟩ := mark_unifyLines (by decide) hclosed
        refine ⟨by omega, fun depth' hdepth => ?_⟩
        rw [unifyLines_cons (by decide), Json.readMembers, readString_unifyLines hname, ok_bind]
        dsimp only
        rw [hcolon]
        show (Json.readValue lenient depth' (skipBlanks (unifyLines inner)) >>= _) = _
        rw [skipBlanks_unifyLines, h.value hvalue depth' (by omega), ok_bind]
        dsimp only
        rw [hmark]
        rfl
      · rename_i more hcomma
        obtain ⟨⟨others, left⟩, hothers, hread⟩ := bind_eq_ok.mp hread
        dsimp only at hread
        obtain ⟨rfl, rfl⟩ := Prod.mk.inj (Except.ok.inj hread)
        obtain ⟨hmark, hless⟩ := mark_unifyLines (by decide) hcomma
        obtain ⟨hmore, hmembers⟩ := h.members hothers
        have hblanks := size_skipBlanks_le more
        refine ⟨by omega, fun depth' hdepth => ?_⟩
        rw [unifyLines_cons (by decide), Json.readMembers, readString_unifyLines hname, ok_bind]
        dsimp only
        rw [hcolon]
        show (Json.readValue lenient depth' (skipBlanks (unifyLines inner)) >>= _) = _
        rw [skipBlanks_unifyLines, h.value hvalue depth' (by omega), ok_bind]
        dsimp only
        rw [hmark]
        show (Json.readMembers lenient depth' (skipBlanks (unifyLines more)) >>= _) = _
        rw [skipBlanks_unifyLines, hmembers depth' (by omega)]
        rfl
      · simp at hread
    · simp at hread
  · simp at hread

theorem readsUnified (lenient : Bool) (depth : Nat) : ReadsUnified lenient depth := by
  induction depth with
  | zero =>
      constructor
      · intro text rest d hread
        simp [Json.readValue] at hread
      · intro text rest items hread
        simp [Json.readItems] at hread
      · intro text rest entries hread
        simp [Json.readMembers] at hread
  | succ depth ih =>
      constructor
      · intro text rest d hread depth' hdepth
        have hle : size rest ≤ size text :=
          ((leavesEnd lenient _).value (ih.readValue hread (2 * size text) (by omega))).length_le
        obtain ⟨depth', rfl⟩ := Nat.exists_eq_succ_of_ne_zero (by omega : depth' ≠ 0)
        exact ih.readValue hread depth' hdepth
      · intro text rest items hread
        obtain ⟨hless, hitems⟩ := ih.readItems hread
        refine ⟨hless, fun depth' hdepth => ?_⟩
        obtain ⟨depth', rfl⟩ := Nat.exists_eq_succ_of_ne_zero (by omega : depth' ≠ 0)
        exact hitems depth' hdepth
      · intro text rest entries hread
        obtain ⟨hless, hmembers⟩ := ih.readMembers hread
        refine ⟨hless, fun depth' hdepth => ?_⟩
        obtain ⟨depth', rfl⟩ := Nat.exists_eq_succ_of_ne_zero (by omega : depth' ≠ 0)
        exact hmembers depth' hdepth

/-- With line ends unified the same is read. -/
theorem read_unifyLines {d : Datum} (h : read lenient text = .ok d) :
    read lenient (unifyLines text) = .ok d := by
  unfold read at h ⊢
  split at h
  · simp at h
  · rename_i hmark
    obtain ⟨⟨d', behind⟩, hvalue, h⟩ := bind_eq_ok.mp h
    dsimp only at h
    split at h
    · rename_i hend
      obtain rfl := Except.ok.inj h
      have hunmarked : (unifyLines text).startsWith [Char.ofNat 0xfeff] = false := by
        rw [Text.startsWith, dropStart?_unifyLines (List.forall_mem_singleton.mpr (by decide)),
          Option.isSome_map]
        exact Bool.eq_false_iff.mpr hmark
      have hblanks := size_skipBlanks_le text
      rw [hunmarked, if_neg Bool.false_ne_true, skipBlanks_unifyLines,
        (readsUnified lenient _).value hvalue _ (by rw [← size]; omega), ok_bind]
      dsimp only
      rw [skipBlanks_unifyLines, hend]
      rfl
    · simp at h

/-! ## Constants -/

/-- Outside of strings no letter is lost or added. -/
theorem mem_bareFrom_unifyLines {letter : Char} (hreturn : letter ≠ '\r') (hfeed : letter ≠ '\n')
    (scan : Scan) (text : Text) :
    letter ∈ bareFrom scan (unifyLines text) ↔ letter ∈ bareFrom scan text := by
  fun_induction unifyLines text generalizing scan with
  | case1 => rfl
  | case2 rest ih =>
      cases scan with
      | outside =>
          show letter ∈ '\n' :: bareFrom .outside (unifyLines rest) ↔
            letter ∈ '\r' :: '\n' :: bareFrom .outside rest
          rw [List.mem_cons, List.mem_cons, List.mem_cons, ih]
          simp [hreturn, hfeed]
      | inside => exact ih .inside
      | escaped => exact ih .inside
  | case3 c rest _ ih =>
      by_cases hc : c = '\r'
      · subst hc
        cases scan with
        | outside =>
            show letter ∈ '\n' :: bareFrom .outside (unifyLines rest) ↔
              letter ∈ '\r' :: bareFrom .outside rest
            rw [List.mem_cons, List.mem_cons, ih]
            simp [hreturn, hfeed]
        | inside => exact ih .inside
        | escaped => exact ih .inside
      · rw [if_neg hc]
        cases scan with
        | outside => rw [bareFrom, bareFrom, List.mem_cons, List.mem_cons, ih]
        | inside => rw [bareFrom, bareFrom, ih]
        | escaped => exact ih .inside

theorem lacks_unifyLines : Lacks (bare (unifyLines text)) ↔ Lacks (bare text) :=
  and_congr (not_congr (mem_bareFrom_unifyLines (by decide) (by decide) _ _))
    (not_congr (mem_bareFrom_unifyLines (by decide) (by decide) _ _))

/-- A strict reading of the text with line ends unified reads what a lenient reading of the text
reads, exactly if there is no constant in the text.  Otherwise a constant stops it. -/
theorem read_unifyLines_strictly {d : Datum} (h : read true text = .ok d) :
    (read false (unifyLines text) = .ok d ∧ ¬ HasConstant text) ∨
      ∃ word, read false (unifyLines text) = .error (.notFinite word) ∧ HasConstant text := by
  rcases read_strictly (read_unifyLines h) with ⟨hread, hlacks⟩ | ⟨word, hread, hshows⟩
  · exact .inl ⟨hread, fun hshows => hshows.not_lacks (lacks_unifyLines.mp hlacks)⟩
  · refine .inr ⟨word, hread, ?_⟩
    rcases read_strictly h with ⟨-, hlacks⟩ | ⟨-, -, hshows'⟩
    · exact absurd (lacks_unifyLines.mpr hlacks) hshows.not_lacks
    · exact hshows'

end Json
end LintScaffold
