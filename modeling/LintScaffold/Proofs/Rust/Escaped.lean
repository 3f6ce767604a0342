import LintScaffold.Literal.Rust
import LintScaffold.Proofs.Rust.Lexer
import Mathlib.Algebra.Group.Nat.Defs
import Mathlib.Data.List.Basic

/-!
# Escaped literals

What stands between the quotation marks of an escaped literal is a row of pieces, each of which
stands for one character: the character itself, a backslash and a letter, or the number of the
character in one to six hexadecimal digits (`Piece`).  The literal of a text is in this grammar, and
every character of it can be seen.

Where a piece ends can be told from its beginning (`Piece.unique`): a character that stands for
itself is no backslash, the letter of a number is none of the others, and the brace that closes a
number is no digit.  No piece begins with a quotation mark.  So a text begins with one literal at
most (`IsLiteral.unique`), whatever the literal has inside and whatever stands behind it.

The grammar is narrower than the reader of lexemes, which takes more escapes, and numbers of any
length; what is a literal here is read as this literal there (`IsLiteral.closed`).
-/

namespace LintScaffold

open Rust

/-! ## Hexadecimal numbers -/

namespace Text

/-- The number that a text of hexadecimal digits writes. -/
def ofHex? (digits : Text) : Option Nat := (digits.mapM hexValue?).map (ofDigits 16)

theorem hexValue?_digit {d : Nat} (hd : d < 16) : hexValue? (digit d) = some d := by
  have hall : ∀ d < 16, hexValue? (digit d) = some d := by decide
  exact hall d hd

theorem mapM_hexValue?_map {values : List Nat} (h : ∀ d ∈ values, d < 16) :
    (values.map digit).mapM hexValue? = some values := by
  induction values with
  | nil => rfl
  | cons d rest ih =>
      rw [List.forall_mem_cons] at h
      rw [List.map_cons, List.mapM_cons, hexValue?_digit h.1, ih h.2]
      rfl

theorem ofDigits_append_singleton (base d : Nat) (values : List Nat) :
    ofDigits base (values ++ [d]) = ofDigits base values * base + d := by
  rw [ofDigits, ofDigits, List.foldl_append]
  rfl

/-- The values of the hexadecimal digits of a number, of which there are no more than it asks for. -/
structure IsHex (values : List Nat) (n : Nat) : Prop where
  ne_nil : values ≠ []
  small : ∀ d ∈ values, d < 16
  value : ofDigits 16 values = n
  short : ∀ count, n < 16 ^ (count + 1) → values.length ≤ count + 1

theorem isHex_singleton {n : Nat} (hn : n < 16) : IsHex [n] n where
  ne_nil := List.cons_ne_nil n []
  small := by simpa using hn
  value := by rw [ofDigits, List.foldl_cons, List.foldl_nil, Nat.zero_mul, Nat.zero_add]
  short := by simp

theorem IsHex.append_singleton {values : List Nat} {n : Nat} (h : IsHex values (n / 16))
    (hn : 16 ≤ n) : IsHex (values ++ [n % 16]) n where
  ne_nil := by simp
  small := by
    intro d hd
    rw [List.mem_append, List.mem_singleton] at hd
    rcases hd with hd | rfl
    · exact h.small d hd
    · exact Nat.mod_lt n (by decide)
  value := by rw [ofDigits_append_singleton, h.value, Nat.mul_comm, Nat.div_add_mod]
  short := by
    intro count hcount
    cases count with
    | zero => omega
    | succ count =>
        have hless : n / 16 < 16 ^ (count + 1) := by
          rw [Nat.div_lt_iff_lt_mul (by decide)]
          exact hcount
        have hlength := h.short count hless
        rw [List.length_append, List.length_singleton]
        omega

theorem exists_digitsBefore {fuel n : Nat} (hfuel : n < fuel) (tail : Text) :
    ∃ values, IsHex values n ∧ digitsBefore 16 fuel n tail = values.map digit ++ tail := by
  induction fuel generalizing n tail with
  | zero => exact absurd hfuel (Nat.not_lt_zero n)
  | succ fuel ih =>
      rw [digitsBefore]
      by_cases hn : n < 16
      · rw [if_pos hn]
        exact ⟨[n], isHex_singleton hn, rfl⟩
      · rw [if_neg hn]
        obtain ⟨values, hvalues, heq⟩ := @ih (n / 16) (by omega) (digit (n % 16) :: tail)
        refine ⟨values ++ [n % 16], hvalues.append_singleton (Nat.le_of_not_lt hn), ?_⟩
        rw [heq, List.map_append, List.append_assoc]
        rfl

theorem exists_hex (n : Nat) : ∃ values, IsHex values n ∧ hex n = values.map digit := by
  obtain ⟨values, hvalues, heq⟩ := exists_digitsBefore (Nat.lt_succ_self n) []
  exact ⟨values, hvalues, by rw [hex, heq, List.append_nil]⟩

/-- What stands in front of the first mark can be told from the whole. -/
theorem eq_of_append_mark {mark : Char} {first next rest after : Text} (hfirst : mark ∉ first)
    (hnext : mark ∉ next) (h : first ++ mark :: rest = next ++ mark :: after) : first = next := by
  have hplace := congrArg (List.idxOf mark) h
  rw [List.idxOf_append_of_notMem hfirst, List.idxOf_append_of_notMem hnext,
    List.idxOf_cons_self, List.idxOf_cons_self] at hplace
  exact (List.append_inj h (by simpa using hplace)).1

end Text

namespace EscapedString

/-! ## The grammar -/

/-- The letters that stand for a character behind a backslash. -/
def letters : List (Char × Char) :=
  [('n', '\n'), ('r', '\r'), ('t', '\t'), ('\\', '\\'), ('"', '"')]

/-- The digits, one to six, write the number of the character. -/
structure IsNumber (digits : Text) (c : Char) : Prop where
  ne_nil : digits ≠ []
  short : digits.length ≤ 6
  value : Text.ofHex? digits = some c.toNat

/-- What stands for a character between the quotation marks. -/
inductive Piece : Text → Char → Prop
  /-- A character that is no mark stands for itself. -/
  | plain {c : Char} (hquote : c ≠ '"') (hslash : c ≠ '\\') (hreturn : c ≠ '\r') : Piece [c] c
  | letter {letter c : Char} (h : (letter, c) ∈ letters) : Piece ['\\', letter] c
  | number {digits : Text} {c : Char} (h : IsNumber digits c) :
      Piece ('\\' :: 'u' :: '\x7b' :: (digits ++ ['\x7d'])) c

/-- What stands between the quotation marks, and the text that it stands for. -/
inductive Body : Text → Text → Prop
  | nil : Body [] []
  | cons {piece body text : Text} {c : Char} (hpiece : Piece piece c) (hbody : Body body text) :
      Body (piece ++ body) (c :: text)

/-- An escaped literal and the text that it stands for. -/
def IsLiteral (literal text : Text) : Prop :=
  ∃ body, literal = '"' :: (body ++ ['"']) ∧ Body body text

/-! ## What is written is a literal -/

theorem isNumber_hex (c : Char) : IsNumber (Text.hex c.toNat) c := by
  obtain ⟨values, hvalues, heq⟩ := Text.exists_hex c.toNat
  have hbound : c.toNat < 16 ^ (5 + 1) := by
    have hvalid : c.toNat.isValidChar := c.valid
    rw [Nat.isValidChar] at hvalid
    omega
  rw [heq]
  refine ⟨by simpa using hvalues.ne_nil, ?_, ?_⟩
  · rw [List.length_map]
    exact hvalues.short 5 hbound
  · rw [Text.ofHex?, Text.mapM_hexValue?_map hvalues.small, Option.map_some, hvalues.value]

theorem piece_writeChar (c : Char) : Piece (writeChar c) c := by
  unfold writeChar
  split_ifs with hslash hquote hline hreturn htab hcontrol
  · exact .letter (by simp [hslash, letters])
  · exact .letter (by simp [hquote, letters])
  · exact .letter (by simp [hline, letters])
  · exact .letter (by simp [hreturn, letters])
  · exact .letter (by simp [htab, letters])
  · exact .number (isNumber_hex c)
  · exact .plain hquote hslash hreturn

theorem body_flatMap_writeChar (text : Text) : Body (text.flatMap writeChar) text := by
  induction text with
  | nil => exact .nil
  | cons c rest ih =>
      rw [List.flatMap_cons]
      exact .cons (piece_writeChar c) ih

theorem isLiteral_write (text : Text) : IsLiteral (write text) text :=
  ⟨_, rfl, body_flatMap_writeChar text⟩

/-! ## What is written can be seen -/

theorem isControl_eq_false_iff {c : Char} :
    isControl c = false ↔ 0x20 ≤ c.toNat ∧ (c.toNat < 0x7f ∨ 0x9f < c.toNat) := by
  rw [isControl, Bool.or_eq_false_iff, Bool.and_eq_false_iff]
  simp only [decide_eq_false_iff_not]
  omega

theorem isControl_of_mem_hex {n : Nat} {c : Char} (h : c ∈ Text.hex n) : isControl c = false := by
  have hall : ∀ d < 16, isControl (Text.digit d) = false := by decide
  obtain ⟨values, hvalues, heq⟩ := Text.exists_hex n
  rw [heq, List.mem_map] at h
  obtain ⟨d, hd, rfl⟩ := h
  exact hall d (hvalues.small d hd)

/-- What escapes are made of, digits apart. -/
def marks : Text := ['\\', '"', 'n', 'r', 't', 'u', '\x7b', '\x7d']

theorem isControl_of_mem_writeChar {c d : Char} (h : d ∈ writeChar c) : isControl d = false := by
  have hmarks : marks.all (fun mark => !isControl mark) = true := by decide
  have hescape : ∀ {escape : Text}, escape ⊆ marks → d ∈ escape → isControl d = false := by
    intro escape hsubset hd
    simpa using List.all_eq_true.mp hmarks d (hsubset hd)
  unfold writeChar at h
  split_ifs at h with hslash hquote hline hreturn htab hcontrol
  · exact hescape (by simp [marks]) h
  · exact hescape (by simp [marks]) h
  · exact hescape (by simp [marks]) h
  · exact hescape (by simp [marks]) h
  · exact hescape (by simp [marks]) h
  · rw [List.mem_append, List.mem_append] at h
    rcases h with (hopen | hdigit) | hclose
    · exact hescape (by simp [marks]) hopen
    · exact isControl_of_mem_hex hdigit
    · exact hescape (by simp [marks]) hclose
  · obtain rfl := List.mem_singleton.mp h
    exact Bool.eq_false_iff.mpr hcontrol

theorem isControl_of_mem_write {text : Text} {c : Char} (h : c ∈ write text) :
    isControl c = false := by
  rw [write, List.mem_append, List.mem_cons, List.mem_flatMap, List.mem_singleton] at h
  rcases h with (rfl | ⟨d, -, hd⟩) | rfl
  · decide
  · exact isControl_of_mem_writeChar hd
  · decide

/-! ## Where a literal ends -/

/-- A brace is no digit. -/
theorem hexValue?_brace : Text.hexValue? '\x7d' = none := by decide

theorem brace_notMem_of_mapM {digits : Text} {values : List Nat}
    (h : digits.mapM Text.hexValue? = some values) : '\x7d' ∉ digits := by
  intro hmem
  induction digits generalizing values with
  | nil => exact absurd hmem List.not_mem_nil
  | cons d rest ih =>
      rw [List.mapM_cons] at h
      rcases List.mem_cons.mp hmem with rfl | hrest
      · simp [hexValue?_brace] at h
      · cases hvalues : rest.mapM Text.hexValue? with
        | none => simp [hvalues] at h
        | some others => exact ih hvalues hrest

theorem IsNumber.exists_values {digits : Text} {c : Char} (h : IsNumber digits c) :
    ∃ values, digits.mapM Text.hexValue? = some values ∧ Text.ofDigits 16 values = c.toNat :=
  Option.map_eq_some_iff.mp h.value

theorem IsNumber.unique {digits : Text} {c d : Char} (hc : IsNumber digits c)
    (hd : IsNumber digits d) : c = d := by
  have hvalue := hc.value
  rw [hd.value, Option.some.injEq] at hvalue
  exact Char.toNat_inj.mp hvalue.symm

/-- Whatever stands behind a piece, it can be told where the piece ends and what it stands for. -/
theorem Piece.unique {piece other rest after : Text} {c d : Char} (hpiece : Piece piece c)
    (hother : Piece other d) (h : piece ++ rest = other ++ after) : piece = other ∧ c = d := by
  have hfunctional : ∀ entry ∈ letters, ∀ next ∈ letters, entry.1 = next.1 → entry.2 = next.2 := by
    decide
  have hnumber : ∀ entry ∈ letters, entry.1 ≠ 'u' := by decide
  cases hpiece with
  | plain hquote hslash hreturn =>
      -- the other piece begins with the same character, which is no backslash
      cases hother with
      | plain => simp_all
      | letter => exact absurd (List.cons.inj h).1 hslash
      | number => exact absurd (List.cons.inj h).1 hslash
  | letter hletter =>
      cases hother with
      | plain hquote hslash hreturn => exact absurd (List.cons.inj h).1.symm hslash
      | letter hnext =>
          obtain rfl := (List.cons.inj (List.cons.inj h).2).1
          exact ⟨rfl, hfunctional _ hletter _ hnext rfl⟩
      | number => exact absurd (List.cons.inj (List.cons.inj h).2).1 (hnumber _ hletter)
  | number hdigits =>
      cases hother with
      | plain hquote hslash hreturn => exact absurd (List.cons.inj h).1.symm hslash
      | letter hnext => exact absurd (List.cons.inj (List.cons.inj h).2).1.symm (hnumber _ hnext)
      | number hnext =>
          obtain ⟨values, hvalues, -⟩ := hdigits.exists_values
          obtain ⟨others, hothers, -⟩ := hnext.exists_values
          simp only [List.cons_append, List.cons.injEq, true_and, List.append_assoc,
            List.nil_append] at h
          obtain rfl := Text.eq_of_append_mark (brace_notMem_of_mapM hvalues)
            (brace_notMem_of_mapM hothers) h
          exact ⟨rfl, hdigits.unique hnext⟩

/-- No piece begins with a quotation mark. -/
theorem Piece.ne_quote {piece rest after : Text} {c : Char} (h : Piece piece c) :
    piece ++ rest ≠ '"' :: after := by
  intro heq
  cases h with
  | plain hquote => exact hquote (List.cons.inj heq).1
  | letter => exact absurd (List.cons.inj heq).1 (by decide)
  | number => exact absurd (List.cons.inj heq).1 (by decide)

theorem Body.unique {body other rest after text value : Text} (hbody : Body body text)
    (hother : Body other value) (h : body ++ '"' :: rest = other ++ '"' :: after) :
    body = other ∧ text = value := by
  induction hbody generalizing other value with
  | nil =>
      cases hother with
      | nil => exact ⟨rfl, rfl⟩
      | cons hpiece =>
          rw [List.append_assoc] at h
          exact absurd h.symm hpiece.ne_quote
  | cons hpiece hbody ih =>
      cases hother with
      | nil =>
          rw [List.append_assoc] at h
          exact absurd h hpiece.ne_quote
      | cons hnext hothers =>
          rw [List.append_assoc, List.append_assoc] at h
          obtain ⟨rfl, rfl⟩ := hpiece.unique hnext h
          obtain ⟨rfl, rfl⟩ := ih hothers (List.append_cancel_left h)
          exact ⟨rfl, rfl⟩

/-- A text begins with one literal at most. -/
theorem IsLiteral.unique {literal other text value whole : Text} (hliteral : IsLiteral literal text)
    (hother : IsLiteral other value) (hbegin : literal <+: whole) (hnext : other <+: whole) :
    literal = other ∧ text = value := by
  obtain ⟨body, rfl, hbody⟩ := hliteral
  obtain ⟨others, rfl, hothers⟩ := hother
  obtain ⟨rest, rfl⟩ := hbegin
  obtain ⟨after, hafter⟩ := hnext
  have hsame : body ++ '"' :: rest = others ++ '"' :: after := by
    simpa using hafter.symm
  obtain ⟨rfl, rfl⟩ := hbody.unique hothers hsame
  exact ⟨rfl, rfl⟩

/-! ## Literals among lexemes -/

theorem feed_digits {digits : Text} {values : List Nat}
    (h : digits.mapM Text.hexValue? = some values) (read : Text) (value : Nat) (rest : Text) :
    feed (.digits read value) (digits ++ rest) =
      feed (.digits read (values.foldl (fun total d => total * 16 + d) value)) rest := by
  induction digits generalizing values value with
  | nil =>
      obtain rfl : values = [] := by simpa using h.symm
      rfl
  | cons d digits ih =>
      rw [List.mapM_cons] at h
      cases hd : Text.hexValue? d with
      | none => simp [hd] at h
      | some first =>
          cases hdigits : digits.mapM Text.hexValue? with
          | none => simp [hdigits] at h
          | some others =>
              obtain rfl : first :: others = values := by simpa [hd, hdigits] using h
              have hne : d ≠ '\x7d' := by
                rintro rfl
                simp [hexValue?_brace] at hd
              have hstep : step (.digits read value) d =
                  (.digits read (value * 16 + first), []) := by
                rw [step, stepDigits, if_neg hne, hd]
              rw [List.cons_append, feed_of_step hstep, ih hdigits, List.foldl_cons]

/-- A piece is read as its character. -/
theorem Piece.feed_eq {piece : Text} {c : Char} (h : Piece piece c) (read rest : Text) :
    feed (.quoted read) (piece ++ rest) = feed (.quoted (read ++ [c])) rest := by
  have hbackslash : step (.quoted read) '\\' = (.escape read, []) := rfl
  cases h with
  | plain hquote hslash hreturn =>
      have hstep : step (.quoted read) c = (.quoted (read ++ [c]), []) := by
        rw [step, if_neg hquote, if_neg hslash, if_neg hreturn]
      exact feed_of_step hstep rest
  | @letter letter _ hletter =>
      have hstep : step (.escape read) letter = (.quoted (read ++ [c]), []) := by
        simp only [letters, List.mem_cons, Prod.mk.injEq, List.not_mem_nil, or_false] at hletter
        rcases hletter with ⟨rfl, rfl⟩ | ⟨rfl, rfl⟩ | ⟨rfl, rfl⟩ | ⟨rfl, rfl⟩ | ⟨rfl, rfl⟩ <;> rfl
      exact (feed_of_step hbackslash _).trans (feed_of_step hstep rest)
  | number hdigits =>
      obtain ⟨values, hvalues, hvalue⟩ := hdigits.exists_values
      have hletter : step (.escape read) 'u' = (.codePoint read, []) := rfl
      have hopen : step (.codePoint read) '\x7b' = (.digits read 0, []) := rfl
      have hclose : step (.digits read c.toNat) '\x7d' = (.quoted (read ++ [c]), []) := by
        have hvalid : c.toNat.isValidChar := c.valid
        rw [step, stepDigits, if_pos rfl, if_pos hvalid, Char.ofNat_toNat]
      simp only [List.cons_append, List.nil_append, List.append_assoc]
      rw [feed_of_step hbackslash, feed_of_step hletter, feed_of_step hopen,
        feed_digits hvalues, ← Text.ofDigits, hvalue, feed_of_step hclose]

theorem Body.feed_eq {body text : Text} (h : Body body text) (read rest : Text) :
    feed (.quoted read) (body ++ rest) = feed (.quoted (read ++ text)) rest := by
  induction h generalizing read with
  | nil => rw [List.nil_append, List.append_nil]
  | cons hpiece _ ih =>
      rw [List.append_assoc, hpiece.feed_eq, ih, List.append_assoc, List.singleton_append]

/-- A literal is read as a single lexeme. -/
theorem IsLiteral.closed {literal text : Text} (h : IsLiteral literal text) :
    Closed literal [.literal text] := by
  obtain ⟨body, rfl, hbody⟩ := h
  have hquote : step .between '"' = (.quoted [], []) := rfl
  rw [Closed, feed_of_step hquote, hbody.feed_eq]
  rfl

/-- The literal of a text can be seen, every character of it, and is on one line.  It stands for the
text, and whatever comes behind it, a reader finds this literal there and no other, and goes on
behind it. -/
theorem write_reads_back (text : Text) :
    (∀ c ∈ write text, 0x20 ≤ c.toNat ∧ (c.toNat < 0x7f ∨ 0x9f < c.toNat)) ∧
    ('\n' ∉ write text ∧ '\r' ∉ write text) ∧
    IsLiteral (write text) text ∧
    ∀ rest,
      (∀ literal value, IsLiteral literal value → literal <+: write text ++ rest →
        literal = write text ∧ value = text) ∧
      feed .between (write text ++ rest) =
        ((feed .between rest).1, .literal text :: (feed .between rest).2) := by
  have hseen : ∀ c ∈ write text, isControl c = false := fun c hc => isControl_of_mem_write hc
  refine ⟨fun c hc => isControl_eq_false_iff.mp (hseen c hc), ⟨fun hline => ?_, fun hreturn => ?_⟩,
    isLiteral_write text, fun rest => ⟨fun literal value hliteral hbegin => ?_, ?_⟩⟩
  · exact absurd (hseen _ hline) (by decide)
  · exact absurd (hseen _ hreturn) (by decide)
  · exact hliteral.unique (isLiteral_write text) hbegin (List.prefix_append _ _)
  · have hclosed := (isLiteral_write text).closed
    rw [Closed] at hclosed
    rw [feed_append, hclosed]
    rfl

/-- A text that looks like an escape and the end of a literal, with control characters from both
ranges. -/
def escapeLike : Text := ['\\', 'n', '"', '\n', Char.ofNat 0x7f, Char.ofNat 0x9f]

/-- What is written for it. -/
def escapeLikeLiteral : Text :=
  "\"\\\\n\\\"\\n\\u\x7b7f\x7d\\u\x7b9f\x7d\"".toList

/-- The mark inside of it does not end its literal, with another mark behind it: what stands up to
there is no literal of any text. -/
theorem escapeLike_reads_back :
    ('\x7d' ∈ write escapeLike ∧ 0x20 ≤ '\x7d'.toNat ∧
      ('\x7d'.toNat < 0x7f ∨ 0x9f < '\x7d'.toNat)) ∧
    (IsLiteral escapeLikeLiteral escapeLike ∧ escapeLikeLiteral <+: write escapeLike ++ ['"'] ∧
      escapeLikeLiteral = write escapeLike) ∧
    (escapeLikeLiteral.take 6 <+: write escapeLike ++ ['"'] ∧
      ∀ value, ¬ IsLiteral (escapeLikeLiteral.take 6) value) := by
  obtain ⟨hseen, -, hliteral, hends⟩ := write_reads_back escapeLike
  have hwrite : write escapeLike = escapeLikeLiteral := by decide
  have hmem : '\x7d' ∈ write escapeLike := by decide
  have hshown : IsLiteral escapeLikeLiteral escapeLike := hwrite ▸ hliteral
  have hbegin : escapeLikeLiteral <+: write escapeLike ++ ['"'] := by
    rw [hwrite]
    exact List.prefix_append _ _
  have hearly : escapeLikeLiteral.take 6 <+: write escapeLike ++ ['"'] :=
    (List.take_prefix 6 _).trans hbegin
  refine ⟨⟨hmem, hseen _ hmem⟩, ⟨hshown, hbegin, ((hends ['"']).1 _ _ hshown hbegin).1⟩, hearly,
    fun value hvalue => ?_⟩
  exact absurd ((hends ['"']).1 _ value hvalue hearly).1 (by decide)

end EscapedString
end LintScaffold
