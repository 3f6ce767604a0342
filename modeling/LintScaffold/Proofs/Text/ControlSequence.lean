import LintScaffold.Text.ControlSequence
import LintScaffold.Text.Encoding.Utf8

/-!
# What is left out where control sequences are dropped

Dropping control sequences leaves the other characters in their order, and so it never makes a
text longer.  A text stays as it is exactly if there is no control sequence anywhere in it.  A
shorter text has a shorter encoding, so that it is the same with the bytes of the text.
-/

namespace LintScaffold

namespace Text

/-! ## Control sequences -/

/-- There is a control sequence in the text: the escape character, a bracket, parameters and a
letter. -/
def HasControlSequence (text : Text) : Prop :=
  ∃ before parameters last after,
    text = before ++ escapeChar :: '[' :: (parameters ++ last :: after) ∧
    (∀ c ∈ parameters, isParameter c = true) ∧ isAsciiLetter last = true

theorem isParameter_of_isAsciiLetter {c : Char} (h : isAsciiLetter c = true) :
    isParameter c = false := by
  have hletter : 'A'.toNat ≤ c.toNat := by
    simp only [isAsciiLetter, Bool.or_eq_true, Bool.and_eq_true, decide_eq_true_eq] at h
    rcases h with hsmall | hcapital
    · exact Nat.le_trans (by decide : 'A'.toNat ≤ 'a'.toNat) hsmall.1
    · exact hcapital.1
  refine Bool.eq_false_iff.mpr fun hparameter => ?_
  have hearly : c.toNat ≤ '?'.toNat := by
    simp only [isParameter, isAsciiDigit, Bool.or_eq_true, Bool.and_eq_true,
      decide_eq_true_eq] at hparameter
    rcases hparameter with (rfl | rfl) | hdigit
    · decide
    · decide
    · exact Nat.le_trans hdigit.2 (by decide : '9'.toNat ≤ '?'.toNat)
  exact absurd (Nat.le_trans hletter hearly) (by decide)

/-- The text begins with a control sequence. -/
theorem controlSequenceLength?_isSome_iff {text : Text} :
    (controlSequenceLength? text).isSome = true ↔
      ∃ parameters last after, text = escapeChar :: '[' :: (parameters ++ last :: after) ∧
        (∀ c ∈ parameters, isParameter c = true) ∧ isAsciiLetter last = true := by
  constructor
  · intro h
    unfold controlSequenceLength? at h
    split at h
    · rename_i c rest
      split at h
      · rename_i hescape
        split at h
        · rename_i last after hdrop
          split at h
          · rename_i hletter
            refine ⟨rest.takeWhile isParameter, last, after, ?_, ?_, hletter⟩
            · rw [← hdrop, List.takeWhile_append_dropWhile, hescape]
            · exact List.all_eq_true.mp List.all_takeWhile
          · simp at h
        · simp at h
      · simp at h
    · simp at h
  · rintro ⟨parameters, last, after, rfl, hparameters, hlast⟩
    have hdrop : (parameters ++ last :: after).dropWhile isParameter = last :: after := by
      rw [List.dropWhile_append_of_pos hparameters, List.dropWhile_cons,
        isParameter_of_isAsciiLetter hlast, if_neg Bool.false_ne_true]
    rw [controlSequenceLength?, if_pos rfl, hdrop]
    dsimp only
    rw [if_pos hlast]
    rfl

/-- A text has a control sequence if it begins with one or if there is one behind its first
character. -/
theorem hasControlSequence_cons {c : Char} {rest : Text} :
    HasControlSequence (c :: rest) ↔
      (controlSequenceLength? (c :: rest)).isSome = true ∨ HasControlSequence rest := by
  rw [controlSequenceLength?_isSome_iff]
  constructor
  · rintro ⟨before, parameters, last, after, htext, hparameters, hlast⟩
    cases before with
    | nil => exact .inl ⟨parameters, last, after, htext, hparameters, hlast⟩
    | cons d before =>
        obtain ⟨-, hrest⟩ := List.cons.inj htext
        exact .inr ⟨before, parameters, last, after, hrest, hparameters, hlast⟩
  · rintro (⟨parameters, last, after, htext, hparameters, hlast⟩ |
      ⟨before, parameters, last, after, rfl, hparameters, hlast⟩)
    · exact ⟨[], parameters, last, after, htext, hparameters, hlast⟩
    · exact ⟨c :: before, parameters, last, after, rfl, hparameters, hlast⟩

/-! ## Dropping them -/

theorem sublist_dropControlSequencesFrom (skip : Nat) (text : Text) :
    List.Sublist (dropControlSequencesFrom skip text) text := by
  induction text generalizing skip with
  | nil => cases skip <;> exact .slnil
  | cons c rest ih =>
      cases skip with
      | succ skip => exact (ih skip).cons c
      | zero =>
          rw [dropControlSequencesFrom]
          split
          · exact (ih _).cons c
          · exact (ih 0).cons_cons c

theorem sublist_dropControlSequences (text : Text) :
    List.Sublist (dropControlSequences text) text :=
  sublist_dropControlSequencesFrom 0 text

/-- A text stays as it is exactly if there is no control sequence in it. -/
theorem dropControlSequences_eq_self_iff {text : Text} :
    dropControlSequences text = text ↔ ¬ HasControlSequence text := by
  unfold dropControlSequences
  induction text with
  | nil =>
      refine iff_of_true rfl ?_
      rintro ⟨before, parameters, last, after, htext, -⟩
      simp at htext
  | cons c rest ih =>
      rw [hasControlSequence_cons, dropControlSequencesFrom]
      cases hlength : controlSequenceLength? (c :: rest) with
      | none =>
          dsimp only
          rw [List.cons.injEq, ih]
          simp
      | some length =>
          -- the first character is gone, and nothing comes in its place
          refine iff_of_false (fun hsame => ?_) (by simp)
          have hless := (sublist_dropControlSequencesFrom (length - 1) rest).length_le
          have hequal := congrArg List.length hsame
          dsimp only at hequal
          rw [List.length_cons] at hequal
          omega

end Text

/-! ## Bytes -/

namespace Utf8

theorem encode_cons (c : Char) (text : Text) :
    encode (c :: text) = String.utf8EncodeChar c ++ encode text := List.flatMap_cons

theorem length_utf8EncodeChar_pos (c : Char) : 0 < (String.utf8EncodeChar c).length := by
  rw [String.length_utf8EncodeChar]
  exact c.utf8Size_pos

theorem length_encode_le {part text : Text} (h : part.Sublist text) :
    (encode part).length ≤ (encode text).length := by
  induction h with
  | slnil => exact Nat.le_refl _
  | cons c _ ih =>
      rw [encode_cons, List.length_append]
      omega
  | cons_cons c _ ih =>
      rw [encode_cons, encode_cons, List.length_append, List.length_append]
      omega

/-- A text that lacks some of the characters of another one has another encoding. -/
theorem eq_of_encode_eq {part text : Text} (hpart : part.Sublist text)
    (h : encode part = encode text) : part = text := by
  induction hpart with
  | slnil => rfl
  | cons c hpart _ =>
      -- the encoding of the missing character has some bytes
      have hlength := congrArg List.length h
      have hless := length_encode_le hpart
      have hpos := length_utf8EncodeChar_pos c
      rw [encode_cons, List.length_append] at hlength
      omega
  | cons_cons c _ ih =>
      rw [encode_cons, encode_cons] at h
      rw [ih (List.append_cancel_left h)]

end Utf8
end LintScaffold
