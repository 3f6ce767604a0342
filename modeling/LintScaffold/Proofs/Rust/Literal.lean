import LintScaffold.Case.TestCase
import LintScaffold.Proofs.Rust.Escaped

/-!
# Literals are read back

A raw literal has a fence that is longer than any run of number signs behind a quotation mark
of its text, so that none of these quotation marks ends it.  Hence it is read as a single lexeme
with the text that it was written for, whatever stands behind it, as an escaped literal is.
-/

namespace LintScaffold

open Rust

/-! ## Raw literals -/

namespace RawString

/-- The number of number signs that a text begins with. -/
def signs (text : Text) : Nat := (text.takeWhile (· = '#')).length

theorem longestRun_le_cons (c : Char) (rest : Text) :
    longestRun rest ≤ longestRun (c :: rest) := by
  rw [longestRun]
  split_ifs <;> omega

theorem signs_le_longestRun (rest : Text) : signs rest ≤ longestRun ('"' :: rest) := by
  rw [longestRun, signs, if_pos rfl]
  split_ifs <;> omega

theorem signs_cons (rest : Text) : signs ('#' :: rest) = signs rest + 1 := by
  simp [signs]

theorem step_quote {fence : Nat} (hfence : fence ≠ 0) (read : Text) :
    step (.raw fence read) '"' = (.closing fence 0 read, []) := by
  rw [step, stepRaw, if_pos rfl, if_neg hfence]

theorem step_char {c : Char} (hquote : c ≠ '"') (hreturn : c ≠ '\r') (fence : Nat)
    (read : Text) : step (.raw fence read) c = (.raw fence (read ++ [c]), []) := by
  rw [step, stepRaw, if_neg hquote, if_neg hreturn]

theorem step_sign {fence seen : Nat} (hseen : seen + 1 ≠ fence) (read : Text) :
    step (.closing fence seen read) '#' = (.closing fence (seen + 1) read, []) := by
  rw [step, if_pos rfl, if_neg hseen]

/-- What stands behind a quotation mark and too few number signs is read on as text. -/
theorem step_noSign {c : Char} (hsign : c ≠ '#') (fence seen : Nat) (read : Text) :
    step (.closing fence seen read) c =
      step (.raw fence (read ++ '"' :: List.replicate seen '#')) c := by
  rw [step, step, if_neg hsign]

theorem feed_signs (read : Text) {fence seen : Nat} (left : Nat) (hleft : seen + left = fence)
    (hpos : left ≠ 0) :
    feed (.closing fence seen read) (List.replicate left '#') = (.between, [.literal read]) := by
  induction left generalizing seen with
  | zero => exact absurd rfl hpos
  | succ left ih =>
      rw [List.replicate_succ]
      by_cases hlast : left = 0
      · subst hlast
        rw [feed, step, if_pos rfl, if_pos (by omega)]
        rfl
      · rw [feed_of_step (step_sign (by omega) read), ih (by omega) hlast]

/-- The rest of a raw literal is read up to its end, also where a quotation mark and some
number signs, which are not the end, stand in front of it. -/
theorem feed_rest {fence : Nat} (rest : Text) (hreturn : '\r' ∉ rest)
    (hrun : longestRun rest < fence) (read : Text) :
    feed (.raw fence read) (rest ++ '"' :: List.replicate fence '#') =
      (.between, [.literal (read ++ rest)]) ∧
    ∀ seen, seen + signs rest < fence →
      feed (.closing fence seen read) (rest ++ '"' :: List.replicate fence '#') =
        (.between, [.literal (read ++ '"' :: List.replicate seen '#' ++ rest)]) := by
  have hfence : fence ≠ 0 := by omega
  -- both at once, since a quotation mark leads from the one to the other, and back
  induction rest generalizing read with
  | nil =>
      refine ⟨?_, fun seen _ => ?_⟩
      · rw [List.nil_append, feed_of_step (step_quote hfence read),
          feed_signs read fence (by omega) hfence, List.append_nil]
      · have hstep : step (.closing fence seen read) '"' =
            (.closing fence 0 (read ++ '"' :: List.replicate seen '#'), []) :=
          (step_noSign (by decide) fence seen read).trans (step_quote hfence _)
        rw [List.nil_append, feed_of_step hstep, feed_signs _ fence (by omega) hfence,
          List.append_nil]
  | cons c rest ih =>
      have hcReturn : c ≠ '\r' := fun h => hreturn (by simp [h])
      have hrestReturn : '\r' ∉ rest := fun h => hreturn (by simp [h])
      have hrestRun := Nat.lt_of_le_of_lt (longestRun_le_cons c rest) hrun
      have ih := ih hrestReturn hrestRun
      -- from inside of the literal, what has been read so far being arbitrary
      have hinside : ∀ read, feed (.raw fence read)
          (c :: rest ++ '"' :: List.replicate fence '#') =
            (.between, [.literal (read ++ c :: rest)]) := by
        intro read
        rw [List.cons_append]
        by_cases hquote : c = '"'
        · subst hquote
          have hsigns := Nat.lt_of_le_of_lt (signs_le_longestRun rest) hrun
          rw [feed_of_step (step_quote hfence read), (ih read).2 0 (by omega)]
          simp
        · rw [feed_of_step (step_char hquote hcReturn fence read), (ih _).1]
          simp
      refine ⟨hinside read, fun seen hseen => ?_⟩
      by_cases hsign : c = '#'
      · subst hsign
        rw [signs_cons] at hseen
        rw [List.cons_append, feed_of_step (step_sign (by omega) read),
          (ih read).2 (seen + 1) (by omega), List.replicate_succ']
        simp
      · -- the mark and the signs were text, and reading goes on from inside of the literal
        have hsame := hinside (read ++ '"' :: List.replicate seen '#')
        rw [List.cons_append, feed] at hsame ⊢
        rw [step_noSign hsign]
        exact hsame

theorem feed_fence (fence more : Nat) (rest : Text) :
    feed (.fence fence) (List.replicate more '#' ++ '"' :: rest) =
      feed (.raw (fence + more) []) rest := by
  induction more generalizing fence with
  | zero => exact feed_of_step rfl rest
  | succ more ih =>
      have hsign : step (.fence fence) '#' = (.fence (fence + 1), []) := rfl
      rw [List.replicate_succ, List.cons_append, feed_of_step hsign, ih, Nat.add_right_comm,
        Nat.add_assoc]

/-- What opens a raw literal leads into it. -/
theorem feed_opening (fence : Nat) (rest : Text) :
    feed .between ('r' :: List.replicate (fence + 1) '#' ++ '"' :: rest) =
      feed (.raw (fence + 1) []) rest := by
  have hletter : step .between 'r' = (.word ['r'], []) := rfl
  have hsign : step (.word ['r']) '#' = (.fence 1, []) := rfl
  rw [List.replicate_succ, List.cons_append, List.cons_append, feed_of_step hletter,
    feed_of_step hsign, feed_fence, Nat.add_comm]

/-- A raw literal is read as the text that it was written for. -/
theorem closed_write {text : Text} (hreturn : '\r' ∉ text) :
    Closed (write text) [.literal text] := by
  have hwrite : write text = 'r' :: List.replicate (longestRun text + 1) '#' ++
      '"' :: (text ++ '"' :: List.replicate (longestRun text + 1) '#') := by
    simp [write, fence]
  rw [Closed, hwrite, feed_opening, (feed_rest text hreturn (Nat.lt_succ_self _) []).1]
  rfl

end RawString

/-! ## Escaped literals -/

/-- An escaped literal is read as the text that it was written for. -/
theorem EscapedString.closed_write (text : Text) : Closed (write text) [.literal text] :=
  (isLiteral_write text).closed

/-! ## Code -/

theorem Text.contains_singleton {c : Char} {text : Text} (h : text.contains [c] = false) :
    c ∉ text := by
  induction text with
  | nil => simp
  | cons d rest ih =>
      rw [Text.contains, Bool.or_eq_false_iff] at h
      obtain ⟨hstart, hrest⟩ := h
      have hne : c ≠ d := by
        rintro rfl
        simp [Text.startsWith, Text.dropStart?] at hstart
      simp only [List.mem_cons, not_or]
      exact ⟨hne, ih hrest⟩

/-- Whatever code it is, its literal is read as the code. -/
theorem TestCase.closed_codeLiteral (code : Text) : Closed (codeLiteral code) [.literal code] := by
  unfold codeLiteral
  split
  · exact EscapedString.closed_write code
  · rename_i hreturn
    exact RawString.closed_write (Text.contains_singleton (Bool.eq_false_iff.mpr hreturn))

end LintScaffold
