import LintScaffold.Proofs.Rule.Words
import LintScaffold.Proofs.Text.ControlSequence

/-!
# Pieces of texts

A mark cuts a text into pieces.  A control sequence is cut by any mark that cannot be part of one,
so that it lies within one piece.  Hence it is the same whether control sequences are dropped from
the text or from its pieces: the marks stay where they are; see `splitAt_dropControlSequences`.
-/

namespace LintScaffold.Text

variable {mark : Char}

/-! ## Cutting -/

theorem splitAt_of_not_mem {text : Text} (h : mark ∉ text) : splitAt mark text = [text] := by
  have hfree : ∀ word ∈ [text], mark ∉ word := fun word hword => List.mem_singleton.mp hword ▸ h
  exact splitAt_join (List.cons_ne_nil text []) hfree

theorem length_splitAt (text : Text) : (splitAt mark text).length = text.count mark + 1 := by
  induction text with
  | nil => rfl
  | cons c rest ih =>
      rw [splitAt, List.count_cons]
      split
      · rename_i hmark
        rw [List.length_cons, ih, hmark, beq_self_eq_true, if_pos rfl]
      · rename_i hmark
        rw [if_neg (by simpa using hmark), ← ih]
        cases hpieces : splitAt mark rest with
        | nil =>
            rw [hpieces] at ih
            simp at ih
        | cons piece pieces => rfl

theorem splitAt_ne_nil (text : Text) : splitAt mark text ≠ [] := by
  rw [← List.length_pos_iff, length_splitAt]
  exact Nat.succ_pos _

theorem splitAt_append_cons (first rest : Text) :
    splitAt mark (first ++ mark :: rest) = splitAt mark first ++ splitAt mark rest := by
  induction first with
  | nil => simp [splitAt]
  | cons c first ih =>
      rw [List.cons_append, splitAt, splitAt, ih]
      split
      · rfl
      · obtain ⟨piece, pieces, hpieces⟩ :=
          List.exists_cons_of_ne_nil (@splitAt_ne_nil mark first)
        rw [hpieces]
        rfl

theorem notMem_of_mem_splitAt {text piece : Text} (h : piece ∈ splitAt mark text) :
    mark ∉ piece := by
  induction text generalizing piece with
  | nil =>
      obtain rfl := List.mem_singleton.mp h
      exact List.not_mem_nil
  | cons c rest ih =>
      rw [splitAt] at h
      split at h
      · rcases List.mem_cons.mp h with rfl | hrest
        · exact List.not_mem_nil
        · exact ih hrest
      · rename_i hmark
        obtain ⟨first, pieces, hpieces⟩ := List.exists_cons_of_ne_nil (@splitAt_ne_nil mark rest)
        rw [hpieces] at h ih
        rcases List.mem_cons.mp h with rfl | hrest
        · rw [List.mem_cons, not_or]
          exact ⟨Ne.symm hmark, ih List.mem_cons_self⟩
        · exact ih (List.mem_cons_of_mem first hrest)

/-- Of the characters of a text only the marks are lost where it is cut. -/
theorem count_flatten_splitAt {c : Char} (hc : c ≠ mark) (text : Text) :
    (splitAt mark text).flatten.count c = text.count c := by
  induction text with
  | nil => rfl
  | cons d rest ih =>
      rw [splitAt]
      split
      · rename_i hmark
        rw [List.flatten_cons, List.nil_append, ih, hmark, List.count_cons_of_ne (Ne.symm hc)]
      · obtain ⟨piece, pieces, hpieces⟩ := List.exists_cons_of_ne_nil (@splitAt_ne_nil mark rest)
        rw [hpieces] at ih ⊢
        dsimp only
        rw [List.flatten_cons, List.cons_append, List.count_cons, ← List.flatten_cons, ih,
          List.count_cons]

/-- The pieces of lines are the lines, and nothing behind the last mark. -/
theorem splitAt_flatMap {α : Type} {line : α → Text} {items : List α}
    (h : ∀ item ∈ items, mark ∉ line item) :
    splitAt mark (items.flatMap fun item => line item ++ [mark]) = items.map line ++ [[]] := by
  induction items with
  | nil => rfl
  | cons item rest ih =>
      rw [List.forall_mem_cons] at h
      rw [List.flatMap_cons, List.append_assoc, List.singleton_append, splitAt_append_cons,
        splitAt_of_not_mem h.1, ih h.2]
      rfl

/-! ## Dropping control sequences -/

/-- The character cannot be part of a control sequence. -/
structure IsBarrier (mark : Char) : Prop where
  ne_escape : mark ≠ escapeChar
  ne_bracket : mark ≠ '['
  isParameter : isParameter mark = false
  isAsciiLetter : isAsciiLetter mark = false

theorem controlSequenceLength?_barrier (h : IsBarrier mark) (text after : Text) :
    controlSequenceLength? (text ++ mark :: after) = controlSequenceLength? text := by
  match text with
  | [] => exact controlSequenceLength?_eq_none h.ne_escape after
  | [c] =>
      have hnone : controlSequenceLength? [c] = none := rfl
      rw [hnone, ← Option.not_isSome_iff_eq_none, controlSequenceLength?_isSome_iff]
      rintro ⟨parameters, last, rest, htext, -⟩
      exact h.ne_bracket (List.cons.inj (List.cons.inj htext).2).1
  | c :: d :: rest =>
      by_cases hd : d = '['
      · subst hd
        -- the parameters end at the mark or before it, and the mark is no letter
        have hdrop : (rest ++ mark :: after).dropWhile isParameter =
              rest.dropWhile isParameter ++ mark :: after ∧
            (rest.dropWhile isParameter ≠ [] → (rest ++ mark :: after).takeWhile isParameter =
              rest.takeWhile isParameter) := by
          induction rest with
          | nil => simp [h.isParameter]
          | cons e rest ih =>
              rw [List.cons_append, List.dropWhile_cons, List.dropWhile_cons,
                List.takeWhile_cons, List.takeWhile_cons]
              split
              · exact ⟨ih.1, fun hne => congrArg (e :: ·) (ih.2 hne)⟩
              · exact ⟨rfl, fun _ => rfl⟩
        rw [List.cons_append, List.cons_append, controlSequenceLength?, controlSequenceLength?,
          hdrop.1]
        cases hrest : rest.dropWhile isParameter with
        | nil => simp [h.isAsciiLetter]
        | cons last more =>
            rw [hdrop.2 (by simp [hrest])]
            rfl
      · have hnone : ∀ more, controlSequenceLength? (c :: d :: more) = none := by
          intro more
          rw [← Option.not_isSome_iff_eq_none, controlSequenceLength?_isSome_iff]
          rintro ⟨parameters, last, tail, htext, -⟩
          exact hd (List.cons.inj (List.cons.inj htext).2).1
        rw [List.cons_append, List.cons_append, hnone, hnone]

theorem controlSequenceLength?_le {text : Text} {length : Nat}
    (h : controlSequenceLength? text = some length) : length ≤ text.length := by
  unfold controlSequenceLength? at h
  split at h
  · rename_i c rest
    split at h
    · split at h
      · rename_i last after hdrop
        split at h
        · have hrest := congrArg List.length
            (List.takeWhile_append_dropWhile (p := isParameter) (l := rest))
          rw [hdrop, List.length_append, List.length_cons] at hrest
          rw [← Option.some.inj h, List.length_cons, List.length_cons]
          omega
        · simp at h
      · simp at h
    · simp at h
  · simp at h

theorem dropControlSequencesFrom_barrier (h : IsBarrier mark) (before after : Text) {skip : Nat}
    (hskip : skip ≤ before.length) :
    dropControlSequencesFrom skip (before ++ mark :: after) =
      dropControlSequencesFrom skip before ++ mark :: dropControlSequences after := by
  induction before generalizing skip with
  | nil =>
      obtain rfl : skip = 0 := by simpa using hskip
      rw [List.nil_append]
      unfold dropControlSequencesFrom
      rw [controlSequenceLength?_eq_none h.ne_escape after]
      rfl
  | cons c before ih =>
      cases skip with
      | succ skip => exact ih (by simpa using hskip)
      | zero =>
          rw [List.cons_append, dropControlSequencesFrom, dropControlSequencesFrom,
            ← List.cons_append, controlSequenceLength?_barrier h]
          cases hlength : controlSequenceLength? (c :: before) with
          | none => exact congrArg (c :: ·) (ih (Nat.zero_le _))
          | some length =>
              have hle := controlSequenceLength?_le hlength
              rw [List.length_cons] at hle
              exact ih (by omega)

/-- Control sequences in front of a barrier and behind it are dropped apart from each other. -/
theorem dropControlSequences_append_cons (h : IsBarrier mark) (before after : Text) :
    dropControlSequences (before ++ mark :: after) =
      dropControlSequences before ++ mark :: dropControlSequences after :=
  dropControlSequencesFrom_barrier h before after (Nat.zero_le _)

theorem splitAt_dropControlSequences (h : IsBarrier mark) (text : Text) :
    splitAt mark (dropControlSequences text) = (splitAt mark text).map dropControlSequences := by
  induction hlength : text.length using Nat.strong_induction_on generalizing text with
  | _ length ih =>
      by_cases hmark : mark ∈ text
      · obtain ⟨first, rest, rfl, hfirst⟩ := List.eq_append_cons_of_mem hmark
        have hrest := ih rest.length (by simp at hlength; omega) rest rfl
        have hnot : mark ∉ dropControlSequences first := fun hmem =>
          hfirst ((sublist_dropControlSequences first).subset hmem)
        rw [dropControlSequences_append_cons h, splitAt_append_cons, splitAt_append_cons, hrest,
          splitAt_of_not_mem hfirst, splitAt_of_not_mem hnot, List.map_append]
        rfl
      · have hnot : mark ∉ dropControlSequences text := fun hmem =>
          hmark ((sublist_dropControlSequences text).subset hmem)
        rw [splitAt_of_not_mem hmark, splitAt_of_not_mem hnot]
        rfl

/-- Each control sequence takes its escape character with it. -/
theorem count_dropControlSequences_lt {text : Text} (h : HasControlSequence text) :
    (dropControlSequences text).count escapeChar < text.count escapeChar := by
  unfold dropControlSequences
  induction text with
  | nil =>
      obtain ⟨before, parameters, last, after, htext, -⟩ := h
      simp at htext
  | cons c rest ih =>
      rw [hasControlSequence_cons] at h
      rw [dropControlSequencesFrom]
      cases hlength : controlSequenceLength? (c :: rest) with
      | some length =>
          obtain ⟨parameters, last, after, htext, -⟩ :=
            controlSequenceLength?_isSome_iff.mp (Option.isSome_of_eq_some hlength)
          obtain rfl := (List.cons.inj htext).1
          rw [List.count_cons_self]
          exact Nat.lt_succ_of_le
            ((sublist_dropControlSequencesFrom (length - 1) rest).count_le escapeChar)
      | none =>
          rw [hlength] at h
          have hless := ih (h.resolve_left (by simp))
          dsimp only
          rw [List.count_cons, List.count_cons]
          omega

end LintScaffold.Text
