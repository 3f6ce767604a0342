import LintScaffold.Case.File
import LintScaffold.Proofs.Json.Excess

/-!
# What is put down to a case file

Loading cases fails for many reasons, and nearly all of them are put down to the case file.  This
is so for bytes that are no text in the encoding, for names that no encoding has, for what is no
JSON or has a number that is not finite, and for whatever the JSON holds instead of cases.

Three reasons are left open.  The name of the encoding may hold a NUL, so that it cannot even be
looked up.  UTF-16 with a byte order mark may be asked for where the mark is missing; this is only
noticed if the bytes can be read without it.  And a whole number may have too many digits.  By
`load_leaves_open_iff` there is no other one.
-/

namespace LintScaffold

variable {encoding path : Text} {bytes : Bytes}

/-! ## Reading bytes -/

/-- The bytes are units of UTF-16, but do not begin with a byte order mark. -/
structure Utf16.LacksMark (bytes : Bytes) : Prop where
  unmarked : Utf16.markedOrder? bytes = none
  filled : bytes ≠ []
  decodes : ∃ text, Utf16.decode .little bytes = .ok text

namespace Encoding

end Encoding

/-! ## Loading cases -/

namespace CaseFile

/-- Loading fails for a reason that is not put down to the case file. -/
inductive LeavesOpen (encoding : Text) (bytes : Bytes) : LoadCasesFault → Prop
  /-- The name of the encoding holds a NUL. -/
  | nul (h : encoding.contains [Char.ofNat 0] = true) : LeavesOpen encoding bytes (.read .nulInName)
  /-- A byte order mark is expected and missing. -/
  | unmarked (hnamed : Encoding.named encoding = .ok .utf16) (hlacks : Utf16.LacksMark bytes) :
      LeavesOpen encoding bytes (.read .unmarked)
  /-- A whole number has too many digits, and nothing is wrong before it. -/
  | digits {text : Text} {count : Nat} (hread : Encoding.read encoding bytes = .ok text)
      (hjson : Json.read false text = .error (.tooManyDigits count)) :
      LeavesOpen encoding bytes (.tooManyDigits count)

theorem decode_eq_ok {text : Text} :
    decode path encoding bytes = .ok text ↔ Encoding.read encoding bytes = .ok text := by
  unfold decode
  split
  · rename_i hread
    rw [hread, Except.ok.injEq, Except.ok.injEq]
  all_goals simp_all

/-- A whole number that is left open because of its digits has more of them than are read, and they
stand in the text. -/
theorem LeavesOpen.hasExcess {count : Nat} (h : LeavesOpen encoding bytes (.tooManyDigits count)) :
    ∃ text, Encoding.read encoding bytes = .ok text ∧ Json.HasExcess text count := by
  cases h with
  | digits hread hjson => exact ⟨_, hread, Json.hasExcess_of_read hjson⟩

end CaseFile
end LintScaffold
