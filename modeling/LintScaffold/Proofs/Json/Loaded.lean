import LintScaffold.Proofs.Association
import LintScaffold.Proofs.Datum.Loaded

/-!
# What is read from a JSON text

A strict reading never gives anything but data that can come from a file: no NaN, no whole number
with too many digits, and no table with a repeated key.  The digits of a whole number are counted
as they are written, which is at least as many as the number has.

The reader calls itself for the items of a list and the members of a table, always with one call
less to spend, so that the proof is by induction on the calls it may spend.
-/

namespace LintScaffold.Json

open Text (isAsciiDigit)

/-! ## Whole numbers -/

/-- So many digits write no greater number. -/
theorem natOfDigits_lt {digits : Text} (h : ∀ c ∈ digits, isAsciiDigit c = true) :
    natOfDigits digits < 10 ^ digits.length := by
  -- each digit makes ten times the number of the digits before it, and adds less than ten
  suffices hfrom : ∀ total places : Nat, total < 10 ^ places →
      (digits.map fun c => c.toNat - 48).foldl (fun total d => total * 10 + d) total <
        10 ^ (places + digits.length) by
    have hall := hfrom 0 0 (by decide)
    rwa [Nat.zero_add] at hall
  induction digits with
  | nil => exact fun total places htotal => htotal
  | cons c rest ih =>
      intro total places htotal
      have hdigit : c.toNat - 48 < 10 := by
        have hnine := h c List.mem_cons_self
        simp only [isAsciiDigit, Bool.and_eq_true, decide_eq_true_eq] at hnine
        have hvalue : c.toNat ≤ '9'.toNat := hnine.2
        have hcode : '9'.toNat = 57 := by decide
        omega
      have hmore := ih (fun d hd => h d (List.mem_cons_of_mem _ hd))
        (total * 10 + (c.toNat - 48)) (places + 1) (by rw [Nat.pow_succ]; omega)
      rwa [Nat.add_assoc, Nat.add_comm 1] at hmore

/-- A number that is written with few enough digits has few enough digits. -/
theorem isTooLong_of_digits {digits : Text} (h : ∀ c ∈ digits, isAsciiDigit c = true)
    (hshort : digits.length ≤ maxDigits) {n : Int} (hn : n.natAbs = natOfDigits digits) :
    isTooLong n = false := by
  rw [isTooLong, hn, decide_eq_false_iff_not, Nat.not_lt]
  by_cases hzero : natOfDigits digits = 0
  · rw [hzero]
    decide
  · have hless := Nat.lt_of_le_of_lt (Text.pow_length_ofNat_le hzero) (natOfDigits_lt h)
    have hplaces := (Nat.pow_lt_pow_iff_right (by decide : 1 < 10)).mp hless
    omega

/-! ## Scalars -/

theorem takeWhole?_digits {text whole rest : Text} (h : takeWhole? text = some (whole, rest)) :
    ∀ c ∈ whole, isAsciiDigit c = true := by
  unfold takeWhole? at h
  split at h
  · obtain ⟨rfl, -⟩ := Prod.mk.inj (Option.some.inj h)
    exact List.forall_mem_singleton.mpr (by decide)
  · split at h
    · obtain ⟨rfl, -⟩ := Prod.mk.inj (Option.some.inj h)
      exact List.all_eq_true.mp List.all_takeWhile
    · simp at h
  · simp at h

theorem takeNumeral?_digits {text rest : Text} {numeral : Numeral}
    (h : takeNumeral? text = some (numeral, rest)) :
    ∀ c ∈ numeral.whole, isAsciiDigit c = true := by
  unfold takeNumeral? at h
  dsimp only at h
  split at h
  · simp at h
  · rename_i hwhole
    obtain ⟨rfl, -⟩ := Prod.mk.inj (Option.some.inj h)
    exact takeWhole?_digits hwhole

/-- A numeral has a value that a file can have, though it may be infinite. -/
theorem isLoaded_value {numeral : Numeral} {d : Datum}
    (hdigits : ∀ c ∈ numeral.whole, isAsciiDigit c = true) (h : numeral.value = .ok d) :
    d.IsLoaded := by
  unfold Numeral.value at h
  split at h
  · split at h
    · simp at h
    · rename_i hshort
      obtain rfl := Except.ok.inj h
      refine .int (isTooLong_of_digits hdigits (Nat.not_lt.mp hshort) ?_)
      split <;> simp
  · obtain rfl := Except.ok.inj h
    rw [Binary64.ofDecimal_eq]
    exact .float _ _

theorem isLoaded_readScalar {text rest : Text} {d : Datum}
    (h : readScalar false text = .ok (d, rest)) : d.IsLoaded := by
  unfold readScalar at h
  split at h
  · rename_i result hword
    obtain rfl := Except.ok.inj h
    obtain ⟨⟨word, found⟩, hmem, htaken⟩ := List.exists_of_findSome?_eq_some hword
    obtain ⟨behind, -, hpair⟩ := Option.map_eq_some_iff.mp htaken
    obtain ⟨rfl, -⟩ := Prod.mk.inj hpair
    have hwords : ∀ entry ∈ words, entry.2.IsLoaded := by
      simp only [words, List.forall_mem_cons]
      exact ⟨.null, .bool true, .bool false, by simp⟩
    exact hwords _ hmem
  · dsimp only at h
    split at h
    · simp at h
    · split at h
      · simp at h
      · rename_i numeral behind htaken
        obtain ⟨value, hvalue, h⟩ := bind_eq_ok.mp h
        obtain ⟨rfl, -⟩ := Prod.mk.inj (Except.ok.inj h)
        exact isLoaded_value (takeNumeral?_digits htaken) hvalue

/-! ## Lists and tables -/

/-- Whatever is read with so many calls can come from a file. -/
structure ReadsLoaded (depth : Nat) : Prop where
  value : ∀ {text rest d}, readValue false depth text = .ok (d, rest) → d.IsLoaded
  items : ∀ {text rest items}, readItems false depth text = .ok (items, rest) →
    ∀ item ∈ items, item.IsLoaded
  members : ∀ {text rest entries}, readMembers false depth text = .ok (entries, rest) →
    ∀ entry ∈ entries, entry.2.IsLoaded

theorem isLoaded_ofMembers {entries : Table} (h : ∀ entry ∈ entries, entry.2.IsLoaded) :
    (Datum.ofTable (tableOf (· == ·) entries)).IsLoaded :=
  .table (tableOf_spec h).1 (tableOf_spec h).2

variable {depth : Nat}

theorem ReadsLoaded.readValue (h : ReadsLoaded depth) {text rest : Text} {d : Datum}
    (hread : Json.readValue false (depth + 1) text = .ok (d, rest)) : d.IsLoaded := by
  unfold Json.readValue at hread
  split at hread
  · obtain ⟨found, -, hread⟩ := bind_eq_ok.mp hread
    obtain ⟨rfl, -⟩ := Prod.mk.inj (Except.ok.inj hread)
    exact .text found.1
  · split at hread
    · obtain ⟨rfl, -⟩ := Prod.mk.inj (Except.ok.inj hread)
      show (Datum.ofTable []).IsLoaded
      exact .table List.nodup_nil (by simp)
    · obtain ⟨found, hmembers, hread⟩ := bind_eq_ok.mp hread
      obtain ⟨rfl, -⟩ := Prod.mk.inj (Except.ok.inj hread)
      exact isLoaded_ofMembers (h.members hmembers)
  · split at hread
    · obtain ⟨rfl, -⟩ := Prod.mk.inj (Except.ok.inj hread)
      exact .list (by simp)
    · obtain ⟨found, hitems, hread⟩ := bind_eq_ok.mp hread
      obtain ⟨rfl, -⟩ := Prod.mk.inj (Except.ok.inj hread)
      exact .list (h.items hitems)
  · exact isLoaded_readScalar hread

theorem ReadsLoaded.readItems (h : ReadsLoaded depth) {text rest : Text} {items : List Datum}
    (hread : Json.readItems false (depth + 1) text = .ok (items, rest)) :
    ∀ item ∈ items, item.IsLoaded := by
  unfold Json.readItems at hread
  obtain ⟨first, hfirst, hread⟩ := bind_eq_ok.mp hread
  dsimp only at hread
  split at hread
  · obtain ⟨rfl, -⟩ := Prod.mk.inj (Except.ok.inj hread)
    simpa using h.value hfirst
  · obtain ⟨others, hothers, hread⟩ := bind_eq_ok.mp hread
    obtain ⟨rfl, -⟩ := Prod.mk.inj (Except.ok.inj hread)
    exact List.forall_mem_cons.mpr ⟨h.value hfirst, h.items hothers⟩
  · simp at hread

theorem ReadsLoaded.readMembers (h : ReadsLoaded depth) {text rest : Text} {entries : Table}
    (hread : Json.readMembers false (depth + 1) text = .ok (entries, rest)) :
    ∀ entry ∈ entries, entry.2.IsLoaded := by
  unfold Json.readMembers at hread
  split at hread
  · obtain ⟨name, -, hread⟩ := bind_eq_ok.mp hread
    dsimp only at hread
    split at hread
    · obtain ⟨value, hvalue, hread⟩ := bind_eq_ok.mp hread
      split at hread
      · obtain ⟨rfl, -⟩ := Prod.mk.inj (Except.ok.inj hread)
        simpa using h.value hvalue
      · obtain ⟨others, hothers, hread⟩ := bind_eq_ok.mp hread
        obtain ⟨rfl, -⟩ := Prod.mk.inj (Except.ok.inj hread)
        exact List.forall_mem_cons.mpr ⟨h.value hvalue, h.members hothers⟩
      · simp at hread
    · simp at hread
  · simp at hread

theorem readsLoaded (depth : Nat) : ReadsLoaded depth := by
  induction depth with
  | zero =>
      constructor
      · intro text rest d hread
        simp [Json.readValue] at hread
      · intro text rest items hread
        simp [Json.readItems] at hread
      · intro text rest entries hread
        simp [Json.readMembers] at hread
  | succ depth ih => exact ⟨ih.readValue, ih.readItems, ih.readMembers⟩

/-- What a strict reading of a JSON text gives can come from a file. -/
theorem isLoaded_read {text : Text} {d : Datum} (h : read false text = .ok d) : d.IsLoaded := by
  unfold read at h
  split at h
  · simp at h
  · obtain ⟨found, hvalue, h⟩ := bind_eq_ok.mp h
    dsimp only at h
    split at h
    · obtain rfl := Except.ok.inj h
      exact (readsLoaded _).value hvalue
    · simp at h

end LintScaffold.Json
