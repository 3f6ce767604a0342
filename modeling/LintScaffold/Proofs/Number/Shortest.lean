import LintScaffold.Number.Shortest
import LintScaffold.Proofs.Number.Numeral

/-!
# Doubles are read back

A shortest decimal is only taken if it reads back as the double that it stands for, and so
does the exact value, which stands in where there is none.  However the decimal is laid out,
with a power of ten or with zeros at either end of its digits, its text is a proper numeral
with the same value.  So the text of a finite double, read as a scalar of JSON, gives the
double again.
-/

namespace LintScaffold.Binary64

open Json (Numeral natOfDigits)

/-! ## The shortest decimal -/

/-- The rank of the double that a decimal reads back as. -/
def Decimal.rank (decimal : Decimal) : Nat := decimalRank decimal.digits decimal.exponent

theorem rank_ofGrid (count digits : Nat) (exponent : Int) :
    (Decimal.ofGrid count digits exponent).rank = decimalRank digits exponent := by
  unfold Decimal.ofGrid
  split
  · rename_i hpower
    have hmoved := decimalRank_mul_pow 1 count exponent
    rw [Nat.one_mul] at hmoved
    rw [hpower, Nat.pow_eq, hmoved]
    rfl
  · rfl

theorem rank_of_withDigits? {rank count : Nat} {decimal : Decimal}
    (h : withDigits? rank count = some decimal) : decimal.rank = rank := by
  unfold withDigits? at h
  dsimp only at h
  generalize hquotient : inPowers _ _ = quotient at h
  obtain ⟨num, den⟩ := quotient
  dsimp only at h
  split_ifs at h with hboth hlower hupper
  · obtain rfl := Option.some.inj h
    rw [rank_ofGrid]
    rcases roundHalfEven_eq_or num den with hdown | hup
    · rw [hdown]
      exact hboth.1
    · rw [hup]
      exact hboth.2
  · obtain rfl := Option.some.inj h
    rw [rank_ofGrid]
    exact hlower
  · obtain rfl := Option.some.inj h
    rw [rank_ofGrid]
    exact hupper

/-- The exact value reads back as the double as well. -/
theorem rank_exact (units places : Nat) :
    nearestRank (units * 5 ^ places * 2 ^ places) (10 ^ places) = nearestRank units 1 := by
  have hten : 0 < 10 ^ places := Nat.pow_pos (by decide)
  have hscaled := nearestRank_mul units 1 hten
  rwa [show 10 ^ places = 5 ^ places * 2 ^ places from Nat.mul_pow 5 2 places, ← Nat.mul_assoc,
    Nat.one_mul, ← Nat.mul_pow 5 2 places] at hscaled

/-- The shortest decimal of a double reads back as the double. -/
theorem rank_shortest (rank : Nat) : (shortest rank).rank = rank := by
  unfold shortest
  split
  · rename_i decimal hfound
    obtain ⟨i, -, hdecimal⟩ := List.exists_of_findSome?_eq_some hfound
    exact rank_of_withDigits? hdecimal
  · exact (rank_exact (unitsOf rank) _).trans (nearestRank_unitsOf rank)

theorem digits_shortest_ne_zero {rank : Nat} (hrank : rank ≠ 0) : (shortest rank).digits ≠ 0 := by
  intro hzero
  have hread := rank_shortest rank
  rw [Decimal.rank, hzero, decimalRank_zero] at hread
  exact hrank hread.symm

/-! ## Magnitudes -/

/-- The text is that of a proper numeral without a sign, which is a double of the given rank. -/
def IsMagnitude (text : Text) (rank : Nat) : Prop :=
  ∃ numeral : Numeral, numeral.negative = false ∧ numeral.IsProper ∧ numeral.HasRank rank ∧
    numeral.text = text

/-- A magnitude with a sign is a numeral for the double with that sign. -/
theorem IsMagnitude.signed {text : Text} {rank : Nat} (h : IsMagnitude text rank)
    (negative : Bool) :
    ∃ numeral : Numeral, numeral.IsProper ∧
      numeral.text = (if negative then '-' :: text else text) ∧
      numeral.value = .ok (.float (ofRank negative rank)) := by
  -- the numeral with the other sign is as proper, and its magnitude is the same
  obtain ⟨numeral, hplus, hproper, hrank, rfl⟩ := h
  obtain ⟨sign, whole, fraction, exponent⟩ := numeral
  dsimp only at hplus
  subst hplus
  refine ⟨⟨negative, whole, fraction, exponent⟩, ?_, ?_, ?_⟩
  · exact ⟨hproper.whole, hproper.wholeDigits, hproper.fraction, hproper.exponent⟩
  · cases negative with
    | false => rfl
    | true => simp [Numeral.text]
  · exact Json.value_of_hasRank ⟨hrank.isDouble, hrank.rank_eq⟩

/-- Digits with a point between them are a magnitude. -/
theorem isMagnitude_point {whole fraction : Text}
    (hwhole : whole = ['0'] ∨ ∃ d rest, whole = d :: rest ∧ d ≠ '0')
    (hdigits : ∀ c ∈ whole, Text.isAsciiDigit c = true) (hne : fraction ≠ [])
    (hfraction : ∀ c ∈ fraction, Text.isAsciiDigit c = true) :
    IsMagnitude (whole ++ '.' :: fraction)
      (decimalRank (natOfDigits (whole ++ fraction)) (-Int.ofNat fraction.length)) := by
  refine ⟨⟨false, whole, some fraction, none⟩, rfl, ?_, ?_, ?_⟩
  · exact ⟨hwhole, hdigits, by simpa using ⟨hne, hfraction⟩, by simp⟩
  · refine ⟨.inl (by simp), ?_⟩
    rw [Numeral.powerOf, Int.zero_sub]
    rfl
  · simp [Numeral.text, Numeral.fractionText, Numeral.exponentText]

theorem powerOf_padded (zeros : Nat) (exponent : Int) :
    Numeral.powerOf (some (decide (exponent < 0),
      List.replicate zeros '0' ++ Text.ofNat exponent.natAbs)) = exponent := by
  have hread : natOfDigits (List.replicate zeros '0' ++ Text.ofNat exponent.natAbs) =
      exponent.natAbs := by
    rw [Json.natOfDigits_zeros_append, Json.natOfDigits_ofNat]
  by_cases hnegative : exponent < 0
  · simp only [hnegative, decide_true, Numeral.powerOf, hread, Int.ofNat_eq_natCast]
    omega
  · simp only [hnegative, decide_false, Numeral.powerOf, hread, Int.ofNat_eq_natCast]
    omega

/-- A digit with a fraction, or without one, and a power of ten is a magnitude. -/
theorem isMagnitude_exponent {d : Char} (hd : d ≠ '0') (hdigit : Text.isAsciiDigit d = true)
    (fraction : Option Text)
    (hfraction : ∀ digits ∈ fraction, digits ≠ [] ∧ ∀ c ∈ digits, Text.isAsciiDigit c = true)
    (zeros : Nat) (exponent : Int) :
    IsMagnitude ([d] ++ Numeral.fractionText fraction ++ Numeral.exponentText
        (some (decide (exponent < 0), List.replicate zeros '0' ++ Text.ofNat exponent.natAbs)))
      (decimalRank (natOfDigits (d :: fraction.getD []))
        (exponent - Int.ofNat (fraction.getD []).length)) := by
  refine ⟨⟨false, [d], fraction, some (decide (exponent < 0), _)⟩, rfl, ?_, ?_, rfl⟩
  · refine ⟨.inr ⟨d, [], rfl, hd⟩, by simpa using hdigit, hfraction, ?_⟩
    rintro _ hpower
    obtain rfl := Option.mem_some.mp hpower
    exact ⟨by simp [Text.ofNat_ne_nil], List.forall_mem_append.mpr
      ⟨Text.isAsciiDigit_zeros _, fun _ => Text.isAsciiDigit_of_mem_ofNat⟩⟩
  · refine ⟨.inr (by simp), ?_⟩
    dsimp only
    rw [powerOf_padded, List.singleton_append]

/-! ## Layouts -/

section Layouts

variable {digits : Text} (hhead : ∃ d rest, digits = d :: rest ∧ d ≠ '0')
  (hdigits : ∀ c ∈ digits, Text.isAsciiDigit c = true)
include hhead hdigits

theorem isMagnitude_small (zeros : Nat) :
    IsMagnitude ("0.".toList ++ List.replicate zeros '0' ++ digits)
      (decimalRank (natOfDigits digits) (-Int.ofNat (zeros + digits.length))) := by
  have hne : List.replicate zeros '0' ++ digits ≠ [] := by
    obtain ⟨d, rest, rfl, -⟩ := hhead
    simp
  have hall := List.forall_mem_append.mpr ⟨Text.isAsciiDigit_zeros zeros, hdigits⟩
  have hpoint := isMagnitude_point (.inl rfl) (by simp [Text.isAsciiDigit]) hne hall
  -- the zero in front of the point is one more of the zeros
  have hzeros : ['0'] ++ (List.replicate zeros '0' ++ digits) =
      List.replicate (zeros + 1) '0' ++ digits := by
    rw [List.replicate_succ]
    rfl
  rwa [hzeros, Json.natOfDigits_zeros_append, List.length_append, List.length_replicate]
    at hpoint

theorem isMagnitude_large (zeros : Nat) :
    IsMagnitude (digits ++ List.replicate zeros '0' ++ ".0".toList)
      (decimalRank (natOfDigits digits) (Int.ofNat zeros)) := by
  obtain ⟨d, rest, hcons, hd⟩ := hhead
  have hall := List.forall_mem_append.mpr ⟨hdigits, Text.isAsciiDigit_zeros zeros⟩
  have hpoint := isMagnitude_point
    (.inr ⟨d, rest ++ List.replicate zeros '0', by simp [hcons], hd⟩) hall
    (List.cons_ne_nil '0' []) (by simp [Text.isAsciiDigit])
  -- the zero behind the point is one more of the zeros, and all of them are a power of ten
  have hzeros : digits ++ List.replicate zeros '0' ++ ['0'] =
      digits ++ List.replicate (zeros + 1) '0' := by
    rw [List.replicate_succ', List.append_assoc]
  have hexponent : -Int.ofNat 1 + ((zeros + 1 : Nat) : Int) = Int.ofNat zeros := by
    simp only [Int.ofNat_eq_natCast]
    omega
  rwa [hzeros, Json.natOfDigits_append_zeros, decimalRank_mul_pow, List.length_singleton,
    hexponent] at hpoint

theorem isMagnitude_between {point : Nat} (hpos : point ≠ 0) (hless : point < digits.length) :
    IsMagnitude (digits.take point ++ ['.'] ++ digits.drop point)
      (decimalRank (natOfDigits digits) (Int.ofNat point - Int.ofNat digits.length)) := by
  obtain ⟨d, rest, hcons, hd⟩ := hhead
  have hwhole : digits.take point = d :: rest.take (point - 1) := by
    obtain ⟨n, rfl⟩ := Nat.exists_eq_succ_of_ne_zero hpos
    rw [hcons]
    rfl
  have hdropped : digits.drop point ≠ [] := by
    rw [ne_eq, List.drop_eq_nil_iff]
    omega
  have hpoint := isMagnitude_point (.inr ⟨d, rest.take (point - 1), hwhole, hd⟩)
    (fun c hc => hdigits c (List.mem_of_mem_take hc)) hdropped
    (fun c hc => hdigits c (List.mem_of_mem_drop hc))
  have hexponent : -Int.ofNat (digits.length - point) =
      Int.ofNat point - Int.ofNat digits.length := by
    simp only [Int.ofNat_eq_natCast]
    omega
  rw [List.take_append_drop, List.length_drop, hexponent] at hpoint
  rwa [List.append_assoc, List.singleton_append]

theorem isMagnitude_positional (point : Int) :
    IsMagnitude (positional digits point)
      (decimalRank (natOfDigits digits) (point - Int.ofNat digits.length)) := by
  unfold positional
  split
  · rename_i n
    have hsmall := isMagnitude_small hhead hdigits (n + 1)
    have hexponent : Int.negSucc n - Int.ofNat digits.length =
        -Int.ofNat (n + 1 + digits.length) := by
      simp only [Int.negSucc_eq, Int.ofNat_eq_natCast]
      omega
    rwa [hexponent]
  · have hsmall := isMagnitude_small hhead hdigits 0
    simpa using hsmall
  · rename_i n hpos
    split
    · rename_i hlength
      have hlarge := isMagnitude_large hhead hdigits (n - digits.length)
      have hexponent : Int.ofNat n - Int.ofNat digits.length =
          Int.ofNat (n - digits.length) := by
        simp only [Int.ofNat_eq_natCast]
        omega
      rwa [hexponent]
    · exact isMagnitude_between hhead hdigits (by simpa using hpos) (by omega)

theorem isMagnitude_scientific (width : Nat) (exponent : Int) :
    IsMagnitude (scientific width digits exponent)
      (decimalRank (natOfDigits digits) (exponent + 1 - Int.ofNat digits.length)) := by
  obtain ⟨d, rest, rfl, hd⟩ := hhead
  have hdigit := hdigits d (by simp)
  have hexponent : exponent + 1 - Int.ofNat (d :: rest).length =
      exponent - Int.ofNat rest.length := by
    simp only [List.length_cons, Int.ofNat_eq_natCast]
    omega
  rw [hexponent]
  set zeros := width - (Text.ofNat exponent.natAbs).length with hzeros
  cases rest with
  | nil =>
      have hplain := isMagnitude_exponent hd hdigit none (by simp) zeros exponent
      simpa [scientific, Numeral.fractionText, Numeral.exponentText, ← hzeros] using hplain
  | cons e others =>
      have hrest : ∀ c ∈ e :: others, Text.isAsciiDigit c = true := fun c hc =>
        hdigits c (List.mem_cons_of_mem d hc)
      have hpoint := isMagnitude_exponent hd hdigit (some (e :: others)) (by simpa using hrest)
        zeros exponent
      simpa [scientific, Numeral.fractionText, Numeral.exponentText, ← hzeros] using hpoint

end Layouts

/-- However it is laid out, a decimal is a magnitude. -/
theorem isMagnitude_write (layout : Layout) {decimal : Decimal} (hdigits : decimal.digits ≠ 0) :
    IsMagnitude (layout.write decimal) decimal.rank := by
  have hhead := Text.head_ofNat hdigits
  have hall : ∀ c ∈ Text.ofNat decimal.digits, Text.isAsciiDigit c = true := fun _ =>
    Text.isAsciiDigit_of_mem_ofNat
  have hvalue : ∀ exponent, exponent = decimal.exponent →
      decimalRank (natOfDigits (Text.ofNat decimal.digits)) exponent = decimal.rank := by
    rintro exponent rfl
    rw [Json.natOfDigits_ofNat, Decimal.rank]
  unfold Layout.write
  dsimp only
  generalize hleading :
    decimal.exponent + Int.ofNat (Text.ofNat decimal.digits).length - 1 = leading
  split
  · have hpositional := isMagnitude_positional hhead hall (leading + 1)
    rwa [hvalue _ (by omega)] at hpositional
  · have hscientific := isMagnitude_scientific hhead hall layout.exponentWidth leading
    rwa [hvalue _ (by omega)] at hscientific

/-! ## The text of a double -/

/-- The text of a finite double is a proper numeral whose value is the double. -/
theorem exists_numeral (negative : Bool) {rank : Nat} (hrank : rank < ranks) :
    ∃ numeral : Numeral, numeral.IsProper ∧
      numeral.text = (Binary64.finite negative rank).text ∧
      numeral.value = .ok (.float (.finite negative rank)) := by
  have hmagnitude : IsMagnitude
      (if rank = 0 then "0.0".toList else Layout.standard.write (shortest rank)) rank := by
    split
    · rename_i hzero
      subst hzero
      have hzero : ∀ c ∈ ['0'], Text.isAsciiDigit c = true := by simp [Text.isAsciiDigit]
      have hpoint := isMagnitude_point (.inl rfl) hzero (List.cons_ne_nil '0' []) hzero
      have hrank : natOfDigits (['0'] ++ ['0']) = 0 := by decide
      rwa [hrank, decimalRank_zero] at hpoint
    · rename_i hne
      have hwritten := isMagnitude_write Layout.standard (digits_shortest_ne_zero hne)
      rwa [rank_shortest] at hwritten
  have hsigned := hmagnitude.signed negative
  rw [ofRank, if_pos hrank] at hsigned
  exact hsigned

end LintScaffold.Binary64
