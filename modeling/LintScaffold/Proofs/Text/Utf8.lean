import LintScaffold.Proofs.Text.ControlSequence

/-!
# Reading what was encoded

The first byte of a character announces how many bytes follow and in which range the next one lies.
So each byte of a character that was encoded is read back, and the bits that they hold are put
together again.  A second byte could only be out of range in an overlong form or in a surrogate, and
the code point of a character is neither.
-/

namespace LintScaffold.Utf8

theorem toNat_ofNat {n : Nat} (h : n < 256) : (UInt8.ofNat n).toNat = n :=
  UInt8.toNat_ofNat'.trans (Nat.mod_eq_of_lt h)

/-- A byte that follows adds its six bits, if it lies in the range of the next one. -/
theorem readTail_cons {low high bits : Nat} (hbits : bits < 64) (hlow : low ≤ bits + 128)
    (hhigh : bits + 128 ≤ high) (count value taken : Nat) (rest : Bytes) :
    readTail (count + 1) low high value taken (UInt8.ofNat (bits + 128) :: rest) =
      readTail count 0x80 0xbf (value * 64 + bits) (taken + 1) rest := by
  rw [readTail, toNat_ofNat (by omega), if_pos ⟨hlow, hhigh⟩, Nat.add_sub_cancel]

/-- The bytes of a character are read back. -/
theorem decodeFrom_encodeChar (c : Char) (fuel position : Nat) (rest : Bytes) :
    decodeFrom (fuel + 1) position (String.utf8EncodeChar c ++ rest) =
      (c :: ·) <$> decodeFrom fuel (position + (String.utf8EncodeChar c).length) rest := by
  have hvalue : Char.ofNat c.val.toNat = c := Char.ofNat_toNat c
  have hvalid : c.val.toNat < 0xd800 ∨ 0xdfff < c.val.toNat ∧ c.val.toNat < 0x110000 := c.valid
  have hbits : ∀ n, n % 64 < 64 := fun n => Nat.mod_lt n (by decide)
  unfold String.utf8EncodeChar
  dsimp only
  generalize c.val.toNat = v at hvalue hvalid
  by_cases hone : v ≤ 127
  · rw [if_pos hone, List.singleton_append, decodeFrom, toNat_ofNat (by omega), if_pos (by omega),
      hvalue]
    rfl
  rw [if_neg hone]
  by_cases htwo : v ≤ 2047
  · have hannounced : announced? (v / 64 % 32 + 192) = some ⟨1, 0x80, 0xbf, v / 64 % 32⟩ := by
      rw [announced?, if_neg (by omega), if_pos (by omega), Nat.add_sub_cancel]
    have hjoined : v / 64 % 32 * 64 + v % 64 = v := by omega
    rw [if_pos htwo, List.cons_append, List.singleton_append, decodeFrom, toNat_ofNat (by omega),
      if_neg (by omega), hannounced]
    dsimp only
    rw [readTail_cons (hbits v) (by omega) (by omega), readTail, hjoined]
    dsimp only
    rw [hvalue]
    rfl
  rw [if_neg htwo]
  by_cases hthree : v ≤ 65535
  · have hannounced : announced? (v / 4096 % 16 + 224) = some ⟨2,
        if v / 4096 % 16 + 224 = 0xe0 then 0xa0 else 0x80,
        if v / 4096 % 16 + 224 = 0xed then 0x9f else 0xbf, v / 4096 % 16⟩ := by
      rw [announced?, if_neg (by omega), if_neg (by omega), if_pos (by omega),
        Nat.add_sub_cancel]
    have hjoined : (v / 4096 % 16 * 64 + v / 64 % 64) * 64 + v % 64 = v := by omega
    rw [if_pos hthree, List.cons_append, List.cons_append, List.singleton_append, decodeFrom,
      toNat_ofNat (by omega), if_neg (by omega), hannounced]
    dsimp only
    rw [readTail_cons (hbits _) (by split <;> omega) (by split <;> omega),
      readTail_cons (hbits v) (by omega) (by omega), readTail, hjoined]
    dsimp only
    rw [hvalue]
    rfl
  · have hannounced : announced? (v / 262144 % 8 + 240) = some ⟨3,
        if v / 262144 % 8 + 240 = 0xf0 then 0x90 else 0x80,
        if v / 262144 % 8 + 240 = 0xf4 then 0x8f else 0xbf, v / 262144 % 8⟩ := by
      rw [announced?, if_neg (by omega), if_neg (by omega), if_neg (by omega), if_pos (by omega),
        Nat.add_sub_cancel]
    have hjoined :
        ((v / 262144 % 8 * 64 + v / 4096 % 64) * 64 + v / 64 % 64) * 64 + v % 64 = v := by
      omega
    rw [if_neg hthree, List.cons_append, List.cons_append, List.cons_append,
      List.singleton_append, decodeFrom, toNat_ofNat (by omega), if_neg (by omega), hannounced]
    dsimp only
    rw [readTail_cons (hbits _) (by split <;> omega) (by split <;> omega),
      readTail_cons (hbits _) (by omega) (by omega),
      readTail_cons (hbits v) (by omega) (by omega), readTail, hjoined]
    dsimp only
    rw [hvalue]
    rfl

theorem length_le_encode (text : Text) : text.length ≤ (encode text).length := by
  induction text with
  | nil => exact Nat.le_refl _
  | cons c rest ih =>
      have hpos := length_utf8EncodeChar_pos c
      rw [encode_cons, List.length_append, List.length_cons]
      omega

theorem decodeFrom_encode {text : Text} {fuel : Nat} (hfuel : text.length ≤ fuel)
    (position : Nat) : decodeFrom fuel position (encode text) = .ok text := by
  induction text generalizing fuel position with
  | nil => cases fuel <;> rfl
  | cons c rest ih =>
      cases fuel with
      | zero => exact absurd hfuel (Nat.not_succ_le_zero _)
      | succ fuel =>
          rw [encode_cons, decodeFrom_encodeChar, ih (Nat.le_of_succ_le_succ hfuel)]
          rfl

/-- Reading gives back the text that was encoded. -/
theorem decode_encode (text : Text) : decode (encode text) = .ok text :=
  decodeFrom_encode (length_le_encode text) 0

end LintScaffold.Utf8
