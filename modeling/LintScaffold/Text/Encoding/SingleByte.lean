import LintScaffold.Text.Encoding.Fault

/-!
# Encodings of one byte a character

Seven-bit text, the first 256 code points, and the code page 1252, which differs
from the latter between `0x80` and `0x9F`.
-/

namespace LintScaffold.SingleByte

/-- The code points of the bytes `0x80` to `0x9F` in the code page 1252; a zero stands
for a byte without a character. -/
def codePage1252 : List Nat :=
  [0x20ac, 0, 0x201a, 0x192, 0x201e, 0x2026, 0x2020, 0x2021, 0x2c6, 0x2030, 0x160, 0x2039, 0x152,
    0, 0x17d, 0, 0, 0x2018, 0x2019, 0x201c, 0x201d, 0x2022, 0x2013, 0x2014, 0x2dc, 0x2122, 0x161,
    0x203a, 0x153, 0, 0x17e, 0x178]

/-- A character set: the name of its decoder, the reason for a byte it lacks, and the
code point of a byte. -/
structure CharSet where
  codec : String
  reason : DecodeReason
  codePoint? : Nat → Option Nat

/-- Seven-bit text. -/
def ascii : CharSet := ⟨"ascii", .notAscii, fun b => if b < 128 then some b else none⟩

/-- The first 256 code points. -/
def latin1 : CharSet := ⟨"latin-1", .notAscii, some⟩

/-- The code page 1252. -/
def windows1252 : CharSet :=
  ⟨"charmap", .unassigned, fun b =>
    if b < 0x80 ∨ 0xa0 ≤ b then some b
    else
      match codePage1252.getD (b - 0x80) 0 with
      | 0 => none
      | n => some n⟩

/-- Decodes bytes that begin at `position` of the input. -/
def decodeFrom (set : CharSet) (position : Nat) : Bytes → Except DecodeFault Text
  | [] => .ok []
  | b :: rest =>
      match set.codePoint? b.toNat with
      | some n => (Char.ofNat n :: ·) <$> decodeFrom set (position + 1) rest
      | none => .error ⟨set.codec, position, b, 0, set.reason⟩

/-- The text that the bytes stand for. -/
def decode (set : CharSet) (bytes : Bytes) : Except DecodeFault Text := decodeFrom set 0 bytes

end LintScaffold.SingleByte
