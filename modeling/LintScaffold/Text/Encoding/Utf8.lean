import LintScaffold.Text.Encoding.Fault

/-!
# UTF-8

A character takes one to four bytes.  The first byte tells how many follow and, to
keep out overlong forms and surrogates, in which range the second one lies; all
others lie between `0x80` and `0xBF`.
-/

namespace LintScaffold.Utf8

/-- The bytes that encode a text. -/
def encode (text : Text) : Bytes := text.flatMap String.utf8EncodeChar

/-! ## Reading back -/

/-- What a first byte announces: the number of bytes that follow, the range of the
next one, and the part of the code point that the first byte holds. -/
structure Announced where
  count : Nat
  low : Nat
  high : Nat
  value : Nat

/-- What a first byte from `0x80` on announces, if a character may begin with it. -/
def announced? (first : Nat) : Option Announced :=
  if first < 0xc2 then none
  else if first < 0xe0 then some ⟨1, 0x80, 0xbf, first - 0xc0⟩
  else if first < 0xf0 then
    some ⟨2, if first = 0xe0 then 0xa0 else 0x80, if first = 0xed then 0x9f else 0xbf,
      first - 0xe0⟩
  else if first < 0xf5 then
    some ⟨3, if first = 0xf0 then 0x90 else 0x80, if first = 0xf4 then 0x8f else 0xbf,
      first - 0xf0⟩
  else none

/-- The outcome of reading the bytes that follow a first byte. -/
inductive Tail
  | complete (value : Nat) (rest : Bytes)
  | ended
  | refused (taken : Nat)

/-- Reads `count` more bytes of a character, the next one between `low` and `high`. -/
def readTail : (count low high value taken : Nat) → Bytes → Tail
  | 0, _, _, value, _, rest => .complete value rest
  | _ + 1, _, _, _, _, [] => .ended
  | count + 1, low, high, value, taken, b :: rest =>
      if low ≤ b.toNat ∧ b.toNat ≤ high then
        readTail count 0x80 0xbf (value * 64 + (b.toNat - 0x80)) (taken + 1) rest
      else .refused taken

/-- Decodes bytes that begin at `position` of the input; `fuel` bounds the number of
characters. -/
def decodeFrom : (fuel position : Nat) → Bytes → Except DecodeFault Text
  | 0, _, _ => .ok []
  | _ + 1, _, [] => .ok []
  | fuel + 1, position, first :: rest =>
      if first.toNat < 0x80 then
        (Char.ofNat first.toNat :: ·) <$> decodeFrom fuel (position + 1) rest
      else
        match announced? first.toNat with
        | none => .error ⟨"utf-8", position, first, 0, .start⟩
        | some a =>
            match readTail a.count a.low a.high a.value 0 rest with
            | .complete value rest =>
                (Char.ofNat value :: ·) <$> decodeFrom fuel (position + a.count + 1) rest
            | .ended => .error ⟨"utf-8", position, first, rest.length, .ended⟩
            | .refused taken => .error ⟨"utf-8", position, first, taken, .continuation⟩

/-- The text that the bytes encode. -/
def decode (bytes : Bytes) : Except DecodeFault Text := decodeFrom bytes.length 0 bytes

/-- The text that the bytes encode, when they may begin with a signature, which is not
part of the text.  Positions count from behind the signature. -/
def decodeSigned : Bytes → Except DecodeFault Text
  | [0xef, 0xbb] => .ok []
  | [0xef] => .ok []
  | 0xef :: 0xbb :: 0xbf :: rest => decode rest
  | bytes => decode bytes

end LintScaffold.Utf8
