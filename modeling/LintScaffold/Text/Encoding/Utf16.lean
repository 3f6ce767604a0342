import LintScaffold.Text.Encoding.Fault

/-!
# UTF-16

Text as units of two bytes, in either byte order.  A character beyond the first
plane takes a pair of units from two ranges that hold no character.
-/

namespace LintScaffold.Utf16

/-- Which byte of a unit comes first. -/
inductive ByteOrder
  | little
  | big
  deriving DecidableEq

/-- The name of the decoder for a byte order. -/
def ByteOrder.codec : ByteOrder → String
  | .little => "utf-16-le"
  | .big => "utf-16-be"

/-- The unit made of two bytes. -/
def ByteOrder.unit (order : ByteOrder) (a b : UInt8) : Nat :=
  match order with
  | .little => b.toNat * 256 + a.toNat
  | .big => a.toNat * 256 + b.toNat

/-- Decodes bytes that begin at `position` of the input. -/
def decodeFrom (order : ByteOrder) (position : Nat) : Bytes → Except DecodeFault Text
  | [] => .ok []
  | [a] => .error ⟨order.codec, position, a, 0, .truncated⟩
  | a :: b :: rest =>
      let unit := order.unit a b
      if unit < 0xd800 ∨ 0xe000 ≤ unit then
        (Char.ofNat unit :: ·) <$> decodeFrom order (position + 2) rest
      else if 0xdc00 ≤ unit then .error ⟨order.codec, position, a, 1, .loneLow⟩
      else
        match rest with
        | [] => .error ⟨order.codec, position, a, 1, .ended⟩
        | [_] => .error ⟨order.codec, position, a, 2, .ended⟩
        | c :: d :: rest =>
            let second := order.unit c d
            if 0xdc00 ≤ second ∧ second < 0xe000 then
              (Char.ofNat (0x10000 + (unit - 0xd800) * 1024 + (second - 0xdc00)) :: ·) <$>
                decodeFrom order (position + 4) rest
            else .error ⟨order.codec, position, a, 1, .loneHigh⟩

/-- The text that the bytes encode in a known byte order. -/
def decode (order : ByteOrder) (bytes : Bytes) : Except DecodeFault Text :=
  decodeFrom order 0 bytes

/-- The byte order that a byte order mark at the start of the input announces. -/
def markedOrder? : Bytes → Option ByteOrder
  | 0xff :: 0xfe :: _ => some .little
  | 0xfe :: 0xff :: _ => some .big
  | _ => none

end LintScaffold.Utf16
