import LintScaffold.Text.Basic

/-!
# Undecodable bytes

Why a sequence of bytes is not the encoding of a text, and where.
-/

namespace LintScaffold

/-- The content of a file. -/
abbrev Bytes := List UInt8

/-- Why bytes cannot be decoded. -/
inductive DecodeReason
  /-- No character begins with this byte. -/
  | start
  /-- A byte inside a character is out of place. -/
  | continuation
  /-- The input ends inside a character. -/
  | ended
  /-- The input ends inside a two-byte unit. -/
  | truncated
  /-- A second half of a pair stands alone. -/
  | loneLow
  /-- A first half of a pair is not followed by a second one. -/
  | loneHigh
  /-- The byte is beyond the seven-bit range. -/
  | notAscii
  /-- The code page leaves the byte out. -/
  | unassigned
  deriving DecidableEq

/-- The wording of a reason. -/
def DecodeReason.message : DecodeReason → String
  | .start => "invalid start byte"
  | .continuation => "invalid continuation byte"
  | .ended => "unexpected end of data"
  | .truncated => "truncated data"
  | .loneLow => "illegal encoding"
  | .loneHigh => "illegal UTF-16 surrogate"
  | .notAscii => "ordinal not in range(128)"
  | .unassigned => "character maps to <undefined>"

/-- The first undecodable place of an input: the decoder at work, the position of the
place, the bytes there, the first of them apart, and what is wrong with them. -/
structure DecodeFault where
  codec : String
  position : Nat
  first : UInt8
  more : Nat
  reason : DecodeReason
  deriving DecidableEq

/-- The wording of a decoding failure. -/
def DecodeFault.message (fault : DecodeFault) : Text :=
  let place :=
    if fault.more = 0 then
      "byte 0x".toList ++ Text.hexPadded 2 fault.first.toNat ++ " in position ".toList ++
        Text.ofNat fault.position
    else
      "bytes in position ".toList ++ Text.ofNat fault.position ++ ['-'] ++
        Text.ofNat (fault.position + fault.more)
  ['\''] ++ fault.codec.toList ++ "' codec can't decode ".toList ++ place ++ ": ".toList ++
    fault.reason.message.toList

end LintScaffold
