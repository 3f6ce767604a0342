import LintScaffold.Text.Encoding.SingleByte
import LintScaffold.Text.Encoding.Utf16
import LintScaffold.Text.Encoding.Utf8
import LintScaffold.Text.Lines

/-!
# Text encodings

The encodings that a file may be read with, the names under which they are asked
for, and reading itself.  Names are compared without regard to case, and any run of
characters other than ASCII letters, digits and dots separates in the same way.
-/

namespace LintScaffold

/-- A text encoding. -/
inductive Encoding
  | ascii
  | latin1
  | windows1252
  | utf8
  | utf8Signed
  | utf16
  | utf16Little
  | utf16Big
  deriving DecidableEq

/-- Why bytes could not be read as text. -/
inductive ReadFault
  /-- The bytes are not the encoding of a text. -/
  | undecodable (fault : DecodeFault)
  /-- A byte order mark is required and missing. -/
  | unmarked
  /-- No encoding has this name. -/
  | unknownEncoding (name : Text)
  /-- The name belongs to a transformation that does not yield text. -/
  | notText (name : Text)
  /-- The name holds a NUL. -/
  | nulInName
  deriving DecidableEq

/-- The wording of a reading failure. -/
def ReadFault.message : ReadFault → Text
  | .undecodable fault => fault.message
  | .unmarked => "UTF-16 stream does not start with BOM".toList
  | .unknownEncoding name => "unknown encoding: ".toList ++ name
  | .notText name =>
      Text.join [] [['\''], name, "' is not a text encoding; use codecs.open() to handle ".toList,
        "arbitrary codecs".toList]
  | .nulInName => "embedded null character".toList

/-- The wording for the name of an encoding that is no text but of another kind. -/
def noEncodingMessage (kind : String) : Text :=
  "open() argument 'encoding' must be str or None, not ".toList ++ kind.toList

namespace Encoding

/-! ## Names -/

/-- The comparable form of an encoding name; `gap` tells that a separator is due before
the next kept character. -/
def simplify (gap started : Bool) : Text → Text
  | [] => []
  | c :: rest =>
      if Text.isAsciiLetter c || Text.isAsciiDigit c || c = '.' then
        let kept := if gap && started then ['_', c.toLower] else [c.toLower]
        kept ++ simplify false true rest
      else simplify true started rest

/-- The encodings by their own names. -/
def names : List (String × Encoding) :=
  [("ascii", .ascii), ("latin_1", .latin1), ("cp1252", .windows1252), ("utf_8", .utf8),
    ("utf_8_sig", .utf8Signed), ("utf_16", .utf16), ("utf_16_le", .utf16Little),
    ("utf_16_be", .utf16Big)]

/-- Other names of the encodings. -/
def aliases : List (String × Encoding) :=
  [("646", .ascii), ("ansi_x3.4_1968", .ascii), ("ansi_x3_4_1968", .ascii),
    ("ansi_x3.4_1986", .ascii), ("cp367", .ascii), ("csascii", .ascii), ("ibm367", .ascii),
    ("iso646_us", .ascii), ("iso_646.irv_1991", .ascii), ("iso_ir_6", .ascii), ("us", .ascii),
    ("us_ascii", .ascii),
    ("8859", .latin1), ("cp819", .latin1), ("csisolatin1", .latin1),
    ("ibm819", .latin1), ("iso8859", .latin1), ("iso8859_1", .latin1), ("iso_8859_1", .latin1),
    ("iso_8859_1_1987", .latin1), ("iso_ir_100", .latin1), ("l1", .latin1), ("latin", .latin1),
    ("latin1", .latin1),
    ("1252", .windows1252), ("windows_1252", .windows1252),
    ("u8", .utf8), ("utf", .utf8), ("utf8", .utf8), ("utf8_ucs2", .utf8),
    ("utf8_ucs4", .utf8), ("cp65001", .utf8),
    ("u16", .utf16), ("utf16", .utf16),
    ("unicodelittleunmarked", .utf16Little), ("utf_16le", .utf16Little),
    ("unicodebigunmarked", .utf16Big), ("utf_16be", .utf16Big)]

/-- Transformations between bytes, or between texts, by their own names. -/
def transformations : List String :=
  ["base64_codec", "bz2_codec", "hex_codec", "quopri_codec", "rot_13", "uu_codec", "zlib_codec"]

/-- Other names of transformations. -/
def transformationAliases : List String :=
  ["base64", "base_64", "bz2", "hex", "quopri", "quoted_printable", "quotedprintable", "rot13",
    "uu", "zip", "zlib"]

/-- What a name in comparable form stands for: an encoding, or a transformation. -/
def meaning? (simple : Text) : Option (Option Encoding) :=
  let is (known : String) : Bool := known.toList = simple
  match aliases.find? fun entry => is entry.1 with
  | some (_, encoding) => some (some encoding)
  | none => if transformationAliases.any is then some none else none

/-- What the name of an encoding or a transformation stands for. -/
def ownMeaning? (simple : Text) : Option (Option Encoding) :=
  let is (known : String) : Bool := known.toList = simple
  match names.find? fun entry => is entry.1 with
  | some (_, encoding) => some (some encoding)
  | none => if transformations.any is then some none else none

/-- The encoding of the given name.  In the other names of an encoding, but not in its own
name, a dot may stand for a separator. -/
def named (name : Text) : Except ReadFault Encoding :=
  if name.contains [Char.ofNat 0] then .error .nulInName
  else
    let simple := simplify false false name
    let dotless := Text.replaceChar '.' '_' simple
    match (meaning? simple <|> meaning? dotless) <|> ownMeaning? simple with
    | some (some encoding) => .ok encoding
    | some none => .error (.notText name)
    | none => .error (.unknownEncoding name)

/-! ## Reading -/

/-- The text that bytes stand for. -/
def decode (encoding : Encoding) (bytes : Bytes) : Except ReadFault Text :=
  match encoding with
  | .ascii => (SingleByte.decode SingleByte.ascii bytes).mapError .undecodable
  | .latin1 => (SingleByte.decode SingleByte.latin1 bytes).mapError .undecodable
  | .windows1252 => (SingleByte.decode SingleByte.windows1252 bytes).mapError .undecodable
  | .utf8 => (Utf8.decode bytes).mapError .undecodable
  | .utf8Signed => (Utf8.decodeSigned bytes).mapError .undecodable
  | .utf16Little => (Utf16.decode .little bytes).mapError .undecodable
  | .utf16Big => (Utf16.decode .big bytes).mapError .undecodable
  | .utf16 =>
      match Utf16.markedOrder? bytes with
      | some order => (Utf16.decodeFrom order 2 (bytes.drop 2)).mapError .undecodable
      | none =>
          match (Utf16.decode .little bytes).mapError .undecodable with
          | .error fault => .error fault
          | .ok text => if bytes.isEmpty then .ok text else .error .unmarked

/-- Reads a file's bytes as text under a named encoding, with line ends unified. -/
def read (name : Text) (bytes : Bytes) : Except ReadFault Text := do
  let encoding ← named name
  Text.unifyLines <$> encoding.decode bytes

end Encoding
end LintScaffold
