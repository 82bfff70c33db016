import CommandTelemetry.Text.Hex
import CommandTelemetry.Text.Utf8

/-!
# Percent-encoding

Each part of a URL has its own set of ASCII characters that are written as a percent sign and two
hexadecimal digits. All other characters outside ASCII are written so in every part, byte by byte.

* `Percent.encode` writes a text for a part, `Percent.decode` reads bytes back.
-/

namespace CommandTelemetry.Percent

/-- A byte as a percent sign and two digits. -/
def encodeByte (b : UInt8) : List Char :=
  ['%', Text.upperHexDigit (b.toNat / 16), Text.upperHexDigit (b.toNat % 16)]

/-- A text with the characters of a set, and all that is not printable ASCII, encoded. -/
def encode (isEncoded : Char → Bool) (cs : List Char) : List Char :=
  cs.flatMap fun c =>
    if c.toNat < 0x20 || 0x7E < c.toNat || isEncoded c then
      (Utf8.encode c.toString).flatMap encodeByte
    else [c]

/-- The bytes that a text spells, each percent sign with two digits being one of them. -/
def decode : List Char → Bytes
  | [] => []
  | '%' :: a :: b :: cs => match Text.hexValue? a, Text.hexValue? b with
    | some high, some low => UInt8.ofNat (16 * high + low) :: decode cs
    | _, _ => Utf8.encode "%" ++ decode (a :: b :: cs)
  | c :: cs => Utf8.encode c.toString ++ decode cs

/-- The characters of a text. -/
def oneOf (characters : String) (c : Char) : Bool := characters.toList.contains c

/-- Encoded after the hash sign. -/
def inFragment : Char → Bool := oneOf " \"<>`"

/-- Encoded after the question mark. -/
def inQuery : Char → Bool := oneOf " \"#<>"

/-- Encoded after the question mark where the scheme is a special one. -/
def inSpecialQuery : Char → Bool := oneOf " \"#<>'"

/-- Encoded in the names of a path. -/
def inPath (c : Char) : Bool := inFragment c || oneOf "#?\x7b\x7d" c

/-- Encoded in user names and passwords. -/
def inUserInfo (c : Char) : Bool := inPath c || oneOf "/:;=@[\\]^|" c

/-- Nothing but what is not printable. -/
def inPlain (_ : Char) : Bool := false

end CommandTelemetry.Percent
