import CommandTelemetry.Text.Decimal
import CommandTelemetry.Text.Split
import CommandTelemetry.Url.Percent
import CommandTelemetry.DomainName.Ascii

/-!
# Hosts of URLs

A host is a name or a numeric address. Where the scheme is a special one, names are domain names,
and a name that ends in a number has to be an address of four bytes, which may be written in several
ways. An address in brackets has eight parts of sixteen bits.

* `Host.read?` reads a host, `Host.text` writes it in its one normal form.
-/

namespace CommandTelemetry

/-- The host of a URL. -/
inductive Host where
  | name (text : String)
  | ipv4 (address : Nat)
  | ipv6 (parts : List Nat)
deriving DecidableEq, Repr

namespace Host

/-! ## Addresses of four bytes -/

/-- The number that digits of a base spell. -/
def ofBase? (base : Nat) (cs : List Char) : Option Nat :=
  cs.foldlM (fun n c => ((Text.hexValue? c).filter (· < base)).map (base * n + ·)) 0

/-- A part of an address: hexadecimal, octal with a zero in front, or decimal. -/
def ipv4Part? (cs : List Char) : Option Nat :=
  match cs with
  | [] => none
  | '0' :: 'x' :: rest | '0' :: 'X' :: rest => ofBase? 16 rest
  | '0' :: c :: rest => ofBase? 8 (c :: rest)
  | cs => ofBase? 10 cs

/-- The parts between dots, without an empty last one. -/
def dottedParts (cs : List Char) : List (List Char) :=
  let parts := Text.splitWhere (· = '.') cs
  if 1 < parts.length ∧ parts.getLast? = some [] then parts.dropLast else parts

/-- The last part of a name is a number. -/
def endsInNumber (cs : List Char) : Bool :=
  match (dottedParts cs).getLast? with
  | none | some [] => false
  | some part => part.all Char.isDigit || (ipv4Part? part).isSome

/-- The address that parts spell; the last part stands for all bytes that are left. -/
def ipv4OfParts? (parts : List Nat) : Option Nat :=
  match parts.getLast? with
  | none => none
  | some last =>
    let bytes := parts.dropLast
    if 4 < parts.length ∨ bytes.any (255 < ·) ∨ Nat.pow 256 (5 - parts.length) ≤ last then none
    else some (bytes.foldl (fun n b => 256 * n + b) 0 * Nat.pow 256 (5 - parts.length) + last)

/-- The address of a name that ends in a number. -/
def ipv4? (cs : List Char) : Option Nat := ((dottedParts cs).mapM ipv4Part?).bind ipv4OfParts?

/-- The four bytes of an address with dots. -/
def ipv4Text (address : Nat) : String :=
  String.intercalate "." ([Nat.pow 256 3, Nat.pow 256 2, 256, 1].map fun unit =>
    Text.decimal (address / unit % 256))

/-! ## Addresses of eight parts -/

/-- A part of at most four hexadecimal digits. -/
def ipv6Part? (cs : List Char) : Option Nat :=
  if cs = [] ∨ 4 < cs.length then none else Text.ofHexDigits? 0 cs

/-- A byte in plain decimal. -/
def plainByte? (cs : List Char) : Option Nat :=
  let n := Text.ofDigits cs
  if cs ≠ [] ∧ cs.all Char.isDigit ∧ cs.length ≤ 3 ∧ n ≤ 255 ∧ (cs.length = 1 ∨ cs.head? ≠ some '0')
  then some n else none

/-- The two parts that an address of four bytes stands for. -/
def embeddedIpv4? (cs : List Char) : Option (List Nat) := do
  match ← (Text.splitWhere (· = '.') cs).mapM plainByte? with
  | [a, b, c, d] => return [256 * a + b, 256 * c + d]
  | _ => none

/-- Parts between colons. The last one may be an address of four bytes where that is allowed. -/
def ipv6Parts? (embeds : Bool) : List (List Char) → Option (List Nat)
  | [] => some []
  | [part] =>
    if embeds && part.contains '.' then embeddedIpv4? part else (ipv6Part? part).map ([·])
  | part :: parts => do
    let first ← ipv6Part? part
    let others ← ipv6Parts? embeds parts
    return first :: others

/-- The parts of one side of an address. -/
def ipv6Side? (embeds : Bool) (cs : List Char) : Option (List Nat) :=
  if cs = [] then some [] else ipv6Parts? embeds (Text.splitWhere (· = ':') cs)

/-- The texts on the two sides of the first pair of colons. -/
def atDoubleColon : List Char → Option (List Char × List Char)
  | [] => none
  | ':' :: ':' :: cs => some ([], cs)
  | c :: cs => (atDoubleColon cs).map fun (left, right) => (c :: left, right)

/-- The eight parts of an address between brackets. A pair of colons stands for all that is
missing. -/
def ipv6? (cs : List Char) : Option (List Nat) :=
  match atDoubleColon cs with
  | none => (ipv6Side? true cs).filter (·.length = 8)
  | some (left, right) => do
    let before ← ipv6Side? false left
    let after ← ipv6Side? true right
    let given := before.length + after.length
    if 7 < given then none else return before ++ List.replicate (8 - given) 0 ++ after

/-- The lower-case hexadecimal digits of a number below `2 ^ 16`. -/
def hexDigits (n : Nat) : List Char :=
  let run := [n / 4096 % 16, n / 256 % 16, n / 16 % 16].dropWhile (· = 0) ++ [n % 16]
  run.map Text.hexDigit

/-- The length of the run of zeros at the front. -/
def zerosAtFront (parts : List Nat) : Nat := (parts.takeWhile (· = 0)).length

/-- The place and length of the first longest run of zeros. -/
def longestZeros (place : Nat) : List Nat → Nat × Nat
  | [] => (place, 0)
  | part :: parts =>
    let here := zerosAtFront (part :: parts)
    let later := longestZeros (place + 1) parts
    if later.2 ≤ here then (place, here) else later

/-- The parts with colons between them, and a pair of colons for the longest run of zeros. -/
def ipv6Text (parts : List Nat) : String :=
  let join (parts : List Nat) : List Char := [':'].intercalate (parts.map hexDigits)
  let (place, length) := longestZeros 0 parts
  String.ofList <|
    if length < 2 then join parts
    else join (parts.take place) ++ [':', ':'] ++ join (parts.drop (place + length))

/-! ## Hosts -/

/-- The characters that no host may have. -/
def isForbidden (c : Char) : Bool := c.toNat = 0 || Percent.oneOf "\t\n\r #/:<>?@[\\]^|" c

/-- The characters that no name may have where the scheme is a special one. -/
def isForbiddenInName (c : Char) : Bool :=
  isForbidden c || c.toNat < 0x20 || c.toNat = 0x7F || c = '%'

/-- A host where the scheme is a special one. -/
def readSpecial? (cs : List Char) : Option Host := do
  let name ← DomainName.toAscii? (Utf8.decodeLossy (Percent.decode cs)).toList
  if name = [] ∨ name.any isForbiddenInName then none
  else if endsInNumber name then (ipv4? name).map .ipv4
  else some (.name (String.ofList name))

/-- A host where the scheme is no special one. -/
def readPlain? (cs : List Char) : Option Host :=
  if cs.any isForbidden then none
  else some (.name (String.ofList (Percent.encode Percent.inPlain cs)))

/-- Reads a host. -/
def read? (special : Bool) (cs : List Char) : Option Host :=
  match cs with
  | '[' :: rest =>
    if rest.getLast? = some ']' then (ipv6? rest.dropLast).map .ipv6 else none
  | cs => if special then readSpecial? cs else readPlain? cs

/-- The normal form of a host. -/
def text : Host → String
  | .name text => text
  | .ipv4 address => ipv4Text address
  | .ipv6 parts => "[" ++ ipv6Text parts ++ "]"

end Host

end CommandTelemetry
