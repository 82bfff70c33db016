import CommandTelemetry.Url.Host

/-!
# URLs

An absolute URL in its parts, and its one normal form. A few schemes are special: they always have
a host and a path, they take backslashes for slashes, and their default ports are left out.

* `Url.text` is the normal form;
* `Url.hasHost`, `Url.isWeb` and `Url.isRequestable` are what senders of requests ask for.
-/

namespace CommandTelemetry

/-- The path of a URL. -/
inductive UrlPath where
  /-- A text that is no list of names. -/
  | plain (text : String)
  /-- Names with a slash before each of them. -/
  | names (names : List String)
deriving DecidableEq, Repr

/-- An absolute URL. -/
structure Url where
  scheme : String
  user : String := ""
  password : String := ""
  /-- The host, if there is a part for one; the name may be empty. -/
  host : Option Host := none
  portNumber : Option Nat := none
  path : UrlPath
  query : Option String := none
  fragment : Option String := none
deriving DecidableEq, Repr

namespace Url

/-- The scheme of files on the own machine. -/
def fileScheme : String := "file"

/-- The number that a scheme has by default, so that it need not be given after the host. -/
def defaultPort? (scheme : String) : Option Nat :=
  if scheme = "http" ∨ scheme = "ws" then some 80
  else if scheme = "https" ∨ scheme = "wss" then some 443
  else if scheme = "ftp" then some 21
  else none

/-- The scheme is a special one. -/
def isSpecial (scheme : String) : Bool := scheme = fileScheme || (defaultPort? scheme).isSome

/-- The URL names a host. -/
def hasHost (url : Url) : Bool := url.host.any (· ≠ .name "")

/-- The URL is one for requests over the web. -/
def isWeb (url : Url) : Bool := url.scheme = "http" || url.scheme = "https"

/-- The bytes that a part spells are text. -/
def spellsText (part : String) : Bool := (Utf8.decode? (Percent.decode part.toList)).isSome

/-- The URL for a request. User name and password are sent apart from it where the name, and the
password if there is no name, spells a text. -/
def withoutUser (url : Url) : Url :=
  if spellsText url.user ∧ (url.user ≠ "" ∨ spellsText url.password) then
    { url with user := "", password := "" }
  else url

/-- The part for user name and password. -/
def userText (url : Url) : String :=
  if url.user = "" ∧ url.password = "" then ""
  else url.user ++ (if url.password = "" then "" else ":" ++ url.password) ++ "@"

/-- The part for the host and the number after it. -/
def hostText (url : Url) : String :=
  match url.host with
  | none => ""
  | some host =>
    "//" ++ url.userText ++ host.text
      ++ ((url.portNumber.map fun number => ":" ++ Text.decimal number).getD "")

/-- The characters that requests may have in the part for the host. -/
def isHostCharacter (c : Char) : Bool := c.isAlphanum || Percent.oneOf "-._~:/?#[]@!$&'()*+,;=%" c

/-- The path. A first name that is empty is set apart from the slashes before a host. -/
def pathText (url : Url) : String :=
  match url.path with
  | .plain text => text
  | .names names =>
    (if url.host.isNone ∧ 1 < names.length ∧ names.head? = some "" then "/." else "")
      ++ String.join (names.map ("/" ++ ·))

/-- The normal form. -/
def text (url : Url) : String :=
  url.scheme ++ ":" ++ url.hostText ++ url.pathText
    ++ ((url.query.map ("?" ++ ·)).getD "") ++ ((url.fragment.map ("#" ++ ·)).getD "")

/-- How many bytes the URL of a request may have. -/
def longestRequestable : Nat := 65534

/-- A request can be made to the URL as it is written. -/
def isRequestable (url : Url) : Bool :=
  url.hostText.toList.all isHostCharacter && url.text.utf8ByteSize ≤ longestRequestable

end Url

end CommandTelemetry
