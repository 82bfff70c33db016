import CommandTelemetry.Url.Address

/-!
# Reading URLs

An absolute URL is read from the left: scheme, host with what belongs to it, path, query, fragment.
Blanks around it and line ends inside it are passed over, and names that stand for the same place or
the place above are resolved.

* `Url.read?` reads a URL.
-/

namespace CommandTelemetry.Url

/-! ## Parts -/

/-- The text without control characters and spaces around it, and without tabs and line ends. -/
def cleaned (cs : List Char) : List Char :=
  let isEdge (c : Char) : Bool := c.toNat ≤ 0x20
  let inner := ((cs.dropWhile isEdge).reverse.dropWhile isEdge).reverse
  inner.filter fun c => c ≠ '\t' && c ≠ '\n' && c ≠ '\r'

/-- The scheme and the text after its colon. -/
def readScheme? (cs : List Char) : Option (String × List Char) :=
  match Text.cutAt ':' cs with
  | (_, none) => none
  | (name, some rest) =>
    if (name.head?.any Char.isAlpha) ∧ name.all (fun c => c.isAlphanum || Percent.oneOf "+-." c)
    then some (String.ofList (name.map Char.toLower), rest) else none

/-- A slash, or a backslash where the scheme is a special one. -/
def isSlash (special : Bool) (c : Char) : Bool := c = '/' || (special && c = '\\')

/-- The character ends the part for the host. -/
def endsPlace (special : Bool) (c : Char) : Bool := isSlash special c || c = '?' || c = '#'

/-- The texts before and from the first character that ends the part for the host. -/
def cutPlace (special : Bool) (cs : List Char) : List Char × List Char :=
  (cs.takeWhile (!endsPlace special ·), cs.dropWhile (!endsPlace special ·))

/-! ## Hosts and ports -/

/-- The user name and the password of a text before an at sign. -/
def readUser (cs : List Char) : String × String :=
  let (user, password) := Text.cutAt ':' cs
  let encoded (cs : List Char) : String := String.ofList (Percent.encode Percent.inUserInfo cs)
  (encoded user, encoded (password.getD []))

/-- The texts before and after the colon behind a host. -/
def cutAtPort (cs : List Char) : List Char × Option (List Char) :=
  match cs with
  | '[' :: _ =>
    let closed := cs.takeWhile (· ≠ ']')
    let (behind, number) := Text.cutAt ':' (cs.drop closed.length)
    (closed ++ behind, number)
  | cs => Text.cutAt ':' cs

/-- The number after a host, none if it is the one that the scheme has by default. -/
def readPort? (scheme : String) (cs : List Char) : Option (Option Nat) :=
  let number := Text.ofDigits cs
  if !cs.all Char.isDigit || 65535 < number then none
  else if cs = [] ∨ defaultPort? scheme = some number then some none
  else some (some number)

/-- What stands between two slashes and the path, namely a user, a host and a number, and the text
after it. An empty host is one only where nothing else needs it: with no user, no number, and no
special scheme. A backslash ends the number for every scheme. -/
def readAuthority? (scheme : String) (cs : List Char) : Option (Url × List Char) := do
  let special := isSpecial scheme
  let (authority, rest) := cutPlace special cs
  let (before, place) := Text.cutAtLast '@' authority
  let (hostText, portText) := cutAtPort place
  let (user, password) := readUser (before.getD [])
  if hostText = [] ∧ (special ∨ portText.isSome ∨ user ≠ "" ∨ password ≠ ""
      ∨ (before = some [] ∧ rest ≠ [])) then none
  else
    let host ← Host.read? special hostText
    let (digits, behind) := (portText.getD []).span (· ≠ '\\')
    let portNumber ← readPort? scheme digits
    return ({ scheme, user, password, host := some host, portNumber, path := .names [] },
      behind ++ rest)

/-- The host of a file. The own machine is no host. -/
def readFileHost? (cs : List Char) : Option Host :=
  if cs = [] then some (.name "")
  else (Host.read? true cs).map fun host =>
    if host = .name "localhost" then .name "" else host

/-! ## Paths -/

/-- The name stands for as many dots, of which each may be percent-encoded. -/
def isDots : Nat → List Char → Bool
  | 0, cs => cs = []
  | count + 1, '.' :: cs => isDots count cs
  | count + 1, '%' :: '2' :: c :: cs => (c = 'e' || c = 'E') && isDots count cs
  | _ + 1, _ => false

/-- The name is a letter for a drive and a colon or a bar. -/
def isDrive : List Char → Bool
  | [c, mark] => c.isAlpha && (mark = ':' || mark = '|')
  | _ => false

/-- The names above the place that names lead to, the names coming last first. There is no way above
a drive. -/
def above : List (List Char) → List (List Char)
  | [] => []
  | name :: before => if isDrive name then name :: before else before

/-- The names of a path after those already resolved, which come last first. -/
def resolveNames (before : List (List Char)) : List (List Char) → List (List Char)
  | [] => before.reverse
  | name :: names =>
    let isLast := names = []
    if isDots 2 name then resolveNames (if isLast then [] :: above before else above before) names
    else if isDots 1 name then resolveNames (if isLast then [] :: before else before) names
    else resolveNames (Percent.encode Percent.inPath name :: before) names

/-- The names of a path that may start with a slash. -/
def readNames (special : Bool) (cs : List Char) : List (List Char) :=
  match cs with
  | [] => if special then [[]] else []
  | c :: rest =>
    resolveNames [] (Text.splitWhere (isSlash special) (if isSlash special c then rest else cs))

/-- A path with these names. -/
def pathOf (names : List (List Char)) : UrlPath := .names (names.map String.ofList)

/-- The names without empty ones at the front, apart from the last. -/
def withoutEmptyFront : List (List Char) → List (List Char)
  | [] :: name :: names => withoutEmptyFront (name :: names)
  | names => names

/-- The URL of a file. A drive at the front of its path is on the own machine and written with a
colon. -/
def ofFile (host : Host) (names : List (List Char)) : Url :=
  match names with
  | [c, mark] :: names =>
    if isDrive [c, mark] then
      { scheme := fileScheme, host := some (.name ""), path := pathOf ([c, ':'] :: names) }
    else { scheme := fileScheme, host := some host, path := pathOf ([c, mark] :: names) }
  | names =>
    { scheme := fileScheme, host := some host, path := pathOf (withoutEmptyFront names) }

/-! ## Whole URLs -/

/-- The text before the query and the fragment, the query and the fragment. -/
def cutTail (cs : List Char) : List Char × Option (List Char) × Option (List Char) :=
  let (before, fragment) := Text.cutAt '#' cs
  let (path, query) := Text.cutAt '?' before
  (path, query, fragment)

/-- The URL with the query and the fragment. -/
def withTail (url : Url) (query fragment : Option (List Char)) : Url :=
  let queryPart := if isSpecial url.scheme then Percent.inSpecialQuery else Percent.inQuery
  { url with
    query := query.map fun cs => String.ofList (Percent.encode queryPart cs)
    fragment := fragment.map fun cs => String.ofList (Percent.encode Percent.inFragment cs) }

/-- The host of a file URL and the text of its path, after the scheme. A drive in the place of the
host is the front of the path. -/
def readFilePlace? (cs : List Char) : Option (Host × List Char) :=
  match cs with
  | a :: b :: rest =>
    if isSlash true a && isSlash true b then
      let (hostText, path) := cutPlace true rest
      if isDrive hostText then some (.name "", rest)
      else (readFileHost? hostText).map (·, path)
    else some (.name "", cs)
  | cs => some (.name "", cs)

/-- The text after the slashes behind a special scheme, or after two slashes behind another one. -/
def afterSlashes? (special : Bool) (cs : List Char) : Option (List Char) :=
  if special then some (cs.dropWhile (isSlash true))
  else match cs with
    | '/' :: '/' :: rest => some rest
    | _ => none

/-- The path of a URL without a place for a host. -/
def readLonePath (cs : List Char) : UrlPath :=
  match cs with
  | '/' :: _ => pathOf (readNames false cs)
  | cs => .plain (String.ofList (Percent.encode Percent.inPlain cs))

/-- A URL after its scheme. -/
def readAfterScheme? (scheme : String) (cs : List Char) : Option Url := do
  if scheme = fileScheme then
    let (host, rest) ← readFilePlace? cs
    let (path, query, fragment) := cutTail rest
    return withTail (ofFile host (readNames true path)) query fragment
  else match afterSlashes? (isSpecial scheme) cs with
    | some rest => do
      let (url, rest) ← readAuthority? scheme rest
      let (path, query, fragment) := cutTail rest
      let names := readNames (isSpecial scheme) path
      return withTail { url with path := pathOf names } query fragment
    | none =>
      let (path, query, fragment) := cutTail cs
      return withTail { scheme, path := readLonePath path } query fragment

/-- Reads an absolute URL. -/
def read? (text : String) : Option Url := do
  let (scheme, rest) ← readScheme? (cleaned text.toList)
  readAfterScheme? scheme rest

end CommandTelemetry.Url
