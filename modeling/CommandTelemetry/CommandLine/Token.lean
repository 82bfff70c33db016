/-!
# Tokens of a command line

What a single argument of a command line looks like, before anything is known about the command.

* `Token.read` tells the four shapes apart;
* `Token.text_read` says that nothing is lost by it.
-/

namespace CommandTelemetry

/-- The shape of one argument of a command line. -/
inductive Token where
  /-- Two dashes alone: no option follows. -/
  | terminator
  /-- Two dashes and a name, with the value after the first equals sign. -/
  | long (name : String) (value : Option String)
  /-- One dash and at least one letter, the first of which is no dash. -/
  | cluster (first : Char) (rest : List Char)
  /-- Anything else, a single dash among it. -/
  | word (text : String)
deriving DecidableEq, Repr

namespace Token

/-- The part after the first equals sign, if there is one. -/
def afterEquals : List Char → Option (List Char)
  | [] => none
  | c :: cs => if c = '=' then some cs else afterEquals cs

/-- The shape of a text. -/
def ofChars : List Char → Token
  | ['-', '-'] => .terminator
  | '-' :: '-' :: body =>
    .long (String.ofList (body.takeWhile (· ≠ '='))) ((afterEquals body).map String.ofList)
  | '-' :: first :: rest => .cluster first rest
  | cs => .word (String.ofList cs)

/-- The shape of an argument. -/
def read (text : String) : Token := ofChars text.toList

/-- The argument that has this shape. -/
def text : Token → String
  | .terminator => "--"
  | .long name none => "--" ++ name
  | .long name (some value) => "--" ++ name ++ "=" ++ value
  | .cluster first rest => String.ofList ('-' :: first :: rest)
  | .word text => text

private theorem takeWhile_afterEquals (body : List Char) :
    body.takeWhile (· ≠ '=') ++ (match afterEquals body with
      | none => []
      | some value => '=' :: value) = body := by
  induction body with
  | nil => rfl
  | cons c cs ih =>
    by_cases h : c = '='
    · subst h; simp [afterEquals]
    · simpa [afterEquals, h] using ih

private theorem text_ofChars (cs : List Char) : (ofChars cs).text.toList = cs := by
  unfold ofChars
  split
  · simp [text]
  · next body _ =>
    have h := takeWhile_afterEquals body
    cases hv : afterEquals body with
    | none => rw [hv] at h; simpa [text] using h
    | some value => rw [hv] at h; simpa [text] using h
  · simp [text]
  · simp [text]

/-- The shape of a text keeps all of it. -/
@[simp] theorem text_read (s : String) : (read s).text = s := by
  have h : (read s).text.toList = s.toList := text_ofChars s.toList
  rw [← String.ofList_toList (s := (read s).text), h, String.ofList_toList]

end Token

/-- Digits with at most one dot and after that at most one exponent letter, neither of them first
and the letter not last. -/
def looksNumeric (cs : List Char) : Bool := go false none 0 cs
where
  /-- Reads on after `place` characters, given whether a dot was seen and where the letter stood. -/
  go (dot : Bool) (letter : Option Nat) (place : Nat) : List Char → Bool
    | [] => letter.all (· + 1 ≠ place)
    | c :: rest =>
      if c.isDigit then go dot letter (place + 1) rest
      else if c = '.' ∧ dot = false ∧ letter = none ∧ 0 < place then
        go true letter (place + 1) rest
      else if (c = 'e' ∨ c = 'E') ∧ letter = none ∧ 0 < place then
        go dot (some place) (place + 1) rest
      else false

end CommandTelemetry
