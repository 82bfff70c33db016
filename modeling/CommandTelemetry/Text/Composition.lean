import CommandTelemetry.Text.Combining
import CommandTelemetry.Text.ComposedPair

/-!
# Composed text

One letter can be spelt in several ways: as one character, or as a letter with marks after it, in
more than one order. Of all spellings one is the composed form: marks are sorted by class, and each
one that can be is joined with its letter.

* `Text.decomposed` takes letters and marks apart and sorts the marks;
* `Text.composed` is the composed form of a text whose characters are composed each by itself.
-/

namespace CommandTelemetry.Text

/-! ## Korean syllables -/

/-- The numbers of the first consonants, vowels and last consonants of Korean syllables; a syllable
may also have no last consonant. -/
def leadCount : Nat := 19
@[inherit_doc leadCount] def vowelCount : Nat := 21
@[inherit_doc leadCount] def tailCount : Nat := 27

/-- The code points before the first consonant, vowel and last consonant, and of the first
syllable. -/
def leadBase : Nat := 0x1100
@[inherit_doc leadBase] def vowelBase : Nat := 0x1161
@[inherit_doc leadBase] def tailBase : Nat := 0x11A7
@[inherit_doc leadBase] def syllableBase : Nat := 0xAC00

/-- The letters of a Korean syllable. -/
def syllableParts? (code : Nat) : Option (List Nat) :=
  let place := code - syllableBase
  if code < syllableBase ∨ leadCount * vowelCount * (tailCount + 1) ≤ place then none
  else
    let tail := place % (tailCount + 1)
    let pair := place / (tailCount + 1)
    some ([leadBase + pair / vowelCount, vowelBase + pair % vowelCount]
      ++ (if tail = 0 then [] else [tailBase + tail]))

/-- The syllable of a consonant and a vowel, or of a syllable without a last consonant and one. -/
def syllable? (first second : Nat) : Option Nat :=
  if leadBase ≤ first ∧ first < leadBase + leadCount
      ∧ vowelBase ≤ second ∧ second < vowelBase + vowelCount then
    some (syllableBase
      + ((first - leadBase) * vowelCount + (second - vowelBase)) * (tailCount + 1))
  else if (syllableParts? first).any (·.length = 2)
      ∧ tailBase < second ∧ second ≤ tailBase + tailCount then
    some (first + (second - tailBase))
  else none

/-! ## Taking apart -/

/-- The letter and the marks of a character that is joined at most `depth` times over. -/
def parts : Nat → Nat → List Nat
  | 0, code => [code]
  | depth + 1, code => match syllableParts? code with
    | some letters => letters
    | none => match ComposedPair.of? code with
      | some pair => parts depth pair.first ++ [pair.second]
      | none => [code]

/-- How often characters are joined over at most. -/
def deepestPair : Nat := 4

/-- A character before marks that are sorted already, moved behind those of a lower class if it is
a mark itself. -/
def insertMark (c : Char) : List Char → List Char
  | [] => [c]
  | d :: cs =>
    if 0 < combiningClass d ∧ combiningClass d < combiningClass c then d :: insertMark c cs
    else c :: d :: cs

/-- The text with all letters and marks apart, and the marks in order. -/
def decomposed (cs : List Char) : List Char :=
  ((cs.flatMap fun c => parts deepestPair c.toNat).map Char.ofNat).foldr insertMark []

/-! ## Joining -/

/-- The character for a pair. -/
def pair? (first second : Char) : Option Char :=
  ((syllable? first.toNat second.toNat).or (ComposedPair.whole? first.toNat second.toNat)).map
    Char.ofNat

/-- Joins what follows with a letter. The marks that were passed come last first; only a mark of a
higher class than theirs gets to the letter past them. -/
def joinAfter (letter : Char) (passed : List Char) : List Char → List Char
  | [] => letter :: passed.reverse
  | c :: cs =>
    let isFree := passed.all fun d => combiningClass d < combiningClass c
    match if isFree then pair? letter c else none with
    | some whole => joinAfter whole passed cs
    | none =>
      if combiningClass c = 0 then letter :: passed.reverse ++ joinAfter c [] cs
      else joinAfter letter (c :: passed) cs

/-- Joins each letter with the marks after it. -/
def joined : List Char → List Char
  | [] => []
  | c :: cs => if combiningClass c = 0 then joinAfter c [] cs else c :: joined cs

/-- The composed form of a text. -/
def composed (cs : List Char) : List Char := joined (decomposed cs)

end CommandTelemetry.Text
