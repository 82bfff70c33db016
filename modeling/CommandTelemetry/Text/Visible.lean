import CommandTelemetry.Text.Utf8

/-!
# Visible text

Words from outside may hold escape sequences, by which a terminal is told to change colours, move
the cursor or set a title. Of such a text only what a terminal shows is printed: the sequences and
all other control characters are left out, tabs and line ends apart.

* `Visible.step` follows the sequences character by character;
* `Text.visible` is what is shown of a text; one without control characters is shown as it is.
-/

namespace CommandTelemetry.Text

namespace Visible

/-- What is being read. -/
inductive Phase where
  /-- Text that is shown. -/
  | shown
  /-- A sequence that has just begun. -/
  | escape
  /-- A short sequence that goes on. -/
  | shortSequence
  /-- A sequence with parameters, which ends with a letter or the like. -/
  | controlSequence
  /-- The beginning of a message to the device. -/
  | deviceEntry
  /-- The parameters of a message to the device. -/
  | deviceParameters
  /-- What stands between the parameters of a message to the device and the message. -/
  | deviceIntermediate
  /-- A hidden text, which ends with the byte `9C`. -/
  | hiddenText
  /-- A title or the like, which ends with a bell. -/
  | title
deriving DecidableEq, Repr

/-- The code point lies between the two given ones. -/
def within (low high : Nat) (c : Char) : Bool := low ≤ c.toNat && c.toNat ≤ high

/-- Tabs, line feeds, form feeds and carriage returns, which are kept. -/
def isSpacing (c : Char) : Bool := c = '\t' || c = '\n' || c = '\x0c' || c = '\r'

/-- A character that is shown outside of sequences. -/
def isShown (c : Char) : Bool := isSpacing c || (0x20 ≤ c.toNat && c.toNat ≠ 0x7F)

/-- The byte `9C`, which ends hidden text, is among the bytes of the character. -/
def endsHiddenText (c : Char) : Bool := (Utf8.encode c.toString).contains 0x9C

/-- What follows the character that begins a sequence. -/
def afterEscape (c : Char) : Phase :=
  if within 0x20 0x2F c then .shortSequence
  else if c = '[' then .controlSequence
  else if c = ']' then .title
  else if c = 'P' then .deviceEntry
  else if c = 'X' || c = '^' || c = '_' then .hiddenText
  else if within 0x30 0x7E c then .shown
  else .escape

/-- What follows a character of a message to the device, when parameters may lead to `next` and
other signs to `other`. -/
def inDevice (phase next other : Phase) (c : Char) : Phase :=
  if within 0x20 0x2F c then .deviceIntermediate
  else if within 0x30 0x3B c then next
  else if within 0x3C 0x3F c then other
  else if within 0x40 0x7E c then .hiddenText
  else phase

/-- What follows a character within a sequence. -/
def continued (phase : Phase) (c : Char) : Phase :=
  match phase with
  | .shown => .shown
  | .escape => afterEscape c
  | .shortSequence => if within 0x30 0x7E c then .shown else .shortSequence
  | .controlSequence => if within 0x40 0x7E c then .shown else .controlSequence
  | .deviceEntry => inDevice .deviceEntry .deviceParameters .deviceParameters c
  | .deviceParameters => inDevice .deviceParameters .deviceParameters .hiddenText c
  | .deviceIntermediate => inDevice .deviceIntermediate .hiddenText .hiddenText c
  | .hiddenText => if endsHiddenText c then .shown else .hiddenText
  | .title => if c = '\x07' then .shown else .title

/-- Sequences that spacing breaks off, so that it is shown. -/
def isBrokenBySpacing : Phase → Bool
  | .escape | .shortSequence | .controlSequence => true
  | _ => false

/-- What follows a character, and whether the character is shown. A new escape begins a new
sequence wherever it stands, and two control characters break every sequence off. -/
def step (phase : Phase) (c : Char) : Phase × Bool :=
  if c = '\x18' || c = '\x1a' then (.shown, false)
  else if c = '\x1b' then (.escape, false)
  else if phase = .shown then (.shown, isShown c)
  else if isBrokenBySpacing phase && isSpacing c then (.shown, true)
  else (continued phase c, false)

/-- What is shown of a text from some phase on. -/
def run (phase : Phase) : List Char → List Char
  | [] => []
  | c :: cs =>
    let (next, isShown) := step phase c
    if isShown then c :: run next cs else run next cs

end Visible

/-- What a terminal shows of a text. -/
def visible (text : String) : String := String.ofList (Visible.run .shown text.toList)

theorem Visible.isShown_iff {c : Char} : isShown c = true
    ↔ c ∈ ['\t', '\n', '\x0c', '\r'] ∨ 0x20 ≤ c.toNat ∧ c.toNat ≠ 0x7F := by
  simp [isShown, isSpacing, or_assoc]

/-- A character that is shown outside of sequences begins none. -/
theorem Visible.step_shown {c : Char} (h : isShown c = true) : step .shown c = (.shown, true) := by
  have hne : ∀ d : Char, isShown d = false → c ≠ d := fun d hd he => by rw [he, hd] at h; cases h
  have h18 := hne '\x18' (by decide)
  have h1a := hne '\x1a' (by decide)
  have h1b := hne '\x1b' (by decide)
  simp [step, h18, h1a, h1b, h]

private theorem run_shown {cs : List Char} (h : ∀ c ∈ cs, Visible.isShown c = true) :
    Visible.run .shown cs = cs := by
  induction cs with
  | nil => rfl
  | cons c cs ih =>
    rw [Visible.run, Visible.step_shown (h c (List.mem_cons_self ..))]
    simp [ih fun d hd => h d (List.mem_cons_of_mem c hd)]

/-- A text without control characters is shown as it is. -/
theorem visible_eq_self {text : String} (h : ∀ c ∈ text.toList, Visible.isShown c = true) :
    visible text = text := by
  rw [visible, run_shown h, String.ofList_toList]

end CommandTelemetry.Text
