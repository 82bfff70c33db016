import CommandTelemetry.Command.Sample
import CommandTelemetry.Proofs.Command.PlaceTheorems
import CommandTelemetry.Proofs.Invocation.WalkTheorems
import Mathlib.Data.List.Induction
import Mathlib.Data.List.TakeWhile
import Mathlib.Logic.Relation

/-!
# The walk, one argument at a time

Between two arguments the walk remembers where it stands, whether the next argument is a value that
it passes over unseen, and whether it has stopped. So arguments can be walked piece by piece.

* `WalkState` is what the walk remembers, `CommandTree.advance` what one argument does to it, and
  `CommandTree.walk_eq_after` says that the walk is nothing else;
* `CommandTree.after_descends` says that no argument leads away from what was reached, and
  `CommandTree.exists_after_eq_halted_iff` which arguments stop the walk;
* `CommandTree.find_append` compares a walk with that of more arguments, and
  `CommandTree.find_insert_option` with that of an option put in between.
-/

namespace CommandTelemetry

/-! ## Shapes of arguments -/

namespace Token

/-- A name that can be typed after two dashes. -/
def IsLongName (name : String) : Prop := name ≠ "" ∧ '=' ∉ name.toList
deriving Decidable

/-- An argument that is no option: it starts with no dash, or is a dash alone. -/
def IsBare (argument : String) : Prop := argument.toList.head? ≠ some '-' ∨ argument = "-"
deriving Decidable

theorem afterEquals_eq_none_iff {body : List Char} : afterEquals body = none ↔ '=' ∉ body := by
  induction body with
  | nil => simp [afterEquals]
  | cons c cs ih => by_cases hc : c = '=' <;> simp [afterEquals, hc, ih, eq_comm]

theorem ofChars_long {body : List Char} (h : body ≠ []) :
    ofChars ('-' :: '-' :: body)
      = .long (String.ofList (body.takeWhile (· ≠ '='))) ((afterEquals body).map String.ofList) := by
  cases body with
  | nil => exact absurd rfl h
  | cons c cs => rfl

theorem ofChars_letters {first : Char} (h : first ≠ '-') (rest : List Char) :
    ofChars ('-' :: first :: rest) = .cluster first rest := by
  unfold ofChars
  split
  · next hchars => cases hchars; exact absurd rfl h
  · next hchars => cases hchars; exact absurd rfl h
  · next hchars => cases hchars; rfl
  · next hnot => exact absurd rfl (hnot first rest)

theorem read_long {name : String} (h : IsLongName name) :
    read ("--" ++ name) = .long name none := by
  have hbody : name.toList ≠ [] := fun hnil => h.1 (String.toList_eq_nil_iff.1 hnil)
  have hwhole : name.toList.takeWhile (· ≠ '=') = name.toList :=
    List.takeWhile_eq_self_iff.2 fun c hc => decide_eq_true fun hsame => h.2 (hsame ▸ hc)
  have hchars : ("--" ++ name).toList = '-' :: '-' :: name.toList := String.toList_append
  rw [read, hchars, ofChars_long hbody, hwhole, afterEquals_eq_none_iff.2 h.2,
    String.ofList_toList]
  rfl

/-- With an equals sign a value is attached, whatever stands in front of the sign. -/
theorem exists_read_assigned (name value : String) :
    ∃ key attached, read ("--" ++ name ++ "=" ++ value) = .long key (some attached) := by
  have hchars : ("--" ++ name ++ "=" ++ value).toList
      = '-' :: '-' :: (name.toList ++ '=' :: value.toList) := by simp
  have hbody : name.toList ++ '=' :: value.toList ≠ [] := by simp
  rw [read, hchars, ofChars_long hbody]
  cases hafter : afterEquals (name.toList ++ '=' :: value.toList) with
  | none => exact absurd (by simp) (afterEquals_eq_none_iff.1 hafter)
  | some attached => exact ⟨_, _, rfl⟩

theorem eq_of_read_word {argument word : String} (h : read argument = .word word) :
    word = argument := by
  rw [← text_read argument, h, text]

/-- What is no option is read as a word, and nothing else is. -/
theorem read_eq_word_iff {argument : String} :
    read argument = .word argument ↔ IsBare argument := by
  constructor
  · intro hread
    by_cases hdash : argument.toList.head? = some '-'
    · -- a dash with anything behind it has another shape
      cases hchars : argument.toList with
      | nil => simp [hchars] at hdash
      | cons c cs =>
        rw [hchars, List.head?_cons, Option.some.injEq] at hdash
        subst hdash
        cases cs with
        | nil => exact Or.inr (String.toList_injective hchars)
        | cons first rest =>
          exfalso
          rw [read, hchars] at hread
          by_cases hfirst : first = '-'
          · subst hfirst
            cases rest with
            | nil => cases hread
            | cons c cs => cases hread
          · rw [ofChars_letters hfirst] at hread
            cases hread
    · exact Or.inl hdash
  · rintro (hdash | rfl)
    · exact read_word hdash
    · rfl

theorem read_eq_terminator_iff {argument : String} :
    read argument = .terminator ↔ argument = "--" := by
  constructor
  · intro hread
    rw [← text_read argument, hread, text]
  · rintro rfl
    rfl

end Token

/-! ## States of the walk -/

/-- What the walk remembers between two arguments. -/
inductive WalkState where
  /-- The next argument is looked at from this node. -/
  | standing (id : NodeId)
  /-- The next argument is the value of an option, and this node looks at the one behind it. -/
  | awaiting (id : NodeId)
  /-- The walk has stopped at this node. -/
  | halted (id : NodeId)
deriving DecidableEq

/-- The node that the walk has reached. -/
def WalkState.node : WalkState → NodeId
  | standing id | awaiting id | halted id => id

/-- What a stride from a node leads to. -/
def Stride.stateFrom (id : NodeId) : Stride → WalkState
  | halt => .halted id
  | pass => .standing id
  | passWithValue => .awaiting id
  | descend child => .standing child

theorem Stride.stateFrom_eq_halted_iff {stride : Stride} {here id : NodeId} :
    stride.stateFrom here = .halted id ↔ here = id ∧ stride = .halt := by
  cases stride <;> simp [stateFrom]

namespace CommandTree

variable {tree : CommandTree} {id : NodeId} {arguments before behind group : List String}

/-- What one argument does to the walk. -/
def advance (tree : CommandTree) : WalkState → String → WalkState
  | .standing id, argument => (tree.stride id argument).stateFrom id
  | .awaiting id, _ => .standing id
  | .halted id, _ => .halted id

/-- What the walk remembers after some more arguments. -/
def after (tree : CommandTree) (state : WalkState) (arguments : List String) : WalkState :=
  arguments.foldl tree.advance state

theorem after_append (tree : CommandTree) (state : WalkState) (before behind : List String) :
    tree.after state (before ++ behind) = tree.after (tree.after state before) behind :=
  List.foldl_append

theorem after_cons (tree : CommandTree) (state : WalkState) (argument : String)
    (rest : List String) :
    tree.after state (argument :: rest) = tree.after (tree.advance state argument) rest := rfl

theorem after_halted (tree : CommandTree) (id : NodeId) (arguments : List String) :
    tree.after (.halted id) arguments = .halted id := by
  induction arguments with
  | nil => rfl
  | cons argument rest ih => exact ih

/-- The walk from a node is what its arguments do one after the other. -/
theorem walk_eq_after (tree : CommandTree) (id : NodeId) (arguments : List String) :
    tree.walk id arguments = (tree.after (.standing id) arguments).node := by
  fun_induction tree.walk id arguments with
  | case1 => rfl
  | case2 id argument rest hstride =>
    rw [after_cons, advance, hstride, Stride.stateFrom, after_halted, WalkState.node]
  | case3 id argument rest hstride ih =>
    rw [after_cons, advance, hstride, Stride.stateFrom, ih]
  | case4 id argument hstride =>
    rw [after_cons, advance, hstride]
    rfl
  | case5 id argument hstride value rest ih =>
    rw [after_cons, advance, hstride, Stride.stateFrom, after_cons, advance, ih]
  | case6 id argument rest child hstride ih =>
    rw [after_cons, advance, hstride, Stride.stateFrom, ih]

/-- More arguments are walked from where the walk has come to. -/
theorem find_append_eq (tree : CommandTree) (before behind : List String) :
    tree.find (before ++ behind)
      = (tree.after (tree.after (.standing root) before) behind).node := by
  rw [find, walk_eq_after, after_append]

/-! ## Ways down -/

theorem advance_descends (tree : CommandTree) (state : WalkState) (argument : String) :
    Relation.ReflTransGen tree.HasChild state.node (tree.advance state argument).node := by
  cases state with
  | awaiting id => exact .refl
  | halted id => exact .refl
  | standing id =>
    rw [advance]
    cases hstride : tree.stride id argument with
    | halt => exact .refl
    | pass => exact .refl
    | passWithValue => exact .refl
    | descend child =>
      obtain ⟨word, hword⟩ := child?_of_stride hstride
      exact .single (hasChild_of_child? hword)

/-- Whatever the arguments are, the walk ends at what it has reached or below. -/
theorem after_descends (tree : CommandTree) (state : WalkState) (arguments : List String) :
    Relation.ReflTransGen tree.HasChild state.node (tree.after state arguments).node := by
  induction arguments generalizing state with
  | nil => exact .refl
  | cons argument rest ih => exact (tree.advance_descends state argument).trans (ih _)

/-! ## Stops -/

/-- An argument that stops a walk which stands at a node: two dashes alone, or what is neither an
option nor called like a child. -/
def StopsAt (tree : CommandTree) (id : NodeId) (argument : String) : Prop :=
  argument = "--" ∨ Token.IsBare argument ∧ tree.child? id argument = none

/-- The walk meets an argument that stops it. -/
def StopsWithin (tree : CommandTree) (arguments : List String) : Prop :=
  ∃ before argument behind id, arguments = before ++ argument :: behind
    ∧ tree.after (.standing root) before = .standing id ∧ tree.StopsAt id argument

theorem passOption_ne_halt (flag : Option FlagSpec) : passOption flag ≠ .halt := by
  unfold passOption
  split
  · exact nofun
  · exact nofun

theorem stride_eq_halt_iff {argument : String} :
    tree.stride id argument = .halt ↔ tree.StopsAt id argument := by
  rw [StopsAt, ← Token.read_eq_terminator_iff, ← Token.read_eq_word_iff, stride]
  cases htoken : Token.read argument with
  | terminator => simp
  | long name value => cases value <;> simp [passOption_ne_halt]
  | cluster first rest => cases rest <;> simp [passOption_ne_halt]
  | word word =>
    obtain rfl := Token.eq_of_read_word htoken
    dsimp only
    cases tree.child? id word with
    | none => simp
    | some child => simp

theorem advance_eq_halted_iff {state : WalkState} {argument : String} :
    tree.advance state argument = .halted id
      ↔ state = .halted id ∨ state = .standing id ∧ tree.StopsAt id argument := by
  cases state with
  | awaiting here => simp [advance]
  | halted here => simp [advance]
  | standing here =>
    rw [advance, Stride.stateFrom_eq_halted_iff, stride_eq_halt_iff]
    simp only [reduceCtorEq, false_or, WalkState.standing.injEq]
    exact and_congr_right fun hsame => hsame ▸ Iff.rfl

/-- The walk has stopped just if it met an argument that stops it. -/
theorem exists_after_eq_halted_iff :
    (∃ id, tree.after (.standing root) arguments = .halted id) ↔ tree.StopsWithin arguments := by
  constructor
  · rintro ⟨id, hhalted⟩
    -- the last argument stops the walk, or one before it did
    induction arguments using List.reverseRecOn with
    | nil => cases hhalted
    | append_singleton before argument ih =>
      rw [after_append] at hhalted
      obtain hearlier | ⟨hstanding, hstops⟩ := advance_eq_halted_iff.1 hhalted
      · obtain ⟨seen, stop, unseen, here, rfl, hhere, hstops⟩ := ih hearlier
        exact ⟨seen, stop, unseen ++ [argument], here, by simp, hhere, hstops⟩
      · exact ⟨before, argument, [], id, rfl, hstanding, hstops⟩
  · rintro ⟨before, argument, behind, id, rfl, hstanding, hstops⟩
    have hhalted : tree.advance (.standing id) argument = .halted id :=
      advance_eq_halted_iff.2 (Or.inr ⟨rfl, hstops⟩)
    exact ⟨id, by rw [after_append, hstanding, after_cons, hhalted, after_halted]⟩

/-- More arguments lead to what was reached or to a command below it, and nowhere once the walk has
stopped. -/
theorem find_append (tree : CommandTree) (before behind : List String) :
    Relation.ReflTransGen tree.HasChild (tree.find before) (tree.find (before ++ behind))
      ∧ (tree.StopsWithin before → tree.find (before ++ behind) = tree.find before) := by
  have hbefore : tree.find before = (tree.after (.standing root) before).node :=
    tree.walk_eq_after root before
  rw [find_append_eq, hbefore]
  refine ⟨tree.after_descends _ behind, fun hstops => ?_⟩
  obtain ⟨id, hhalted⟩ := exists_after_eq_halted_iff.2 hstops
  rw [hhalted, after_halted]

/-- A file that is called like a command changes nothing behind a word that names no command. -/
theorem find_append_behind_unknown_word :
    (ofCommand Command.sample).StopsWithin ["--config", "--", "docker", "notes"]
      ∧ (ofCommand Command.sample).find (["--config", "--", "docker", "notes"] ++ ["logs"])
        = (ofCommand Command.sample).find ["--config", "--", "docker", "notes"] := by
  have hstops : (ofCommand Command.sample).StopsWithin ["--config", "--", "docker", "notes"] :=
    ⟨["--config", "--", "docker"], "notes", [], 4, rfl, by decide +kernel,
      Or.inr ⟨by decide +kernel, by decide +kernel⟩⟩
  exact ⟨hstops, (find_append _ _ _).2 hstops⟩

/-! ## Options put in between -/

/-- The option of this name is passed over together with the next argument. -/
def longTakesValue (tree : CommandTree) (id : NodeId) (name : String) : Bool :=
  ((tree.node? id).bind (·.long? name)).any (·.takesValue)

/-- The option of this letter is passed over together with the next argument. -/
def letterTakesValue (tree : CommandTree) (id : NodeId) (letter : Char) : Bool :=
  ((tree.node? id).bind (·.short? letter)).any (·.takesValue)

/-- Arguments that make up one option for a walk which stands at a node. A value may be any
argument at all. -/
inductive OptionGroup (tree : CommandTree) (id : NodeId) : List String → Prop where
  | assigned (name value : String) : OptionGroup tree id ["--" ++ name ++ "=" ++ value]
  | long {name : String} (hname : Token.IsLongName name)
    (h : tree.longTakesValue id name = false) : OptionGroup tree id ["--" ++ name]
  | longWithValue {name : String} (hname : Token.IsLongName name)
    (h : tree.longTakesValue id name = true) (value : String) :
    OptionGroup tree id ["--" ++ name, value]
  | letter {letter : Char} (hletter : letter ≠ '-')
    (h : tree.letterTakesValue id letter = false) : OptionGroup tree id ["-" ++ letter.toString]
  | letterWithValue {letter : Char} (hletter : letter ≠ '-')
    (h : tree.letterTakesValue id letter = true) (value : String) :
    OptionGroup tree id ["-" ++ letter.toString, value]
  | letters {first : Char} (hfirst : first ≠ '-') (second : Char) (rest : List Char) :
    OptionGroup tree id [String.ofList ('-' :: first :: second :: rest)]

theorem stride_long {name : String} (hname : Token.IsLongName name) :
    tree.stride id ("--" ++ name)
      = if tree.longTakesValue id name then .passWithValue else .pass := by
  rw [stride, Token.read_long hname]
  rfl

theorem stride_assigned (name value : String) :
    tree.stride id ("--" ++ name ++ "=" ++ value) = .pass := by
  obtain ⟨key, attached, hread⟩ := Token.exists_read_assigned name value
  rw [stride, hread]

theorem stride_letter {letter : Char} (hletter : letter ≠ '-') :
    tree.stride id ("-" ++ letter.toString)
      = if tree.letterTakesValue id letter then .passWithValue else .pass := by
  have hchars : ("-" ++ letter.toString).toList = ['-', letter] := by simp
  rw [stride, Token.read, hchars, Token.ofChars_letters hletter]
  rfl

theorem stride_letters {first : Char} (hfirst : first ≠ '-') (second : Char) (rest : List Char) :
    tree.stride id (String.ofList ('-' :: first :: second :: rest)) = .pass := by
  rw [stride, Token.read, String.toList_ofList, Token.ofChars_letters hfirst]

/-- The walk stands behind an option where it stood in front of it. -/
theorem OptionGroup.after_eq (h : tree.OptionGroup id group) :
    tree.after (.standing id) group = .standing id := by
  cases h with
  | assigned name value =>
    rw [after_cons, advance, stride_assigned]
    rfl
  | long hname hswitch =>
    rw [after_cons, advance, stride_long hname, hswitch]
    rfl
  | longWithValue hname hvalue value =>
    rw [after_cons, advance, stride_long hname, hvalue]
    rfl
  | letter hletter hswitch =>
    rw [after_cons, advance, stride_letter hletter, hswitch]
    rfl
  | letterWithValue hletter hvalue value =>
    rw [after_cons, advance, stride_letter hletter, hvalue]
    rfl
  | letters hfirst second rest =>
    rw [after_cons, advance, stride_letters hfirst]
    rfl

/-- Wherever the walk stands, an option put in there changes nothing. -/
theorem find_insert_option (hbefore : tree.after (.standing root) before = .standing id)
    (hgroup : tree.OptionGroup id group) :
    tree.find (before ++ group ++ behind) = tree.find (before ++ behind) := by
  have hinserted : tree.after (.standing root) (before ++ group) = .standing id := by
    rw [after_append, hbefore, hgroup.after_eq]
  rw [find_append_eq, hinserted, find_append_eq, hbefore]

/-- Two dashes alone are passed over as the value of an option. -/
theorem find_insert_option_dashes_as_value :
    (ofCommand Command.sample).after (.standing root) ["docker"] = .standing 4
      ∧ (ofCommand Command.sample).OptionGroup 4 ["--" ++ "config", "--"]
      ∧ (ofCommand Command.sample).find (["docker"] ++ ["--" ++ "config", "--"] ++ ["logs", "-f"])
        = (ofCommand Command.sample).find (["docker"] ++ ["logs", "-f"]) := by
  have hbefore : (ofCommand Command.sample).after (.standing root) ["docker"] = .standing 4 := by
    decide +kernel
  have hgroup : (ofCommand Command.sample).OptionGroup 4 ["--" ++ "config", "--"] :=
    .longWithValue (by decide +kernel) (by decide +kernel) "--"
  exact ⟨hbefore, hgroup, find_insert_option hbefore hgroup⟩

end CommandTree

end CommandTelemetry
