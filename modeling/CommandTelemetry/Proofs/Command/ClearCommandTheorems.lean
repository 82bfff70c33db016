import CommandTelemetry.Proofs.Command.TreeTheorems
import CommandTelemetry.Proofs.CommandLine.LevelTheorems
import Mathlib.Data.List.Nodup
import Mathlib.Data.List.Pairwise

/-!
# Clear command definitions

A command definition is clear if no argument leaves a doubt of what it belongs to: words that lead
to a subcommand lead nowhere else, options are told apart by their names and letters, and none takes
more than one value. For such a definition the options that a level understands and those that the
tree knows are the same.

* `Command.ClearAt` is what is asked of one command, `Command.Clear` of all commands below it too;
* `HandedOn` ties the options handed down in the tree to those handed down between levels;
* `HandedOn.node_long?` and `HandedOn.node_short?` say that an option which a level finds is found
  in the tree under the same name and letter.
-/

namespace CommandTelemetry

namespace Arg

/-- The name an option goes by: its long name, or its id if it has none. -/
def knownAs (arg : Arg) : String := arg.long.getD arg.id

/-- Neither name nor letter of an option can be taken for that of another one. -/
def ApartFrom (arg other : Arg) : Prop :=
  arg.knownAs ≠ other.knownAs ∧ (arg.short = none ∨ arg.short ≠ other.short)
deriving Decidable

/-- A help or version flag. -/
def asksForPage (arg : Arg) : Bool := arg.action.any Action.shows

/-- A declared switch without values. -/
def isSwitch (arg : Arg) : Bool :=
  (arg.action = some .setTrue || arg.action = some .setFalse || arg.action = some .count)
    && arg.count.isNone

/-- An option that takes exactly one value. -/
def takesOneValue (arg : Arg) : Bool :=
  arg.action.all Action.takesValues && arg.count.all (· = .one)

/-- An option without aliases that shows a page, is a switch, or takes exactly one value. -/
def IsSimple (arg : Arg) : Prop :=
  arg.longAliases = [] ∧ (arg.asksForPage || arg.isSwitch || arg.takesOneValue) = true
deriving Decidable

theorem effectiveAction_of_asksForPage {arg : Arg} (h : arg.asksForPage = true) :
    arg.effectiveAction.shows = true := by
  unfold asksForPage at h
  cases haction : arg.action with
  | none => simp [haction] at h
  | some action =>
    rw [haction, Option.any_some] at h
    rw [effectiveAction, haction, Option.getD_some]
    exact h

theorem takesValues_of_isSwitch {arg : Arg} (h : arg.isSwitch = true) :
    arg.takesValues = false ∧ (FlagSpec.ofArg arg).takesValue = false := by
  simp only [isSwitch, Bool.and_eq_true, Bool.or_eq_true, decide_eq_true_eq,
    Option.isNone_iff_eq_none] at h
  obtain ⟨(haction | haction) | haction, hcount⟩ := h <;>
    simp [takesValues, valueCount, effectiveAction, haction, hcount, FlagSpec.ofArg,
      Action.takesValues, ValueCount.none]

theorem valueCount_of_takesOneValue {arg : Arg} (h : arg.takesOneValue = true)
    (hoption : arg.isPositional = false) : arg.valueCount = .one := by
  simp only [takesOneValue, Bool.and_eq_true] at h
  obtain ⟨haction, hcount⟩ := h
  cases hc : arg.count with
  | some count => simpa [hc, valueCount] using hcount
  | none =>
    have hset : arg.effectiveAction.takesValues = true := by
      cases ha : arg.action with
      | some action => simpa [ha, effectiveAction] using haction
      | none => simp [effectiveAction, ha, hc, hoption, Action.takesValues]
    rw [valueCount, hc, Option.getD_none, if_pos hset]

end Arg

namespace CommandSpec

/-- The words by which a command is called. -/
def words (spec : CommandSpec) : List String := spec.name :: spec.aliases

theorem answersTo_iff {spec : CommandSpec} {word : String} :
    spec.answersTo word = true ↔ word ∈ spec.words := by
  rw [answersTo, Bool.or_eq_true, decide_eq_true_eq, List.contains_iff_mem, words, List.mem_cons,
    eq_comm]

end CommandSpec

namespace Command

variable {above : Inheritance} {declared : List String} {command sub : Command}

/-- The options that are understood at a command, the automatic ones among them. -/
def optionsBelow (above : Inheritance) (command : Command) : List Arg :=
  (Level.argsOf above command.spec).filter (!·.isPositional)

/-- What a command hands down to one of its subcommands. -/
def handsOn (above : Inheritance) (command sub : Command) : Inheritance :=
  (Level.ofCommand none above command).inheritance sub

/-- What is asked of one command below a level, given the ids declared on the way to it. -/
structure ClearAt (above : Inheritance) (declared : List String) (command : Command) : Prop where
  noPositionals : command.subcommands ≠ [] → command.spec.positionals = []
  noExternal : command.subcommands ≠ [] → command.spec.allowsExternal = false
  wordsApart : command.subcommands.Pairwise fun first second =>
    ∀ word ∈ first.spec.words, word ∉ second.spec.words
  wordsNoDash : ∀ sub ∈ command.subcommands, ∀ word ∈ sub.spec.words,
    word.toList.head? ≠ some '-'
  simple : ∀ arg ∈ command.spec.args, arg.isPositional = false → arg.IsSimple
  idsNew : (declared ++ command.spec.args.map (·.id)).Nodup
  apart : (command.optionsBelow above).Pairwise Arg.ApartFrom

/-- What is asked of a command and of all commands below it. -/
inductive Clear : Inheritance → List String → Command → Prop where
  | intro {above : Inheritance} {declared : List String} {command : Command}
    (here : command.ClearAt above declared)
    (below : ∀ sub ∈ command.subcommands, Clear (command.handsOn above sub)
      (declared ++ command.spec.args.map (·.id)) sub) : Clear above declared command

/-- A clear command definition. -/
def IsClear (command : Command) : Prop := command.Clear {} []

instance (above : Inheritance) (declared : List String) (command : Command) :
    Decidable (command.ClearAt above declared) :=
  decidable_of_iff
    ((command.subcommands ≠ [] → command.spec.positionals = [])
      ∧ (command.subcommands ≠ [] → command.spec.allowsExternal = false)
      ∧ (command.subcommands.Pairwise fun first second =>
        ∀ word ∈ first.spec.words, word ∉ second.spec.words)
      ∧ (∀ sub ∈ command.subcommands, ∀ word ∈ sub.spec.words, word.toList.head? ≠ some '-')
      ∧ (∀ arg ∈ command.spec.args, arg.isPositional = false → arg.IsSimple)
      ∧ (declared ++ command.spec.args.map (·.id)).Nodup
      ∧ (command.optionsBelow above).Pairwise Arg.ApartFrom)
    ⟨fun ⟨h₁, h₂, h₃, h₄, h₅, h₆, h₇⟩ => ⟨h₁, h₂, h₃, h₄, h₅, h₆, h₇⟩,
      fun ⟨h₁, h₂, h₃, h₄, h₅, h₆, h₇⟩ => ⟨h₁, h₂, h₃, h₄, h₅, h₆, h₇⟩⟩

theorem Clear.here (h : command.Clear above declared) : command.ClearAt above declared := by
  cases h with
  | intro here below => exact here

theorem Clear.ofSubcommand (h : command.Clear above declared) (hsub : sub ∈ command.subcommands) :
    sub.Clear (command.handsOn above sub) (declared ++ command.spec.args.map (·.id)) := by
  cases h with
  | intro here below => exact below sub hsub

mutual

/-- Decides whether a command and all below it are clear. -/
def decideClear (above : Inheritance) (declared : List String) :
    (command : Command) → Decidable (command.Clear above declared)
  | ⟨spec, subcommands⟩ =>
    let command : Command := ⟨spec, subcommands⟩
    match (inferInstance : Decidable (command.ClearAt above declared)) with
    | isFalse hnot => isFalse fun h => hnot h.here
    | isTrue here =>
      match decideBelow (command.handsOn above) (declared ++ spec.args.map (·.id)) subcommands with
      | isFalse hnot => isFalse fun h => hnot fun _ hsub => h.ofSubcommand hsub
      | isTrue below => isTrue ⟨here, below⟩

/-- Decides it for some commands that stand below the same one. -/
def decideBelow (above : Command → Inheritance) (declared : List String) :
    (commands : List Command) → Decidable (∀ sub ∈ commands, sub.Clear (above sub) declared)
  | [] => isTrue fun _ hsub => nomatch hsub
  | first :: rest =>
    match decideClear (above first) declared first, decideBelow above declared rest with
    | isTrue hfirst, isTrue hrest => isTrue (List.forall_mem_cons.2 ⟨hfirst, hrest⟩)
    | isFalse hnot, _ => isFalse fun h => hnot (List.forall_mem_cons.1 h).1
    | _, isFalse hnot => isFalse fun h => hnot (List.forall_mem_cons.1 h).2

end

instance (command : Command) : Decidable command.IsClear := decideClear {} [] command

/-- Where no two subcommands share a word, a subcommand is told apart from the others by its name as
well as by every word for it. -/
theorem answersTo_name (hapart : command.subcommands.Pairwise fun first second =>
      ∀ word ∈ first.spec.words, word ∉ second.spec.words) {word : String}
    (hsub : command.subcommand? word = some sub) {other : Command}
    (hother : other ∈ command.subcommands) :
    other.spec.answersTo sub.spec.name = other.spec.answersTo word := by
  unfold subcommand? at hsub
  have hmem : sub ∈ command.subcommands := List.mem_of_find?_eq_some hsub
  have hfound := List.find?_some hsub
  have hword : word ∈ sub.spec.words := CommandSpec.answersTo_iff.1 hfound
  have hname : sub.spec.name ∈ sub.spec.words := List.mem_cons_self
  have hsymm : Std.Symm fun first second : Command =>
      ∀ word ∈ first.spec.words, word ∉ second.spec.words :=
    ⟨fun _ _ hapart called hsecond hfirst => hapart called hfirst hsecond⟩
  -- one command answers to both, and every other to neither
  by_cases heq : sub = other
  · subst heq
    rw [CommandSpec.answersTo_iff.2 hword, CommandSpec.answersTo_iff.2 hname]
  · have hdisjoint := hapart.forall hmem hother heq
    have hnone : ∀ called ∈ sub.spec.words, other.spec.answersTo called = false :=
      fun called hcalled => eq_false_of_ne_true fun hanswers =>
        hdisjoint called hcalled (CommandSpec.answersTo_iff.1 hanswers)
    rw [hnone word hword, hnone _ hname]

end Command

/-! ## Options handed down -/

/-- The options that the tree hands down to a command are those that its level gets. -/
structure HandedOn (above : Inheritance) (declared : List String) (globals : List FlagSpec) :
    Prop where
  flags : ∀ flag, flag ∈ globals
    ↔ ∃ arg ∈ above.globals, Scope.isFlag arg = true ∧ FlagSpec.ofArg arg = flag
  options : ∀ arg ∈ above.globals, arg.isPositional = false
  simple : ∀ arg ∈ above.globals, arg.IsSimple
  isGlobal : ∀ arg ∈ above.globals, arg.isGlobal = true
  declared : ∀ arg ∈ above.globals, arg.id ∈ declared

theorem handedOn_nil : HandedOn {} [] [] where
  flags flag := by simp
  options arg harg := by cases harg
  simple arg harg := by cases harg
  isGlobal arg harg := by cases harg
  declared arg harg := by cases harg

namespace HandedOn

variable {above : Inheritance} {declared : List String} {globals : List FlagSpec}
  {command sub : Command} {arg : Arg}

/-- The arguments of a level are its own, those handed down, and flags that show something. -/
theorem mem_argsOf (h : HandedOn above declared globals) (hclear : command.ClearAt above declared) :
    arg ∈ Level.argsOf above command.spec ↔ arg ∈ command.spec.args ∨ arg ∈ above.globals
      ∨ ((above.hasHelpFlag && command.spec.hasHelpFlag) = true ∧ arg = Level.helpFlag)
      ∨ (command.spec.version.isSome = true ∧ arg = Level.versionFlag) := by
  refine Level.mem_argsOf_iff fun old hold own hown heq => ?_
  have hdisjoint := List.disjoint_of_nodup_append hclear.idsNew (h.declared old hold)
  exact hdisjoint (List.mem_map.2 ⟨own, hown, heq⟩)

/-- Every option of a level is simple. -/
theorem isSimple (h : HandedOn above declared globals) (hclear : command.ClearAt above declared)
    (harg : arg ∈ Level.argsOf above command.spec) (hoption : arg.isPositional = false) :
    arg.IsSimple := by
  rcases (h.mem_argsOf hclear).1 harg with hown | hold | ⟨-, rfl⟩ | ⟨-, rfl⟩
  · exact hclear.simple arg hown hoption
  · exact h.simple arg hold
  · decide
  · decide

/-- A level with subcommands has no positionals. -/
theorem isPositional_eq_false (h : HandedOn above declared globals)
    (hclear : command.ClearAt above declared) (hsubs : command.subcommands ≠ [])
    (harg : arg ∈ Level.argsOf above command.spec) : arg.isPositional = false := by
  rcases (h.mem_argsOf hclear).1 harg with hown | hold | ⟨-, rfl⟩ | ⟨-, rfl⟩
  · have hnone := hclear.noPositionals hsubs
    rw [CommandSpec.positionals, List.filter_eq_nil_iff] at hnone
    exact eq_false_of_ne_true (hnone arg hown)
  · exact h.options arg hold
  · rfl
  · rfl

theorem ids_apart (h : HandedOn above declared globals) (hclear : command.ClearAt above declared) :
    ∀ old ∈ globals, ∀ arg ∈ command.spec.args, old.id ≠ arg.id := by
  intro old hold own hown heq
  obtain ⟨arg, harg, -, rfl⟩ := (h.flags old).1 hold
  have hdisjoint := List.disjoint_of_nodup_append hclear.idsNew (h.declared arg harg)
  exact hdisjoint (List.mem_map.2 ⟨own, hown, heq.symm⟩)

/-- The options of a node are the options of its level that show nothing. -/
theorem mem_flags (h : HandedOn above declared globals) (hclear : command.ClearAt above declared)
    {flag : FlagSpec} : flag ∈ (Scope.ofSpec globals command.spec).flags
      ↔ ∃ arg ∈ Level.argsOf above command.spec, Scope.isFlag arg = true
          ∧ FlagSpec.ofArg arg = flag := by
  rw [Scope.mem_flags_ofSpec (List.Nodup.of_append_right hclear.idsNew) (h.ids_apart hclear),
    h.flags]
  constructor
  · rintro (⟨arg, harg, hflag⟩ | ⟨arg, harg, hflag⟩)
    · exact ⟨arg, (h.mem_argsOf hclear).2 (Or.inr (Or.inl harg)), hflag⟩
    · exact ⟨arg, (h.mem_argsOf hclear).2 (Or.inl harg), hflag⟩
  · rintro ⟨arg, harg, hflag⟩
    rcases (h.mem_argsOf hclear).1 harg with hown | hold | ⟨-, rfl⟩ | ⟨-, rfl⟩
    · exact Or.inr ⟨arg, hown, hflag⟩
    · exact Or.inl ⟨arg, hold, hflag⟩
    -- the automatic flags show something
    · exact absurd hflag.1 (by decide)
    · exact absurd hflag.1 (by decide)

/-- What a level hands on are the global ones of its arguments, except to its command `help`. -/
theorem mem_handsOn (hhelp : (Level.ofCommand none above command).isHelp sub = false) :
    arg ∈ (command.handsOn above sub).globals
      ↔ arg ∈ Level.argsOf above command.spec ∧ arg.isGlobal = true := by
  rw [Command.handsOn, Level.inheritance, hhelp]
  exact List.mem_filter

/-- These are its own global arguments and those handed down to it. -/
theorem mem_handsOn_iff (h : HandedOn above declared globals)
    (hclear : command.ClearAt above declared)
    (hhelp : (Level.ofCommand none above command).isHelp sub = false) :
    arg ∈ (command.handsOn above sub).globals
      ↔ (arg ∈ command.spec.args ∧ arg.isGlobal = true) ∨ arg ∈ above.globals := by
  rw [mem_handsOn hhelp, h.mem_argsOf hclear]
  constructor
  · rintro ⟨hown | hold | ⟨-, rfl⟩ | ⟨-, rfl⟩, hglobal⟩
    · exact Or.inl ⟨hown, hglobal⟩
    · exact Or.inr hold
    -- the automatic flags are not global
    · cases hglobal
    · cases hglobal
  · rintro (⟨hown, hglobal⟩ | hold)
    · exact ⟨Or.inl hown, hglobal⟩
    · exact ⟨Or.inr (Or.inl hold), h.isGlobal arg hold⟩

/-- What is handed down stays the same in the tree and between levels. -/
theorem below (h : HandedOn above declared globals) (hclear : command.ClearAt above declared)
    (hsubs : command.subcommands ≠ [])
    (hhelp : (Level.ofCommand none above command).isHelp sub = false) :
    HandedOn (command.handsOn above sub) (declared ++ command.spec.args.map (·.id))
      (Scope.ofSpec globals command.spec).globals := by
  constructor
  · intro flag
    rw [Scope.mem_globals_ofSpec (List.Nodup.of_append_right hclear.idsNew) (h.ids_apart hclear),
      h.flags]
    constructor
    · rintro (⟨arg, harg, hflag⟩ | ⟨arg, harg, hflag, hglobal, rfl⟩)
      · exact ⟨arg, (h.mem_handsOn_iff hclear hhelp).2 (Or.inr harg), hflag⟩
      · exact ⟨arg, (h.mem_handsOn_iff hclear hhelp).2 (Or.inl ⟨harg, hglobal⟩), hflag, rfl⟩
    · rintro ⟨arg, harg, hflag, rfl⟩
      rcases (h.mem_handsOn_iff hclear hhelp).1 harg with ⟨hown, hglobal⟩ | hold
      · exact Or.inr ⟨arg, hown, hflag, hglobal, rfl⟩
      · exact Or.inl ⟨arg, hold, hflag, rfl⟩
  · intro arg harg
    exact h.isPositional_eq_false hclear hsubs ((mem_handsOn hhelp).1 harg).1
  · intro arg harg
    have hmem := ((mem_handsOn hhelp).1 harg).1
    exact h.isSimple hclear hmem (h.isPositional_eq_false hclear hsubs hmem)
  · intro arg harg
    exact ((mem_handsOn hhelp).1 harg).2
  · intro arg harg
    rcases (h.mem_handsOn_iff hclear hhelp).1 harg with ⟨hown, -⟩ | hold
    · exact List.mem_append_right _ (List.mem_map_of_mem hown)
    · exact List.mem_append_left _ (h.declared arg hold)

/-- Options of a level that share their name or their letter are the same. -/
theorem eq_of_not_apartFrom (hclear : command.ClearAt above declared) {other : Arg}
    (harg : arg ∈ Level.argsOf above command.spec) (hoption : arg.isPositional = false)
    (hother : other ∈ Level.argsOf above command.spec) (hotherOption : other.isPositional = false)
    (hclash : ¬ arg.ApartFrom other) : arg = other := by
  have hsymm : Std.Symm Arg.ApartFrom := by
    refine ⟨fun first second ⟨hname, hshort⟩ => ⟨hname.symm, ?_⟩⟩
    rcases hshort with hnone | hne
    · cases hsecond : second.short with
      | none => exact Or.inl rfl
      | some letter => exact Or.inr (by rw [hnone]; exact Option.some_ne_none letter)
    · exact Or.inr hne.symm
  have hmem : ∀ option ∈ Level.argsOf above command.spec, option.isPositional = false →
      option ∈ command.optionsBelow above := fun option hmem hoption =>
    List.mem_filter.2 ⟨hmem, by rw [hoption]; rfl⟩
  by_contra hne
  exact hclash (hclear.apart.forall (hmem arg harg hoption) (hmem other hother hotherOption) hne)

variable {tree : CommandTree} {parent : Option NodeId} {id : NodeId} {calledBy : Option String}

/-- An option of a level that shows nothing is found in the tree by everything that tells it apart
from the others. -/
theorem node_find? (h : HandedOn above declared globals) (hclear : command.ClearAt above declared)
    (hholds : tree.Holds parent globals id command) (harg : arg ∈ Level.argsOf above command.spec)
    (hoption : arg.isPositional = false) (hpage : arg.asksForPage = false) {p : FlagSpec → Bool}
    (hp : p (FlagSpec.ofArg arg) = true)
    (hclash : ∀ other, p (FlagSpec.ofArg other) = true → ¬ arg.ApartFrom other) :
    (tree.node? id).bind (fun node => node.flags.find? p) = some (FlagSpec.ofArg arg) := by
  obtain ⟨node, hnode, hof⟩ := hholds.node
  have hflag : FlagSpec.ofArg arg ∈ node.flags := by
    rw [hof.flags, h.mem_flags hclear]
    exact ⟨arg, harg, by rw [Scope.isFlag, ← Arg.asksForPage, hpage, hoption]; rfl, rfl⟩
  rw [hnode, Option.bind_some]
  cases hfirst : node.flags.find? p with
  | none => exact absurd hp (List.find?_eq_none.1 hfirst _ hflag)
  | some flag =>
    have hmem := List.mem_of_find?_eq_some hfirst
    have hfound := List.find?_some hfirst
    rw [hof.flags, h.mem_flags hclear] at hmem
    obtain ⟨other, hother, hisFlag, rfl⟩ := hmem
    rw [Scope.isFlag, Bool.and_eq_true, Bool.not_eq_true', Bool.not_eq_true'] at hisFlag
    rw [eq_of_not_apartFrom hclear harg hoption hother hisFlag.2 (hclash other hfound)]

/-- An option that a level finds by a name is found by it in the tree, unless it shows something. -/
theorem node_long? (h : HandedOn above declared globals) (hclear : command.ClearAt above declared)
    (hholds : tree.Holds parent globals id command) {name : String}
    (hlong : (Level.ofCommand calledBy above command).long? name = some arg)
    (hpage : arg.asksForPage = false) :
    (tree.node? id).bind (·.long? name) = some (FlagSpec.ofArg arg) := by
  have harg : arg ∈ Level.argsOf above command.spec := Level.mem_of_long? hlong
  have hoption := Level.isPositional_of_long? hlong
  have hknown : arg.knownAs = name := by
    rcases Level.long_of_long? hlong with hname | halias
    · rw [Arg.knownAs, hname, Option.getD_some]
    · rw [(h.isSimple hclear harg hoption).1] at halias
      cases halias
  refine h.node_find? hclear hholds harg hoption hpage (decide_eq_true hknown) ?_
  intro other hother hapart
  exact hapart.1 (hknown.trans (of_decide_eq_true hother).symm)

/-- The same for letters. -/
theorem node_short? (h : HandedOn above declared globals) (hclear : command.ClearAt above declared)
    (hholds : tree.Holds parent globals id command) {letter : Char}
    (hshort : (Level.ofCommand calledBy above command).short? letter = some arg)
    (hpage : arg.asksForPage = false) :
    (tree.node? id).bind (·.short? letter) = some (FlagSpec.ofArg arg) := by
  have harg : arg ∈ Level.argsOf above command.spec := Level.mem_of_short? hshort
  have hletter := Level.short_of_short? hshort
  refine h.node_find? hclear hholds harg (Level.isPositional_of_short? hshort) hpage
    (decide_eq_true hletter) ?_
  intro other hother hapart
  have hotherLetter : other.short = some letter := of_decide_eq_true hother
  rcases hapart.2 with hnone | hne
  · exact absurd (hletter.symm.trans hnone) (Option.some_ne_none letter)
  · exact hne (hletter.trans hotherLetter.symm)

end HandedOn

end CommandTelemetry
