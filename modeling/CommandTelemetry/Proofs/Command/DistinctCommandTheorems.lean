import CommandTelemetry.Command.Outline
import CommandTelemetry.Proofs.Command.ClearCommandTheorems

/-!
# Distinct commands and options

What it takes that a word leads to one subcommand and an id stands for one argument. Options may
have any shape here, and positionals may stand beside subcommands.

* `Command.LeadsApart` says that every word leads to one subcommand at most, and
  `Command.LeadsApart.child?` that it leads there in the tree as well;
* `Command.idsApart` says that no id is declared twice on a way down;
* `HandedDown` ties the options handed down in the tree to the arguments handed down between levels,
  and `HandedDown.below` goes on with it to a subcommand.
-/

namespace CommandTelemetry

/-! ## Words -/

namespace Command

variable {command sub : Command}

theorem mem_preorder_self (command : Command) : command ∈ command.preorder := by
  rw [preorder_eq]
  exact List.mem_cons_self

theorem preorder_subset_preorderAll {commands : List Command} (hsub : sub ∈ commands) :
    ∀ lower ∈ sub.preorder, lower ∈ preorderAll commands := by
  induction commands with
  | nil => cases hsub
  | cons first rest ih =>
    intro lower hlower
    rw [preorderAll, List.mem_append]
    rcases List.mem_cons.1 hsub with rfl | hsub
    · exact Or.inl hlower
    · exact Or.inr (ih hsub lower hlower)

/-- What stands below a subcommand stands below the command. -/
theorem preorder_subset (hsub : sub ∈ command.subcommands) :
    ∀ lower ∈ sub.preorder, lower ∈ command.preorder := by
  intro lower hlower
  rw [preorder_eq]
  exact List.mem_cons_of_mem _ (preorder_subset_preorderAll hsub lower hlower)

/-- No two subcommands of a command share a word, and no command takes words of others. -/
structure LeadsApart (command : Command) : Prop where
  words : ∀ lower ∈ command.preorder, lower.subcommands.Pairwise fun first second =>
    ∀ word ∈ first.spec.words, word ∉ second.spec.words
  noExternal : ∀ lower ∈ command.preorder, lower.spec.allowsExternal = false

theorem LeadsApart.ofSubcommand (h : command.LeadsApart) (hsub : sub ∈ command.subcommands) :
    sub.LeadsApart where
  words lower hlower := h.words lower (preorder_subset hsub lower hlower)
  noExternal lower hlower := h.noExternal lower (preorder_subset hsub lower hlower)

theorem LeadsApart.allowsExternal (h : command.LeadsApart) :
    command.spec.allowsExternal = false :=
  h.noExternal command (mem_preorder_self command)

variable {tree : CommandTree} {parent : Option NodeId} {globals : List FlagSpec} {id : NodeId}

/-- A word for a subcommand and the name of this subcommand lead to the same child. -/
theorem LeadsApart.child? (h : command.LeadsApart) (hholds : tree.Holds parent globals id command)
    {word : String} (hsub : command.subcommand? word = some sub) :
    ∃ child, tree.child? id word = some child ∧ tree.child? id sub.spec.name = some child
      ∧ tree.Holds (some id) (Scope.ofSpec globals command.spec).globals child sub := by
  have hwords := h.words command (mem_preorder_self command)
  obtain ⟨child, hchild, hbelow⟩ := hholds.child?_of_some hsub
  refine ⟨child, hchild, ?_, hbelow⟩
  rw [hholds.child?_congr fun other hother => answersTo_name hwords hsub hother, hchild]

instance (command : Command) : Decidable command.LeadsApart :=
  decidable_of_iff
    ((∀ lower ∈ command.preorder, lower.subcommands.Pairwise fun first second =>
        ∀ word ∈ first.spec.words, word ∉ second.spec.words)
      ∧ ∀ lower ∈ command.preorder, lower.spec.allowsExternal = false)
    ⟨fun ⟨hwords, hexternal⟩ => ⟨hwords, hexternal⟩,
      fun ⟨hwords, hexternal⟩ => ⟨hwords, hexternal⟩⟩

/-! ## Ids -/

/-- The ids of the arguments that a command declares. -/
def ids (command : Command) : List String := command.spec.args.map (·.id)

mutual

/-- No id is declared twice on a way down from a command below which these are declared. -/
def idsApart (declared : List String) (command : Command) : Bool :=
  match command with
  | ⟨spec, subcommands⟩ =>
    decide (declared ++ spec.args.map (·.id)).Nodup
      && idsApartAll (declared ++ spec.args.map (·.id)) subcommands

/-- The same for all given commands. -/
def idsApartAll (declared : List String) (commands : List Command) : Bool :=
  match commands with
  | [] => true
  | command :: rest => idsApart declared command && idsApartAll declared rest

end

theorem idsApartAll_iff {declared : List String} {commands : List Command} :
    idsApartAll declared commands = true ↔ ∀ sub ∈ commands, idsApart declared sub = true := by
  induction commands with
  | nil => simp [idsApartAll]
  | cons first rest ih => rw [idsApartAll, Bool.and_eq_true, ih, List.forall_mem_cons]

theorem idsApart_iff {declared : List String} : idsApart declared command = true
    ↔ (declared ++ command.ids).Nodup
      ∧ ∀ sub ∈ command.subcommands, idsApart (declared ++ command.ids) sub = true := by
  cases command with
  | mk spec subcommands => rw [idsApart, Bool.and_eq_true, decide_eq_true_eq, idsApartAll_iff, ids]

end Command

/-! ## Options handed down -/

/-- The options that the tree hands down to a command are those of the arguments that its level
gets, of which each has an id of its own. -/
structure HandedDown (above : Inheritance) (declared : List String) (globals : List FlagSpec) :
    Prop where
  flags : ∀ flag, flag ∈ globals
    ↔ ∃ arg ∈ above.globals, Scope.isFlag arg = true ∧ FlagSpec.ofArg arg = flag
  apart : ∀ arg ∈ above.globals, ∀ other ∈ above.globals, arg.id = other.id → arg = other
  isGlobal : ∀ arg ∈ above.globals, arg.isGlobal = true
  declared : ∀ arg ∈ above.globals, arg.id ∈ declared

theorem handedDown_nil : HandedDown {} [] [] where
  flags flag := by simp
  apart arg harg := by cases harg
  isGlobal arg harg := by cases harg
  declared arg harg := by cases harg

namespace HandedDown

variable {above : Inheritance} {declared : List String} {globals : List FlagSpec}
  {command sub : Command} {arg other : Arg} {flag : FlagSpec}

/-- Declared at a command or handed down to it. -/
def Known (above : Inheritance) (command : Command) (arg : Arg) : Prop :=
  arg ∈ command.spec.args ∨ arg ∈ above.globals

theorem id_mem (h : HandedDown above declared globals) (hknown : Known above command arg) :
    arg.id ∈ declared ++ command.ids := by
  rcases hknown with hown | hold
  · exact List.mem_append_right _ (List.mem_map_of_mem hown)
  · exact List.mem_append_left _ (h.declared arg hold)

theorem new (h : HandedDown above declared globals) (hids : (declared ++ command.ids).Nodup) :
    ∀ old ∈ above.globals, ∀ own ∈ command.spec.args, own.id ≠ old.id := by
  intro old hold own hown hsame
  have hdisjoint := List.disjoint_of_nodup_append hids (h.declared old hold)
  exact hdisjoint (List.mem_map.2 ⟨own, hown, hsame⟩)

/-- An id stands for one argument. -/
theorem eq_of_id (h : HandedDown above declared globals) (hids : (declared ++ command.ids).Nodup)
    (harg : Known above command arg) (hother : Known above command other)
    (hsame : arg.id = other.id) : arg = other := by
  rcases harg with hown | hold <;> rcases hother with hotherOwn | hotherOld
  · exact List.inj_on_of_nodup_map (List.Nodup.of_append_right hids) hown hotherOwn hsame
  · exact absurd hsame (h.new hids other hotherOld arg hown)
  · exact absurd hsame.symm (h.new hids arg hold other hotherOwn)
  · exact h.apart arg hold other hotherOld hsame

/-- What a level understands is known if the automatic flags differ from it in some way. -/
theorem known_of_mem (h : HandedDown above declared globals)
    (hids : (declared ++ command.ids).Nodup) (harg : arg ∈ Level.argsOf above command.spec)
    (p : Arg → Bool) (hp : p arg = true) (hhelp : p Level.helpFlag = false)
    (hversion : p Level.versionFlag = false) : Known above command arg := by
  rcases (Level.mem_argsOf_iff (h.new hids)).1 harg with hown | hold | ⟨-, rfl⟩ | ⟨-, rfl⟩
  · exact Or.inl hown
  · exact Or.inr hold
  · rw [hhelp] at hp
    cases hp
  · rw [hversion] at hp
    cases hp

/-- What is known was handed down, or has an id that is new here. -/
theorem handed_or_new (hids : (declared ++ command.ids).Nodup) (hknown : Known above command arg) :
    arg ∈ above.globals ∨ arg.id ∉ declared := by
  rcases hknown with hown | hold
  · have hdisjoint := List.disjoint_of_nodup_append hids
    exact Or.inr fun hmem => hdisjoint hmem (List.mem_map_of_mem hown)
  · exact Or.inl hold

theorem mem_of_known (h : HandedDown above declared globals)
    (hids : (declared ++ command.ids).Nodup) (hknown : Known above command arg) :
    arg ∈ Level.argsOf above command.spec := by
  refine (Level.mem_argsOf_iff (h.new hids)).2 ?_
  rcases hknown with hown | hold
  · exact Or.inl hown
  · exact Or.inr (Or.inl hold)

theorem flags_new (h : HandedDown above declared globals)
    (hids : (declared ++ command.ids).Nodup) :
    ∀ old ∈ globals, ∀ arg ∈ command.spec.args, old.id ≠ arg.id := by
  intro old hold own hown hsame
  obtain ⟨arg, harg, -, rfl⟩ := (h.flags old).1 hold
  exact h.new hids arg harg own hown hsame.symm

/-- The options of a node are those that are known and show nothing. -/
theorem mem_flags (h : HandedDown above declared globals)
    (hids : (declared ++ command.ids).Nodup) :
    flag ∈ (Scope.ofSpec globals command.spec).flags
      ↔ ∃ arg, Known above command arg ∧ Scope.isFlag arg = true ∧ FlagSpec.ofArg arg = flag := by
  rw [Scope.mem_flags_ofSpec (List.Nodup.of_append_right hids) (h.flags_new hids), h.flags]
  constructor
  · rintro (⟨arg, harg, hflag⟩ | ⟨arg, harg, hflag⟩)
    · exact ⟨arg, Or.inr harg, hflag⟩
    · exact ⟨arg, Or.inl harg, hflag⟩
  · rintro ⟨arg, harg | harg, hflag⟩
    · exact Or.inr ⟨arg, harg, hflag⟩
    · exact Or.inl ⟨arg, harg, hflag⟩

/-- Options of a node with the same id are the same. -/
theorem flags_apart (h : HandedDown above declared globals)
    (hids : (declared ++ command.ids).Nodup) {first second : FlagSpec}
    (hfirst : first ∈ (Scope.ofSpec globals command.spec).flags)
    (hsecond : second ∈ (Scope.ofSpec globals command.spec).flags)
    (hsame : first.id = second.id) : first = second := by
  obtain ⟨arg, harg, -, rfl⟩ := (h.mem_flags hids).1 hfirst
  obtain ⟨other, hother, -, rfl⟩ := (h.mem_flags hids).1 hsecond
  rw [h.eq_of_id hids harg hother hsame]

/-- What a level hands on are its own global arguments and those handed down to it. -/
theorem mem_handsOn_iff (h : HandedDown above declared globals)
    (hids : (declared ++ command.ids).Nodup)
    (hhelp : (Level.ofCommand none above command).isHelp sub = false) :
    arg ∈ (command.handsOn above sub).globals
      ↔ Known above command arg ∧ arg.isGlobal = true := by
  rw [HandedOn.mem_handsOn hhelp]
  constructor
  · rintro ⟨harg, hglobal⟩
    -- the automatic flags are not global
    exact ⟨h.known_of_mem hids harg (·.isGlobal) hglobal rfl rfl, hglobal⟩
  · rintro ⟨hknown, hglobal⟩
    exact ⟨h.mem_of_known hids hknown, hglobal⟩

/-- What is handed down stays the same in the tree and between levels. -/
theorem below (h : HandedDown above declared globals) (hids : (declared ++ command.ids).Nodup)
    (hhelp : (Level.ofCommand none above command).isHelp sub = false) :
    HandedDown (command.handsOn above sub) (declared ++ command.ids)
      (Scope.ofSpec globals command.spec).globals where
  flags flag := by
    rw [Scope.mem_globals_ofSpec (List.Nodup.of_append_right hids) (h.flags_new hids), h.flags]
    simp only [h.mem_handsOn_iff hids hhelp]
    constructor
    · rintro (⟨arg, harg, hflag⟩ | ⟨arg, harg, hflag, hglobal, hsame⟩)
      · exact ⟨arg, ⟨Or.inr harg, h.isGlobal arg harg⟩, hflag⟩
      · exact ⟨arg, ⟨Or.inl harg, hglobal⟩, hflag, hsame⟩
    · rintro ⟨arg, ⟨hown | hold, hglobal⟩, hflag, hsame⟩
      · exact Or.inr ⟨arg, hown, hflag, hglobal, hsame⟩
      · exact Or.inl ⟨arg, hold, hflag, hsame⟩
  apart arg harg other hother hsame :=
    h.eq_of_id hids ((h.mem_handsOn_iff hids hhelp).1 harg).1
      ((h.mem_handsOn_iff hids hhelp).1 hother).1 hsame
  isGlobal arg harg := ((h.mem_handsOn_iff hids hhelp).1 harg).2
  declared arg harg := h.id_mem ((h.mem_handsOn_iff hids hhelp).1 harg).1

end HandedDown

end CommandTelemetry
