import CommandTelemetry.CommandLine.Level

/-!
# Levels whose declarations agree

A level can only be read against if its declarations do not contradict each other. Otherwise reading
does not even begin there, whatever was typed.

* `Arg.isConsistent` is what one declaration has to fulfil, `Level.isConsistent` what all
  declarations of a level have to fulfil together;
* `Command.isConsistent` asks it of a command and of all commands below it.
-/

namespace CommandTelemetry

namespace Arg

/-- The action keeps values just if values may be taken. -/
def fitsAction (arg : Arg) : Bool := arg.effectiveAction.takesValues = arg.takesValues

/-- Only an argument that takes values can be a positional or have rules for its values. -/
def needsValues (arg : Arg) : Bool :=
  arg.isPositional || arg.allowsHyphens || arg.allowsNegativeNumbers || arg.requiresEquals
    || arg.isLast

/-- What a declaration says agrees with itself. -/
def isConsistent (arg : Arg) : Bool :=
  arg.fitsAction
    && (!arg.needsValues || arg.takesValues)
    && (!arg.isLast || arg.isPositional)
    && !(arg.requiresEquals && 1 < arg.valueCount.least)
    && !(arg.isRequired && arg.isGlobal)
    && !(arg.effectiveAction = .count && arg.possible ≠ [])
    && arg.long.all (·.toList.head? ≠ some '-')

/-- The long name and its aliases. -/
def longNames (arg : Arg) : List String := arg.long.toList ++ arg.longAliases

/-- One occurrence may have this many values or that many. -/
def isOpen (arg : Arg) : Bool := arg.valueCount.most ≠ some arg.valueCount.least

end Arg

namespace Level

/-! ## Names -/

/-- No two arguments share an id, a long name or a letter, and no two commands a word. -/
def namesApart (level : Level) : Bool :=
  (level.args.map (·.id)).Nodup
    && (level.args.Pairwise fun first second =>
      ∀ name ∈ first.longNames, name ∉ second.longNames)
    && (level.args.filterMap (·.short)).Nodup
    && (level.commands.flatMap fun command => command.spec.name :: command.spec.aliases).Nodup

/-! ## Positionals -/

/-- Where a positional may take many values, the last one has to be found all the same: it is
required or waits for two dashes, or the one before it does. Only the last two may take many, and
only the last one behind two dashes may leave open how many besides another. -/
def keepsLastReachable (level : Level) : Bool :=
  match level.positionals.reverse with
  | last :: second :: earlier =>
    !(second :: earlier).any (·.isMultiple)
      || ((last.isRequired || second.isLast || last.isLast)
        && (second.isMultiple || last.isLast)
        && (((level.positionals.filter (·.isOpen)).length ≤ 1)
          || (last.isLast && last.isMultiple && second.isMultiple
            && (level.positionals.filter (·.isOpen)).length = 2)))
  | _ => true

/-- What stands before a required positional is required too, unless that one waits for two
dashes. -/
def requiredFirst : List Arg → Bool
  | [] => true
  | arg :: later =>
    (arg.isRequired || later.all fun other => !other.isRequired || other.isLast)
      && requiredFirst later

/-- Only the last positional takes everything that follows, and it takes many values then. -/
def trailingLast (level : Level) : Bool :=
  level.args.all fun arg => !arg.isTrailing
    || (level.positionals.getLast?.all (·.id = arg.id) && arg.isMultiple && !arg.isLast)

/-- At most one positional waits for two dashes. A required one cannot stand beside subcommands. -/
def lastOnce (level : Level) : Bool :=
  (level.positionals.filter (·.isLast)).length ≤ 1
    && !(level.positionals.any (fun arg => arg.isLast && arg.isRequired)
      && !level.subcommands.isEmpty)

/-! ## Levels -/

/-- The declarations of a level agree with each other. -/
def isConsistent (level : Level) : Bool :=
  level.args.all (·.isConsistent)
    && level.args.all (fun arg => arg.effectiveAction ≠ .version || level.spec.version.isSome)
    && level.namesApart
    && level.keepsLastReachable
    && requiredFirst level.positionals
    && level.trailingLast
    && level.lastOnce

end Level

namespace Command

mutual

/-- The level of a command and the levels of all commands below it are consistent, given what the
command gets from above. -/
def isConsistentBelow (above : Inheritance) (command : Command) : Bool :=
  match command with
  | ⟨spec, subcommands⟩ =>
    let level := Level.ofCommand none above ⟨spec, subcommands⟩
    level.isConsistent && isConsistentAll level subcommands

/-- The same for all given commands of a level. -/
def isConsistentAll (level : Level) (commands : List Command) : Bool :=
  match commands with
  | [] => true
  | command :: rest =>
    isConsistentBelow (level.inheritance command) command && isConsistentAll level rest

end

/-- Whatever level a command line leads to, its declarations agree with each other. -/
def isConsistent (command : Command) : Bool := isConsistentBelow {} command

end Command

end CommandTelemetry
