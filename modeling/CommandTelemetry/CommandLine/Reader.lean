import CommandTelemetry.CommandLine.Fault
import CommandTelemetry.CommandLine.Matches
import CommandTelemetry.CommandLine.Token
import CommandTelemetry.Text.Split

/-!
# Reading a command line

Arguments are read from left to right against a level. An option that takes values goes on
collecting until it has as many as it can take or something else begins; words go to the positional
whose turn it is, or lead to a subcommand, which reads everything after it.

* `Progress` is how far reading has come at one level, `Reader.turn` what one argument does to it;
* `Reader.read` reads a level and all below it, and `Reader.finish` closes a level;
* `Reader.levelsMet` are the levels that this goes through.

Values that an occurrence has collected are judged when the next occurrence begins or the level
ends; a level ends after the levels below it.
-/

namespace CommandTelemetry

/-- What the next argument may belong to. -/
inductive Collecting where
  | nothing
  | option (arg : Arg)
  | positional (arg : Arg)
deriving DecidableEq

namespace Collecting

/-- The argument that collects. -/
def arg? : Collecting → Option Arg
  | .nothing => none
  | .option arg | .positional arg => some arg

end Collecting

/-- An occurrence that is still being collected. -/
structure Pending where
  arg : Arg
  values : List String
deriving DecidableEq

/-- How far reading has come at one level. -/
structure Progress where
  records : Matches := []
  pending : Option Pending := none
  collecting : Collecting := .nothing
  /-- The place of the positional whose turn it is. -/
  position : Nat := 0
  /-- Everything that follows belongs to positionals. -/
  trailing : Bool := false
  uses : List Use := []
deriving DecidableEq

namespace Reader

/-! ## Occurrences -/

/-- The values that one typed value comes to. -/
def splitValue (arg : Arg) (value : String) : List String :=
  match arg.delimiter with
  | none => [value]
  | some separator => (Text.splitWhere (· = separator) value.toList).map String.ofList

/-- The number of values of an occurrence is one that the argument takes. -/
def checkCount (arg : Arg) (values : List String) : Except Stop Unit :=
  let count := arg.valueCount
  let given := values.length
  if given = 0 ∧ 0 < count.least then .error (.fault (.missingValue arg))
  else if count.most = some count.least then
    if given = count.least then .ok () else .error (.fault (.wrongNumberOfValues arg given))
  else if given < count.least then .error (.fault (.tooFewValues arg given))
  else if count.most.any (· < given) then .error (.fault (.surplusValue (values.getLastD "") arg))
  else .ok ()

/-- The largest count that is kept. -/
def countLimit : Nat := 255

/-- The count that a text spells. It may have a sign, but it has to be a count that is kept. -/
def countOf? (value : String) : Option Nat :=
  let (limit, digits) := match value.toList with
    | '-' :: digits => (0, digits)
    | '+' :: digits => (countLimit, digits)
    | digits => (countLimit, digits)
  if digits ≠ [] ∧ digits.all Char.isDigit ∧ Text.ofDigits digits ≤ limit then
    some (Text.ofDigits digits)
  else none

/-- A value is one that the argument allows. -/
def checkValue (arg : Arg) (value : String) : Except Stop Unit :=
  if arg.allowedValues ≠ [] ∧ !arg.allowedValues.contains value then
    .error (.fault (if value = "" then .missingValue arg else .wrongValue value arg))
  else if arg.holdsCount ∧ (countOf? value).isNone then
    .error (.fault (.unreadableCount value arg))
  else if arg.refusesEmpty ∧ value = "" then .error (.fault (.missingValue arg))
  else .ok ()

/-- The values that an occurrence leaves: those typed, split, or those that stand in for none. -/
def occurrenceValues (arg : Arg) (values : List String) : List String :=
  (if values = [] then arg.effectiveMissing else values).flatMap (splitValue arg)

/-- The count after one that was recorded before. -/
def nextCount (before : Option Match) : String :=
  let counted := (before.bind (·.values.head?)).bind countOf?
  Text.decimal (min (counted.getD 0 + 1) countLimit)

/-- The page that an action asks for. -/
def askedBy (level : Level) (action : Action) : Stop :=
  .page (if action = .version then .version level else .help level)

/-- One more occurrence of an argument, with the values typed for it. -/
def record (level : Level) (records : Matches) (arg : Arg) (values : List String) :
    Except Stop Matches := do
  checkCount arg values
  if arg.effectiveAction.shows then throw (askedBy level arg.effectiveAction)
  let values := occurrenceValues arg values
  let typed := (records.get? arg.id).filter (·.source = .commandLine)
  match arg.effectiveAction with
  | .append =>
    values.forM (checkValue arg)
    let before := (typed.map (·.values)).getD []
    return records.put ⟨arg.id, .commandLine, before ++ values⟩
  | .count =>
    let values := if values = [] then [nextCount typed] else values
    values.forM (checkValue arg)
    return records.drop arg.id ++ [⟨arg.id, .commandLine, values⟩]
  | _ =>
    if typed.isSome then throw (.fault (.repeated arg))
    values.forM (checkValue arg)
    return records ++ [⟨arg.id, .commandLine, values⟩]

/-- The pending occurrence, if any, is judged and recorded. -/
def settle (level : Level) (progress : Progress) : Except Stop Progress :=
  match progress.pending with
  | none => .ok progress
  | some pending => do
    let records ← record level progress.records pending.arg pending.values
    return { progress with records, pending := none }

/-- An occurrence with all its values at hand. -/
def occur (level : Level) (progress : Progress) (arg : Arg) (values : List String) :
    Except Stop Progress := do
  let progress ← settle level progress
  let records ← record level progress.records arg values
  return { progress with
    records
    collecting := .nothing
    uses := progress.uses ++ [.option arg.id] }

/-- An occurrence that begins to collect values. -/
def startCollecting (level : Level) (progress : Progress) (arg : Arg) :
    Except Stop Progress := do
  let progress ← settle level progress
  return { progress with
    pending := some ⟨arg, []⟩
    collecting := .option arg
    uses := progress.uses ++ [.option arg.id] }

/-- An option that takes values, with the value typed in the same argument, if any, and whether an
equals sign stands before it. -/
def meetOption (level : Level) (progress : Progress) (arg : Arg) (attached : Option String)
    (equals : Bool) : Except Stop Progress :=
  if arg.requiresEquals && !equals then
    if arg.valueCount.least = 0 then occur level progress arg []
    else .error (.fault (.missingEquals arg))
  else match attached with
    | some value => occur level progress arg [value]
    | none => startCollecting level progress arg

/-- The value that stands in a cluster after the letter of an option, and whether an equals sign
stands before it. -/
def attachedValue : List Char → Option String × Bool
  | [] => (none, false)
  | '=' :: value => (some (String.ofList value), true)
  | value => (some (String.ofList value), false)

/-- The letters of a cluster, one after the other. -/
def readCluster (level : Level) (progress : Progress) : List Char → Except Stop Progress
  | [] => .ok progress
  | letter :: rest =>
    match level.short? letter with
    | none => .error (.fault (.unknownArgument ("-" ++ letter.toString)))
    | some arg =>
      if arg.takesValues then
        let (attached, equals) := attachedValue rest
        if arg.requiresEquals && !equals && arg.valueCount.least = 0 then do
          readCluster level (← occur level progress arg []) rest
        else meetOption level progress arg attached equals
      else do readCluster level (← occur level progress arg []) rest

/-! ## Positionals -/

/-- The positional whose turn it is. -/
def nextPositional? (level : Level) (progress : Progress) : Option Arg :=
  level.positionals[progress.position]?

/-- An argument looks like an option to a positional that does not welcome it. -/
def looksNew (arg : Arg) (argument : String) : Bool :=
  !arg.allowsHyphens && match Token.read argument with
    | .long _ _ => true
    | .cluster first rest => !(arg.allowsNegativeNumbers && looksNumeric (first :: rest))
    | .terminator | .word _ => false

/-- The last place but one is next, and an earlier positional than the last takes many values, so
that the last one has to be kept a value. -/
def keepsLast (level : Level) (progress : Progress) : Bool :=
  progress.position + 2 = level.positionals.length
    && level.positionals.dropLast.any (·.isMultiple)
    && !(level.positionals.getLast?.any (·.isLast))

/-- The place of the positional that a word goes to, given the argument after it. -/
def placeFor (level : Level) (progress : Progress) (following : Option String) : Nat :=
  if keepsLast level progress then
    match nextPositional? level progress, following with
    | some arg, some argument =>
      if looksNew arg argument || (level.command? argument).isSome then progress.position + 1
      else progress.position
    | _, _ => progress.position + 1
  else if progress.trailing && level.args.any (·.isLast) then level.positionals.length - 1
  else progress.position

/-- A word that no positional takes. -/
def misplaced (level : Level) (progress : Progress) (word : String) : Fault :=
  if progress.trailing && (level.command? word).isSome then .unknownArgument word
  else if !level.subcommands.isEmpty && level.positionals.isEmpty then .unknownCommand word
  else .unknownArgument word

/-- A word given to a positional at a place. -/
def give (level : Level) (progress : Progress) (place : Nat) (arg : Arg) (word : String) :
    Except Stop Progress := do
  let goesOn := arg.valueCount.isMultiple && progress.pending.any (·.arg.id = arg.id)
  let progress ← if goesOn then .ok progress else settle level progress
  let before := (progress.pending.map (·.values)).getD []
  return { progress with
    pending := some ⟨arg, before ++ [word]⟩
    trailing := progress.trailing || arg.isTrailing
    position := if arg.isMultiple then place else place + 1
    collecting := if arg.isMultiple then .positional arg else .nothing
    uses := progress.uses ++ [.positional arg.id word] }

/-! ## Arguments -/

/-- What one argument comes to. -/
inductive Turn where
  /-- Reading goes on at the level. -/
  | stay (progress : Progress)
  /-- A subcommand reads the rest. -/
  | descend (command : Command)
  /-- The rest names the command whose help page is shown. -/
  | help
  /-- A command from elsewhere takes the rest. -/
  | external (name : String)

/-- A word that belongs to a positional, if to anything. -/
def turnPositional (level : Level) (progress : Progress) (word : String)
    (following : Option String) : Except Stop Turn :=
  let place := placeFor level progress following
  match level.positionals[place]? with
  | some arg =>
    if arg.isLast && !progress.trailing then .error (.fault (.unknownArgument word))
    else (give level progress place arg word).map .stay
  | none =>
    if level.spec.allowsExternal then .ok (.external word)
    else .error (.fault (misplaced level progress word))

/-- A value for the option that collects, or else a word for a positional. -/
def turnValue (level : Level) (progress : Progress) (word : String) (following : Option String) :
    Except Stop Turn :=
  match progress.collecting with
  | .option arg =>
    let values := (progress.pending.map (·.values)).getD [] ++ [word]
    let collecting := if arg.valueCount.takesMoreThan values.length then progress.collecting
      else .nothing
    .ok (.stay { progress with pending := some ⟨arg, values⟩, collecting })
  | _ => turnPositional level progress word following

/-- Whatever collects takes arguments that start with a dash. -/
def hyphensWelcome (progress : Progress) : Bool := progress.collecting.arg?.any (·.allowsHyphens)

/-- The positional whose turn it is takes arguments that start with a dash. -/
def positionalWelcomesHyphens (level : Level) (progress : Progress) : Bool :=
  (nextPositional? level progress).any fun arg => arg.allowsHyphens && !arg.isLast

/-- A cluster is a value and no cluster. -/
def clusterIsValue (level : Level) (progress : Progress) (letters : List Char) : Bool :=
  progress.collecting.arg?.any (fun arg =>
    arg.allowsHyphens || (arg.allowsNegativeNumbers && looksNumeric letters))
  || (nextPositional? level progress).any (fun arg =>
    arg.allowsNegativeNumbers && looksNumeric letters)
  || (positionalWelcomesHyphens level progress
    && letters.any fun letter => (level.short? letter).isNone)

/-- An argument that may still be an option. -/
def turnToken (level : Level) (progress : Progress) (argument : String)
    (following : Option String) : Except Stop Turn :=
  match Token.read argument with
  | .terminator =>
    if hyphensWelcome progress then turnValue level progress argument following
    else .ok (.stay { progress with trailing := true })
  | .long name value =>
    if hyphensWelcome progress then turnValue level progress argument following
    else match level.long? name, value with
      | some arg, value =>
        if arg.takesValues then (meetOption level progress arg value value.isSome).map .stay
        else match value with
          | some value => .error (.fault (.surplusValue value arg))
          | none => (occur level progress arg []).map .stay
      | none, _ =>
        if positionalWelcomesHyphens level progress then
          turnValue level progress argument following
        else .error (.fault (.unknownArgument ("--" ++ name)))
  | .cluster first rest =>
    if clusterIsValue level progress (first :: rest) then
      turnValue level progress argument following
    else (readCluster level progress (first :: rest)).map .stay
  | .word word => turnValue level progress word following

/-- What an argument comes to, given the one after it. -/
def turn (level : Level) (progress : Progress) (argument : String) (following : Option String) :
    Except Stop Turn :=
  if progress.trailing then turnPositional level progress argument following
  else match progress.collecting, level.command? argument with
    | .nothing, some command =>
      if level.isHelp command then .ok .help else .ok (.descend command)
    | _, _ => turnToken level progress argument following

/-! ## Levels -/

/-- The page of the command that these words lead to. -/
def helpFor (level : Level) : List String → Stop
  | [] => .page (.help level)
  | word :: words => match level.command? word with
    | some command => helpFor (level.enter command) words
    | none => .fault (.unknownCommand word)

/-- The default of an argument that has no record yet. It has to be allowed like any value. -/
def addDefault (level : Level) (records : Matches) (arg : Arg) : Except Stop Matches :=
  if (records.get? arg.id).isSome || arg.effectiveDefaults = [] then .ok records
  else if arg.effectiveAction.shows then .error (askedBy level arg.effectiveAction)
  else do
    let values := arg.effectiveDefaults.flatMap (splitValue arg)
    values.forM (checkValue arg)
    return records ++ [⟨arg.id, .default, values⟩]

/-- Defaults are filled in when a level ends, and then it is found what is missing. -/
def finish (level : Level) (progress : Progress) (descended : Bool) :
    Except Stop LevelRecord := do
  let progress ← settle level progress
  let records ← level.args.foldlM (addDefault level) progress.records
  if !descended && level.spec.helpWhenBare && records.all (·.source = .default) then
    throw (.page (.bare level))
  if !descended && level.spec.subcommandRequired then throw (.fault (.missingCommand level))
  let missing := level.args.filter fun arg => arg.isRequired && !records.isTyped arg.id
  if missing ≠ [] then throw (.fault (.missingArguments missing))
  return ⟨level.spec.name, records, level.globals.map (·.id), progress.uses⟩

/-- Reads arguments at a level that has come this far. -/
def read (level : Level) (progress : Progress) : List String → Except Stop Parsed
  | [] => (finish level progress false).map fun top => ⟨top, []⟩
  | argument :: rest =>
    match turn level progress argument rest.head? with
    | .error fault => .error fault
    | .ok (.stay progress) => read level progress rest
    | .ok .help => .error (helpFor level rest)
    | .ok (.descend command) => do
      let below ← read (level.enter command) {} rest
      let top ← finish level progress true
      return ⟨top, below.levels⟩
    | .ok (.external name) => do
      let top ← finish level progress true
      return ⟨top, [⟨name, [], [], []⟩]⟩

/-! ## The levels on the way -/

/-- The levels that a request for the page of a command goes through. -/
def helpLevels (level : Level) : List String → List Level
  | [] => [level]
  | word :: words => level :: match level.command? word with
    | some command => helpLevels (level.enter command) words
    | none => []

/-- The levels that reading goes through, down to the one where it ends or stops. -/
def levelsMet (level : Level) (progress : Progress) : List String → List Level
  | [] => [level]
  | argument :: rest =>
    match turn level progress argument rest.head? with
    | .ok (.stay progress) => levelsMet level progress rest
    | .ok (.descend command) => level :: levelsMet (level.enter command) {} rest
    | .ok .help => helpLevels level rest
    | .ok (.external _) | .error _ => [level]

end Reader

end CommandTelemetry
