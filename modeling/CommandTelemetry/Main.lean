import CommandTelemetry.Dispatch.Collector
import CommandTelemetry.Program.Run
import CommandTelemetry.Settings.Start

/-!
# The program

Reads what a run needs from the machine, runs the program, and carries out what it left behind. A
build from here is a development build: it reports nothing, and it starts no other program.
-/

namespace CommandTelemetry.Main

/-- The variables that a run may ask for. -/
def variableNames : List String :=
  [SettingsDirectory.pathVariable, SettingsDirectory.homeVariable,
    SettingsDirectory.platformVariable, Config.endpointVariable]
  ++ Services.defaults.map (·.1)

/-- The variables of this process that a run may ask for. What the system has of the account is left
out. -/
def readEnvironment : IO Environment := do
  let values ← variableNames.mapM fun name => do
    return (← IO.getEnv name).map fun value => (name, Utf8.encode value)
  return { bindings := values.reduceOption }

/-- What is at a path on this machine. -/
def readEntry (path : String) : IO (Option Entry) := do
  try
    let content ← IO.FS.readBinFile path
    return some (.file content.toList)
  catch error =>
    match error with
    | .noFileOrDirectory .. => return none
    | _ => return some .directory

/-- The settings file at a path. -/
def readConfigFile (path : Path) : IO ConfigFile := do
  match ← readEntry path.text with
  | none => return .absent
  | some (.file content) => return .bytes content
  | some .directory => return ConfigFile.directory

/-- The path of a place. -/
def pathOf (place : Place) : String := "/" ++ String.intercalate "/" place

/-- Looks at the places that names lead to, as far as there are directories on the way. -/
def readPlaces (place : Place) : List String → FileSystem → IO FileSystem
  | [], files => return files
  | name :: names, files => do
    let next := if name = FileSystem.upName then place.dropLast else place ++ [name]
    match ← readEntry (pathOf next) with
    | none => return files
    | some entry =>
      let files := if next = [] then files else files.put next entry
      if entry = .directory then readPlaces next names files else return files

/-- The files that a run may ask for: those on the way to a project that it makes. -/
def readFiles (argv : List String) : IO FileSystem := do
  let current : Path := ⟨(← IO.currentDir).toString⟩
  let start ← readPlaces [] current.steps ⟨[], current.steps⟩
  match (Program.command.parse argv).toOption.bind Request.ofParsed? with
  | some (.createProject name _ directory) =>
    let project := Scaffold.projectPath name directory
    readPlaces (start.origin project) project.steps start
  | _ => return start

/-- Makes the files and directories that were not there before. -/
def writeFiles (before after : FileSystem) : IO Unit :=
  after.entries.reverse.forM fun (place, entry) => do
    if (before.get? place).isNone then
      match entry with
      | .directory => IO.FS.createDir (pathOf place)
      | .file content => IO.FS.writeBinFile (pathOf place) content.toByteArray

/-- The settings of this process. Only the one file is looked at that the environment leads to. -/
def readConfig (environment : Environment) : IO Config := do
  let found ← match SettingsDirectory.file environment with
    | .error _ => pure .absent
    | .ok path => readConfigFile path
  return Config.atStart (fun _ => found) environment

end CommandTelemetry.Main

open CommandTelemetry in
/-- One run of the program. -/
def main (arguments : List String) : IO UInt32 := do
  let argv := Program.name :: arguments
  let environment ← Main.readEnvironment
  let config ← Main.readConfig environment
  let files ← Main.readFiles argv
  let transport := Collector.unreachable.transport config.endpoint
  let dispatcher : Dispatcher := ⟨Program.version, Dispatcher.defaultCeiling, transport⟩
  let result := Program.run dispatcher argv ⟨files, environment, none⟩ Outbox.start
  IO.print result.output
  IO.eprint result.errors
  Main.writeFiles files result.files
  return UInt32.ofNat result.code
