import CommandTelemetry.FileSystem.Path
import CommandTelemetry.Text.Utf8

/-!
# File systems

Files and directories by their places, and the operations on them that take a path. A path is
followed from the root or from the working directory, one name after the other, and every name on
the way has to be that of a directory. There are no links. The disk that holds them may refuse a
change.

* `FileSystem.isOccupied`, `makeDirectory`, `makeDirectories` and `writeFile` are the operations;
* `FileError` is why one of them was refused, and `Disk` what a disk says to a change.
-/

namespace CommandTelemetry

/-- What is at a place. -/
inductive Entry where
  | file (content : Bytes)
  | directory
deriving DecidableEq, Repr

/-- The names from the root down to a place. -/
abbrev Place := List String

/-- Why an operation was refused. -/
inductive FileError where
  | notFound
  | alreadyThere
  | notADirectory
  | isADirectory
  | nameTooLong
  | nulInName
  /-- The disk did not take a change, and said this. -/
  | refused (message : String)
deriving DecidableEq, Repr

namespace FileError

/-- The text of an error. -/
def message : FileError → String
  | .notFound => "No such file or directory (os error 2)"
  | .alreadyThere => "File exists (os error 17)"
  | .notADirectory => "Not a directory (os error 20)"
  | .isADirectory => "Is a directory (os error 21)"
  | .nameTooLong => "File name too long (os error 36)"
  | .nulInName => "file name contained an unexpected NUL byte"
  | .refused message => message

end FileError

/-- Files and directories, and the directory that relative paths start from. The root is always a
directory. -/
structure FileSystem where
  entries : List (Place × Entry)
  working : Place
deriving DecidableEq, Repr

/-- What a disk says to a change that it does not take. -/
structure Refusal where
  message : String
  /-- How many bytes of a file were written all the same, if there is a file at all. -/
  written : Option Nat
deriving DecidableEq, Repr

/-- A disk, by the changes that it refuses: at which places, and how full it is then. -/
structure Disk where
  refusal? : FileSystem → Place → Option Refusal

namespace Disk

/-- A disk that takes every change. -/
def willing : Disk := ⟨fun _ _ => none⟩

end Disk

namespace FileSystem

/-! ## Places -/

/-- What is at a place. -/
def get? (fs : FileSystem) (place : Place) : Option Entry :=
  if place = [] then some .directory else (fs.entries.find? (·.1 = place)).map (·.2)

/-- The file system with something at a place. -/
def put (fs : FileSystem) (place : Place) (entry : Entry) : FileSystem :=
  { fs with entries := (place, entry) :: fs.entries.filter (·.1 ≠ place) }

/-- What is at a place after something was put to one. -/
theorem get?_put {fs : FileSystem} {place : Place} (h : place ≠ []) (entry : Entry)
    (other : Place) :
    (fs.put place entry).get? other = if other = place then some entry else fs.get? other := by
  by_cases ho : other = []
  · subst ho
    simp [get?, Ne.symm h]
  · by_cases hp : other = place
    · subst hp
      simp [get?, put, ho]
    · have hne : ¬ place = other := fun e => hp e.symm
      have hsame : ∀ p : Place × Entry,
          (!decide (p.1 = place) && decide (p.1 = other)) = decide (p.1 = other) := by
        intro p
        by_cases h1 : p.1 = other
        · simp [h1, hp]
        · simp [h1]
      simp [get?, put, ho, hp, hne, hsame]

/-! ## Paths -/

/-- The longest name, in bytes. -/
def nameLimit : Nat := 255

/-- A path has fewer bytes than this. -/
def pathLimit : Nat := 4096

/-- The name of the place above. -/
def upName : String := ".."

/-- A path that operations take. -/
def checkPath (path : Path) : Except FileError Unit :=
  if path.text.toList.contains '\x00' then .error .nulInName
  else if pathLimit ≤ path.text.utf8ByteSize then .error .nameTooLong
  else .ok ()

/-- The place from which a path is followed. -/
def origin (fs : FileSystem) (path : Path) : Place := if path.isAbsolute then [] else fs.working

/-- The place of a name in the directory at a place. -/
def nameIn (fs : FileSystem) (place : Place) (name : String) : Except FileError Place :=
  match fs.get? place with
  | none => .error .notFound
  | some (.file _) => .error .notADirectory
  | some .directory =>
    if name = upName then .ok place.dropLast
    else if nameLimit < name.utf8ByteSize then .error .nameTooLong
    else .ok (place ++ [name])

/-- The place that one more name leads to, where something has to be. -/
def enter (fs : FileSystem) (place : Place) (name : String) : Except FileError Place := do
  let next ← fs.nameIn place name
  if (fs.get? next).isSome then return next else throw .notFound

/-- The place that names lead to. -/
def walk (fs : FileSystem) (place : Place) (names : List String) : Except FileError Place :=
  names.foldlM fs.enter place

/-- What names lead to from a place. -/
def find? (fs : FileSystem) (place : Place) (names : List String) : Option Entry :=
  (fs.walk place names).toOption.bind fs.get?

/-- Something is at the end of a path. -/
def isOccupied (fs : FileSystem) (path : Path) : Bool :=
  (checkPath path).isOk && (fs.find? (fs.origin path) path.steps).isSome

/-! ## Operations -/

/-- Makes a directory at the end of names. -/
def makeDirectory (fs : FileSystem) (place : Place) (names : List String)
    (disk : Disk := .willing) : Except FileError FileSystem := do
  match names.getLast? with
  | none => throw .alreadyThere
  | some name =>
    let parent ← fs.walk place names.dropLast
    let target ← fs.nameIn parent name
    if (fs.get? target).isSome then throw .alreadyThere
    else match disk.refusal? fs target with
      | some refusal => throw (.refused refusal.message)
      | none => return fs.put target .directory

/-- Makes a directory at the end of names, if none is there yet. -/
def ensureDirectory (fs : FileSystem) (place : Place) (names : List String)
    (disk : Disk := .willing) : Except FileError FileSystem :=
  match fs.makeDirectory place names disk with
  | .error .alreadyThere =>
    if fs.find? place names = some .directory then .ok fs else .error .alreadyThere
  | made => made

/-- Makes the directories that are missing on the way along names, which are given last first: from
the nearest one that is there, level by level. What was made stays when a later level is refused. -/
def makeMissing (fs : FileSystem) (place : Place) (names : List String)
    (disk : Disk := .willing) : Except FileError Unit × FileSystem :=
  match names with
  | [] => (.ok (), fs)
  | name :: before =>
    let names := (name :: before).reverse
    match fs.ensureDirectory place names disk with
    | .ok made => (.ok (), made)
    | .error .notFound => match fs.makeMissing place before disk with
      | (.error error, made) => (.error error, made)
      | (.ok _, made) => match made.ensureDirectory place names disk with
        | .ok all => (.ok (), all)
        | .error error => (.error error, made)
    | .error error => (.error error, fs)

/-- Makes a directory at the end of a path and all that are missing on the way to it. -/
def makeDirectories (fs : FileSystem) (path : Path) (disk : Disk := .willing) :
    Except FileError Unit × FileSystem :=
  match checkPath path with
  | .error error => (.error error, fs)
  | .ok _ => fs.makeMissing (fs.origin path) path.steps.reverse disk

/-- The place at the end of a path where a file is or can be. -/
def filePlace (fs : FileSystem) (path : Path) : Except FileError Place := do
  checkPath path
  match path.steps.getLast? with
  | none => throw .isADirectory
  | some name =>
    let parent ← fs.walk (fs.origin path) path.steps.dropLast
    let target ← fs.nameIn parent name
    if fs.get? target = some .directory then throw .isADirectory else return target

/-- Writes a file at the end of a path, over the one that is there. -/
def writeFile (fs : FileSystem) (path : Path) (content : Bytes) (disk : Disk := .willing) :
    Except FileError FileSystem := do
  let target ← fs.filePlace path
  match disk.refusal? fs target with
  | some refusal => throw (.refused refusal.message)
  | none => return fs.put target (.file content)

/-- What is left when a file could not be written: the disk may have taken the front of it. -/
def afterRefusedWrite (fs : FileSystem) (path : Path) (content : Bytes) (disk : Disk) :
    FileSystem :=
  match fs.filePlace path with
  | .error _ => fs
  | .ok target => match (disk.refusal? fs target).bind (·.written) with
    | none => fs
    | some count => fs.put target (.file (content.take count))

/-- What is below a place, by the names from there. -/
def below (fs : FileSystem) (place : Place) : List (Place × Entry) :=
  fs.entries.filterMap fun (found, entry) =>
    if place.isPrefixOf found && place.length < found.length then
      some (found.drop place.length, entry)
    else none

end FileSystem

end CommandTelemetry
