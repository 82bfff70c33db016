import CommandTelemetry.FileSystem.Tree
import CommandTelemetry.Program.Request
import CommandTelemetry.Text.Blank

/-!
# New projects

A project is a new directory with the files of a template in it. Its name has to be one plain name,
and nothing may be there yet.

* `Scaffold.files` are the files of a template, `Scaffold.make` makes a project;
* `ScaffoldError` is why no project was made.
-/

namespace CommandTelemetry

/-- Why no project was made. -/
inductive ScaffoldError where
  | blankName
  | invalidName (name : String)
  | alreadyThere (path : Path)
  | notCreated (path : Path) (cause : FileError)
  | notWritten (path : Path) (cause : FileError)
deriving DecidableEq, Repr

namespace ScaffoldError

/-- The text of an error. -/
def message : ScaffoldError → String
  | .blankName => "project name must not be empty"
  | .invalidName name => "invalid project name: " ++ name
  | .alreadyThere path => "directory already exists: " ++ path.text
  | .notCreated path cause => "failed to create " ++ path.text ++ ": " ++ cause.message
  | .notWritten path cause => "failed to write " ++ path.text ++ ": " ++ cause.message

end ScaffoldError

namespace Scaffold

/-! ## Templates -/

/-- Lines with a line feed after each. -/
def content (lines : List String) : String := String.join (lines.map (· ++ "\n"))

/-- The program of a new Python project. -/
def pythonMain (name : String) : String := content
  ["from acontext import AcontextClient",
    "",
    "",
    "def main():",
    "    client = AcontextClient()",
    "    print(\"" ++ name ++ " is ready\", client)",
    "",
    "",
    "if __name__ == \"__main__\":",
    "    main()"]

/-- The manifest of a new TypeScript project. -/
def manifest (name : String) : String := content
  ["\x7b",
    "  \"name\": \"" ++ name ++ "\",",
    "  \"private\": true,",
    "  \"type\": \"module\",",
    "  \"dependencies\": \x7b",
    "    \"@acontext/acontext\": \"latest\"",
    "  \x7d",
    "\x7d"]

/-- The program of a new TypeScript project. -/
def typescriptIndex (name : String) : String := content
  ["import \x7b AcontextClient \x7d from \"@acontext/acontext\";",
    "",
    "const client = new AcontextClient();",
    "console.log(\"" ++ name ++ " is ready\", client);"]

/-- The files of a template, with their names in the project. -/
def files (template : Template) (name : String) : List (String × String) :=
  match template with
  | .python =>
    [("requirements.txt", content ["acontext"]),
      ("main.py", pythonMain name),
      (".gitignore", content ["__pycache__/", ".venv/", ".env"])]
  | .typescript =>
    [("package.json", manifest name),
      ("index.ts", typescriptIndex name),
      (".gitignore", content ["node_modules/", "dist/", ".env"])]

/-! ## Projects -/

/-- A name that a project can have. -/
def validateName (name : String) : Except ScaffoldError Unit :=
  if Text.saysNothing name then .error .blankName
  else if name = "." ∨ name = ".." ∨ name.toList.any (fun c => c = '/' || c = '\\') then
    .error (.invalidName name)
  else .ok ()

/-- The directory of a project. -/
def projectPath (name directory : String) : Path := Path.join ⟨directory⟩ name

/-- Writes files into a directory, one after the other. What was written stays when a later file is
refused. -/
def writeFiles (project : Path) (fs : FileSystem) (files : List (String × String))
    (disk : Disk := .willing) : Except ScaffoldError Unit × FileSystem :=
  match files with
  | [] => (.ok (), fs)
  | (name, text) :: others =>
    let path := project.join name
    match fs.writeFile path (Utf8.encode text) disk with
    | .error cause =>
      (.error (.notWritten path cause), fs.afterRefusedWrite path (Utf8.encode text) disk)
    | .ok written => writeFiles project written others disk

/-- Makes a project in a parent directory. -/
def make (fs : FileSystem) (name : String) (template : Template) (directory : String)
    (disk : Disk := .willing) : Except ScaffoldError Path × FileSystem :=
  match validateName name with
  | .error error => (.error error, fs)
  | .ok _ =>
    let project := projectPath name directory
    if fs.isOccupied project then (.error (.alreadyThere project), fs)
    else match fs.makeDirectories project disk with
      | (.error cause, made) => (.error (.notCreated project cause), made)
      | (.ok _, made) => match writeFiles project made (files template name) disk with
        | (.error error, written) => (.error error, written)
        | (.ok _, written) => (.ok project, written)

end Scaffold

end CommandTelemetry
