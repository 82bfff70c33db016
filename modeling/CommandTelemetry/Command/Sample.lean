import CommandTelemetry.Command.Definition

/-!
# A sample command line

A command line shaped like that of the program, with a global option and a command that takes
everything after its name as it stands, requests for help included.
-/

namespace CommandTelemetry.Command

/-- The sample command that makes a project. It has no help flag of its own. -/
def sampleProject : Command := .leaf
  { name := "project"
    hasHelpFlag := false
    args :=
      [{ id := "template", long := some "template", short := some 't', defaults := ["python"] },
        { id := "dir", long := some "dir", defaults := ["."] },
        { id := "args", count := some ⟨1, none⟩, isTrailing := true, allowsHyphens := true }] }

/-- The sample command that shows what services wrote. -/
def sampleLogs : Command := .leaf
  { name := "logs"
    args :=
      [{ id := "service" },
        { id := "follow", long := some "follow", short := some 'f', action := some .setTrue }] }

/-- The sample command line. -/
def sample : Command where
  spec :=
    { name := "acontext"
      args :=
        [{ id := "config", long := some "config", isGlobal := true, defaults := ["~/.acontext"] }] }
  subcommands :=
    [.leaf { name := "version" },
      { spec := { name := "create" }, subcommands := [sampleProject] },
      { spec := { name := "docker" }
        subcommands := [.leaf { name := "up" }, .leaf { name := "down" }, sampleLogs] }]

end CommandTelemetry.Command
