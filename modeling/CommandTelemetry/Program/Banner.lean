/-!
# Banners

The texts that the program prints of itself.
-/

namespace CommandTelemetry.Banner

/-- Lines with a line feed after each. -/
def lines (texts : List String) : String := String.join (texts.map (· ++ "\n"))

/-- The logo, with an empty line around it. -/
def logo : String := lines
  ["",
    "    _                    _            _",
    "   / \\   ___ ___  _ __ | |_ _____  _| |_",
    "  / _ \\ / __/ _ \\| '_ \\| __/ _ \\ \\/ / __|",
    " / ___ \\ (_| (_) | | | | ||  __/>  <| |_",
    "/_/   \\_\\___\\___/|_| |_|\\__\\___/_/\\_\\\\__|",
    ""]

/-- What is printed when nothing is asked for. -/
def welcome : String := logo ++ lines
  ["",
    "Welcome to Acontext CLI!",
    "",
    "Quick Commands:",
    "  acontext create     Create a new project",
    "  acontext docker     Manage Docker services (up/down/status/logs/env)",
    "  acontext version    Show version information",
    "  acontext help       Show help information",
    "",
    "Get started: acontext create"]

/-- What is printed of the version. -/
def version (version : String) : String := lines ["Acontext CLI version " ++ version]

/-- What is printed of a new project. -/
def created (path template : String) : String :=
  lines ["✓ Created " ++ path ++ " (" ++ template ++ ")"]

end CommandTelemetry.Banner
