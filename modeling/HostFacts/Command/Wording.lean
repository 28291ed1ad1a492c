import HostFacts.Command.Arguments

/-!
# Texts of the command

The help text, the version, and the wording of usage errors. An error about
the arguments as a whole, about an option that there is not or about the
settings file comes with the usage line in front.
-/

namespace HostFacts.Command

def programName : Text := "hostinfo"

def usage : Text := "Usage: " ++ programName ++ " [OPTIONS]\n"

def helpLines : List Text :=
  ["",
   "  Report facts about the host operating system and Python runtime.",
   "",
   "Options:",
   "  -d, --debug                 Enable debug logging",
   "  -s, --settings PATH         Path to config file (default: ~/.hostinfo-",
   "                              settings.json)",
   "  --json                      Print facts as JSON",
   "  --release                   Include os-release and xdg probe results",
   "  --os-at-least VERSION       Exit 0 only if the OS version is at least VERSION",
   "  --runtime-at-least VERSION  Exit 0 only if the Python version is at least",
   "                              VERSION",
   "  --version                   Show the version and exit.",
   "  --help                      Show this message and exit."]

def helpText : Text := usage ++ helpLines.flatMap fun line => line ++ ("\n" : Text)

def versionText : Text := programName ++ ", version 0.1.0\n"

namespace UsageError

def message : UsageError → Text
  | noSuchOption name => "No such option " ++ name.quoted ++ "."
  | missingValue name => "Option " ++ name.quoted ++ " requires an argument."
  | unwantedValue name => "Option " ++ name.quoted ++ " does not take a value."
  | unreadableSettings file =>
    "Invalid value for '-s' / '--settings': Path " ++ file.quoted ++ " is not readable."
  | extraArguments arguments =>
    (if arguments.length = 1 then ("Got unexpected extra argument (" : Text)
     else "Got unexpected extra arguments (") ++
      Text.join " " arguments ++ ")"

/-- The usage line and where to find help, where they go with the error. -/
def heading : UsageError → Text
  | noSuchOption _ | unreadableSettings _ | extraArguments _ =>
    usage ++ "Try '" ++ programName ++ " --help' for help.\n\n"
  | missingValue _ | unwantedValue _ => []

/-- All that is written about the error. -/
def report (e : UsageError) : Text := e.heading ++ "Error: " ++ e.message ++ "\n"

end UsageError

end HostFacts.Command
