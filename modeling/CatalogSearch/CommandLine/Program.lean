import CatalogSearch.CommandLine.Action
import CatalogSearch.Console.Markup

namespace CatalogSearch.CommandLine

open Session

inductive ClearOption where
  | yes
  | help
  deriving DecidableEq

def clearForms : List (OptionForm ClearOption) := [
    { key := .yes,  names := ["--yes", "-y"] },
    { key := .help, names := ["--help"] }
  ]

inductive InitOption where
  | force
  | output
  | help
  deriving DecidableEq

def initForms : List (OptionForm InitOption) := [
    { key := .force,  names := ["--force", "-f"] },
    { key := .output, names := ["--output", "-o"], takesValue := true },
    { key := .help,   names := ["--help"] }
  ]

def showHelp (command : Option Command) : Session ExitCode := do
  sayRaw .out (helpText command)
  return .success

def withOptions [DecidableEq κ] (command : Command) (forms : List (OptionForm κ)) (help : κ)
    (arguments : List String) (next : Given κ → Session ExitCode) : Session ExitCode :=
  match OptionForm.read forms true arguments with
  | .error e => refuse (some command) (.usage e)
  | .ok g    => if g.has help then showHelp (some command) else next g

def withoutRest (command : Command) (g : Given κ) (next : Session ExitCode) : Session ExitCode :=
  if g.rest.isEmpty then next else refuse (some command) (.usage <| .extraArguments g.rest)

def runCommand [Console] (v : Invocation) (command : Command) (arguments : List String) : Session ExitCode :=
  match command with
  | .clear      => withOptions command clearForms .help arguments fun g =>
    withoutRest command g <| clear v (g.has .yes)
  | .initConfig => withOptions command initForms .help arguments fun g =>
    match (g.value? .output).forM checkPath with
    | .error e => refuse (some command) (.misuse e)
    | .ok ()   => withoutRest command g <| do
      initConfig (← v.surroundings.settingsPath (g.value? .output)) (g.has .force)
  | .query      => withOptions command SearchArguments.forms .help arguments fun g =>
    match SearchArguments.ofGiven g with
    | .error e => refuse (some command) (.usage e)
    | .ok a    => search v a

inductive ProgramOption where
  | config
  | noColor
  | verbose
  | debug
  | quiet
  | version
  | help
  deriving DecidableEq

def programForms : List (OptionForm ProgramOption) := [
    { key := .config,  names := ["--config", "-c"], takesValue := true },
    { key := .noColor, names := ["--no-color"] },
    { key := .verbose, names := ["--verbose", "-v"] },
    { key := .debug,   names := ["--debug"] },
    { key := .quiet,   names := ["--quiet", "-q"] },
    { key := .version, names := ["--version"] },
    { key := .help,    names := ["--help"] }
  ]

def loadSettings (path : Path) (nesting : Nat) : Session (Settings × List String) := do
  let content : Option Content ← need (.content path)
  Settings.ofContent path nesting content

def isFileError : Error → Bool
  | .file _ => true
  | _       => false

def begin [Console] (s : Surroundings) (g : Given ProgramOption) (command : Command) (arguments : List String) :
    Session ExitCode := do
  let v : Invocation := {
    surroundings := s
    verbose      := g.has .verbose || g.has .debug
    debug        := g.has .debug
    quiet        := g.has .quiet }
  if s.noColor || g.has .noColor then Dialogue.remark .colorOff
  let path ← s.settingsPath (g.value? .config)
  match ← (loadSettings path s.nesting.toml).attempt with
  | .ok (settings, warnings) =>
    unless settings.coloredOutput.holds do Dialogue.remark .colorOff
    unless v.quiet do warnings.forM warn
    runCommand { v with settings } command arguments
  | .error e =>
    if e.kind?.isSome || isFileError e then
      complain e.message
      return .failure
    else .done (.error e)

def preface (arguments : List String) : Except (Session ExitCode) (Given ProgramOption) :=
  match OptionForm.read programForms false arguments with
  | .error e => .error (refuse none (.usage e))
  | .ok g    =>
    match g.keys.find? fun key => key = .version ∨ key = .help with
    | some .version => .error do
      sayRaw .out (programName ++ ", version " ++ version ++ "\n")
      return .success
    | some _ => .error (showHelp none)
    | none   =>
      match (g.value? .config).forM checkPath with
      | .error e => .error (refuse none (.misuse e))
      | .ok ()   => .ok g

-- A whole session. If no command has the name that is given, the arguments from there on are read as
-- options of the program before the name is refused.
def run (s : Surroundings) (arguments : List String) (console : Console := Markup.undrawn) : Session ExitCode :=
  match preface arguments with
  | .error ending => ending
  | .ok g         =>
    match g.rest with
    | []           =>
      if arguments.isEmpty then do
        sayRaw .err (helpText none)
        return .usage
      else refuse none (.usage .missingCommand)
    | name :: rest =>
      match Command.ofName? name, preface g.rest with
      | some command, _     => begin s g command rest
      | none, .error ending => ending
      | none, .ok _         => refuse none (.usage <| .noSuchCommand name)

end CatalogSearch.CommandLine
