import CatalogSearch.Error

namespace CatalogSearch.CommandLine

def programName : String := "facet-search"
def version : String := "0.1.0"

inductive Command where
  | clear
  | initConfig
  | query
  deriving DecidableEq

namespace Command

def all : List Command := [clear, initConfig, query]

def name : Command → String
  | clear      => "clear"
  | initConfig => "init-config"
  | query      => "query"

def ofName? (name : String) : Option Command :=
  all.find? (·.name = name)

def summary : Command → String
  | clear      => "Delete all documents from the configured index."
  | initConfig => "Write the example configuration, with the Elasticsearch URL to fill in."
  | query      => "Search with a JSON criteria tree and print hits and facet counts."

end Command

inductive UsageError where
  | missingArgument (option : String)
  | unwantedValue   (option : String)
  | noSuchOption    (option : String)
  | noSuchCommand   (name : String)
  | missingCommand
  | extraArguments  (arguments : List String)
  | invalidValue    (place reason : String)
  deriving DecidableEq

namespace UsageError

def message : UsageError → String
  | missingArgument option    => "Option " ++ quoted option ++ " requires an argument."
  | unwantedValue option      => "Option " ++ quoted option ++ " does not take a value."
  | noSuchOption option       => "No such option " ++ quoted option ++ "."
  | noSuchCommand name        => "No such command " ++ quoted name ++ "."
  | missingCommand            => "Missing command."
  | extraArguments [argument] => "Got unexpected extra argument (" ++ argument ++ ")"
  | extraArguments arguments  => "Got unexpected extra arguments (" ++ " ".intercalate arguments ++ ")"
  | invalidValue place reason => "Invalid value for " ++ place ++ ": " ++ reason

-- An option that lacks its argument, or has one too many, speaks for itself.
def recallsUsage : UsageError → Bool
  | missingArgument _ | unwantedValue _ => false
  | _                                   => true

end UsageError

inductive CallError where
  | usage  (cause : UsageError)
  | misuse (cause : Misuse)
  deriving DecidableEq

instance : MonadLift (Except UsageError) (Except CallError) := ⟨fun x => x.mapError .usage⟩
instance : MonadLift (Except Misuse) (Except CallError) := ⟨fun x => x.mapError .misuse⟩

def usageLine : Option Command → String
  | none            => "Usage: " ++ programName ++ " [OPTIONS] COMMAND [ARGS]..."
  | some .query     => "Usage: " ++ programName ++ " query [OPTIONS] [CRITERIA]"
  | some command    => "Usage: " ++ programName ++ " " ++ command.name ++ " [OPTIONS]"

def callPath : Option Command → String
  | none         => programName
  | some command => programName ++ " " ++ command.name

def refusal (command : Option Command) (e : UsageError) : String :=
  (if e.recallsUsage then
    usageLine command ++ "\nTry '" ++ callPath command ++ " --help' for help.\n\n"
  else "") ++ "Error: " ++ e.message ++ "\n"

def helpText : Option Command → String
  | none         => usageLine none ++ "\n\nCommands: " ++ ", ".intercalate (Command.all.map (·.name)) ++ "\n"
  | some command => usageLine command ++ "\n\n" ++ command.summary ++ "\n"

end CatalogSearch.CommandLine
