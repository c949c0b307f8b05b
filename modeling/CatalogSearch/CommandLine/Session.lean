import CatalogSearch.CommandLine.Usage
import CatalogSearch.Console.ControlSequence
import CatalogSearch.Console.Output
import CatalogSearch.Files.Tree
import CatalogSearch.Http.Client

namespace CatalogSearch.CommandLine

open Http

inductive Need where
  | content       (path : Path)
  | presence      (path : Path)
  | makeDirectory (path : Path)
  | write         (path : Path) (text : String)
  | confirmation  (question : String)
  | reply         (request : HttpRequest)

def Need.Supply : Need → Type
  | content _       => Option Content
  | presence _      => Bool
  | makeDirectory _ => Unit
  | write _ _       => Unit
  | confirmation _  => Option Bool
  | reply _         => HttpReply

abbrev Session := Dialogue Output Need Need.Supply

abbrev ExitCode := Nat

def ExitCode.success : ExitCode := 0
def ExitCode.failure : ExitCode := 1
def ExitCode.usage : ExitCode := 2
def ExitCode.engineFailure : ExitCode := 2

namespace Session

def need (n : Need) : Session n.Supply :=
  .question n

def sayRaw (channel : Channel) (text : String) : Session Unit :=
  .remark <| .raw channel text

section

variable [Console]

def say (channel : Channel) (markup : String) : Session Unit := do
  .remark <| .line channel (← Console.read markup)

def info (message : String) : Session Unit :=
  say .out (Console.styled "info" message)

def succeed (message : String) : Session Unit :=
  say .out (Console.styled "success" message)

def warn (message : String) : Session Unit :=
  say .err (Console.labelled "warning" "Warning:" message)

-- Unlike other messages, that of an error has no markup of its own.
def complain (message : String) : Session Unit :=
  say .err (Console.labelled "error" "Error:" (Console.escape message))

def hint (message : String) : Session Unit :=
  say .err ("  " ++ Console.labelled "info" "Hint:" message)

def showTable (title : String) (columns : List String) (rows : List (List String)) : Session Unit := do
  .remark <| .table (← Table.read title columns rows)

end

def refuse (command : Option Command) : CallError → Session ExitCode
  | .usage e      => do
    sayRaw .err (withoutControls (refusal command e))
    return .usage
  | .misuse cause => .done (.error (.misuse cause))

def logged (debug : Bool) (line : LogLine) : List Output :=
  if debug then [.raw .err (line.source ++ ": " ++ line.text ++ "\n")] else []

def replyWording (r : HttpRequest) :
    Except Error (Wording Output Need Need.Supply HttpReply) :=
  .ok { question := .reply r, understand := .ok }

def converse (c : Connection) (debug : Bool) (d : Engine.Conversation α) : Session α :=
  (exchange c d).reword (logged debug) replyWording

end Session
end CatalogSearch.CommandLine
