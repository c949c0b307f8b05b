import CatalogSearch.CommandLine.Program
import CatalogSearch.Console.Drawing
import CatalogSearch.Console.Terminal
import CatalogSearch.Files.Account
import Std.Time

namespace CatalogSearch.CommandLine

def fileErrorOf (path : Path) (e : IO.Error) : FileError :=
  match e with
  | .noFileOrDirectory ..       => .notFound path.text
  | .alreadyExists ..           => .exists path.text
  | .inappropriateType _ code _ => if code = 21 then .isDirectory path.text else .notDirectory path.text
  | .invalidArgument _ code _   =>
    if code = 36 then .nameTooLong path.text else .failed e.toString path.text
  | e                           => .failed e.toString path.text

def meetFileNeed (path : Path) (act : IO α) : IO (Except Error α) := do
  try
    return .ok (← act)
  catch e =>
    return .error <| .file <| fileErrorOf path e

-- No file lies below another file, so a path that leads through one is free.
def findContent (path : Path) : IO (Except Error (Option Content)) := do
  match ← meetFileNeed path (IO.FS.readBinFile path.text) with
  | .ok bytes                        => return .ok <| some <| .bytes bytes
  | .error (.file (.notFound _))     => return .ok none
  | .error (.file (.notDirectory _)) => return .ok none
  | .error e                         => return .error e

def isPresent (path : Path) : IO (Except Error Bool) := do
  match ← findContent path with
  | .ok content => return .ok content.isSome
  | .error (.file (.nameTooLong p)) => return .error <| .file <| .nameTooLong p
  | .error _    => return .ok true

partial def confirm (question : String) : IO (Option Bool) := do
  IO.print (Terminal.promptOf question)
  (← IO.getStdout).flush
  let line ← (← IO.getStdin).getLine
  if line.isEmpty then return none
  match Terminal.answerOf? line with
  | some answer => return some answer
  | none        =>
    IO.print Terminal.complaint
    confirm question

def meetNeed : (n : Need) → IO (Except Error n.Supply)
  | .content path          => findContent path
  | .presence path         => isPresent path
  | .makeDirectory path    => meetFileNeed path (IO.FS.createDirAll path.text)
  | .write path text       => meetFileNeed path (IO.FS.writeFile path.text text)
  | .confirmation question => return .ok (← confirm question)
  | .reply _               => return .ok (.failure "there is no connection to a network")

def display (color : Bool) (output : Output) : IO Unit :=
  match output.draw color with
  | (.out, text) => IO.print text
  | (.err, text) => IO.eprint text

def serve (color : Bool) : Session α → IO (Except Error α)
  | .done outcome         => return outcome
  | .note .colorOff rest  => serve false rest
  | .note output rest     => do
    display color output
    serve color rest
  | .ask n next           => do serve color (next (← meetNeed n))

def today : IO (Except Misuse Date) := do
  let date := (← Std.Time.PlainDate.now)
  return Date.of date.year date.month.val.toNat date.day.val.toNat

def homes : IO (List (String × Path)) := do
  try
    return Account.homes (← IO.FS.readFile "/etc/passwd")
  catch _ =>
    return []

end CatalogSearch.CommandLine

open CatalogSearch CommandLine in
def main (arguments : List String) : IO UInt32 := do
  let directory := Path.ofText (← IO.currentDir).toString
  let home := (← IO.getEnv "HOME").getD directory.text
  match ← today with
  | .error _   => return 1
  | .ok today  =>
    let surroundings := {
      places := .ofHome home directory (← homes), noColor := (← IO.getEnv "NO_COLOR").isSome, today }
    match ← serve (← (← IO.getStdout).isTty) (CommandLine.run surroundings arguments Markup.terminal) with
    | .ok code => return code.toUInt32
    | .error e =>
      IO.eprintln <| "Unexpected error: " ++ e.message
      return 1
