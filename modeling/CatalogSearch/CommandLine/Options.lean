import CatalogSearch.CommandLine.Usage
import CatalogSearch.Files.Path
import CatalogSearch.Text.Integer

namespace CatalogSearch.CommandLine

structure OptionForm (κ : Type) where
  key        : κ
  names      : List String
  takesValue : Bool := false

structure Given (κ : Type) where
  options : List (κ × Option String) := []
  rest    : List String := []

-- The options that one argument gives. The last one may wait for its value, under the name it was given by.
structure Reading (κ : Type) where
  options : List (κ × Option String) := []
  waiting : Option (κ × String) := none

namespace Given

variable {κ : Type} [DecidableEq κ]

def has (g : Given κ) (key : κ) : Bool :=
  g.options.any (·.1 = key)

def values (g : Given κ) (key : κ) : List String :=
  g.options.filterMap fun (k, value) => if k = key then value else none

def value? (g : Given κ) (key : κ) : Option String :=
  (g.values key).getLast?

def keys (g : Given κ) : List κ :=
  (g.options.map (·.1)).eraseDups

end Given

namespace OptionForm

variable {κ : Type}

def isLong (name : String) : Bool :=
  2 < name.length

def find? (forms : List (OptionForm κ)) (name : String) : Option (OptionForm κ) :=
  forms.find? (·.names.contains name)

def readShort (forms : List (OptionForm κ)) : List Char → Except UsageError (Reading κ)
  | []      => .ok {}
  | c :: cs =>
    let name := String.ofList ['-', c]
    match find? forms name with
    | none      => .error <| .noSuchOption name
    | some form =>
      if form.takesValue then
        match cs with
        | [] => .ok { waiting := some (form.key, name) }
        | cs => .ok { options := [(form.key, some (String.ofList cs))] }
      else do
        let rest ← readShort forms cs
        return { rest with options := (form.key, none) :: rest.options }

def readArgument (forms : List (OptionForm κ)) (argument : String) : Except UsageError (Reading κ) :=
  let cs := argument.toList
  let name := String.ofList (cs.takeWhile (· ≠ '='))
  let value? := (cs.dropWhile (· ≠ '=')).tail?.map String.ofList
  match if isLong name then find? forms name else none, value? with
  | some form, some value =>
    if form.takesValue then .ok { options := [(form.key, some value)] } else .error <| .unwantedValue name
  | some form, none =>
    if form.takesValue then .ok { waiting := some (form.key, name) }
    else .ok { options := [(form.key, none)] }
  | none, _ =>
    match cs with
    | '-' :: '-' :: _ => .error <| .noSuchOption name
    | _               => readShort forms cs.tail

def isOption (argument : String) : Bool :=
  match argument.toList with
  | '-' :: _ :: _ => true
  | _             => false

-- Reads arguments. Options may stand between other arguments if they are mixed, else the first other
-- argument ends them. An option that waits for its value takes whatever comes next.
def readAll (forms : List (OptionForm κ)) (mixed : Bool) :
    Option (κ × String) → List String → Except UsageError (Given κ)
  | some (_, name), []              => .error <| .missingArgument name
  | some (key, _), value :: rest    => do
    let given ← readAll forms mixed none rest
    return { given with options := (key, some value) :: given.options }
  | none, []                        => .ok {}
  | none, argument :: rest          =>
    if argument = "--" then .ok { rest }
    else if isOption argument then do
      let reading ← readArgument forms argument
      let given ← readAll forms mixed reading.waiting rest
      return { given with options := reading.options ++ given.options }
    else if mixed then do
      let given ← readAll forms mixed none rest
      return { given with rest := argument :: given.rest }
    else .ok { rest := argument :: rest }

def read (forms : List (OptionForm κ)) (mixed : Bool) (arguments : List String) :
    Except UsageError (Given κ) :=
  readAll forms mixed none arguments

end OptionForm

def numberOf (option : String) (least : Int) (text : String) : Except UsageError Int :=
  match Integer.read? text with
  | none   => .error <| .invalidValue (quoted option) (quoted text ++ " is not a valid integer range.")
  | some n =>
    if least ≤ n then .ok n
    else .error <| .invalidValue (quoted option)
      (intText n ++ " is not in the range x>=" ++ intText least ++ ".")

def checkPath (text : String) : Except Misuse Unit :=
  if Path.isNameable text then .ok () else .error .badValue

def pairOf (option : String) (text : String) : Except UsageError (String × String) :=
  match text.toList.takeWhile (· ≠ '='), (text.toList.dropWhile (· ≠ '=')).tail? with
  | c :: cs, some value => .ok (String.ofList (c :: cs), String.ofList value)
  | _, _                => .error <| .invalidValue option ("expected CODE=VALUE, got " ++ quoted text)

end CatalogSearch.CommandLine
