import CatalogSearch.Value.Text

namespace CatalogSearch

inductive Misuse where
  | wrongKind  -- The step is not defined for values of this kind.
  | noSuchPart -- The value has no such operation, as a text has no members.
  | absentKey
  | badValue   -- The kind is right and the value is not.
  | tooLarge
  | noRoom     -- A value would take more memory than there is.
  | notText    -- Bytes that are not UTF-8, or halves of characters.
  | notOpen    -- A style is closed that was not opened.
  | notLiteral -- The parameters of a handler are no literal.
  | noMonth    -- A fraction of a month lies behind the last month of a year.
  | noSuchUser
  | tooDeep    -- A value is nested too deeply to be read.
  deriving DecidableEq

def Misuse.message : Misuse → String
  | wrongKind  => "a value has the wrong kind"
  | noSuchPart => "a value lacks a part or an operation"
  | absentKey  => "a key is absent"
  | badValue   => "a value is out of range"
  | tooLarge   => "a number is too large"
  | noRoom     => "a value takes too much room"
  | notText    => "something is no text"
  | notOpen    => "a style is closed that was not opened"
  | notLiteral => "the parameters of a handler are no literal"
  | noMonth    => "there is no such month"
  | noSuchUser => "a user is not known"
  | tooDeep    => "a value is nested too deeply"

inductive FileError where
  | notFound     (path : String)
  | exists       (path : String)
  | isDirectory  (path : String)
  | notDirectory (path : String)
  | nameTooLong  (path : String)
  | failed       (reason path : String)
  deriving DecidableEq

def FileError.message : FileError → String
  | .notFound path      => "[Errno 2] No such file or directory: " ++ quoted path
  | .exists path        => "[Errno 17] File exists: " ++ quoted path
  | .isDirectory path   => "[Errno 21] Is a directory: " ++ quoted path
  | .notDirectory path  => "[Errno 20] Not a directory: " ++ quoted path
  | .nameTooLong path   => "[Errno 36] File name too long: " ++ quoted path
  | .failed reason path => reason ++ ": " ++ quoted path

inductive CompileError where
  | unknownOperation (operation : Value)
  | unknownCondition (condition : Value)
  | notObject        (kind : String)
  | noChildren       (condition : Value)
  | incompleteLeaf   (missing : List String)
  deriving DecidableEq

namespace CompileError

def unknownOperationText (operation : Value) : String :=
  "Unsupported criterion operation \"" ++ operation.text ++ "\"."

def unknownConditionText (condition : Value) : String :=
  "Unsupported criteria condition \"" ++ condition.text ++ "\"."

def malformedText (detail : String) : String :=
  "Invalid search criteria format: " ++ detail

def incompleteLeafText (missing : List String) : String :=
  malformedText <| "criterion is missing " ++ ", ".intercalate missing

def message : CompileError → String
  | unknownOperation operation => unknownOperationText operation
  | unknownCondition condition => unknownConditionText condition
  | notObject kind             => malformedText <| "expected a criteria object, got " ++ kind
  | incompleteLeaf missing     => incompleteLeafText missing
  | noChildren condition       =>
    malformedText <| "composite criterion with condition " ++ condition.shown ++ " has no criteria list"

end CompileError

def leafKeys : List String := ["fieldName", "fieldValue", "operation"]

-- The needed parts that a criterion lacks. A `null` part is lacking too.
def missingLeafKeys (members : List (String × Value)) : List String :=
  leafKeys.filter fun key => (members.lookup key).getD .null = .null

inductive SettingsError where
  | unreadable (path : String)
  | invalid    (key reason : String)
  deriving DecidableEq

namespace SettingsError

def unreadableText (path : String) : String :=
  "Invalid config at " ++ path

def invalidText (key reason : String) : String :=
  "Invalid config value for '" ++ key ++ "': " ++ reason

def message : SettingsError → String
  | unreadable path    => unreadableText path
  | invalid key reason => invalidText key reason

end SettingsError

inductive Error where
  | compile               (cause : CompileError)
  | settings              (cause : SettingsError)
  | missingTransformation (code : String)
  | engine                (reply : String)
  | connection            (reason : String)
  | misuse                (cause : Misuse)
  | file                  (cause : FileError)
  deriving DecidableEq

inductive ErrorKind where
  | search
  | config
  | configNotFound
  | configParse
  | configValidation
  | queryCompile
  | unsupportedOperation
  | unsupportedCondition
  | invalidCriteriaFormat
  | invalidLeafFormat
  | responseDecode
  | missingTransformation
  | engine
  | connection
  deriving DecidableEq

namespace ErrorKind

def parent? : ErrorKind → Option ErrorKind
  | search                => none
  | config                => search
  | configNotFound        => config
  | configParse           => config
  | configValidation      => config
  | queryCompile          => search
  | unsupportedOperation  => queryCompile
  | unsupportedCondition  => queryCompile
  | invalidCriteriaFormat => queryCompile
  | invalidLeafFormat     => invalidCriteriaFormat
  | responseDecode        => search
  | missingTransformation => responseDecode
  | engine                => search
  | connection            => search

def depth : ErrorKind → Nat
  | search => 0
  | config | queryCompile | responseDecode | engine | connection => 1
  | invalidLeafFormat => 3
  | _ => 2

theorem depth_of_parent? {k p : ErrorKind} (h : k.parent? = some p) : p.depth < k.depth := by
  cases k <;> simp_all [parent?] <;> subst h <;> decide

def lineage (k : ErrorKind) : List ErrorKind :=
  match _h : k.parent? with
  | none   => [k]
  | some p => k :: lineage p
termination_by k.depth
decreasing_by exact depth_of_parent? _h

-- The message of an error of some kind made from the given parts. A kind without a message of its own
-- shows its parts as they are.
def message (kind : ErrorKind) (parts : List Value) : Except Misuse String :=
  match kind, parts with
  | configNotFound, [path]                   => .ok <| "Config file not found: " ++ path.text
  | configParse, [path, detail]              =>
    .ok <| SettingsError.unreadableText path.text ++ ": " ++ detail.text
  | configValidation, [key, _, reason]       => .ok <| SettingsError.invalidText key.text reason.text
  | unsupportedOperation, [operation]        => .ok <| CompileError.unknownOperationText operation
  | unsupportedCondition, [condition]        => .ok <| CompileError.unknownConditionText condition
  | invalidCriteriaFormat, [detail]          => .ok <| CompileError.malformedText detail.text
  | invalidLeafFormat, [.object members]     =>
    .ok <| CompileError.incompleteLeafText (missingLeafKeys members)
  | invalidLeafFormat, [_]                   => .error .noSuchPart
  | missingTransformation, [code]            =>
    .ok <| "No facet field transformation is registered for \"" ++ code.text ++ "\" attribute."
  | engine, [_, reply]                       => .ok reply.text
  | search, _ | config, _ | queryCompile, _ | responseDecode, _ | connection, _ => .ok <|
    match parts with
    | []     => ""
    | [part] => part.text
    | parts  => "(" ++ ", ".intercalate (parts.map Value.shown) ++ ")"
  | _, _ => .error .wrongKind

end ErrorKind

namespace Error

def kind? : Error → Option ErrorKind
  | compile (.unknownOperation _)      => some .unsupportedOperation
  | compile (.unknownCondition _)      => some .unsupportedCondition
  | compile (.notObject _)             => some .invalidCriteriaFormat
  | compile (.noChildren _)            => some .invalidCriteriaFormat
  | compile (.incompleteLeaf _)        => some .invalidLeafFormat
  | settings (.unreadable _)           => some .configParse
  | settings (.invalid _ _)            => some .configValidation
  | missingTransformation _            => some .missingTransformation
  | engine _                           => some .engine
  | connection _                       => some .connection
  | misuse _ | file _                  => none

def message : Error → String
  | compile cause              => cause.message
  | settings cause             => cause.message
  | missingTransformation code =>
    "No facet field transformation is registered for \"" ++ code ++ "\" attribute."
  | engine reply               => reply
  | connection reason          => reason
  | misuse cause               => cause.message
  | file cause                 => cause.message

end Error

instance : Coe CompileError Error := ⟨.compile⟩
instance : Coe SettingsError Error := ⟨.settings⟩
instance : Coe Misuse Error := ⟨.misuse⟩
instance : Coe FileError Error := ⟨.file⟩

instance : MonadLift (Except CompileError) (Except Error) := ⟨fun x => x.mapError .compile⟩
instance : MonadLift (Except SettingsError) (Except Error) := ⟨fun x => x.mapError .settings⟩
instance : MonadLift (Except Misuse) (Except Error) := ⟨fun x => x.mapError .misuse⟩
instance : MonadLift (Except FileError) (Except Error) := ⟨fun x => x.mapError .file⟩

end CatalogSearch
