import Settings.Command.Options
import Settings.Log.Console

/-!
# The command line

Options for logging come first, then the name of a command and what belongs to the command.  The
console is set up before the rest of the command is read.
-/

namespace Settings.Command

structure Logging where
  level : String := "WARNING"
  form : Log.Form := .plain
  deriving DecidableEq, Repr

structure Shape where
  toggled : Bool := false
  allowUnbounded : Bool := false
  deriving DecidableEq, Repr

structure Check where
  config : String
  /-- The path of the section, as it was given. -/
  path : String
  shape : Shape
  deriving DecidableEq, Repr

inductive Task where
  /-- Print the document of a schema that consists of a backoff section. -/
  | schema (name : String) (shape : Shape)
  /-- Print the defaults of a backoff section. -/
  | defaults (toggled : Bool)
  | check (c : Check)
  deriving DecidableEq, Repr

/-- The name of the backoff section unless another one is given. -/
def standardName : String := "backoff"

def pathSegments (path : String) : List String :=
  ((path.toList.splitOn '.').filter (!·.isEmpty)).map String.ofList

namespace Line

structure Options where
  /-- The name of a section, or its path. -/
  name : String := standardName
  shape : Shape := {}

def loggingRules : List (Rule Logging) :=
  { name := "log-level", effect := .value fun v l => { l with level := v } } ::
    switch "json-logs" fun on l => { l with form := if on then .json else .plain }

def toggledRules : List (Rule Options) :=
  switch "toggled" fun on o => { o with shape := { o.shape with toggled := on } }

def unboundedRules : List (Rule Options) :=
  switch "allow-unbounded" fun on o => { o with shape := { o.shape with allowUnbounded := on } }

/-- An option for the name or the path of a section. -/
def nameRule (name : String) (letter : Option Char) : Rule Options :=
  { name, letter, effect := .value fun v o => { o with name := v } }

def schemaRules : List (Rule Options) :=
  nameRule "name" none :: (toggledRules ++ unboundedRules)

def checkRules : List (Rule Options) :=
  nameRule "path" (some 'p') :: (toggledRules ++ unboundedRules)

def refuseExtra : List String → Except UsageError Unit
  | [] => .ok ()
  | text :: _ => .error (.extraArgument text)

def readSchema (arguments : List String) : Except UsageError Task := do
  let (o, others) ← readArguments schemaRules true arguments {}
  refuseExtra others
  return .schema o.name o.shape

def readDefaults (arguments : List String) : Except UsageError Task := do
  let (o, others) ← readArguments toggledRules true arguments {}
  refuseExtra others
  return .defaults o.shape.toggled

def readCheck (arguments : List String) : Except UsageError Task := do
  let (o, others) ← readArguments checkRules true arguments {}
  match others with
  | [] => throw (.missingArgument "config")
  | config :: others =>
      refuseExtra others
      if (pathSegments o.name).isEmpty then throw .emptyPath
      return .check { config, path := o.name, shape := o.shape }

def commands : List (String × (List String → Except UsageError Task)) :=
  [("backoff-schema", readSchema), ("backoff-defaults", readDefaults),
   ("backoff-check", readCheck)]

end Line

structure Invocation where
  console : Log.Console
  task : Task

inductive LineError where
  | usage (e : UsageError)
  | level (e : Log.LevelError)
  deriving DecidableEq, Repr

def Invocation.ofArguments (arguments : List String) : Except LineError Invocation := do
  if arguments.isEmpty then throw (.usage .noArguments)
  let (logging, others) ← (readArguments Line.loggingRules false arguments {}).mapError .usage
  match others with
  | [] => throw (.usage .missingCommand)
  | name :: others =>
      match Line.commands.find? (·.1 == name) with
      | none => throw (.usage (.unknownCommand name))
      | some (_, readTask) => do
          let console ← (Log.Console.initial.setup logging.level logging.form).mapError .level
          let task ← (readTask others).mapError .usage
          return { console, task }

end Settings.Command
