/-!
# Options on a command line

An option has long names with two hyphens and possibly letters of its own behind one hyphen.  It is
a flag, or it takes a value: behind an equals sign, right behind its letter, or as the next
argument, whatever that looks like.  Two hyphens alone end the options.
-/

namespace Settings.Command

/-- Why a command line is not understood. -/
inductive UsageError where
  | noArguments
  | missingCommand
  | unknownCommand (name : String)
  | unknownOption (name : String)
  | missingValue (option : String)
  | unexpectedValue (option : String)
  | missingArgument (name : String)
  | extraArgument (text : String)
  | emptyPath
  deriving DecidableEq, Repr

def UsageError.message : UsageError → String
  | .noArguments => "Nothing to do."
  | .missingCommand => "Missing command."
  | .unknownCommand name => s!"No such command: {name}"
  | .unknownOption name => s!"No such option: {name}"
  | .missingValue option => s!"Option {option} requires an argument."
  | .unexpectedValue option => s!"Option {option} does not take a value."
  | .missingArgument name => s!"Missing argument: {name}"
  | .extraArgument text => s!"Unexpected argument: {text}"
  | .emptyPath => "The path must name at least one field."

inductive Effect (α : Type) where
  | flag (change : α → α)
  | value (change : String → α → α)

structure Rule (α : Type) where
  /-- The name behind two hyphens. -/
  name : String
  letter : Option Char := none
  effect : Effect α

def switch (name : String) (change : Bool → α → α) : List (Rule α) :=
  [{ name, effect := .flag (change true) },
   { name := "no-" ++ name, effect := .flag (change false) }]

/-- What an argument with hyphens asks for; it may still need a value. -/
inductive Request (α : Type) where
  | change (f : α → α)
  | needsValue (f : String → α → α)

def effectOfName? (rules : List (Rule α)) (name : String) : Option (Effect α) :=
  (rules.find? (·.name == name)).map Rule.effect

def effectOfLetter? (rules : List (Rule α)) (c : Char) : Option (Effect α) :=
  (rules.find? (·.letter == some c)).map Rule.effect

/-- Reads a name, with the value behind an equals sign if there is one. -/
def readName (rules : List (Rule α)) (body : List Char) : Except UsageError (Request α) :=
  let name := String.ofList (body.takeWhile (· != '='))
  match effectOfName? rules name, body.dropWhile (· != '=') with
  | none, _ => .error (.unknownOption name)
  | some (.value f), _ :: v => .ok (.change (f (String.ofList v)))
  | some (.value f), [] => .ok (.needsValue f)
  | some (.flag f), [] => .ok (.change f)
  | some (.flag _), _ :: _ => .error (.unexpectedValue name)

/-- Reads letters.  What follows the letter of an option with a value is the value. -/
def readLetters (rules : List (Rule α)) (before : α → α) : List Char → Except UsageError (Request α)
  | [] => .ok (.change before)
  | c :: rest =>
      match effectOfLetter? rules c with
      | none => .error (.unknownOption (String.singleton c))
      | some (.flag f) => readLetters rules (f ∘ before) rest
      | some (.value f) =>
          if rest.isEmpty then .ok (.needsValue fun v a => f v (before a))
          else .ok (.change (f (String.ofList rest) ∘ before))

def isOption (argument : String) : Bool :=
  match argument.toList with
  | '-' :: _ :: _ => true
  | _ => false

def readOption (rules : List (Rule α)) (argument : String) : Except UsageError (Request α) :=
  match argument.toList with
  | '-' :: '-' :: body => readName rules body
  | '-' :: letters => readLetters rules id letters
  | _ => .error (.unknownOption argument)

/-- Applies the options among arguments and gives the other arguments.  If `mixed`, options may
stand behind other arguments. -/
def readArguments (rules : List (Rule α)) (mixed : Bool) :
    List String → α → Except UsageError (α × List String)
  | [], a => .ok (a, [])
  | argument :: rest, a =>
      if argument == "--" then .ok (a, rest)
      else if isOption argument then
        match readOption rules argument with
        | .error e => .error e
        | .ok (.change f) => readArguments rules mixed rest (f a)
        | .ok (.needsValue f) =>
            match rest with
            | [] => .error (.missingValue argument)
            | v :: rest => readArguments rules mixed rest (f v a)
      else if mixed then
        (readArguments rules mixed rest a).map fun (a, others) => (a, argument :: others)
      else .ok (a, argument :: rest)

end Settings.Command
