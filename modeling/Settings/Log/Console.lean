import Settings.Json.Writer
import Settings.Log.Record
import Settings.Log.Template

/-!
# Writing log records

The console of the library has a level and handlers in order.  Setting it up replaces the handlers
that earlier set-ups have left and keeps those that others have added.  Records of the library's own
loggers are written by the handlers of set-ups, as plain lines or as JSON.
-/

namespace Settings.Log

inductive Form where
  | plain
  | json
  deriving DecidableEq, Repr

/-- Where a handler writes to. -/
inductive Stream where
  | standardError
  | named (name : String)
  deriving DecidableEq, Repr

inductive Handler where
  /-- Comes from a set-up. -/
  | managed (form : Form) (stream : Stream)
  /-- Comes from elsewhere and has a name of its own. -/
  | foreign (name : String)
  deriving DecidableEq, Repr

def Handler.isManaged : Handler → Bool
  | .managed .. => true
  | .foreign _ => false

structure Console where
  level : Level
  handlers : List Handler
  deriving DecidableEq, Repr

namespace Console

/-- The console before anything is set up. -/
def initial : Console := ⟨0, []⟩

/-- Puts a new handler behind the others. -/
def push (c : Console) (h : Handler) : Console :=
  { c with handlers := c.handlers ++ [h] }

/-- Takes a handler away, if it is there. -/
def remove (c : Console) (h : Handler) : Console :=
  { c with handlers := c.handlers.erase h }

/-- Adds a handler that comes from elsewhere, unless it is there. -/
def addForeign (c : Console) (name : String) : Console :=
  if c.handlers.contains (.foreign name) then c else c.push (.foreign name)

def removeForeign (c : Console) (name : String) : Console := c.remove (.foreign name)

def foreign (c : Console) : List Handler := c.handlers.filter (!·.isManaged)

def managed (c : Console) : List Handler := c.handlers.filter Handler.isManaged

end Console

/-- Work on the console.  What was done before a failure stays done. -/
abbrev Work := EStateM LevelError Console

namespace Work

def setLevel (levelText : String) : Work Unit :=
  match Level.ofText levelText with
  | .ok level => modify ({ · with level })
  | .error e => throw e

/-- Takes a handler away if it comes from a set-up. -/
def removeManaged (h : Handler) : Work Unit := do
  if h.isManaged then modify (·.remove h)

/-- Sets the level that a text asks for and puts a new handler behind those that are kept.  It
writes to standard error unless there is another stream for it. -/
def setup (levelText : String) (form : Form) (stream : Option Stream) : Work Unit := do
  setLevel levelText
  (← get).handlers.forM removeManaged
  modify (·.push (.managed form (stream.getD .standardError)))

end Work

namespace Console

/-- The console after a set-up, if that succeeds. -/
def setup (c : Console) (levelText : String) (form : Form) (stream : Option Stream := none) :
    Except LevelError Console :=
  match (Work.setup levelText form stream).run c with
  | .ok _ c => .ok c
  | .error e _ => .error e

/-- The lowest level that is written; a level of zero leaves it at warnings. -/
def threshold (c : Console) : Level := if c.level = 0 then .warning else c.level

end Console

/-- Whether a logger is the library's or lies below it. -/
def isOwnLogger (name : String) : Bool :=
  name == rootLogger || (rootLogger ++ ".").toList.isPrefixOf name.toList

def endLine (s : String) : String := if s.toList.getLast? == some '\n' then s else s ++ "\n"

/-- A record as a plain line, with its failure on a line of its own. -/
def Record.plainText (r : Record) : String :=
  let line := s!"{r.level.name}: {r.message}"
  match r.failure with
  | none => line
  | some f => endLine line ++ f.shown

/-- The members of a record's JSON object.  Those of the record itself can be replaced, but not its
failure. -/
def Record.members (timestamp : String) (r : Record) : Entries :=
  let own : Entries :=
    [(.str "timestamp", .str timestamp), (.str "level", .str r.level.name),
     (.str "logger", .str r.logger), (.str "message", .str r.message)]
  let extra : Entries := match r.extra with
    | .map entries => entries
    | _ => []
  let all := extra.foldl (fun es e => Entries.put es e.1 e.2) own
  match r.failure with
  | none => all
  | some f => Entries.put all (.str "exc_info") (.str f.shown)

/-- A record as a JSON object on one line, if it can be written. -/
def Record.jsonText? (timestamp : String) (r : Record) : Option String :=
  Json.write? .oneLine 0 (.map (r.members timestamp))

def Handler.text (timestamp : String) (r : Record) : Handler → String
  | .managed .plain _ => r.plainText ++ "\n"
  | .managed .json _ => ((r.jsonText? timestamp).map (· ++ "\n")).getD ""
  | .foreign _ => ""

namespace Console

def accepts (c : Console) (r : Record) : Bool :=
  isOwnLogger r.logger && decide (c.threshold ≤ r.level)

def text (c : Console) (timestamp : String) (r : Record) : String :=
  if c.accepts r then String.join (c.handlers.map (Handler.text timestamp r)) else ""

def textOfAll (c : Console) (timestamp : String) (rs : List Record) : String :=
  String.join (rs.map (c.text timestamp))

/-- What is written for a record whose message is a template with values in it. -/
def textOfTemplate (c : Console) (timestamp : String) (r : Record) (values : List Value) : String :=
  match message? r.message values with
  | some message => c.text timestamp { r with message }
  | none => ""

end Console

end Settings.Log
