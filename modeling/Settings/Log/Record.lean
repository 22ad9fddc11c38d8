import Settings.Log.Level
import Settings.Value.Text

/-!
# Log records

A record is what one call wants to be logged.  Operations that log return their records beside
their result, in the order in which they were made; whoever runs the operation decides where the
records go.
-/

namespace Settings.Log

structure Failure where
  kind : String
  text : String
  deriving DecidableEq, Repr

/-- A failure in one line; without a text only its kind. -/
def Failure.shown (f : Failure) : String :=
  if f.text.isEmpty then f.kind else f.kind ++ ": " ++ f.text

structure Record where
  logger : String
  level : Level
  message : String
  extra : Value := .null
  failure : Option Failure := none

/-- The logger of the whole library; others lie below it. -/
def rootLogger : String := "ConfigSpec"

def loggerFor (area : String) : String := rootLogger ++ "." ++ area

def Record.debug (area message : String) : Record :=
  { logger := loggerFor area, level := .debug, message }

def Record.info (area message : String) : Record :=
  { logger := loggerFor area, level := .info, message }

def Record.error (area message : String) : Record :=
  { logger := loggerFor area, level := .error, message }

/-- The names in a list, as messages show them. -/
def namesShown (names : List String) : String :=
  (Value.list (names.map .str)).shown

end Settings.Log

namespace Settings

/-- The result of an operation and the records it made. -/
structure Journal (ε α : Type) where
  records : List Log.Record
  result : Except ε α

namespace Journal

/-- A result without records. -/
def ofExcept (x : Except ε α) : Journal ε α := ⟨[], x⟩

def note (r : Log.Record) : Journal ε Unit := ⟨[r], .ok ()⟩

def notes (rs : List Log.Record) : Journal ε Unit := ⟨rs, .ok ()⟩

/-- Goes on with the result; after a failure nothing more happens. -/
def bind (x : Journal ε α) (f : α → Journal ε β) : Journal ε β :=
  match x.result with
  | .error e => ⟨x.records, .error e⟩
  | .ok a => ⟨x.records ++ (f a).records, (f a).result⟩

instance : Monad (Journal ε) where
  pure a := ⟨[], .ok a⟩
  bind := bind

instance : MonadLift (Except ε) (Journal ε) where
  monadLift := ofExcept

def mapError (f : ε → δ) (x : Journal ε α) : Journal δ α :=
  ⟨x.records, x.result.mapError f⟩

@[simp] theorem result_pure (a : α) : (pure a : Journal ε α).result = .ok a := rfl

@[simp] theorem result_note (r : Log.Record) : (note r : Journal ε Unit).result = .ok () := rfl

@[simp] theorem result_notes (rs : List Log.Record) :
    (notes rs : Journal ε Unit).result = .ok () := rfl

@[simp] theorem result_ofExcept (x : Except ε α) : (ofExcept x).result = x := rfl

/-- The result of a sequence does not depend on the records. -/
theorem result_bind (x : Journal ε α) (f : α → Journal ε β) :
    (x >>= f).result = x.result.bind fun a => (f a).result := by
  show (bind x f).result = _
  cases h : x.result <;> simp [bind, h, Except.bind]

end Journal

end Settings
