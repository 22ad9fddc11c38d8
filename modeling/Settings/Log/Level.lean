import Settings.Text.Case

/-!
# Log levels

A level is a number, the higher the more urgent; some levels have names.  A name is looked up in
upper case, so it may be given in any letter case, and an unknown name means "warning".
-/

namespace Settings.Log

abbrev Level := Int

namespace Level

def debug : Level := 10
def info : Level := 20
def warning : Level := 30
def error : Level := 40
def critical : Level := 50

/-- A level by its name, or by its number if it has none. -/
def name (level : Level) : String :=
  if level = 50 then "CRITICAL"
  else if level = 40 then "ERROR"
  else if level = 30 then "WARNING"
  else if level = 20 then "INFO"
  else if level = 10 then "DEBUG"
  else if level = 0 then "NOTSET"
  else s!"Level {level}"

/-- The names under which levels can be asked for, in upper case. -/
def names : List (String × Level) :=
  [("CRITICAL", critical), ("FATAL", critical), ("ERROR", error), ("WARNING", warning),
   ("WARN", warning), ("INFO", info), ("DEBUG", debug), ("NOTSET", 0)]

end Level

/-- A name that is taken by something other than a level. -/
inductive LevelError where
  /-- The layout of plain lines. -/
  | plainLayout
  /-- The table of all layouts. -/
  | layoutTable
  deriving DecidableEq, Repr

def LevelError.message : LevelError → String
  | .plainLayout => "Unknown level: '%(levelname)s:%(name)s:%(message)s'"
  | .layoutTable =>
      "Level not an integer or a valid string: "
        ++ "\x7b'%': (<class 'logging.PercentStyle'>, '%(levelname)s:%(name)s:%(message)s'), "
        ++ "'\x7b': (<class 'logging.StrFormatStyle'>, "
        ++ "'\x7blevelname\x7d:\x7bname\x7d:\x7bmessage\x7d'), "
        ++ "'$': (<class 'logging.StringTemplateStyle'>, "
        ++ "'$\x7blevelname\x7d:$\x7bname\x7d:$\x7bmessage\x7d')\x7d"

def Level.ofText (text : String) : Except LevelError Level :=
  let key := Text.upper text
  match Level.names.find? (·.1 == key) with
  | some (_, level) => .ok level
  | none =>
      if key = "BASIC_FORMAT" then .error .plainLayout
      else if key = "_STYLES" then .error .layoutTable
      else .ok Level.warning

end Settings.Log
