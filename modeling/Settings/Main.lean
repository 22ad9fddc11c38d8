import Settings.Command.Run
import Std.Time.DateTime.Timestamp

/-!
# The program

Reads the command line, the file that is to be checked and the clock, runs the command and prints
what it has to say.
-/

namespace Settings

/-- A failure with its number, which is negative where it comes from opening a file, and its text. -/
def systemFault (code : UInt32) (details : String) : File.Fault :=
  { code := if code.toInt32 < 0 then (-code.toInt32).toNatClampNeg else code.toNat
    reason := details.capitalize }

def faultOf : IO.Error → File.Fault
  | .alreadyExists _ code details | .otherError code details | .resourceBusy code details
  | .resourceVanished code details | .unsupportedOperation code details
  | .hardwareFault code details | .unsatisfiedConstraints code details
  | .illegalOperation code details | .protocolError code details | .timeExpired code details
  | .interrupted _ code details | .noFileOrDirectory _ code details
  | .invalidArgument _ code details | .permissionDenied _ code details
  | .resourceExhausted _ code details | .inappropriateType _ code details
  | .noSuchThing _ code details => systemFault code details
  | .unexpectedEof => ⟨0, "Unexpected end"⟩
  | .userError text => ⟨0, text⟩

/-- The numbers of the failures that mean that nothing is there: no entry, no directory on the way,
a bad descriptor, and too many links. -/
def absenceCodes : List Nat := [2, 20, 9, 40]

def isVisible (path : String) : IO Bool := do
  try
    discard <| IO.FS.realPath path
    return true
  catch _ => return false

def readContent (path : String) : IO File.Content := do
  let text := (File.Path.ofText path).text
  try
    return .octets (← IO.FS.readBinFile text).toList
  catch e =>
    let fault := faultOf e
    if absenceCodes.contains fault.code then return .missing
    else if ← isVisible text then return .unreadable fault
    else return .hidden fault

/-- What lies at the path of the file that a command needs. -/
def Command.Task.readContent : Command.Task → IO File.Content
  | .check c => Settings.readContent c.config
  | _ => return .missing

def timestamp : IO String := do
  let now ← Std.Time.Timestamp.now
  let micros := now.val.second.val.toNat * 1000000 + now.val.nano.val.toNat / 1000
  return ({ Moment.ofUnixMicros micros with offset := none }).text "T" ++ "Z"

/-- What is said about a failure that breaks off a command. -/
def Command.RunError.message : Command.RunError → String
  | .declaration e => e.message
  | .file e => e.message
  | .notSection e => e.message
  | .parse e => e.message
  | .extraction e => e.message
  | .document e => e.message

/-- Runs the program; the answer is its exit code. -/
def runProgram (arguments : List String) : IO UInt32 := do
  match Command.Invocation.ofArguments arguments with
  | .error (.usage e) =>
      IO.eprintln e.message
      return 2
  | .error (.level e) =>
      IO.eprintln e.message
      return 1
  | .ok invocation =>
      let content ← invocation.task.readContent
      match invocation.run content (← timestamp) with
      | .exited code output errors =>
          IO.eprint errors
          IO.print output
          return UInt32.ofNat code
      | .brokenOff e errors =>
          IO.eprint errors
          IO.eprintln e.message
          return 1

end Settings

def main (arguments : List String) : IO UInt32 :=
  Settings.runProgram arguments
