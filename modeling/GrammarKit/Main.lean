/-
# The command line program

Checks the lines of files, or of the standard input, against one of the bundled formats.  Only
this module touches the outside: it reads what a call can ask for, lets `Call.run` decide
everything, and writes the two texts of the outcome.
-/
import GrammarKit.Command.Call

namespace GrammarKit.Command

/-- The number of a system error, which can come with either sign. -/
def errorNumber (code : UInt32) : Nat :=
  min code.toNat (-code).toNat

/-- The fault of a file that could not be read. -/
def faultOfError (name : Text) : IO.Error → Option Fault
  | .noFileOrDirectory .. => some (.noSuchFile name)
  | .noSuchThing .. => some (.noSuchFile name)
  | .inappropriateType _ code _ =>
    some (if errorNumber code = 20 then .notDirectory name else .isDirectory name)
  | .invalidArgument _ code _ =>
    if errorNumber code = 36 then some (.nameTooLong name) else none
  | _ => none

/-- The content of a file, or the fault that stands for it. -/
def readFile (name : Text) : IO (Except Fault Content) := do
  try
    return .ok (.plain (← IO.FS.readBinFile (String.ofList name)).toList)
  catch error =>
    match faultOfError name error with
    | some fault => return .error fault
    | none => throw error

/-- The contents of all files that a call can read, each under its name. -/
def readFiles (names : List Text) : IO (List (Text × Except Fault Content)) :=
  (names.filter (· != ['-'])).mapM fun name => do return (name, ← readFile name)

/-- The remaining bytes of a stream, behind those already read. -/
partial def readStream (stream : IO.FS.Stream) (done : ByteArray) : IO ByteArray := do
  let piece ← stream.read 8192
  if piece.isEmpty then return done
  else readStream stream (done ++ piece)

/-- The bytes of the standard input, if a call reads it. -/
def readInput (names : List Text) : IO (List UInt8) := do
  if names.contains ['-'] then
    return (← readStream (← IO.getStdin) .empty).toList
  else
    return []

/-- The names of the sources that the arguments of a call ask for. -/
def sourceNames (arguments : List Text) : List Text :=
  match Options.ofArguments arguments with
  | .ok o => o.files
  | .error _ => []

/-- The status with which the program ends. -/
def statusOf : Ending → UInt32
  | .exited status => UInt32.ofNat status
  | .returned status => UInt32.ofNat status
  | .broke _ => 1

/-- The line about a fault that ended the program. -/
def faultLine : Ending → Text
  | .broke fault => terminated fault.message
  | _ => []

/-- Carries out the call with the given arguments. -/
def runProgram (arguments : List Text) : IO UInt32 := do
  let names := sourceNames arguments
  let files ← readFiles names
  let setting := (← IO.getEnv "PYCOMBINATOR_DEBUG").map String.toList
  let call : Call :=
    { arguments, setting
      contents := fun name => (files.lookup name).getD (.error (.noSuchFile name))
      stdin := ← readInput names }
  let (outcome, _) := call.run {}
  (← IO.getStdout).putStr (String.ofList outcome.output)
  (← IO.getStderr).putStr (String.ofList (outcome.log ++ faultLine outcome.ending))
  return statusOf outcome.ending

end GrammarKit.Command

/-- The program: checks lines as its arguments say. -/
def main (arguments : List String) : IO UInt32 :=
  GrammarKit.Command.runProgram (arguments.map String.toList)
