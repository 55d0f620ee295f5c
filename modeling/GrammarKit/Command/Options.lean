/-
# The options of a call

The arguments of a call are read from left to right.  The first words that stand together are the
format and the files; any word behind a later switch is of no use.  The double dash itself is
dropped where it stands before or behind the format or among the files.

A call is refused at the first argument that is wrong in itself; that no format was given, and
that some arguments are of no use, is found at the end.
-/
import GrammarKit.Command.Argument

namespace GrammarKit.Command

/-- What a call asks for. -/
structure Options where
  /-- The format that lines are checked against. -/
  format : Format
  /-- The names of the files to read; a dash stands for the standard input. -/
  files : List Text
  /-- Whether the parsers are traced. -/
  debug : Bool
  /-- Whether the whole line must match. -/
  whole : Bool

/-- Why a call does not get to read any input. -/
inductive Exit where
  /-- The call asked for help. -/
  | help
  /-- The call is wrong. -/
  | misuse (cause : Misuse)

/-- What has been read of the arguments. -/
structure Reading where
  /-- The format, once it is known. -/
  format : Option Format := none
  /-- Whether the words behind the format still go on. -/
  collects : Bool := false
  /-- The words behind the format. -/
  files : List Text := []
  /-- Whether the switch for traces was given. -/
  debug : Bool := false
  /-- Whether the switch for whole lines was given. -/
  whole : Bool := false
  /-- The arguments that are of no use. -/
  unused : List Text := []

/-- The double dash. -/
def doubleDash : Text := ['-', '-']

namespace Reading

/-- Takes a word. -/
def takeWord (r : Reading) (s : Text) : Except Exit Reading :=
  match r.format with
  | none =>
    match Format.ofName? s with
    | some format => .ok { r with format := some format, collects := true }
    | none => .error (.misuse (.badFormat s))
  | some _ =>
    if r.collects then .ok { r with files := r.files ++ [s] }
    else .ok { r with unused := r.unused ++ [s] }

/-- Takes the double dash; `last` says whether nothing follows it. -/
def takeSeparator (r : Reading) (last : Bool) : Reading :=
  if r.format.isNone then
    if last then { r with unused := r.unused ++ [doubleDash] } else r
  else if !r.collects then { r with unused := r.unused ++ [doubleDash] }
  else if r.files.isEmpty then r
  else { r with files := r.files ++ [doubleDash] }

/-- Takes what is attached to the short switch for help.  The switch may be repeated in one
argument, but nothing else may be attached to it. -/
def takeAttached : Text → Exit
  | ['h'] => .help
  | 'h' :: c :: s => takeAttached (c :: s)
  | s => .misuse (.attachment .help s)

/-- Takes the short switch for help. -/
def takeShort : Option Text → Exit
  | none => .help
  | some s => takeAttached s

/-- Takes a switch, which ends the words behind the format. -/
def takeLong (r : Reading) (switch : Switch) (attached : Option Text) : Except Exit Reading :=
  match attached, switch with
  | some s, _ => .error (.misuse (.attachment switch s))
  | none, .help => .error .help
  | none, .debug => .ok { r with debug := true, collects := false }
  | none, .all => .ok { r with whole := true, collects := false }

/-- Takes arguments one after the other. -/
def takeAll (r : Reading) : List Argument → Except Exit Reading
  | [] => .ok r
  | .word s :: rest => do takeAll (← r.takeWord s) rest
  | .separator :: rest => takeAll (r.takeSeparator rest.isEmpty) rest
  | .long switch attached :: rest => do takeAll (← r.takeLong switch attached) rest
  | .short attached :: _ => .error (takeShort attached)
  | .unknown s :: rest => takeAll { r with unused := r.unused ++ [s], collects := false } rest

/-- The files to read: the words behind the format without the first double dash, and the standard
input if there are none. -/
def inputs (r : Reading) : List Text :=
  match r.files.erase doubleDash with
  | [] => [['-']]
  | files => files

/-- The options that were read. -/
def finish (r : Reading) : Except Exit Options :=
  match r.format with
  | none => .error (.misuse .noFormat)
  | some format =>
    if r.unused.isEmpty then .ok ⟨format, r.inputs, r.debug, r.whole⟩
    else .error (.misuse (.unrecognized r.unused))

end Reading

namespace Options

/-- The options that the arguments of a call ask for. -/
def ofArguments (arguments : List Text) : Except Exit Options :=
  match Argument.classifyAll arguments with
  | .error cause => .error (.misuse cause)
  | .ok classified =>
    match ({} : Reading).takeAll classified with
    | .error exit => .error exit
    | .ok r => r.finish

/-- Whether a setting of the environment turns tracing on: it does unless it is empty or zero. -/
def settingIsOn (setting : Option Text) : Bool :=
  match setting with
  | none => false
  | some s => s != [] && s != ['0']

/-- The options of a call, with the setting of the environment for tracing. -/
def ofCall (arguments : List Text) (setting : Option Text) : Except Exit Options :=
  (ofArguments arguments).map fun o => { o with debug := o.debug || settingIsOn setting }

end Options

end GrammarKit.Command
