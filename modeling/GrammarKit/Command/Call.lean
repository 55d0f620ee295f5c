/-
# Calls of the command

A call reads its arguments and checks the lines of its sources.  What it shows are two texts, the
output and the log.  The log has the warnings of the call, and its trace if the log is a verbose
one; the first call that gets to read input fixes that for all later ones.
-/
import GrammarKit.Command.Check

namespace GrammarKit.Command

/-- How a call ends. -/
inductive Ending where
  /-- Before it read any input, with a status. -/
  | exited (status : Nat)
  /-- With the status of its check. -/
  | returned (status : Nat)
  /-- With a fault. -/
  | broke (fault : Fault)

/-- What a call shows. -/
structure Outcome where
  /-- How the call ended. -/
  ending : Ending
  /-- The text on the standard output. -/
  output : Text
  /-- The text on the standard error stream. -/
  log : Text
  /-- Whether tracing is on after the call. -/
  tracing : Bool

/-- What lives on from one call to the next. -/
structure Console where
  /-- Whether the log has the trace too, once that is fixed. -/
  verbose : Option Bool := none
  /-- Whether tracing is on. -/
  tracing : Bool := false

/-- A text with a line feed behind it. -/
def terminated (line : Text) : Text :=
  line ++ ['\n']

/-- The line that a log has for an event. -/
def logLine? (verbose : Bool) (event : Event) : Option Text :=
  match event with
  | .warned message => some ("WARNING:pycombinator:".toList ++ message)
  | event =>
    if verbose then event.trace?.map ("DEBUG:pycombinator:".toList ++ ·) else none

/-- What a call comes to that does not get to read any input. -/
def Exit.outcome (exit : Exit) (tracing : Bool) : Outcome :=
  match exit with
  | .help => ⟨.exited 0, helpPage, [], tracing⟩
  | .misuse cause => ⟨.exited 2, [], misuseLines cause.message, tracing⟩

/-- What a check comes to. -/
def outcomeOfRun (verbose : Bool) (r : Run Nat) : Outcome where
  ending :=
    match r.outcome with
    | .ok status => .returned status
    | .error fault => .broke fault
  output := (r.printed.map terminated).flatten
  log := ((r.events.filterMap (logLine? verbose)).map terminated).flatten
  tracing := r.tracing

/-- Everything that a call depends on. -/
structure Call where
  /-- The arguments. -/
  arguments : List Text
  /-- The setting of the environment for tracing. -/
  setting : Option Text := none
  /-- The contents of the files with a name. -/
  contents : Text → Except Fault Content
  /-- The bytes of the standard input. -/
  stdin : List UInt8

/-- Carries out a call. -/
def Call.run (c : Call) (console : Console) : Outcome × Console :=
  match Options.ofCall c.arguments c.setting with
  | .error exit =>
    let outcome := exit.outcome console.tracing
    (outcome, { console with tracing := outcome.tracing })
  | .ok o =>
    let verbose := console.verbose.getD o.debug
    let r := check o (Source.ofNames c.contents c.stdin o.files) console.tracing
    let outcome := outcomeOfRun verbose r
    (outcome, ⟨some verbose, outcome.tracing⟩)

end GrammarKit.Command
