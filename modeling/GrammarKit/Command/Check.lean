/-
# Checking lines against a format

The command runs the parser of a format on every line of its sources and prints a report on each.
At the end it warns if some lines failed, and says so by its status.  A source that is cut off
ends the command with the fault, after the reports on the lines that were there.

Tracing is on or off as the options say while lines are checked, and as it was before after that.
-/
import GrammarKit.Command.Options
import GrammarKit.Command.Source
import GrammarKit.Report

namespace GrammarKit.Command

/-- How many lines were checked, and how many of them failed. -/
structure Tally where
  lines : Nat := 0
  failed : Nat := 0
  deriving DecidableEq, Repr

namespace Tally

/-- The tally of two parts together. -/
def add (s t : Tally) : Tally :=
  ⟨s.lines + t.lines, s.failed + t.failed⟩

/-- The tally of one line. -/
def ofResult (r : Result Value) : Tally :=
  ⟨1, if r.isErr then 1 else 0⟩

end Tally

/-- Checks a line and prints the report on it. -/
def checkLine (p : Parser Value) (line : Text) : Effect Tally := do
  let r ← p (.text line)
  Effect.emit (.printed (← Effect.ofExcept r.line))
  return Tally.ofResult r

/-- Checks lines one after the other. -/
def checkLines (p : Parser Value) : List Text → Effect Tally
  | [] => pure {}
  | line :: lines => do
    let t ← checkLine p line
    t.add <$> checkLines p lines

/-- Checks the lines of a source, and ends in the fault that cut it off. -/
def checkSource (p : Parser Value) (s : Source) : Effect Tally := do
  let t ← checkLines p s.lines
  match s.cut with
  | none => return t
  | some fault => Effect.raise fault

/-- Checks the lines of sources one after the other. -/
def checkSources (p : Parser Value) : List Source → Effect Tally
  | [] => pure {}
  | s :: sources => do
    let t ← checkSource p s
    t.add <$> checkSources p sources

/-- The warning that some lines failed. -/
def summary (t : Tally) (format : Format) : Text :=
  Text.ofNat t.failed ++ " of ".toList ++ Text.ofNat t.lines ++
    " lines failed to parse as ".toList ++ format.name

/-- Checks the lines of sources as the options say.  The status is one if some lines failed, and
zero otherwise. -/
def check (o : Options) (sources : List Source) : Effect Nat := do
  let t ← Effect.withTracing o.debug (checkSources (o.format.parser o.whole) sources)
  if 0 < t.failed then
    Effect.emit (.warned (summary t o.format))
    return 1
  else
    return 0

end GrammarKit.Command
