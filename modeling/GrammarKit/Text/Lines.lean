/-
# Lines

A line ends with a line feed, a carriage return, or the two in this order; nothing else ends one.
The marks do not belong to the line.

Text can break off before its end is known.  The lines that are certain are then those whose end
has been seen, and a carriage return in last place is no certain end yet, as a line feed may
follow.
-/
import GrammarKit.Text.Basic

namespace GrammarKit.Text

/-- Puts a character in front of the first line, or of the unfinished rest if there is no line. -/
def pushOnFirst (c : Char) : List Text × Text → List Text × Text
  | (line :: lines, rest) => ((c :: line) :: lines, rest)
  | ([], rest) => ([], c :: rest)

/-- Puts an empty line in front. -/
def pushEmpty : List Text × Text → List Text × Text
  | (lines, rest) => ([] :: lines, rest)

/-- The lines of a text whose ends are certain, and the unfinished rest behind them. -/
def splitLines : Text → List Text × Text
  | [] => ([], [])
  | ['\r'] => ([], ['\r'])
  | '\r' :: '\n' :: s => pushEmpty (splitLines s)
  | c :: s =>
    if c = '\r' ∨ c = '\n' then pushEmpty (splitLines s) else pushOnFirst c (splitLines s)

/-- The lines whose ends are certain. -/
def certainLines (s : Text) : List Text :=
  (splitLines s).1

/-- The last line of a text, which needs no end mark. -/
def lastLine (rest : Text) : List Text :=
  if rest.isEmpty then [] else [rest.filter (· != '\r')]

/-- The lines of a text that has come to its end. -/
def lines (s : Text) : List Text :=
  (splitLines s).1 ++ lastLine (splitLines s).2

end GrammarKit.Text
