/-
# Parsers and their combinators

A parser is a function from an input to an effect with a result.  The input is any value; what a
parser leaves of it is handed to the next one, so that a combinator decides on nothing but which
parser runs on what.

The combinators come in three groups: those that look at the input (`unit` and its instances,
`endOfInput`), those that run one parser after the other (`andThen`, `sequence`, `bind`), and
those that try one parser and then another on the same input (`alt`, `optional`).  Repetition
has a module of its own.
-/
import GrammarKit.Effect
import GrammarKit.Result
import GrammarKit.Value.Transform

namespace GrammarKit

/-- A parser for values of type `α`. -/
abbrev Parser (α : Type) := Value → Effect (Result α)

namespace Parser

variable {α β : Type}

/-! ### Messages -/

/-- The message of a parser that needs a unit and finds none. -/
def emptyInput : Value := .text "Empty input".toList

/-- The message of a choice between no parsers. -/
def noAlternatives : Value := .text "No alternatives".toList

/-- The message about a unit that does not pass a test. -/
def unsatisfied (unit : Value) : Except Fault Value := do
  return .text ((← unit.displayed) ++ " cannot satisfy the condition".toList)

/-- The message about a unit that is not the expected one. -/
def unexpected (expected unit : Value) : Except Fault Value := do
  let expected ← expected.displayed
  return .text ("Expecting ".toList ++ expected ++ ", but got ".toList ++ (← unit.displayed))

/-- The message about a unit where the input should have ended. -/
def unfinished (unit : Value) : Except Fault Value := do
  return .text ("Expecting end of input, but got ".toList ++ (← unit.displayed))

/-! ### Parsers that look at the input -/

/-- Gives a value and leaves the input untouched. -/
def succeed (v : α) : Parser α :=
  fun input => pure (.ok v input)

/-- Fails with a message, whatever the input. -/
def fail (message : Value) : Parser α :=
  fun _ => pure (.err message)

/-- Ends in a fault, whatever the input. -/
def raise (fault : Fault) : Parser α :=
  fun _ => Effect.raise fault

/-- Gives a fixed result, whatever the input. -/
def constant (result : Result α) : Parser α :=
  fun _ => pure result

/-- Takes the first unit of the input if it passes the test, and else fails with what `complaint`
says about it. -/
def unit (test : Value → Except Fault Bool) (complaint : Value → Except Fault Value) :
    Parser Value :=
  fun input => do
    if ← Effect.ofExcept input.isEmpty then
      return .err emptyInput
    let unit ← Effect.ofExcept (input.item 0)
    if ← Effect.ofExcept (test unit) then
      return .ok unit (← Effect.ofExcept input.tail)
    else
      return .err (← Effect.ofExcept (complaint unit))

/-- Takes the first unit of the input if it passes the test. -/
def satisfy (test : Value → Except Fault Bool) : Parser Value :=
  unit test unsatisfied

/-- Takes the first unit of the input if it equals the given one. -/
def char (expected : Value) : Parser Value :=
  unit (fun unit => .ok (unit.equals expected)) (unexpected expected)

/-- Succeeds where nothing is left. -/
def endOfInput : Parser Value :=
  fun input => do
    if ← Effect.ofExcept input.isEmpty then
      return .ok .null input
    else
      let unit ← Effect.ofExcept (input.item 0)
      return .err (← Effect.ofExcept (unfinished unit))

/-! ### One parser after the other -/

/-- Applies a function to the value of a parser. -/
def fmap (f : α → Except Fault β) (p : Parser α) : Parser β :=
  fun input => do Effect.ofExcept ((← p input).map f)

/-- Applies a function that is defined everywhere to the value of a parser. -/
def map (f : α → β) (p : Parser α) : Parser β :=
  p.fmap fun v => .ok (f v)

/-- Turns a success whose value does not pass a test into a failure with the given message. -/
def validate (p : Parser α) (message : Value) (test : α → Except Fault Bool) : Parser α :=
  fun input => do Effect.ofExcept ((← p input).validate message test)

/-- Goes on with the parser that a function makes from the value of another. -/
def bind (p : Parser α) (next : α → Parser β) : Parser β :=
  fun input => do
    match ← p input with
    | .ok v rest => next v rest
    | .err m => return .err m

/-- Runs two parsers one after the other and gives both values. -/
def andThen (p : Parser α) (q : Parser β) : Parser (α × β) :=
  fun input => do
    match ← p input with
    | .err m => return .err m
    | .ok v rest =>
      match ← q rest with
      | .err m => return .err m
      | .ok w rest' => return .ok (v, w) rest'

/-- Runs two parsers one after the other and gives the value of the first. -/
def takeFirst (p : Parser α) (q : Parser β) : Parser α :=
  (p.andThen q).map Prod.fst

/-- Runs two parsers one after the other and gives the value of the second. -/
def takeSecond (p : Parser α) (q : Parser β) : Parser β :=
  (p.andThen q).map Prod.snd

/-- Runs parsers one after the other and gives their values in order. -/
def sequence : List (Parser α) → Parser (List α)
  | [] => succeed []
  | p :: ps => fun input => do
    match ← p input with
    | .err m => return .err m
    | .ok v rest => Result.prepend v <$> sequence ps rest

/-- Runs one parser a number of times and gives its values in order. -/
def times (p : Parser α) : Nat → Parser (List α)
  | 0 => succeed []
  | n + 1 => fun input => do
    match ← p input with
    | .err m => return .err m
    | .ok v rest => Result.prepend v <$> times p n rest

/-- To run a parser a number of times is to run that many copies of it one after the other. -/
theorem times_eq_sequence (p : Parser α) (n : Nat) :
    p.times n = sequence (List.replicate n p) := by
  induction n with
  | zero => rfl
  | succ n ih => simp only [times, sequence, List.replicate_succ, ih]

/-- Takes the given units, one after the other, and joins them to a text. -/
def literal (units : List Value) : Parser Value :=
  (sequence (units.map char)).fmap fun vs => (Value.joinTexts vs).map .text

/-! ### One parser or another -/

/-- Tries parsers on the same input until one succeeds.  If none does, the last failure is the
result. -/
def alt : List (Parser α) → Parser α
  | [] => fail noAlternatives
  | [p] => p
  | p :: q :: ps => fun input => do
    match ← p input with
    | .ok v rest => return .ok v rest
    | .err _ => alt (q :: ps) input

/-- Gives a default value, and leaves the input untouched, where a parser fails. -/
def optional (p : Parser α) (default : α) : Parser α :=
  fun input => do
    match ← p input with
    | .ok v rest => return .ok v rest
    | .err _ => return .ok default input

/-! ### Observation -/

/-- The event that closes the trace of a named parser. -/
def closing (name : Text) : Result Value → Event
  | .ok v rest => .matched name v rest
  | .err m => .failed name m

/-- Gives a parser a name, under which its runs are traced while tracing is on.  Whether a run is
traced is decided at its start. -/
def named (p : Parser Value) (name : Text) : Parser Value :=
  fun input => do
    if ← Effect.isTracing then
      Effect.trace (.tried name input)
      let result ← p input
      Effect.trace (closing name result)
      return result
    else
      p input

/-- Records every run of a parser under a label. -/
def spy (p : Parser α) (label : Text) : Parser α :=
  fun input => do
    Effect.emit (.called label input)
    p input

/-- Turns tracing on or off and leaves the input untouched. -/
def setTracing (on : Bool) : Parser Value :=
  fun input => do
    Effect.setTracing on
    return .ok .null input

/-! ### Running a parser -/

/-- The value that a parser gives on an input; a failure is a fault. -/
def parse (p : Parser α) (input : Value) : Effect α := do
  Effect.ofExcept (← p input).expect

end Parser

end GrammarKit
