/-
# Parser expressions

An expression describes a parser: it says which combinators the parser is made of.  What the
expression does is `Expr.parser` in the next module; the expression itself can be inspected, so
that one can speak of the names in it or of the fragment of the language it belongs to.

Functions and tests that a parser applies are functions of this language.  The function of a
`bind` makes an expression from a value, or gives up.  A reference stands for the parser that is
known under its name when the reference is run, which allows recursive grammars.

The smaller part of the combinators is primitive; the others are defined at the end.
-/
import GrammarKit.Result
import GrammarKit.Value.Test

namespace GrammarKit

/-- The description of a parser. -/
inductive Expr where
  /-- Takes the given unit. -/
  | char (expected : Value)
  /-- Takes the given units one after the other and joins them. -/
  | literal (units : List Value)
  /-- Takes a unit that passes a test. -/
  | satisfy (test : Value → Except Fault Bool)
  /-- Takes nothing and gives a value. -/
  | succeed (v : Value)
  /-- Fails with a message. -/
  | fail (message : Value)
  /-- One parser after the other; the pair of their values. -/
  | andThen (p q : Expr)
  /-- One parser after the other; the value of the first. -/
  | takeFirst (p q : Expr)
  /-- One parser after the other; the value of the second. -/
  | takeSecond (p q : Expr)
  /-- Parsers one after the other; the list of their values. -/
  | sequence (ps : List Expr)
  /-- One parser a number of times; the list of its values. -/
  | times (n : Nat) (p : Expr)
  /-- The first of some parsers that succeeds. -/
  | alt (ps : List Expr)
  /-- A parser as often as it makes progress, but at least a number of times. -/
  | manyM (least : Int) (p : Expr)
  /-- A parser, or a default value where it fails. -/
  | optional (p : Expr) (default : Value)
  /-- Succeeds where nothing is left. -/
  | endOfInput
  /-- Applies a function to the value of a parser. -/
  | fmap (f : Value → Except Fault Value) (p : Expr)
  /-- Goes on with the parser that a function makes of the value of another. -/
  | bind (p : Expr) (next : Value → Except Fault Expr)
  /-- Fails with a message where the value of a parser does not pass a test. -/
  | validate (p : Expr) (message : Value) (test : Value → Except Fault Bool)
  /-- A parser with a name for the trace. -/
  | named (p : Expr) (name : Text)
  /-- The parser that is known under a name. -/
  | ref (name : Text)
  /-- A parser whose runs are recorded under a label. -/
  | spy (p : Expr) (label : Text)
  /-- Turns tracing on or off. -/
  | setTracing (on : Bool)
  /-- Gives a fixed result. -/
  | constant (result : Result Value)
  /-- A value that stands where a parser is needed; running it is a fault. -/
  | misfit (v : Value)

namespace Expr

/-- The name of the expression itself, not that of its parts. -/
def name? : Expr → Option Text
  | named _ name => some name
  | _ => none

/-! ### Derived combinators -/

/-- The first of two parsers, or the second where the first fails. -/
def orElse (p q : Expr) : Expr :=
  alt [p, q]

/-- The value of a parser that stands between two others. -/
def between (p q r : Expr) : Expr :=
  takeFirst (takeSecond p q) r

/-- A parser as often as it makes progress. -/
def many (p : Expr) : Expr :=
  manyM 0 p

/-- A parser as often as it makes progress, but at least once. -/
def many1 (p : Expr) : Expr :=
  manyM 1 p

/-- A parser that must leave nothing. -/
def allConsuming (p : Expr) : Expr :=
  takeFirst p endOfInput

/-- Takes a text.  One character is taken as a unit, anything else as a literal. -/
def word : Text → Expr
  | [c] => char (Value.unit c)
  | s => literal (s.map Value.unit)

/-- Takes one of the characters of a text; the first that matches is taken. -/
def oneOf (s : Text) : Expr :=
  alt (s.map fun c => word [c])

/-- What a value stands for as an alternative of a choice: a text is taken literally, and nothing
else is a parser. -/
def ofAlternative : Value → Expr
  | .text s => word s
  | v => misfit v

/-! ### Expressions made from values -/

/-- Takes the units of a value one after the other. -/
def spell (v : Value) : Except Fault Expr := do
  return literal (← v.units)

/-- The choice between the units of a value. -/
def anyUnit (v : Value) : Except Fault Expr := do
  return alt ((← v.units).map ofAlternative)

/-- A parser as many times as a value says; not at all if that is a negative number. -/
def copies (p : Expr) (v : Value) : Except Fault Expr := do
  return times (← Value.count (← v.toInteger)) p

/-- The parser that a table has for a value, or else a default. -/
def select (table : List (Text × Expr)) (default : Expr) (v : Value) : Except Fault Expr := do
  let _ ← v.fingerprint
  match v with
  | .text s => return (table.lookup s).getD default
  | _ => return default

end Expr

end GrammarKit
