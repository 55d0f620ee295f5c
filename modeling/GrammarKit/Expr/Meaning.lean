/-
# The meaning of parser expressions

`Expr.parser` gives the parser that an expression describes, combinator by combinator.  What a
reference stands for is a parameter.
-/
import GrammarKit.Expr.Basic
import GrammarKit.Parser.Repetition

namespace GrammarKit.Expr

variable (resolve : Text → Parser Value)

mutual

/-- The parser that an expression describes. -/
def parser : Expr → Parser Value
  | char expected => Parser.char expected
  | literal units => Parser.literal units
  | satisfy test => Parser.satisfy test
  | succeed v => Parser.succeed v
  | fail message => Parser.fail message
  | andThen p q => ((parser p).andThen (parser q)).map fun (v, w) => Value.pair v w
  | takeFirst p q => (parser p).takeFirst (parser q)
  | takeSecond p q => (parser p).takeSecond (parser q)
  | sequence ps => (Parser.sequence (parsers ps)).map Value.list
  | times n p => ((parser p).times n).map Value.list
  | alt ps => Parser.alt (parsers ps)
  | manyM least p => (Parser.manyM least (parser p)).map Value.list
  | optional p default => (parser p).optional default
  | endOfInput => Parser.endOfInput
  | fmap f p => (parser p).fmap f
  | bind p next => (parser p).bind fun v => parserOrFault (next v)
  | validate p message test => (parser p).validate message test
  | named p name => (parser p).named name
  | ref name => resolve name
  | spy p label => (parser p).spy label
  | setTracing on => Parser.setTracing on
  | constant result => Parser.constant result
  | misfit _ => Parser.raise .noSuchField
termination_by structural e => e

/-- The parsers that some expressions describe. -/
def parsers : List Expr → List (Parser Value)
  | [] => []
  | p :: ps => parser p :: parsers ps
termination_by structural es => es

/-- The parser of an expression that a function has made, or the fault it ended in. -/
def parserOrFault : Except Fault Expr → Parser Value
  | .ok e => parser e
  | .error fault => Parser.raise fault
termination_by structural made => made

end

/-- Each expression of a list has its parser at its place. -/
theorem parsers_eq_map (es : List Expr) : parsers resolve es = es.map (parser resolve) := by
  induction es with
  | nil => rfl
  | cons e es ih => rw [parsers, ih, List.map_cons]

end GrammarKit.Expr
