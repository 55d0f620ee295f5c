/-
# Grammars

A grammar is a table of named parser expressions that may refer to each other.  A reference is
looked up when it is run; as references can call each other without end, they are followed to a
fixed depth only.
-/
import GrammarKit.Expr.Meaning

namespace GrammarKit

/-- A table of named parser expressions. -/
structure Grammar where
  /-- The names with their expressions. -/
  rules : List (Text × Expr) := []

namespace Grammar

/-- Enters an expression under a name, in place of an earlier one. -/
def define (g : Grammar) (name : Text) (e : Expr) : Grammar :=
  ⟨(name, e) :: g.rules.filter fun rule => rule.1 != name⟩

/-- The expression under a name. -/
def rule (g : Grammar) (name : Text) : Except Fault Expr :=
  match g.rules.lookup name with
  | some e => .ok e
  | none => .error (.missingKey (.text name))

/-- The depth to which references are followed. -/
def maxDepth : Nat := 20000

/-- The parser under a name, with references followed to the given depth. -/
def resolve (g : Grammar) : Nat → Text → Parser Value
  | 0, _ => Parser.raise .tooDeep
  | depth + 1, name =>
    match g.rule name with
    | .ok e => fun input => e.parser (resolve g depth) input
    | .error fault => Parser.raise fault

/-- The parser that an expression describes together with a grammar. -/
def parser (g : Grammar) (e : Expr) : Parser Value :=
  e.parser (g.resolve maxDepth)

end Grammar

end GrammarKit
