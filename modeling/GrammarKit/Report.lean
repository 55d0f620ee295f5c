/-
# The line that reports a result

A success is reported as `ok` with its value and the rest of the input, both as JSON, and a
failure as `err` with its message; the parts are separated by tabs.  Records are opened in
the value, but not in the rest.
-/
import GrammarKit.Json.Encode
import GrammarKit.Parser.Basic

namespace GrammarKit

namespace Result

/-- The line that reports a result. -/
def line : Result Value → Except Fault Text
  | ok v rest => do
    let value ← v.toJson true
    let rest ← rest.toJson false
    return "ok\t".toList ++ value.write ++ '\t' :: rest.write
  | err m => do return "err\t".toList ++ (← m.displayed)

end Result

namespace Parser

/-- The line that reports what a parser gives on an input. -/
def report (p : Parser Value) (input : Value) : Effect Text := do
  Effect.ofExcept (← p input).line

end Parser

end GrammarKit
