/-
# Results of parsers

A parser that matches gives a value and the input that is left; one that does not match gives a
message.  A failure is an ordinary result: combinators inspect it, pass it on or recover from
it.
-/
import GrammarKit.Fault

namespace GrammarKit

/-- The result of running a parser. -/
inductive Result (α : Type) where
  /-- The parser matched: its value, and the input that is left. -/
  | ok (value : α) (rest : Value)
  /-- The parser did not match: the message that says why. -/
  | err (message : Value)

namespace Result

variable {α β : Type}

/-- Whether the result is a success. -/
def isOk : Result α → Bool
  | ok .. => true
  | err _ => false

/-- Whether the result is a failure. -/
def isErr (r : Result α) : Bool :=
  !r.isOk

/-- Applies a function to the value of a success, and leaves a failure as it is. -/
def map (f : α → Except Fault β) : Result α → Except Fault (Result β)
  | ok v rest => do return ok (← f v) rest
  | err m => .ok (err m)

/-- Puts a value in front of the values of a success. -/
def prepend (v : α) : Result (List α) → Result (List α)
  | ok vs rest => ok (v :: vs) rest
  | err m => err m

/-- Turns a success whose value does not pass a test into a failure with the given message. -/
def validate (message : Value) (test : α → Except Fault Bool) : Result α →
    Except Fault (Result α)
  | ok v rest => do return if ← test v then ok v rest else err message
  | err m => .ok (err m)

/-- The value of a success; a failure is a fault. -/
def unwrap : Result α → Except Fault α
  | ok v _ => .ok v
  | err m => .error (.raised m)

/-- The value of a success; a failure is a fault that tells it from those of other functions. -/
def expect : Result α → Except Fault α
  | ok v _ => .ok v
  | err m => .error (.rejected m)

/-- The kind of a result. -/
def verdict : Result α → Verdict
  | ok .. => .ok
  | err _ => .err

/-- The result as a value. -/
def toValue : Result Value → Value
  | ok v rest => .ok v rest
  | err m => .err m

/-- The result that a value is. -/
def ofValue? : Value → Option (Result Value)
  | .ok v rest => some (ok v rest)
  | .err m => some (err m)
  | _ => none

/-- A field of a result by its name. -/
def field (r : Result Value) (name : Text) : Except Fault Value :=
  match r, String.ofList name with
  | ok v _, "val" => .ok v
  | ok _ rest, "rest" => .ok rest
  | err m, "msg" => .ok m
  | r, "kind" => .ok (.verdict r.verdict)
  | _, _ => .error .noSuchField

end Result

end GrammarKit
