/-
# Values as sequences

A parser asks three things of its input: how long it is, which unit stands at a place, and what
remains behind the first unit.  Texts, byte sequences, lists and tuples answer all three.  A
dictionary has a length, but its places are its keys and nothing remains behind one.  No other
value has a length.
-/
import GrammarKit.Fault
import GrammarKit.Value.Equality

namespace GrammarKit.Value

/-- The number of units of a value that has a length. -/
def length? : Value → Option Nat
  | .text s => some s.length
  | .bytes bs => some bs.length
  | .list vs => some vs.length
  | .tuple vs => some vs.length
  | .dict es => some es.length
  | _ => none

/-- The number of units of a value. -/
def length (v : Value) : Except Fault Nat :=
  match v.length? with
  | some n => .ok n
  | none => .error .unsupported

/-- Whether a value has no units. -/
def isEmpty : Value → Except Fault Bool
  | .text s => .ok s.isEmpty
  | .bytes bs => .ok bs.isEmpty
  | .list vs => .ok vs.isEmpty
  | .tuple vs => .ok vs.isEmpty
  | .dict es => .ok es.isEmpty
  | _ => .error .unsupported

/-- A value is empty if its length is zero. -/
theorem isEmpty_eq (v : Value) : v.isEmpty = v.length.map fun n => decide (n = 0) := by
  have empty {α : Type} (items : List α) : items.isEmpty = decide (items.length = 0) := by
    cases items <;> simp
  cases v <;> first | rfl | exact congrArg Except.ok (empty _)

/-- The unit that was found at a place, if any. -/
def found : Option Value → Except Fault Value
  | some v => .ok v
  | none => .error .outOfRange

/-- The unit at a place, counted from zero. -/
def item (v : Value) (i : Nat) : Except Fault Value :=
  match v with
  | .text s => found (s[i]?.map unit)
  | .bytes bs => found (bs[i]?.map ofByte)
  | .list vs => found vs[i]?
  | .tuple vs => found vs[i]?
  | .dict es =>
    match lookup? (.int i) es with
    | some w => .ok w
    | none => .error (.missingKey (.int i))
  | _ => .error .unsupported

/-- What remains behind the first unit. -/
def tail : Value → Except Fault Value
  | .text s => .ok (.text s.tail)
  | .bytes bs => .ok (.bytes bs.tail)
  | .list vs => .ok (.list vs.tail)
  | .tuple vs => .ok (.tuple vs.tail)
  | _ => .error .unsupported

/-- The units of a value one after the other; those of a dictionary are its keys. -/
def units : Value → Except Fault (List Value)
  | .text s => .ok (s.map unit)
  | .bytes bs => .ok (bs.map ofByte)
  | .list vs => .ok vs
  | .tuple vs => .ok vs
  | .dict es => .ok (es.map Prod.fst)
  | _ => .error .unsupported

end GrammarKit.Value
