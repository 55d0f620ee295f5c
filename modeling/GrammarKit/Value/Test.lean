/-
# Tests on values

The conditions that a parser can put on a unit or on the value of another parser.  Like the
functions, a test is defined for some types of values only.
-/
import GrammarKit.Value.Transform

namespace GrammarKit.Value

/-- The digits of the decimal system. -/
def asciiDigits : Text := "0123456789".toList

/-- The letters of the English alphabet, in upper and lower case. -/
def asciiLetters : Text := "ABCDEFGHIJKLMNOPQRSTUVWXYZabcdefghijklmnopqrstuvwxyz".toList

/-- Whether a value occurs in a text, as a contiguous part of it. -/
def occursIn (v : Value) (s : Text) : Except Fault Bool := do
  return Text.occursIn (← v.asText) s

/-- Whether a value is a run of consecutive decimal digits. -/
def isDigits (v : Value) : Except Fault Bool :=
  v.occursIn asciiDigits

/-- Whether a value is a run of consecutive letters. -/
def isLetters (v : Value) : Except Fault Bool :=
  v.occursIn asciiLetters

/-- Whether a number is the value of some byte of a sequence. -/
def byteOccursIn (n : Int) (bytes : List UInt8) : Except Fault Bool :=
  if 0 ≤ n ∧ n < 256 then .ok (bytes.any fun b => (b.toNat : Int) == n)
  else .error (.raised (.text "byte must be in range(0, 256)".toList))

/-- Whether a value is in a container: a part of a text or of a sequence of bytes, an item of a
list or tuple, a key of a dictionary. -/
def isIn (v container : Value) : Except Fault Bool :=
  match container with
  | .text s => v.occursIn s
  | .list vs => .ok (vs.any v.equals)
  | .tuple vs => .ok (vs.any v.equals)
  | .dict es => do
    let _ ← v.fingerprint
    return (lookup? v es).isSome
  | .bytes bs =>
    match v with
    | .bytes piece => .ok (Text.occursIn piece bs)
    | _ => do byteOccursIn (← v.asNumber) bs
  | _ => .error .unsupported

/-- Whether a number is less than a bound. -/
def isBelow (bound : Int) (v : Value) : Except Fault Bool := do
  return (← v.asNumber) < bound

/-- Whether a number is greater than a bound. -/
def isAbove (bound : Int) (v : Value) : Except Fault Bool := do
  return bound < (← v.asNumber)

/-- Whether a value has at least the given number of units. -/
def hasLength (least : Int) (v : Value) : Except Fault Bool := do
  return least ≤ (← v.length : Nat)

end GrammarKit.Value
