/-
# Functions on values

The functions that a parser can apply to the value of another: joining the units of a sequence
to one text, reading a number, picking a unit, arithmetic.  Each is defined for some types of
values only and gives a fault for the others.
-/
import GrammarKit.Text.Numeral
import GrammarKit.Value.Fingerprint
import GrammarKit.Value.Sequence

namespace GrammarKit.Value

/-! ### Texts -/

/-- The text that a value is. -/
def asText : Value → Except Fault Text
  | .text s => .ok s
  | _ => .error .unsupported

/-- The texts that the items of a list are, joined to one. -/
def joinTexts (items : List Value) : Except Fault Text := do
  return (← items.mapM asText).flatten

/-- Joins the units of a value, which must be texts. -/
def join (v : Value) : Except Fault Value := do
  return .text (← joinTexts (← v.units))

/-- The upper-case form of a letter of the English alphabet. -/
def upperLetter (c : Char) : Char :=
  if 'a' ≤ c ∧ c ≤ 'z' then Char.ofNat (c.toNat - 32) else c

/-- The character that a value is as a text. -/
def asCharacter : Value → Except Fault Char
  | .text [c] => .ok c
  | _ => .error .unsupported

/-- A text, or a list or tuple of characters, in upper case. -/
def upper : Value → Except Fault Value
  | .text s => .ok (.text (s.map upperLetter))
  | .list vs => do return .text ((← vs.mapM asCharacter).map upperLetter)
  | .tuple vs => do return .text ((← vs.mapM asCharacter).map upperLetter)
  | _ => .error .unsupported

/-! ### Numbers -/

/-- At most this many characters of a refused numeral are shown. -/
def shownLimit : Nat := 200

/-- The integer that a text denotes; a refusal shows the text as given. -/
def readNumeral (s shown : Text) : Except Fault Int :=
  match Text.readInteger s with
  | .ok n => .ok n
  | .error .malformed => .error (.malformedNumeral (shown.take shownLimit))
  | .error (.oversized digits) => .error (.oversizedNumeral digits)

/-- The characters of a sequence of bytes.  A byte that is no ASCII character stands for a
question mark, which no numeral holds. -/
def asciiText (bytes : List UInt8) : Text :=
  bytes.map fun b => if b.toNat < 0x80 then Char.ofNat b.toNat else '?'

/-- The integer that a value is or denotes. -/
def toInteger : Value → Except Fault Int
  | .int n => .ok n
  | .bool b => .ok (boolNumber b)
  | .text s => readNumeral s (Text.quoted s)
  | .bytes bs => readNumeral (asciiText bs) (Text.quotedBytes (bs.take shownLimit))
  | _ => .error .unsupported

/-- The integer that a value is or denotes, as a value. -/
def integer (v : Value) : Except Fault Value :=
  v.toInteger.map .int

/-- The integer that the units of a value denote together. -/
def joinedInteger (v : Value) : Except Fault Value :=
  v.join >>= integer

/-- The number that a value counts as. -/
def asNumber (v : Value) : Except Fault Int :=
  match v.number? with
  | some n => .ok n
  | none => .error .unsupported

/-- The negative of a number. -/
def negate (v : Value) : Except Fault Value := do
  return .int (-(← v.asNumber))

/-- The sum of the units of a value. -/
def total (v : Value) : Except Fault Value := do
  return .int ((← (← v.units).mapM asNumber).foldl (· + ·) 0)

/-- The greatest number that can count something. -/
def maxCount : Int := 0x7FFFFFFFFFFFFFFF

/-- The greatest number of items in a list.  A longer one would not fit into memory, where an item
takes eight bytes. -/
def maxItems : Int := 0x1FFFFFFFF

/-- How many items a list gets that is to have `n` of them: none if `n` is negative. -/
def count (n : Int) : Except Fault Nat :=
  if n < -maxCount - 1 ∨ maxCount < n then .error .tooLarge
  else if maxItems < n then .error .outOfMemory
  else .ok n.toNat

/-- Applies one of the operators `+`, `-` and `*` to two numbers.  The operands are looked at
first; then the operator is looked up in the table of the three, in which nothing but the three
texts is found. -/
def applyOperator (operator left right : Value) : Except Fault Value := do
  let m ← left.asNumber
  let n ← right.asNumber
  match operator with
  | .text ['+'] => return .int (m + n)
  | .text ['-'] => return .int (m - n)
  | .text ['*'] => return .int (m * n)
  | _ =>
    let _ ← operator.fingerprint
    .error (.missingKey operator)

/-- The two units that a value has. -/
def two (v : Value) : Except Fault (Value × Value) := do
  match ← v.units with
  | [first, second] => return (first, second)
  | units => .error (.notTwo units.length)

/-- Applies the operators of a list to their operands, from the left. -/
def applyAll : Value → List Value → Except Fault Value
  | left, [] => .ok left
  | left, link :: links => do
    let (operator, right) ← link.two
    applyAll (← applyOperator operator left right) links

/-- The value of a chain: a first operand with a list of operators and further operands. -/
def chain (v : Value) : Except Fault Value := do
  let (left, links) ← v.two
  applyAll left (← links.units)

/-! ### Sequences -/

/-- The length of a value, as a value. -/
def size (v : Value) : Except Fault Value := do
  return .int (← v.length)

/-- The first unit. -/
def first (v : Value) : Except Fault Value :=
  v.item 0

/-- The second unit. -/
def second (v : Value) : Except Fault Value :=
  v.item 1

/-- The list that a value is. -/
def asList : Value → Except Fault (List Value)
  | .list vs => .ok vs
  | _ => .error .unsupported

/-- Of a pair of a value and a list, the list with the value in front. -/
def prepend (v : Value) : Except Fault Value := do
  let head ← v.first
  return .list (head :: (← (← v.second).asList))

/-- The units of a sequence in reverse order. -/
def reversed : Value → Except Fault Value
  | .text s => .ok (.text s.reverse)
  | .bytes bs => .ok (.bytes bs.reverse)
  | .list vs => .ok (.list vs.reverse)
  | .tuple vs => .ok (.tuple vs.reverse)
  | _ => .error .unsupported

/-- Enters pairs into a dictionary one after the other; `index` counts them. -/
def enterPairs (entries : List (Value × Value)) (index : Nat) :
    List Value → Except Fault (List (Value × Value))
  | [] => .ok entries
  | v :: vs => do
    match ← v.units with
    | [key, value] => enterPairs (← insertEntry key value entries) (index + 1) vs
    | units => .error (.notAPair index units.length)

/-- The dictionary with the pairs of a value as its entries. -/
def dictionary : Value → Except Fault Value
  | .dict es => .ok (.dict es)
  | v => do return .dict (← enterPairs [] 0 (← v.units))

end GrammarKit.Value
