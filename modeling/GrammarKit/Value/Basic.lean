/-
# Values

The parsers of this library are not tied to text: their input is any value that can be taken
apart from the front, and what they produce is a value again.  `Value` is the type of all of
them.  Texts, byte sequences, lists and tuples are the sequences; a dictionary keeps its entries
in the order in which their keys were first entered; `ok` and `err` are the results of parsers
used as values, and `idNumber` is the identity number of the bundled formats.
-/
import GrammarKit.Text.Basic

namespace GrammarKit

/-- The two kinds of result a parser can have. -/
inductive Verdict where
  | ok
  | err
  deriving DecidableEq, Repr

/-- A value that a parser reads or produces. -/
inductive Value where
  /-- The absence of a value. -/
  | null
  /-- A truth value.  It counts as the number one or zero where numbers are compared. -/
  | bool (b : Bool)
  /-- An integer of any size. -/
  | int (n : Int)
  /-- A text. -/
  | text (s : Text)
  /-- A sequence of bytes; its units are the numbers from 0 to 255. -/
  | bytes (bytes : List UInt8)
  /-- A list. -/
  | list (items : List Value)
  /-- A tuple.  It differs from the list with the same items. -/
  | tuple (items : List Value)
  /-- A dictionary with its entries in the order of entry. -/
  | dict (entries : List (Value × Value))
  /-- An identity number: the letter in front, the digits and the check digit. -/
  | idNumber (letter digits check : Value)
  /-- A success with its value and the input that is left. -/
  | ok (value rest : Value)
  /-- A failure with its message. -/
  | err (message : Value)
  /-- The kind of a result. -/
  | verdict (v : Verdict)

namespace Value

/-- The text that consists of a single character, which is the unit of a text. -/
def unit (c : Char) : Value :=
  .text [c]

/-- The number that a byte stands for. -/
def ofByte (b : UInt8) : Value :=
  .int b.toNat

/-- The pair of two values. -/
def pair (v w : Value) : Value :=
  .tuple [v, w]

/-- The integer that a truth value counts as. -/
def boolNumber (b : Bool) : Int :=
  if b then 1 else 0

/-- The number that a value is, if it is an integer or a truth value. -/
def number? : Value → Option Int
  | .int n => some n
  | .bool b => some (boolNumber b)
  | _ => none

/-- Whether a value counts as true: everything does but the absent value, the number zero and
what is empty. -/
def isTrue : Value → Bool
  | .null => false
  | .bool b => b
  | .int n => n != 0
  | .text s => !s.isEmpty
  | .bytes bs => !bs.isEmpty
  | .list vs => !vs.isEmpty
  | .tuple vs => !vs.isEmpty
  | .dict es => !es.isEmpty
  | _ => true

/-- The name of a value's type, as messages give it. -/
def typeName : Value → Text
  | .null => "NoneType".toList
  | .bool _ => "bool".toList
  | .int _ => "int".toList
  | .text _ => "str".toList
  | .bytes _ => "bytes".toList
  | .list _ => "list".toList
  | .tuple _ => "tuple".toList
  | .dict _ => "dict".toList
  | .idNumber .. => "IdNumber".toList
  | .ok .. => "Ok".toList
  | .err _ => "Err".toList
  | .verdict _ => "ResultKind".toList

end Value

end GrammarKit
