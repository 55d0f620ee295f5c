/-
# Faults

A parser that does not match its input fails with a message, and that failure is an ordinary
result.  A fault is something else: an operation was asked for what it cannot do, or a
function that was handed to a parser gave up.  A fault ends the whole run.
-/
import GrammarKit.Text.Numeral
import GrammarKit.Value.Literal

namespace GrammarKit

/-- What can be asked of a field of an immutable record, and is refused. -/
inductive FieldChange where
  | assign
  | delete
  deriving DecidableEq, Repr

/-- The causes that end a run. -/
inductive Fault where
  /-- An operation is not defined for a value of this type. -/
  | unsupported
  /-- A value of the named type cannot be the key of a dictionary. -/
  | unhashable (type : Text)
  /-- A value of the named type has no JSON form. -/
  | unserializable (type : Text)
  /-- A value of the named type cannot be the key of a JSON object. -/
  | unserializableKey (type : Text)
  /-- A value has no such field. -/
  | noSuchField
  /-- A sequence has no unit at the given place. -/
  | outOfRange
  /-- A dictionary or table has no such key. -/
  | missingKey (key : Value)
  /-- A number is too large to count with. -/
  | tooLarge
  /-- A list of more items than memory can hold was asked for. -/
  | outOfMemory
  /-- A function gave up with a message. -/
  | raised (message : Value)
  /-- A text is no numeral; it is given as it is shown. -/
  | malformedNumeral (shown : Text)
  /-- A numeral has too many digits. -/
  | oversizedNumeral (digits : Nat)
  /-- A number has too many digits to be written. -/
  | unwritable
  /-- A number has too many digits to be written in the trace. -/
  | untraceable
  /-- An item that should have been a pair has another length. -/
  | notAPair (index length : Nat)
  /-- A value that should have had two units has another number of them. -/
  | notTwo (count : Nat)
  /-- A parser failed where its value was needed. -/
  | rejected (message : Value)
  /-- A field of an immutable record was to be changed. -/
  | immutable (change : FieldChange) (field : Text)
  /-- The named parsers call each other without end. -/
  | tooDeep
  /-- There is no file of that name. -/
  | noSuchFile (name : Text)
  /-- The name is that of a directory. -/
  | isDirectory (name : Text)
  /-- There is something of that name already. -/
  | alreadyThere (name : Text)
  /-- The name goes on below a plain file. -/
  | notDirectory (name : Text)
  /-- A name holds the null character. -/
  | nullInName
  /-- A name, or a step of it, is too long. -/
  | nameTooLong (name : Text)
  /-- The bytes of a file are no UTF-8 text. -/
  | undecodable
  /-- The bytes of a file are no gzip data. -/
  | notCompressed
  /-- Gzip data ends before its end mark. -/
  | endsEarly
  /-- Gzip data breaks a rule of the format. -/
  | corrupt (what : Text)

namespace Fault

/-- The beginning of the messages about numbers with too many digits. -/
def limitExceeded : Text :=
  "Exceeds the limit (".toList ++ Text.ofNat Text.maxDigits ++
    " digits) for integer string conversion".toList

/-- The end of the messages about numbers with too many digits. -/
def raiseLimit : Text :=
  "; use sys.set_int_max_str_digits() to increase the limit".toList

/-- The message that says what went wrong. -/
def message : Fault → Text
  | unsupported => "unsupported operand".toList
  | unhashable type => "unhashable type: ".toList ++ Text.quoted type
  | unserializable type => "Object of type ".toList ++ type ++ " is not JSON serializable".toList
  | unserializableKey type =>
    "keys must be str, int, float, bool or None, not ".toList ++ type
  | noSuchField => "no such attribute".toList
  | outOfRange => "index out of range".toList
  | missingKey key => key.literal
  | tooLarge => "cannot fit 'int' into an index-sized integer".toList
  | outOfMemory => []
  | raised m => m.display
  | malformedNumeral shown => "invalid literal for int() with base 10: ".toList ++ shown
  | oversizedNumeral digits =>
    limitExceeded ++ ": value has ".toList ++ Text.ofNat digits ++ " digits".toList ++ raiseLimit
  | unwritable => limitExceeded ++ raiseLimit
  | untraceable => limitExceeded ++ raiseLimit
  | notAPair index length =>
    "dictionary update sequence element #".toList ++ Text.ofNat index ++
      " has length ".toList ++ Text.ofNat length ++ "; 2 is required".toList
  | notTwo count =>
    if count < 2 then
      "not enough values to unpack (expected 2, got ".toList ++ Text.ofNat count ++ [')']
    else "too many values to unpack (expected 2)".toList
  | rejected m => m.display
  | immutable .assign field => "cannot assign to field ".toList ++ Text.quoted field
  | immutable .delete field => "cannot delete field ".toList ++ Text.quoted field
  | tooDeep => "maximum recursion depth exceeded".toList
  | noSuchFile name => "[Errno 2] No such file or directory: ".toList ++ Text.quoted name
  | alreadyThere name => "[Errno 17] File exists: ".toList ++ Text.quoted name
  | isDirectory name => "[Errno 21] Is a directory: ".toList ++ Text.quoted name
  | notDirectory name => "[Errno 20] Not a directory: ".toList ++ Text.quoted name
  | nullInName => "embedded null byte".toList
  | nameTooLong name => "[Errno 36] File name too long: ".toList ++ Text.quoted name
  | undecodable => "invalid UTF-8 data".toList
  | notCompressed => "Not a gzipped file".toList
  | endsEarly =>
    "Compressed file ended before the end-of-stream marker was reached".toList
  | corrupt what => "Error -3 while decompressing data: ".toList ++ what

end Fault

end GrammarKit
