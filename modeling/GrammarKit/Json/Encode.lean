/-
# Values as JSON documents

Numbers, truth values, texts and the absent value have a JSON form, and so have lists, tuples and
dictionaries of such values; the keys of a dictionary become texts.  Sequences of bytes and
verdicts have none.

A record has a JSON form only where records may be opened: it then stands for the dictionary of
its fields.  As the kind of a result is one of its fields, and a verdict, no result has a JSON
form.  Opening a record opens every record inside it at once, also in the keys of dictionaries;
a record in a key is a fault, since a dictionary cannot be a key.

A number that has no numeral has no JSON form either.
-/
import GrammarKit.Json.Basic
import GrammarKit.Value.Fingerprint
import GrammarKit.Value.Written

namespace GrammarKit

namespace Value

/-- The entry of a record's field in the dictionary of its fields. -/
def fieldEntry (name : String) (v : Value) : Value × Value :=
  (.text name.toList, v)

mutual

/-- A value with every record in it replaced by the dictionary of its fields. -/
def openRecords : Value → Except Fault Value
  | .list vs => (openItems vs).map .list
  | .tuple vs => (openItems vs).map .tuple
  | .dict es => (openEntries es).map .dict
  | .idNumber letter digits check => do
    return .dict [fieldEntry "prefix" (← openRecords letter),
      fieldEntry "digits" (← openRecords digits), fieldEntry "check_digit" (← openRecords check)]
  | .ok v rest => do
    return .dict [fieldEntry "val" (← openRecords v), fieldEntry "rest" (← openRecords rest),
      fieldEntry "kind" (.verdict .ok)]
  | .err m => do
    return .dict [fieldEntry "msg" (← openRecords m), fieldEntry "kind" (.verdict .err)]
  | .null => .ok .null
  | .bool b => .ok (.bool b)
  | .int n => .ok (.int n)
  | .text s => .ok (.text s)
  | .bytes bs => .ok (.bytes bs)
  | .verdict k => .ok (.verdict k)
termination_by structural v => v

/-- The items of a list with their records opened. -/
def openItems : List Value → Except Fault (List Value)
  | [] => .ok []
  | v :: vs => do return (← openRecords v) :: (← openItems vs)
termination_by structural vs => vs

/-- The entries of a dictionary with their records opened. -/
def openEntries : List (Value × Value) → Except Fault (List (Value × Value))
  | [] => .ok []
  | (k, v) :: es => do
    let key ← openRecords k
    let value ← openRecords v
    let _ ← key.fingerprint
    return (key, value) :: (← openEntries es)
termination_by structural es => es

end

/-- The dictionary of the fields of a record; every other value is a fault. -/
def recordFields (v : Value) : Except Fault Value :=
  match v with
  | .idNumber .. | .ok .. | .err _ => v.openRecords
  | _ => .error (.unserializable v.typeName)

/-- The text that a value is as the key of an object. -/
def keyText : Value → Except Fault Text
  | .text s => .ok s
  | .int n => (Value.int n).written
  | .bool true => .ok "true".toList
  | .bool false => .ok "false".toList
  | .null => .ok "null".toList
  | v => .error (.unserializableKey v.typeName)

/-- The fault of a result that is opened: its kind has no JSON form. -/
def kindFault (k : Verdict) : Except Fault Json :=
  .error (.unserializable (typeName (.verdict k)))

/-- Whether a record may be opened: records must be allowed to, and none may stand in a key. -/
def checkRecord (opens : Bool) (v : Value) : Except Fault Unit :=
  if opens then v.openRecords.map fun _ => () else .error (.unserializable v.typeName)

variable (opens : Bool)

mutual

/-- The JSON form of a value; `opens` says whether records may be opened. -/
def toJson : Value → Except Fault Json
  | .null => .ok .null
  | .bool b => .ok (.bool b)
  | .int n => if Text.hasNumeral n then .ok (.int n) else .error .unwritable
  | .text s => .ok (.text s)
  | .bytes bs => .error (.unserializable (typeName (.bytes bs)))
  | .list vs => (itemsToJson vs).map .array
  | .tuple vs => (itemsToJson vs).map .array
  | .dict es => (entriesToJson es).map .object
  | .idNumber letter digits check => do
    checkRecord opens (.idNumber letter digits check)
    return .object [("prefix".toList, ← toJson letter), ("digits".toList, ← toJson digits),
      ("check_digit".toList, ← toJson check)]
  | .ok v rest => do
    checkRecord opens (.ok v rest)
    let _ ← toJson v
    let _ ← toJson rest
    kindFault .ok
  | .err m => do
    checkRecord opens (.err m)
    let _ ← toJson m
    kindFault .err
  | .verdict k => kindFault k
termination_by structural v => v

/-- The JSON forms of the items of a list. -/
def itemsToJson : List Value → Except Fault (List Json)
  | [] => .ok []
  | v :: vs => do return (← toJson v) :: (← itemsToJson vs)
termination_by structural vs => vs

/-- The JSON forms of the entries of a dictionary. -/
def entriesToJson : List (Value × Value) → Except Fault (List (Text × Json))
  | [] => .ok []
  | (k, v) :: es => do
    let key ← k.keyText
    return (key, ← toJson v) :: (← entriesToJson es)
termination_by structural es => es

end

end Value

end GrammarKit
