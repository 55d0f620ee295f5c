/-
# Equality of values

Two values are equal when they have the same type and equal parts, with two exceptions: a truth
value equals the number it counts as, and two dictionaries are equal when they have equal
entries, in whatever order.  A list never equals a tuple, nor a text a sequence of bytes.

The entries of a dictionary are found by this equality.
-/
import GrammarKit.Value.Basic

namespace GrammarKit.Value

mutual

/-- Whether two values are equal. -/
def equals : Value → Value → Bool
  | .null, .null => true
  | .bool b, w => w.number? == some (boolNumber b)
  | .int n, w => w.number? == some n
  | .text s, .text t => s == t
  | .bytes bs, .bytes cs => bs == cs
  | .list vs, .list ws => equalItems vs ws
  | .tuple vs, .tuple ws => equalItems vs ws
  | .dict es, .dict fs => es.length == fs.length && entriesIn es fs
  | .idNumber a b c, .idNumber a' b' c' => equals a a' && equals b b' && equals c c'
  | .ok v r, .ok w s => equals v w && equals r s
  | .err m, .err n => equals m n
  | .verdict j, .verdict k => j == k
  | _, _ => false
termination_by structural v => v

/-- Whether two lists have equal items in the same order. -/
def equalItems : List Value → List Value → Bool
  | [], [] => true
  | v :: vs, w :: ws => equals v w && equalItems vs ws
  | _, _ => false
termination_by structural vs => vs

/-- Whether every entry of the first list has an equal one in the second. -/
def entriesIn : List (Value × Value) → List (Value × Value) → Bool
  | [], _ => true
  | (k, v) :: es, fs =>
    (match fs.find? fun entry => equals k entry.1 with
      | some entry => equals v entry.2
      | none => false) && entriesIn es fs
termination_by structural es => es

end

/-- The value under a key. -/
def lookup? (key : Value) (entries : List (Value × Value)) : Option Value :=
  (entries.find? fun entry => equals key entry.1).map Prod.snd

/-- Enters a value under a key.  A key that is there already keeps its place and its spelling,
and only its value changes; a new key goes to the end. -/
def enter (key value : Value) : List (Value × Value) → List (Value × Value)
  | [] => [(key, value)]
  | (k, v) :: es => if equals key k then (k, value) :: es else (k, v) :: enter key value es

end GrammarKit.Value
