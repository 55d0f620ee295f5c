/-
# Fingerprints

A value that can be the key of a dictionary has a fingerprint, and equal values have the same
one.  Lists and dictionaries have none, nor has anything that holds one.

The fingerprint is a value itself: numbers are reduced modulo the prime `2 ^ 61 - 1`, texts and
byte sequences are represented by their bytes, and records by the tuple of their fields.

A dictionary is built entry by entry, and an entry whose key has no fingerprint is a fault.
-/
import GrammarKit.Fault
import GrammarKit.Value.Equality

namespace GrammarKit.Value

/-- The modulus of the fingerprint of a number. -/
def fingerprintModulus : Int := 0x1FFFFFFFFFFFFFFF

/-- The fingerprint of a number.  Minus one has that of minus two. -/
def numberFingerprint (n : Int) : Value :=
  let reduced := Int.tmod n fingerprintModulus
  .int (if reduced = -1 then -2 else reduced)

/-- The lowest `width` bytes of a number, the least significant first. -/
def lowBytes (width n : Nat) : List UInt8 :=
  (List.range width).map fun i => UInt8.ofNat (n >>> (8 * i))

/-- The number of bytes that each character of a text takes: as many as its widest one needs, out
of one, two and four. -/
def characterWidth (s : Text) : Nat :=
  if s.all (·.toNat < 0x100) then 1
  else if s.all (·.toNat < 0x10000) then 2
  else 4

/-- The fingerprint of a sequence of bytes.  The empty one has that of zero. -/
def bytesFingerprint (bytes : List UInt8) : Value :=
  if bytes.isEmpty then .int 0 else .bytes bytes

/-- The fingerprint of a text. -/
def textFingerprint (s : Text) : Value :=
  let width := characterWidth s
  bytesFingerprint (s.flatMap fun c => lowBytes width c.toNat)

/-- The fingerprint of a verdict, which is that of its name. -/
def verdictFingerprint : Verdict → Value
  | .ok => textFingerprint ['O', 'K']
  | .err => textFingerprint ['E', 'R', 'R']

mutual

/-- The fingerprint of a value; a value that cannot have one is a fault, which names the first
part that stands in the way. -/
def fingerprint : Value → Except Fault Value
  | .null => .ok .null
  | .bool b => .ok (numberFingerprint (boolNumber b))
  | .int n => .ok (numberFingerprint n)
  | .text s => .ok (textFingerprint s)
  | .bytes bs => .ok (bytesFingerprint bs)
  | .list vs => .error (.unhashable (typeName (.list vs)))
  | .tuple vs => (fingerprints vs).map .tuple
  | .dict es => .error (.unhashable (typeName (.dict es)))
  | .idNumber a b c => do return .tuple [← fingerprint a, ← fingerprint b, ← fingerprint c]
  | .ok v r => do return .tuple [← fingerprint v, ← fingerprint r, verdictFingerprint .ok]
  | .err m => do return .tuple [← fingerprint m, verdictFingerprint .err]
  | .verdict k => .ok (verdictFingerprint k)
termination_by structural v => v

/-- The fingerprints of the items of a list. -/
def fingerprints : List Value → Except Fault (List Value)
  | [] => .ok []
  | v :: vs => do return (← fingerprint v) :: (← fingerprints vs)
termination_by structural vs => vs

end

/-- Inserts a value under a key that has a fingerprint; any other key is a fault. -/
def insertEntry (key value : Value) (entries : List (Value × Value)) :
    Except Fault (List (Value × Value)) :=
  key.fingerprint.map fun _ => enter key value entries

end GrammarKit.Value
