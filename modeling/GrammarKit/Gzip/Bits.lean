/-
# Reading bits

Compressed data is a sequence of bits, the lowest bit of each byte first.  A bit reader takes some
of them from the front, or finds a defect: the data ends too early, or it breaks a rule of the
format.  How many bits were taken is known throughout, as it decides how much of the data must be
there for a part of it to be understood.
-/
namespace GrammarKit.Gzip

/-- A place in a sequence of bits. -/
structure Bits where
  /-- The bits behind it. -/
  left : List Bool
  /-- The number of bits before it. -/
  taken : Nat
  deriving DecidableEq, Repr

/-- What can be wrong with compressed data. -/
inductive Defect where
  /-- The data ends too early. -/
  | truncated
  /-- The data breaks a rule; the text says which.  The defect shows after `taken` bits. -/
  | corrupt (what : String) (taken : Nat)
  /-- A copy reaches back beyond the beginning of the expanded data.  It shows after `taken` bits,
  but not before there is room for what it should copy. -/
  | tooFarBack (taken : Nat)
  deriving DecidableEq, Repr

/-- A computation that takes bits from the front of a sequence. -/
abbrev BitReader := StateT Bits (Except Defect)

/-- The bits of a byte, the lowest first. -/
def byteBits (b : UInt8) : List Bool :=
  (List.range 8).map b.toNat.testBit

namespace Bits

/-- The first place in a sequence of bytes. -/
def ofBytes (bytes : List UInt8) : Bits :=
  ⟨bytes.flatMap byteBits, 0⟩

end Bits

/-- The number of bytes that some bits are spread over, if the first of them begins a byte. -/
def byteCount (bits : Nat) : Nat :=
  (bits + 7) / 8

namespace BitReader

/-- Finds a defect. -/
def refuse {α : Type} (what : String) : BitReader α :=
  fun place => .error (.corrupt what place.taken)

/-- Takes a bit. -/
def bit : BitReader Bool := fun place =>
  match place.left with
  | [] => .error .truncated
  | b :: bits => .ok (b, ⟨bits, place.taken + 1⟩)

/-- Takes a number of the given count of bits, the lowest first. -/
def number : Nat → BitReader Nat
  | 0 => pure 0
  | n + 1 => do
    let low ← bit
    return low.toNat + 2 * (← number n)

/-- Skips to the next full byte. -/
def align : BitReader Unit := fun place =>
  let start := 8 * byteCount place.taken
  .ok ((), ⟨place.left.drop (start - place.taken), start⟩)

end BitReader

end GrammarKit.Gzip
