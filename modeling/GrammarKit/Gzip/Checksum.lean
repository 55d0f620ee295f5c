/-
# The checksum of compressed data

The 32-bit cyclic redundancy check: the remainder of the data, read as a polynomial over the field
of two elements, modulo a fixed polynomial.  Bits are taken from the lowest of each byte to the
highest.
-/
namespace GrammarKit.Gzip

/-- The polynomial modulo which the remainder is taken, without its leading term and with its bits
reversed. -/
def crcPolynomial : UInt32 := 0xEDB88320

/-- Takes one bit into the remainder. -/
def crcBit (r : UInt32) : UInt32 :=
  if r &&& 1 = 1 then (r >>> 1) ^^^ crcPolynomial else r >>> 1

/-- Takes a byte into the remainder. -/
def crcByte (r : UInt32) (b : UInt8) : UInt32 :=
  Nat.repeat crcBit 8 (r ^^^ b.toUInt32)

/-- The checksum of a sequence of bytes. -/
def checksum (bytes : List UInt8) : UInt32 :=
  bytes.foldl crcByte 0xFFFFFFFF ^^^ 0xFFFFFFFF

end GrammarKit.Gzip
