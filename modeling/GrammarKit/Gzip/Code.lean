/-
# Codes of compressed data

Frequent symbols have short code words.  A code is given by the lengths of its words alone: words of
one length are consecutive numbers, in the order of their symbols, and shorter words come
first.
-/
import GrammarKit.Gzip.Bits

namespace GrammarKit.Gzip

/-- A code. -/
structure Code where
  /-- How many words there are of length one, two and so on, up to the greatest length. -/
  counts : List Nat
  /-- The symbols in the order of their words. -/
  symbols : Array Nat

namespace Code

/-- The greatest of the lengths of words, or one if there are no words. -/
def longest (lengths : List Nat) : Nat :=
  lengths.foldl max 1

/-- The code whose words have the given lengths; symbols of length zero have no word. -/
def ofLengths (lengths : List Nat) : Code where
  counts := (List.range (longest lengths)).map fun i => lengths.count (i + 1)
  symbols := ((List.range (longest lengths)).flatMap fun i =>
    (lengths.zipIdx.filter fun entry => entry.1 = i + 1).map Prod.snd).toArray

/-- How many words of the greatest length are still free, if the words do not take more room than
there is. -/
def room (code : Code) : Option Nat :=
  code.counts.foldl
    (fun room count => room.bind fun n => if count ≤ 2 * n then some (2 * n - count) else none)
    (some 1)

/-- Whether every sequence of bits begins with a word. -/
def isComplete (code : Code) : Bool :=
  code.room == some 0

/-- Whether the code is complete, has a single word of one bit, or has no word at all. -/
def isUsable (code : Code) : Bool :=
  code.isComplete || code.symbols.isEmpty ||
    (code.room.isSome && code.symbols.size = 1 && code.counts.head? = some 1)

/-- Takes a word, given the counts of the words that are longer than the bits taken so far.  Of the
next length, `first` is the least word and `word` the number that these bits are with a zero
behind them; `index` is the number of shorter words.  Bits as long as the longest word that are no
word are refused. -/
def readFrom (code : Code) (what : String) (word first index : Nat) : List Nat → BitReader Nat
  | [] => BitReader.refuse what
  | count :: counts => do
    let word := word + (← BitReader.bit).toNat
    if word < first + count then
      return code.symbols.getD (index + (word - first)) 0
    else
      readFrom code what (2 * word) (2 * (first + count)) (index + count) counts

/-- Takes a word and gives its symbol; `what` is the defect of bits that begin with no word. -/
def read (code : Code) (what : String) : BitReader Nat :=
  code.readFrom what 0 0 0 code.counts

end Code

end GrammarKit.Gzip
