/-
# Data in blocks

Data is read block by block, so that what can be made of a block is not held up by what comes
after it.  `Blocks` is what reading gives: the blocks in order, and the fault that cut the data
off, if there was one.  Data that lies ready is split into blocks of equal size; nothing is lost
in that.
-/
import GrammarKit.Fault

namespace GrammarKit

/-- The greatest number of bytes in a block. -/
def blockSize : Nat := 8192

theorem blockSize_pos : 0 < blockSize := by decide

/-- The blocks of some data, and the fault that cut it off, if any. -/
structure Blocks where
  /-- The blocks in order. -/
  pieces : List (List UInt8)
  /-- The fault behind the last block. -/
  cut : Option Fault := none

namespace Blocks

/-- Splits data into blocks. -/
def split (bytes : List UInt8) : List (List UInt8) :=
  if bytes.isEmpty then [] else bytes.take blockSize :: split (bytes.drop blockSize)
termination_by bytes.length
decreasing_by
  have := blockSize_pos
  cases bytes with
  | nil => contradiction
  | cons b bytes => simp only [List.length_drop, List.length_cons]; omega

/-- The blocks of data that lies ready. -/
def ofBytes (bytes : List UInt8) : Blocks where
  pieces := split bytes

/-- Puts blocks in front. -/
def after (pieces : List (List UInt8)) (b : Blocks) : Blocks :=
  { b with pieces := pieces ++ b.pieces }

/-- The data of all blocks. -/
def data (b : Blocks) : List UInt8 :=
  b.pieces.flatten

/-- The blocks of some data hold that data. -/
theorem flatten_split (bytes : List UInt8) : (split bytes).flatten = bytes := by
  fun_induction split bytes with
  | case1 bytes h => simpa using h.symm
  | case2 bytes h ih => simp [ih, List.take_append_drop]

@[simp] theorem data_ofBytes (bytes : List UInt8) : (ofBytes bytes).data = bytes :=
  flatten_split bytes

@[simp] theorem data_after (pieces : List (List UInt8)) (b : Blocks) :
    (b.after pieces).data = pieces.flatten ++ b.data := by
  simp [after, data]

end Blocks

end GrammarKit
