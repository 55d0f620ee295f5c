/-
# Expanded data in blocks

Compressed data is read and expanded in turns.  In every turn at most one block of compressed data
is taken, and at most one block of expanded data comes out of it; a turn ends where the taken data
has nothing more to give, or where there is no room for more.  What there was no room for is given
in the next turn.

A defect spoils the turn in which it shows, and nothing of that turn is given.  Data that ends too
early is noticed only in a turn that gives nothing.
-/
import GrammarKit.Blocks
import GrammarKit.Gzip.Inflate

namespace GrammarKit.Gzip

namespace Expansion

/-- The cells that can be given behind the first `given` ones, with `limit` bytes of the compressed
data at hand and room for one block. -/
def available (e : Expansion) (given limit : Nat) : List Cell :=
  (e.data.extract given (given + blockSize)).toList.takeWhile (·.needs ≤ limit)

theorem length_available_le (e : Expansion) (given limit : Nat) :
    (e.available given limit).length ≤ e.data.size - given := by
  have h := (List.takeWhile_sublist (·.needs ≤ limit)
    (l := (e.data.extract given (given + blockSize)).toList)).length_le
  simp only [Array.length_toList, Array.size_extract] at h
  unfold available
  omega

/-- How the expansion ends, if that shows with `limit` bytes of the compressed data at hand: with
the number of bytes that belong to it, or with a fault. -/
def ending? (e : Expansion) (limit : Nat) (hasRoom : Bool) : Option (Except Fault Nat) :=
  match e.state with
  | .ok place =>
    if byteCount place.taken ≤ limit then some (.ok (byteCount place.taken)) else none
  | .error .truncated => none
  | .error (.corrupt what taken) =>
    if byteCount taken ≤ limit then some (.error (.corrupt what.toList)) else none
  | .error (.tooFarBack taken) =>
    if byteCount taken ≤ limit && hasRoom then
      some (.error (.corrupt "invalid distance too far back".toList))
    else none

/-- How much of the compressed data is used up by a turn that has given all but the cells from
`given` on: all that was at hand, unless a cell waits for room. -/
def used (e : Expansion) (given limit : Nat) (hasRoom : Bool) : Nat :=
  match e.data[given]? with
  | some cell => if hasRoom then limit else min limit cell.uses
  | none => limit

/-- The blocks that come out of an expansion in turns, and how it ends.  The first `given` cells are
out, and `start` of the `total` bytes of compressed data are used up. -/
def readsFrom (e : Expansion) (total given start : Nat) : List (List UInt8) × Except Fault Nat :=
  let limit := min (start + blockSize) total
  let cells := e.available given limit
  let hasRoom := cells.length < blockSize
  let next := given + cells.length
  let ending := if next < e.data.size then none else e.ending? limit hasRoom
  let block := cells.map Cell.byte
  match ending with
  | some (.error fault) => ([], .error fault)
  | some (.ok place) => (if block.isEmpty then [] else [block], .ok place)
  | none =>
    if cells.isEmpty then
      if start < limit then readsFrom e total given limit
      else ([], .error .endsEarly)
    else
      let (blocks, ending) := readsFrom e total next (e.used next limit hasRoom)
      (block :: blocks, ending)
termination_by (e.data.size - given, total - start)
decreasing_by
  · exact Prod.Lex.right _ (by omega)
  · rename_i h
    have hle := e.length_available_le given limit
    have hpos : 0 < (e.available given limit).length := by
      rw [List.length_pos_iff]
      simpa using h
    exact Prod.Lex.left _ _ (Nat.sub_lt_sub_left (by omega) (Nat.lt_add_of_pos_right hpos))

end Expansion

end GrammarKit.Gzip
