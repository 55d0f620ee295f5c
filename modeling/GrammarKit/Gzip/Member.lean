/-
# Gzip files

A gzip file is a sequence of members.  A member is a header, compressed data, and the checksum and
length of what the data expands to; zeros may stand between members.  `expand` gives the data of
all members up to the first fault, in the blocks in which it is read; no block has data of two
members.

`pack` makes a file of one member that stores the data without compressing it.
-/
import GrammarKit.Gzip.Checksum
import GrammarKit.Gzip.Reads

namespace GrammarKit.Gzip

/-- A number as `width` bytes, the lowest first. -/
def littleEndian (width n : Nat) : List UInt8 :=
  (List.range width).map fun i => UInt8.ofNat (n >>> (8 * i))

/-- The number whose bytes are given, the lowest first. -/
def ofLittleEndian (bytes : List UInt8) : Nat :=
  bytes.foldr (fun b n => b.toNat + 256 * n) 0

/-- The two bytes with which every member begins. -/
def magic : List UInt8 := [0x1F, 0x8B]

/-- What stands behind the first `n` bytes. -/
def skip (n : Nat) (bytes : List UInt8) : Except Fault (List UInt8) :=
  if bytes.length < n then .error .endsEarly else .ok (bytes.drop n)

/-- What stands behind the first zero byte. -/
def skipName (bytes : List UInt8) : List UInt8 :=
  (bytes.dropWhile (· != 0)).drop 1

/-- What stands behind a part that begins with its length. -/
def skipExtra (bytes : List UInt8) : Except Fault (List UInt8) := do
  let rest ← skip 2 bytes
  skip (ofLittleEndian (bytes.take 2)) rest

/-- What stands behind the header of a member. -/
def skipHeader (bytes : List UInt8) : Except Fault (List UInt8) := do
  if bytes.take 2 ≠ magic then .error .notCompressed
  else
    let rest ← skip 10 bytes
    if bytes[2]? ≠ some 8 then .error .notCompressed
    else
      let flags := (bytes.getD 3 0).toNat
      let rest ← if flags.testBit 2 then skipExtra rest else .ok rest
      let rest := if flags.testBit 3 then skipName rest else rest
      let rest := if flags.testBit 4 then skipName rest else rest
      if flags.testBit 1 then skip 2 rest else .ok rest

/-- Checks the data of a member against its trailer, and gives what stands behind. -/
def checkTrailer (data bytes : List UInt8) : Except Fault (List UInt8) := do
  let rest ← skip 8 bytes
  if ofLittleEndian (bytes.take 4) ≠ (checksum data).toNat ∨
      ofLittleEndian ((bytes.drop 4).take 4) ≠ data.length % 0x100000000 then
    .error .notCompressed
  else .ok (rest.dropWhile (· == 0))

/-- The blocks of the data of a member, given what stands behind its header, and what stands
behind the member. -/
def readMember (body : List UInt8) : List (List UInt8) × Except Fault (List UInt8) :=
  let e := inflate body
  let (blocks, ending) := e.readsFrom body.length 0 0
  (blocks, ending.bind fun place =>
    checkTrailer (e.data.toList.map Cell.byte) (body.drop place))

/-- Expands the members of a file, of which there are at most `steps`. -/
def expandMembers : Nat → List UInt8 → Blocks
  | 0, _ => ⟨[], none⟩
  | steps + 1, bytes =>
    if bytes.isEmpty then ⟨[], none⟩
    else
      match skipHeader bytes with
      | .error fault => ⟨[], some fault⟩
      | .ok body =>
        let (blocks, ending) := readMember body
        match ending with
        | .error fault => ⟨blocks, some fault⟩
        | .ok rest => (expandMembers steps rest).after blocks

/-- The data of a file up to the first fault. -/
def expand (bytes : List UInt8) : Blocks :=
  expandMembers bytes.length bytes

/-- The greatest number of bytes in a stored block. -/
def maxStored : Nat := 0xFFFF

/-- Stores data in blocks; all but the first `steps` blocks of it are left out. -/
def storeBlocks : Nat → List UInt8 → List UInt8
  | 0, _ => []
  | steps + 1, data =>
    let piece := data.take maxStored
    let rest := data.drop maxStored
    (if rest.isEmpty then 1 else 0) :: littleEndian 2 piece.length ++
      littleEndian 2 (0xFFFF - piece.length) ++ piece ++
      if rest.isEmpty then [] else storeBlocks steps rest

/-- A file of one member that stores the data as it is. -/
def pack (data : List UInt8) : List UInt8 :=
  magic ++ [8, 0, 0, 0, 0, 0, 0, 0xFF] ++ storeBlocks (data.length + 1) data ++
    littleEndian 4 (checksum data).toNat ++ littleEndian 4 data.length

end GrammarKit.Gzip
