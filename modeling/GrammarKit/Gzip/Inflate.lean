/-
# Expanding compressed data

Compressed data is a sequence of blocks.  A block is stored as it is, or it is a sequence of
tokens: bytes, and copies of a piece of the data already expanded.  The tokens are written in two
codes, one for bytes and lengths and one for distances, which are fixed or given in front of the
block.

What was expanded before a defect is kept, and of every expanded byte it is known how much of the
compressed data it takes to give it.
-/
import GrammarKit.Gzip.Code

namespace GrammarKit.Gzip

/-! ### Tokens -/

/-- A step of the expansion. -/
inductive Token where
  /-- A byte. -/
  | byte (b : UInt8)
  /-- A copy of what was written `distance` bytes before. -/
  | copy (length distance : Nat)
  /-- The end of the block. -/
  | endOfBlock

/-- The codes in which the tokens of a block are written. -/
structure BlockCodes where
  /-- The code of bytes, lengths and the end of the block. -/
  main : Code
  /-- The code of distances. -/
  distance : Code

/-- Of every length symbol, the least length and the number of further bits. -/
def lengthTable : List (Nat × Nat) :=
  [(3, 0), (4, 0), (5, 0), (6, 0), (7, 0), (8, 0), (9, 0), (10, 0), (11, 1), (13, 1), (15, 1),
    (17, 1), (19, 2), (23, 2), (27, 2), (31, 2), (35, 3), (43, 3), (51, 3), (59, 3), (67, 4),
    (83, 4), (99, 4), (115, 4), (131, 5), (163, 5), (195, 5), (227, 5), (258, 0)]

/-- Of every distance symbol, the least distance and the number of further bits. -/
def distanceTable : List (Nat × Nat) :=
  [(1, 0), (2, 0), (3, 0), (4, 0), (5, 1), (7, 1), (9, 2), (13, 2), (17, 3), (25, 3), (33, 4),
    (49, 4), (65, 5), (97, 5), (129, 6), (193, 6), (257, 7), (385, 7), (513, 8), (769, 8),
    (1025, 9), (1537, 9), (2049, 10), (3073, 10), (4097, 11), (6145, 11), (8193, 12), (12289, 12),
    (16385, 13), (24577, 13)]

/-- The defect of a word that is no byte and no length. -/
def badMain : String := "invalid literal/length code"

/-- The defect of a word that is no distance. -/
def badDistance : String := "invalid distance code"

/-- The number that a symbol stands for, with its further bits. -/
def readEntry (table : List (Nat × Nat)) (symbol : Nat) (what : String) : BitReader Nat := do
  match table[symbol]? with
  | some (least, bits) => return least + (← BitReader.number bits)
  | none => BitReader.refuse what

/-- Takes a token. -/
def readToken (codes : BlockCodes) : BitReader Token := do
  let symbol ← codes.main.read badMain
  if symbol < 256 then return .byte (UInt8.ofNat symbol)
  else if symbol = 256 then return .endOfBlock
  else
    let length ← readEntry lengthTable (symbol - 257) badMain
    let distance ← readEntry distanceTable (← codes.distance.read badDistance) badDistance
    return .copy length distance

/-! ### The codes of a block -/

/-- The codes that are used where a block gives none. -/
def fixedCodes : BlockCodes where
  main := Code.ofLengths (List.replicate 144 8 ++ List.replicate 112 9 ++ List.replicate 24 7 ++
    List.replicate 8 8)
  distance := Code.ofLengths (List.replicate 32 5)

/-- The order in which the lengths of the code for lengths are given. -/
def lengthOrder : List Nat :=
  [16, 17, 18, 0, 8, 7, 9, 6, 10, 5, 11, 4, 12, 3, 13, 2, 14, 1, 15]

/-- Takes the lengths of the code for lengths, of which the first `given` are given. -/
def readLengthLengths (given : Nat) : BitReader (List Nat) := do
  let lengths ← (lengthOrder.take given).mapM fun symbol => do
    return (symbol, ← BitReader.number 3)
  return (List.range 19).map fun symbol => (lengths.lookup symbol).getD 0

/-- The defect of a repetition with nothing to repeat, or of too much. -/
def badRepeat : String := "invalid bit length repeat"

/-- What a symbol of the code for lengths stands for: a length, and how often it comes. -/
def readLengthRun (previous : Option Nat) (symbol : Nat) : BitReader (Nat × Nat) := do
  if symbol < 16 then return (symbol, 1)
  else if symbol = 16 then
    let count := 3 + (← BitReader.number 2)
    match previous with
    | some length => return (length, count)
    | none => BitReader.refuse badRepeat
  else if symbol = 17 then return (0, 3 + (← BitReader.number 3))
  else return (0, 11 + (← BitReader.number 7))

/-- Takes a symbol of the code for lengths.  In a code without words every bit is the symbol
zero. -/
def readLengthSymbol (code : Code) : BitReader Nat := do
  if code.symbols.isEmpty then
    let _ ← BitReader.bit
    return 0
  else
    code.read "invalid code lengths set"

/-- Takes lengths until there are `wanted`; those already taken come in reverse.  Every step takes
at least one, so that `steps` of them are enough. -/
def readLengths (code : Code) (wanted : Nat) : Nat → List Nat → BitReader (List Nat)
  | 0, taken => pure taken.reverse
  | steps + 1, taken => do
    if wanted ≤ taken.length then return taken.reverse
    let (length, count) ← readLengthRun taken.head? (← readLengthSymbol code)
    if wanted < taken.length + count then BitReader.refuse badRepeat
    else readLengths code wanted steps (List.replicate count length ++ taken)

/-- Takes the codes that a block gives. -/
def readCodes : BitReader BlockCodes := do
  let mains := 257 + (← BitReader.number 5)
  let distances := 1 + (← BitReader.number 5)
  let given := 4 + (← BitReader.number 4)
  if 286 < mains ∨ 30 < distances then
    BitReader.refuse "too many length or distance symbols"
  else
    let lengthCode := Code.ofLengths (← readLengthLengths given)
    if !(lengthCode.isComplete || lengthCode.symbols.isEmpty) then
      BitReader.refuse "invalid code lengths set"
    else
      let lengths ← readLengths lengthCode (mains + distances) (mains + distances) []
      let codes : BlockCodes :=
        ⟨Code.ofLengths (lengths.take mains), Code.ofLengths (lengths.drop mains)⟩
      if lengths[256]? = some 0 then
        BitReader.refuse "invalid code -- missing end-of-block"
      else if !codes.main.isUsable then
        BitReader.refuse "invalid literal/lengths set"
      else if !codes.distance.isUsable then
        BitReader.refuse "invalid distances set"
      else
        return codes

/-! ### Blocks -/

/-- An expanded byte. -/
structure Cell where
  /-- The byte itself. -/
  byte : UInt8
  /-- The number of bytes of the compressed data that it takes to give it. -/
  needs : Nat
  /-- The number of bytes of the compressed data that are used up before there is room for it. -/
  uses : Nat
  deriving DecidableEq, Repr

/-- The data expanded so far, and the place where it goes on or the defect that was found. -/
structure Expansion where
  data : Array Cell
  state : Except Defect Bits

/-- Appends a copy of what was written `distance` bytes before the end; it takes `needs` bytes of
the compressed data to give it. -/
def appendCopy (needs distance : Nat) : Nat → Array Cell → Array Cell
  | 0, data => data
  | length + 1, data =>
    let byte := (data[data.size - distance]?.map Cell.byte).getD 0
    appendCopy needs distance length (data.push ⟨byte, needs, needs⟩)

/-- Expands the tokens of a block, of which there are at most `steps`. -/
def expandTokens (codes : BlockCodes) : Nat → Array Cell → Bits → Expansion
  | 0, data, _ => ⟨data, .error .truncated⟩
  | steps + 1, data, place =>
    match (readToken codes).run place with
    | .error defect => ⟨data, .error defect⟩
    | .ok (.endOfBlock, rest) => ⟨data, .ok rest⟩
    | .ok (.byte b, rest) =>
      let needs := byteCount rest.taken
      expandTokens codes steps (data.push ⟨b, needs, needs⟩) rest
    | .ok (.copy length distance, rest) =>
      if data.size < distance then ⟨data, .error (.tooFarBack rest.taken)⟩
      else
        expandTokens codes steps (appendCopy (byteCount rest.taken) distance length data) rest

/-- Takes the number of bytes of a stored block. -/
def readStoredLength : BitReader Nat := do
  BitReader.align
  let length ← BitReader.number 16
  let complement ← BitReader.number 16
  if length + complement = 0xFFFF then return length
  else BitReader.refuse "invalid stored block lengths"

/-- Copies the bytes of a stored block.  Such a byte is not used up before there is room for it. -/
def expandStored : Nat → Array Cell → Bits → Expansion
  | 0, data, place => ⟨data, .ok place⟩
  | length + 1, data, place =>
    match (BitReader.number 8).run place with
    | .error defect => ⟨data, .error defect⟩
    | .ok (b, rest) =>
      let cell : Cell := ⟨UInt8.ofNat b, byteCount rest.taken, byteCount place.taken⟩
      expandStored length (data.push cell) rest

/-- The three forms of a block. -/
inductive Block where
  | stored (length : Nat)
  | coded (codes : BlockCodes)

/-- Takes the head of a block: whether it is the last one, and its form. -/
def readBlock : BitReader (Bool × Block) := do
  let isLast ← BitReader.bit
  match ← BitReader.number 2 with
  | 0 => return (isLast, .stored (← readStoredLength))
  | 1 => return (isLast, .coded fixedCodes)
  | 2 => return (isLast, .coded (← readCodes))
  | _ => BitReader.refuse "invalid block type"

/-- Expands a block. -/
def expandBlock (data : Array Cell) (place : Bits) : Block → Expansion
  | .stored length => expandStored length data place
  | .coded codes => expandTokens codes place.left.length data place

/-- Expands blocks up to the last one, of which there are at most `steps`. -/
def expandBlocks : Nat → Array Cell → Bits → Expansion
  | 0, data, _ => ⟨data, .error .truncated⟩
  | steps + 1, data, place =>
    match readBlock.run place with
    | .error defect => ⟨data, .error defect⟩
    | .ok ((isLast, block), rest) =>
      let e := expandBlock data rest block
      match e.state with
      | .error _ => e
      | .ok rest => if isLast then e else expandBlocks steps e.data rest

/-- Expands compressed data. -/
def inflate (bytes : List UInt8) : Expansion :=
  let start := Bits.ofBytes bytes
  expandBlocks (start.left.length + 1) #[] start

end GrammarKit.Gzip
