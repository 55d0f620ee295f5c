/-
# Contents of files

A file holds bytes.  Of a file in gzip form it is often enough to know the data that was packed in
it.  The packed form is taken to be smaller than the data, so that it never holds up reading: what
is read are then the blocks of the data itself.
-/
import GrammarKit.Gzip.Member

namespace GrammarKit.Command

/-- What a file holds. -/
inductive Content where
  /-- The given bytes. -/
  | plain (bytes : List UInt8)
  /-- The gzip form of the given data. -/
  | packed (data : List UInt8)

namespace Content

/-- The blocks in which a file is read, with its gzip form expanded or as it is. -/
def blocks (expands : Bool) : Content → Blocks
  | plain bytes => if expands then Gzip.expand bytes else Blocks.ofBytes bytes
  | packed data => Blocks.ofBytes (if expands then data else Gzip.pack data)

end Content

end GrammarKit.Command
