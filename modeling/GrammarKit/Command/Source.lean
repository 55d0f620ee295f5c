/-
# Sources of lines

The lines to check come from files and from the standard input, as UTF-8 text.  A file whose name
ends in `.gz` is expanded first.  Reading a source gives lines and possibly a fault behind them:
the lines that were certain before the fault are still there.

Text is read in blocks.  A block that is no UTF-8 ends the source, and only the lines that came to
their end before that block are certain.  A character that the data breaks off in is noticed only
when no further block comes.
-/
import GrammarKit.Command.Content
import GrammarKit.Text.Lines
import GrammarKit.Text.Utf8

namespace GrammarKit.Command

/-- What a source gives: lines, and the fault that cut them off, if any. -/
structure Source where
  lines : List Text
  cut : Option Fault := none

namespace Source

/-- The lines of data in blocks. -/
def ofBlocks (b : Blocks) : Source :=
  match Text.Utf8.decodeBlocks [] b.pieces, b.cut with
  | .invalid s, _ => ⟨Text.certainLines s, some .undecodable⟩
  | .whole s, none => ⟨Text.lines s, none⟩
  | .whole s, some f => ⟨Text.certainLines s, some f⟩
  | .truncated s _, none => ⟨Text.certainLines s, some .undecodable⟩
  | .truncated s _, some f => ⟨Text.certainLines s, some f⟩

/-- The lines of bytes that lie ready. -/
def ofBytes (bytes : List UInt8) : Source :=
  ofBlocks (Blocks.ofBytes bytes)

/-- The lines of a file with the given name and content. -/
def ofFile (name : Text) (content : Content) : Source :=
  ofBlocks (content.blocks (".gz".toList.isSuffixOf name))

/-- The lines of the file with a name, given a way to get its content. -/
def ofName (contents : Text → Except Fault Content) (name : Text) : Source :=
  match contents name with
  | .ok content => ofFile name content
  | .error fault => ⟨[], some fault⟩

/-- The sources with the given names.  A dash stands for what has not yet been read of the
standard input, which is all of it the first time and nothing after that. -/
def ofNames (contents : Text → Except Fault Content) (stdin : List UInt8) :
    List Text → List Source
  | [] => []
  | name :: names =>
    if name = ['-'] then ofBytes stdin :: ofNames contents [] names
    else ofName contents name :: ofNames contents stdin names

end Source

end GrammarKit.Command
