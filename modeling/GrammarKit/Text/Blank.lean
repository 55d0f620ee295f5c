/-
# Blank characters

The characters that may stand around a numeral without changing it: the blank, the five
control characters that move the print position, and the separators of the other scripts.
-/
import GrammarKit.Text.Basic

namespace GrammarKit.Text

/-- The closed ranges of code points that are blank. -/
def blanks : List (Nat × Nat) :=
  [(0x9, 0xD), (0x20, 0x20), (0x85, 0x85), (0xA0, 0xA0), (0x1680, 0x1680), (0x2000, 0x200A),
    (0x2028, 0x2029), (0x202F, 0x202F), (0x205F, 0x205F), (0x3000, 0x3000)]

/-- Whether a character may stand around a numeral. -/
def isBlank (c : Char) : Bool :=
  inRanges blanks c.toNat

end GrammarKit.Text
