/-
# Text as a list of characters

Everything this library reads, compares or writes is a sequence of code points, and the
parsers take such a sequence apart one element at a time.  `Text` is therefore a list of
characters, so that the list operations and their lemmas apply as they stand; a `String` only
occurs where text enters or leaves the program.

The file also has the few general operations that the standard library lacks: decimal and
hexadecimal numerals, and the test whether one text occurs inside another.
-/

namespace GrammarKit

/-- A text is the list of its code points. -/
abbrev Text := List Char

namespace Text

/-- The decimal numeral of a natural number, without leading zeros. -/
def ofNat (n : Nat) : Text :=
  Nat.toDigits 10 n

/-- The decimal numeral of an integer, with a minus sign in front of a negative one. -/
def ofInt : Int → Text
  | .ofNat n => ofNat n
  | .negSucc n => '-' :: ofNat (n + 1)

/-- The lower-case hexadecimal numeral of `n`, filled up with zeros to at least `width`
digits. -/
def ofHex (width n : Nat) : Text :=
  let digits := Nat.toDigits 16 n
  List.replicate (width - digits.length) '0' ++ digits

/-- The items of a list of texts, separated by a comma and a blank. -/
def commaSeparated (items : List Text) : Text :=
  [',', ' '].intercalate items

/-- Whether `piece` occurs in a list as a contiguous part.  The empty list occurs in every
list. -/
def occursIn {α : Type} [BEq α] (piece : List α) : List α → Bool
  | [] => piece.isEmpty
  | c :: rest => piece.isPrefixOf (c :: rest) || occursIn piece rest

/-- Whether a code point lies in one of the closed ranges of a table. -/
def inRanges (ranges : List (Nat × Nat)) (codePoint : Nat) : Bool :=
  ranges.any fun range => range.1 ≤ codePoint && codePoint ≤ range.2

end Text

end GrammarKit
