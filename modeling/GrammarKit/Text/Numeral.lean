/-
# Decimal numerals

A numeral is a run of decimal digits, of any script, with an optional sign in front.  Blanks may
stand around it, and a single underscore may stand between two digits.  A numeral with more
than 4300 digits is refused; the digits are counted before what follows them is looked at.  So
there is no numeral for a number that would need more.
-/
import GrammarKit.Text.Blank
import GrammarKit.Text.Digit

namespace GrammarKit.Text

/-- Why a text cannot be read as an integer. -/
inductive NumeralError where
  | malformed
  | oversized (digits : Nat)
  deriving DecidableEq, Repr

/-- The greatest number of digits that a numeral may have. -/
def maxDigits : Nat := 4300

/-- The least number with too many digits for a numeral. -/
def numeralBound : Nat :=
  Nat.pow 10 maxDigits

/-- Whether an integer has a numeral. -/
def hasNumeral (n : Int) : Bool :=
  n.natAbs < numeralBound

/-- Whether the text has a digit in front. -/
def startsWithDigit : Text → Bool
  | [] => false
  | c :: _ => isDecimalDigit c

/-- Whether a digit follows every underscore. -/
def spacedByDigits : Text → Bool
  | [] => true
  | c :: rest => (c != '_' || startsWithDigit rest) && spacedByDigits rest

/-- The number whose decimal digits are given, the highest first. -/
def ofDigits (digits : List Nat) : Nat :=
  digits.foldl (fun value digit => 10 * value + digit) 0

/-- The sign of a numeral, as a factor, and what follows it. -/
def splitSign : Text → Int × Text
  | '-' :: rest => (-1, rest)
  | '+' :: rest => (1, rest)
  | s => (1, s)

/-- Reads an integer. -/
def readInteger (s : Text) : Except NumeralError Int :=
  let (sign, body) := splitSign (s.dropWhile isBlank)
  let isNumeral := fun c => isDecimalDigit c || c == '_'
  let run := body.takeWhile isNumeral
  let digits := run.filterMap digitValue?
  if !(startsWithDigit run && spacedByDigits run) then .error .malformed
  else if maxDigits < digits.length then .error (.oversized digits.length)
  else if (body.dropWhile isNumeral).all isBlank then .ok (sign * ofDigits digits)
  else .error .malformed

end GrammarKit.Text
