/-
# The bundled formats

Three formats come with the library: calendar dates, and identity numbers with any number of
digits or with six.  Every part of them has a name, so that a trace shows how far a line was
read.

* A date is `YYYY-MM-DD`, with `-` or `/` as separator.
* An identity number is a letter, a run of digits and a check digit in parentheses, as in
  `A123456(7)`.
-/
import GrammarKit.Grammar

namespace GrammarKit

namespace Format

/-! ### Characters -/

/-- The character `c` as an expression. -/
def symbol (c : Char) : Expr :=
  .char (Value.unit c)

/-- A decimal digit, as a choice between the ten of them. -/
def digit : Expr :=
  (Expr.oneOf Value.asciiDigits).named "digit".toList

/-- A decimal digit, as a unit that passes a test. -/
def anyNumber : Expr :=
  (Expr.satisfy Value.isDigits).named "any_number".toList

/-- A letter of the English alphabet. -/
def anyLetter : Expr :=
  (Expr.satisfy Value.isLetters).named "any_letter".toList

/-! ### Dates -/

/-- A number of `n` decimal digits. -/
def number (n : Nat) : Expr :=
  .fmap Value.joinedInteger (.sequence (List.replicate n digit))

/-- A year of four digits. -/
def year : Expr :=
  (number 4).named "year".toList

/-- A month of two digits. -/
def month : Expr :=
  (number 2).named "month".toList

/-- A day of two digits. -/
def day : Expr :=
  (number 2).named "day".toList

/-- The sign between the parts of a date. -/
def separator : Expr :=
  ((symbol '-').orElse (symbol '/')).named "separator".toList

/-- The dictionary of a year, a month and a day. -/
def dateOfParts : Value → Except Fault Value
  | .list [y, m, d] =>
    .ok (.dict [(.text "year".toList, y), (.text "month".toList, m), (.text "day".toList, d)])
  | _ => .error .unsupported

/-- A date. -/
def dateExpr : Expr :=
  (Expr.fmap dateOfParts
    (.sequence [year.takeFirst separator, month.takeFirst separator, day])).named "date".toList

/-! ### Identity numbers -/

/-- A digit in parentheses. -/
def checkDigit : Expr :=
  (Expr.between (symbol '(') anyNumber (symbol ')')).named "check_digit".toList

/-- The identity number of a letter, a list of digits and a check digit. -/
def idOfParts : Value → Except Fault Value
  | .tuple [.tuple [letter, digits], check] => do return .idNumber letter (← digits.join) check
  | _ => .error .unsupported

/-- An identity number with any number of digits. -/
def idExpr : Expr :=
  (Expr.fmap idOfParts ((anyLetter.andThen anyNumber.many).andThen checkDigit)).named
    "id_number".toList

/-- The identity number of a list of a letter, six digits and a check digit. -/
def strictIdOfParts (v : Value) : Except Fault Value := do
  let parts ← v.asList
  return .idNumber (← v.item 0) (← (Value.list ((parts.drop 1).take 6)).join) (← v.item 7)

/-- An identity number with six digits. -/
def strictIdExpr : Expr :=
  (Expr.fmap strictIdOfParts
    (.sequence ([anyLetter] ++ List.replicate 6 anyNumber ++ [checkDigit]))).named
    "strict_id_number".toList

end Format

/-- The formats that lines can be checked against. -/
inductive Format where
  | date
  | id
  | strictId
  deriving DecidableEq, Repr

namespace Format

/-- All formats, in the order in which they are offered. -/
def all : List Format :=
  [date, id, strictId]

/-- The name under which a format is chosen. -/
def name : Format → Text
  | date => "date".toList
  | id => "id".toList
  | strictId => "strict-id".toList

/-- The format with a name. -/
def ofName? (name : Text) : Option Format :=
  all.find? fun format => format.name == name

/-- The format with a name; an unknown name is a fault. -/
def ofName (name : Text) : Except Fault Format :=
  match ofName? name with
  | some format => .ok format
  | none => .error (.missingKey (.text name))

/-- The expression of a format. -/
def expr : Format → Expr
  | date => dateExpr
  | id => idExpr
  | strictId => strictIdExpr

/-- The expression of a format, which must match the whole line if so asked. -/
def lineExpr (format : Format) (whole : Bool) : Expr :=
  if whole then format.expr.allConsuming else format.expr

/-- The parser of a format.  It needs no grammar, as its expression has no references. -/
def parser (format : Format) (whole : Bool) : Parser Value :=
  ({} : Grammar).parser (format.lineExpr whole)

end Format

end GrammarKit
