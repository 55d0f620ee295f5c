/-
# The written form of a value

Messages and traces show values.  `Value.literal` writes a value so that its type can be seen: a
text stands between quotes, a list in brackets, a tuple in parentheses.  `Value.display` is the
form for running text: a text stands for itself, and everything else is written as a literal.
-/
import GrammarKit.Text.Quoted
import GrammarKit.Value.Basic

namespace GrammarKit.Value

/-- The items of a tuple between parentheses; a lone item is followed by a comma. -/
def parenthesized : List Text → Text
  | [item] => '(' :: item ++ [',', ')']
  | items => '(' :: Text.commaSeparated items ++ [')']

/-- The name of a verdict with the name of its type in front. -/
def verdictName : Verdict → Text
  | .ok => "ResultKind.OK".toList
  | .err => "ResultKind.ERR".toList

/-- The code of a verdict. -/
def verdictCode : Verdict → Nat
  | .ok => 0
  | .err => 1

mutual

/-- A value written so that its type can be seen. -/
def literal : Value → Text
  | .null => "None".toList
  | .bool true => "True".toList
  | .bool false => "False".toList
  | .int n => Text.ofInt n
  | .text s => Text.quoted s
  | .bytes bs => Text.quotedBytes bs
  | .list vs => '[' :: Text.commaSeparated (literals vs) ++ [']']
  | .tuple vs => parenthesized (literals vs)
  | .dict es => '\x7b' :: Text.commaSeparated (entryLiterals es) ++ ['\x7d']
  | .idNumber letter digits check =>
    "IdNumber(prefix=".toList ++ literal letter ++ ", digits=".toList ++ literal digits ++
      ", check_digit=".toList ++ literal check ++ [')']
  | .ok v rest => "Ok(val=".toList ++ literal v ++ ", rest=".toList ++ literal rest ++ [')']
  | .err m => "Err(msg=".toList ++ literal m ++ [')']
  | .verdict k => '<' :: verdictName k ++ ": ".toList ++ Text.ofNat (verdictCode k) ++ ['>']
termination_by structural v => v

/-- The literals of the items of a list. -/
def literals : List Value → List Text
  | [] => []
  | v :: vs => literal v :: literals vs
termination_by structural vs => vs

/-- The entries of a dictionary, each as its key, a colon and its value. -/
def entryLiterals : List (Value × Value) → List Text
  | [] => []
  | (k, v) :: es => (literal k ++ ": ".toList ++ literal v) :: entryLiterals es
termination_by structural es => es

end

/-- A value as it stands in running text. -/
def display : Value → Text
  | .text s => s
  | .verdict k => verdictName k
  | v => literal v

end GrammarKit.Value
