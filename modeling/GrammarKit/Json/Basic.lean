/-
# JSON documents and their text

A document is written on one line: items are separated by a comma and a blank, a key is followed
by a colon and a blank, and everything but printable ASCII is escaped.  A character beyond the
basic plane is written as the two surrogates of its UTF-16 form.
-/
import GrammarKit.Text.Basic

namespace GrammarKit

/-- A JSON document.  All its numbers are integers, and an object may hold a key twice. -/
inductive Json where
  | null
  | bool (b : Bool)
  | int (n : Int)
  | text (s : Text)
  | array (items : List Json)
  | object (entries : List (Text × Json))

namespace Json

/-- The escape of a UTF-16 code unit. -/
def unitEscape (n : Nat) : Text :=
  '\\' :: 'u' :: Text.ofHex 4 n

/-- The first code unit that is not in the basic plane of its own. -/
def planeSize : Nat := 0x10000

/-- A code point as one escaped code unit, or as two. -/
def codeEscape (n : Nat) : Text :=
  if n < planeSize then unitEscape n
  else
    unitEscape (0xD800 + (n - planeSize) / 0x400) ++ unitEscape (0xDC00 + (n - planeSize) % 0x400)

/-- One character inside a JSON string. -/
def escape (c : Char) : Text :=
  if c = '"' then ['\\', '"']
  else if c = '\\' then ['\\', '\\']
  else if c = '\n' then ['\\', 'n']
  else if c = '\r' then ['\\', 'r']
  else if c = '\t' then ['\\', 't']
  else if c = '\x08' then ['\\', 'b']
  else if c = '\x0c' then ['\\', 'f']
  else if 0x20 ≤ c.toNat ∧ c.toNat ≤ 0x7E then [c]
  else codeEscape c.toNat

/-- A JSON string. -/
def quoted (s : Text) : Text :=
  '"' :: s.flatMap escape ++ ['"']

mutual

/-- The text of a document. -/
def write : Json → Text
  | null => "null".toList
  | bool true => "true".toList
  | bool false => "false".toList
  | int n => Text.ofInt n
  | text s => quoted s
  | array items => '[' :: Text.commaSeparated (writeItems items) ++ [']']
  | object entries => '\x7b' :: Text.commaSeparated (writeEntries entries) ++ ['\x7d']
termination_by structural j => j

/-- The texts of the items of an array. -/
def writeItems : List Json → List Text
  | [] => []
  | j :: js => write j :: writeItems js
termination_by structural js => js

/-- The texts of the entries of an object. -/
def writeEntries : List (Text × Json) → List Text
  | [] => []
  | (k, j) :: es => (quoted k ++ ": ".toList ++ write j) :: writeEntries es
termination_by structural es => es

end

end Json

end GrammarKit
