/-
# Quoted text

The written form of a text inside a message: the text between quotes, with a backslash escape
for everything that would not be visible or would end the quotes too early.  The single quote
is used unless the text has single quotes and no double ones.

A sequence of bytes is written the same way, with the letter `b` in front; of its elements
only the printable ASCII characters stand for themselves.
-/
import GrammarKit.Text.Printable

namespace GrammarKit.Text

/-- The quote that stands around a text. -/
def quoteFor (s : Text) : Char :=
  if s.contains '\x27' && !s.contains '"' then '"' else '\x27'

/-- The escapes that do not depend on what is printable: the quote in use, the backslash and the
three common control characters. -/
def shortEscape? (quote c : Char) : Option Text :=
  if c = quote ∨ c = '\\' then some ['\\', c]
  else if c = '\n' then some ['\\', 'n']
  else if c = '\r' then some ['\\', 'r']
  else if c = '\t' then some ['\\', 't']
  else none

/-- The code point of a character in hexadecimal, in the shortest of the three forms. -/
def codeEscape (c : Char) : Text :=
  if c.toNat < 0x100 then '\\' :: 'x' :: ofHex 2 c.toNat
  else if c.toNat < 0x10000 then '\\' :: 'u' :: ofHex 4 c.toNat
  else '\\' :: 'U' :: ofHex 8 c.toNat

/-- One character inside quotes. -/
def escape (quote c : Char) : Text :=
  (shortEscape? quote c).getD (if isPrintable c then [c] else codeEscape c)

/-- A text between quotes. -/
def quoted (s : Text) : Text :=
  let quote := quoteFor s
  quote :: s.flatMap (escape quote) ++ [quote]

/-- One byte inside quotes. -/
def escapeByte (quote c : Char) : Text :=
  (shortEscape? quote c).getD
    (if 0x20 ≤ c.toNat ∧ c.toNat ≤ 0x7E then [c] else codeEscape c)

/-- A sequence of bytes between quotes. -/
def quotedBytes (bytes : List UInt8) : Text :=
  let s := bytes.map fun b => Char.ofNat b.toNat
  let quote := quoteFor s
  'b' :: quote :: s.flatMap (escapeByte quote) ++ [quote]

end GrammarKit.Text
