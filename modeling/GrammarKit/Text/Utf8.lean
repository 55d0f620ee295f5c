/-
# Reading UTF-8

Bytes are read as the UTF-8 form of a text.  A character takes one to four bytes; the first one
says how many, and every further one lies between `0x80` and `0xBF`.  Four first bytes narrow the
range of the second, so that no character has two forms, no surrogate has one, and nothing lies
beyond the last code point.

Bytes that break off inside a character, but are in order up to there, are told from bytes that
are no UTF-8: what is missing may still come.  Of a surrogate the first two bytes count as such a
beginning, and only the third one shows that it is none.

Bytes that come in blocks are read block by block, each together with what the one before it left
unfinished.  A block that is no UTF-8 gives no text, not even in part.
-/
import GrammarKit.Text.Basic

namespace GrammarKit.Text

/-- What reading bytes comes to. -/
inductive Decoded where
  /-- The bytes are a text. -/
  | whole (s : Text)
  /-- The bytes are a text and the beginning of one more character. -/
  | truncated (s : Text) (unfinished : List UInt8)
  /-- The bytes are no UTF-8; only the text of earlier blocks can be told. -/
  | invalid (s : Text)
  deriving DecidableEq, Repr

namespace Decoded

/-- Puts a character in front of what bytes come to; bytes that are no UTF-8 have no text that it
could stand in front of. -/
def push (c : Char) : Decoded → Decoded
  | whole s => whole (c :: s)
  | truncated s unfinished => truncated (c :: s) unfinished
  | invalid s => invalid s

/-- Puts the text of earlier blocks in front. -/
def after (earlier : Text) : Decoded → Decoded
  | whole s => whole (earlier ++ s)
  | truncated s unfinished => truncated (earlier ++ s) unfinished
  | invalid s => invalid (earlier ++ s)

end Decoded

namespace Utf8

/-- Whether a byte can stand in second or later place. -/
def continues (b : UInt8) : Bool :=
  0x80 ≤ b.toNat && b.toNat ≤ 0xBF

/-- Whether a byte can stand in second place behind the given first byte. -/
def follows (first b : UInt8) : Bool :=
  continues b &&
    (first != 0xE0 || 0xA0 ≤ b.toNat) && (first != 0xED || b.toNat ≤ 0x9F) &&
    (first != 0xF0 || 0x90 ≤ b.toNat) && (first != 0xF4 || b.toNat ≤ 0x8F)

/-- The six bits that a later byte carries. -/
def payload (b : UInt8) : Nat :=
  b.toNat % 0x40

/-- Whether bytes that break off behind the two given ones may go on to a character or a
surrogate. -/
def begins (first b : UInt8) : Bool :=
  follows first b || (first == 0xED && continues b)

/-- Reads a block of bytes as text. -/
def decode : List UInt8 → Decoded
  | [] => .whole []
  | a :: rest =>
    if a.toNat < 0x80 then (decode rest).push (Char.ofNat a.toNat)
    else if 0xC2 ≤ a.toNat ∧ a.toNat ≤ 0xDF then
      match rest with
      | [] => .truncated [] [a]
      | b :: rest =>
        if continues b then
          (decode rest).push (Char.ofNat (a.toNat % 0x20 * 0x40 + payload b))
        else .invalid []
    else if 0xE0 ≤ a.toNat ∧ a.toNat ≤ 0xEF then
      match rest with
      | [] => .truncated [] [a]
      | [b] => if begins a b then .truncated [] [a, b] else .invalid []
      | b :: c :: rest =>
        if follows a b && continues c then
          (decode rest).push
            (Char.ofNat (a.toNat % 0x10 * 0x1000 + payload b * 0x40 + payload c))
        else .invalid []
    else if 0xF0 ≤ a.toNat ∧ a.toNat ≤ 0xF4 then
      match rest with
      | [] => .truncated [] [a]
      | [b] => if follows a b then .truncated [] [a, b] else .invalid []
      | [b, c] => if follows a b && continues c then .truncated [] [a, b, c] else .invalid []
      | b :: c :: d :: rest =>
        if follows a b && continues c && continues d then
          (decode rest).push
            (Char.ofNat (a.toNat % 8 * 0x40000 + payload b * 0x1000 + payload c * 0x40 +
              payload d))
        else .invalid []
    else .invalid []
termination_by structural bytes => bytes

/-- Reads blocks of bytes as text, behind the bytes that an earlier block has left unfinished. -/
def decodeBlocks (unfinished : List UInt8) : List (List UInt8) → Decoded
  | [] => if unfinished.isEmpty then .whole [] else .truncated [] unfinished
  | block :: blocks =>
    match decode (unfinished ++ block) with
    | .whole s => (decodeBlocks [] blocks).after s
    | .truncated s unfinished => (decodeBlocks unfinished blocks).after s
    | .invalid s => .invalid s

end Utf8

end GrammarKit.Text
