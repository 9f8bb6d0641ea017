/-!
# Text as bytes

A text is written as bytes in UTF-8. Reading bytes back, a scan splits them into characters and
ill-formed pieces: `decode?` accepts bytes without an ill-formed piece, and `decodeLossy` puts the
replacement character in place of each one.

An ill-formed piece is as long as possible while it could still begin a character; so a byte that
cannot follow ends the piece before it and is looked at afresh.
-/

namespace VirtualTables
namespace Utf8

/-- The bytes of a text. -/
def encode (text : List Char) : List UInt8 :=
  text.flatMap String.utf8EncodeChar

/-- Where a scan stands between two bytes. -/
inductive State where
  /-- Between two characters. -/
  | start
  /-- Inside a character: `owed + 1` bytes are missing, the next of them between `low` and `high`;
  `bits` holds the bits of its code so far. -/
  | inside (owed : Nat) (low high : UInt8) (bits : Nat)
  deriving DecidableEq, Repr

/-- What a byte is at the start of a character: the state after it, or a whole character, or
neither. -/
inductive Lead where
  | whole (c : Char)
  | opens (s : State)
  | none
  deriving DecidableEq, Repr

/-- The role of a byte at the start of a character. The bytes `C0`, `C1` and those above `F4` begin
no character; the bounds after `E0`, `ED`, `F0` and `F4` keep out codes written with more bytes than
needed, the surrogates, and codes beyond `U+10FFFF`. -/
def lead (b : UInt8) : Lead :=
  if b ≤ 0x7F then .whole (Char.ofNat b.toNat)
  else if 0xC2 ≤ b ∧ b ≤ 0xDF then .opens (.inside 0 0x80 0xBF (b.toNat - 0xC0))
  else if b = 0xE0 then .opens (.inside 1 0xA0 0xBF 0)
  else if b = 0xED then .opens (.inside 1 0x80 0x9F 0xD)
  else if 0xE1 ≤ b ∧ b ≤ 0xEF then .opens (.inside 1 0x80 0xBF (b.toNat - 0xE0))
  else if b = 0xF0 then .opens (.inside 2 0x90 0xBF 0)
  else if 0xF1 ≤ b ∧ b ≤ 0xF3 then .opens (.inside 2 0x80 0xBF (b.toNat - 0xF0))
  else if b = 0xF4 then .opens (.inside 2 0x80 0x8F 4)
  else .none

/-- The characters of a byte string from a state on, `none` standing for an ill-formed piece. -/
def scan : State → List UInt8 → List (Option Char)
  | .start, [] => []
  | .inside .., [] => [none]
  | .start, b :: rest =>
    match lead b with
    | .whole c => some c :: scan .start rest
    | .opens s => scan s rest
    | .none => none :: scan .start rest
  | .inside owed low high bits, b :: rest =>
    if low ≤ b ∧ b ≤ high then
      let bits := bits * 0x40 + (b.toNat - 0x80)
      match owed with
      | 0 => some (Char.ofNat bits) :: scan .start rest
      | n + 1 => scan (.inside n 0x80 0xBF bits) rest
    else
      none ::
        match lead b with
        | .whole c => some c :: scan .start rest
        | .opens s => scan s rest
        | .none => none :: scan .start rest

/-- The text of well-formed bytes. -/
def decode? (bytes : List UInt8) : Option (List Char) :=
  (scan .start bytes).mapM id

/-- The text of any bytes, with the replacement character for each ill-formed piece. -/
def decodeLossy (bytes : List UInt8) : List Char :=
  (scan .start bytes).map (·.getD '\uFFFD')

end Utf8
end VirtualTables
