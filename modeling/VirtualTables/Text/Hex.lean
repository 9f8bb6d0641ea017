/-!
# Hexadecimal digits

Bytes and codes are written with lower-case hexadecimal digits, two for a byte.
-/

namespace VirtualTables
namespace Hex

/-- The digit of a number below sixteen. -/
def digit (n : Nat) : Char :=
  Nat.digitChar n

/-- A byte as two digits. -/
def byte (b : UInt8) : List Char :=
  [digit (b.toNat / 16), digit (b.toNat % 16)]

/-- Bytes as digits, two for each. -/
def bytes (bs : List UInt8) : List Char :=
  bs.flatMap byte

/-- A number without leading zeros. -/
def number (n : Nat) : List Char :=
  Nat.toDigits 16 n

/-- The number below sixteen that a digit of either case stands for. -/
def value? (c : Char) : Option Nat :=
  if c.isDigit then some (c.toNat - '0'.toNat)
  else if 'a' ≤ c ∧ c ≤ 'f' then some (c.toNat - 'a'.toNat + 10)
  else if 'A' ≤ c ∧ c ≤ 'F' then some (c.toNat - 'A'.toNat + 10)
  else none

/-- The number that a run of digits of either case stands for. -/
def read? (text : List Char) : Option Nat :=
  text.foldlM (fun n c => (value? c).map (n * 16 + ·)) 0

/-- The bytes that a text stands for, two digits of either case for each. -/
def readBytes? : List Char → Option (List UInt8)
  | [] => some []
  | [_] => none
  | a :: b :: rest => do
    some ((← read? [a, b]).toUInt8 :: (← readBytes? rest))

end Hex
end VirtualTables
