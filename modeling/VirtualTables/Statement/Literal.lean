import VirtualTables.Engine.Value
import VirtualTables.Value.Description

/-!
# Literals in statements

A literal is a value as it stands in a statement. A text stands between quotes, a quote inside it
written twice; a text that cannot be written in that way is written as its bytes.
-/

namespace VirtualTables

/-- A value in a statement. -/
inductive Literal where
  | null
  | integer (n : Ranged .int8)
  | real (x : Binary .float8)
  | text (s : String)
  | blob (bytes : List UInt8)
  /-- A text given by its bytes, which need not be well-formed. -/
  | rawText (bytes : List UInt8)
  deriving DecidableEq

namespace Literal

/-- Bytes in a statement. -/
def bytesText (bytes : List UInt8) : String :=
  "x'" ++ String.ofList (Hex.bytes bytes) ++ "'"

/-- A text in a statement, given by its bytes. -/
def castText (bytes : List UInt8) : String :=
  "CAST(" ++ bytesText bytes ++ " AS TEXT)"

/-- A floating point number in a statement. An infinity is written as a number that is too large. -/
def realText (x : Binary .float8) : String :=
  match x.reading with
  | .infinite negative => if negative then "-9e999" else "9e999"
  | reading => Value.describeFloat .float8 reading

/-- A quote is written twice. -/
def doubled (mark : Char) (text : List Char) : List Char :=
  text.flatMap fun c => if c = mark then [mark, mark] else [c]

/-- A literal as it is written. -/
def sql : Literal → String
  | null => "NULL"
  | integer n => String.ofList (integerText n.val)
  | real x => realText x
  | text s =>
    if s.toList.contains '\x00' then castText (Utf8.encode s.toList)
    else String.ofList ('\'' :: (doubled '\'' s.toList ++ ['\'']))
  | blob bytes => bytesText bytes
  | rawText bytes => castText bytes

end Literal

/-- A name in a statement, between back quotes; a back quote inside it is written twice. -/
def quotedName (name : String) : String :=
  String.ofList ('\x60' :: (Literal.doubled '\x60' name.toList ++ ['\x60']))

end VirtualTables
