import VirtualTables.Text.Extending
import VirtualTables.Text.Hex
import VirtualTables.Text.Invisible

/-!
# Quoted text in descriptions

A description shows a text between double quotes. Quotes, backslashes and the common control
characters are escaped with a letter, and other characters that would not show by their code in
hexadecimal between braces.
-/

namespace VirtualTables
namespace Quoted

/-- The code of a character between braces. -/
def codeEscape (c : Char) : List Char :=
  '\\' :: 'u' :: '{' :: (Hex.number c.toNat ++ ['}'])

/-- The letters that only fill a place, and do not show. -/
def fillers : List Char :=
  ['\u115f', '\u1160', '\u3164', '\uffa0']

/-- The marks that extend the letter before them and still stand by themselves, as wide as a
letter. -/
def wideMarks : List Char :=
  ['\uff9e', '\uff9f']

/-- Whether a character is shown as itself: it is visible and stands by itself. -/
def isShown (c : Char) : Bool :=
  if c.toNat < 0x7F then 0x20 ≤ c.toNat
  else if wideMarks.contains c then true
  else !Extending.isExtending c && !Invisible.isInvisible c && !fillers.contains c

/-- A character between double quotes. -/
def escape (c : Char) : List Char :=
  if c = '"' then ['\\', '"']
  else if c = '\\' then ['\\', '\\']
  else if c = '\n' then ['\\', 'n']
  else if c = '\r' then ['\\', 'r']
  else if c = '\t' then ['\\', 't']
  else if c = '\x00' then ['\\', '0']
  else if isShown c then [c]
  else codeEscape c

/-- A text between double quotes. -/
def quote (s : String) : String :=
  String.ofList ('"' :: (s.toList.flatMap escape ++ ['"']))

end Quoted
end VirtualTables
