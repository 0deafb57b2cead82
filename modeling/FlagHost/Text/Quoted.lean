import FlagHost.Unicode.Category
import FlagHost.Unicode.Property

/-!
# Quoted texts

A text that a message shows is put between quotes. The quote, the backslash and the common control
characters are escaped with a backslash, and characters that have no visible form of their own by
the number of their code point.
-/

namespace FlagHost.Quoted

open FlagHost.Unicode

/-- The characters that are shown by number: those without a glyph, and blanks other than the
space. -/
def hidden : CodeSet :=
  CodeSet.ofCategories ["cc", "cf", "cs", "co", "cn", "zl", "zp", "zs"] \ CodeSet.single 0x20

def quoteChar (c : Char) : List Char :=
  if c = '\x00' then ['\\', '0']
  else if c = '\t' then ['\\', 't']
  else if c = '\r' then ['\\', 'r']
  else if c = '\n' then ['\\', 'n']
  else if c = '"' then ['\\', '"']
  else if c = '\\' then ['\\', '\\']
  else if Property.graphemeExtend.has c || hidden.has c then
    ['\\', 'u', '\x7b'] ++ Nat.toDigits 16 c.toNat ++ ['\x7d']
  else [c]

def quote (text : String) : String :=
  String.ofList ('"' :: text.toList.flatMap quoteChar ++ ['"'])

end FlagHost.Quoted
