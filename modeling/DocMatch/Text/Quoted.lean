import DocMatch.Text.Hex
import DocMatch.Unicode.Category
import DocMatch.Unicode.Property
/-!
Texts in double quotes for diagnostics.  Every character shows: quotes and
backslashes are escaped, and what is not visible by itself is written by its code
point.
-/

namespace DocMatch.Text

/-- The runs of the characters that cannot be seen: controls, formats, separators
and private use. -/
def invisible : List Unicode.Run :=
  ["cc", "cf", "co", "zl", "zp", "zs"].flatMap Unicode.category

/-- The runs of all characters that have been assigned. -/
def assigned : List Unicode.Run :=
  Unicode.categories.flatMap fun entry => Unicode.runsOfText entry.runs

/-- Whether a character can be seen where it stands: a space or any other visible
character, unless it is drawn onto the one before. -/
def isVisible (c : Char) : Bool :=
  if c.toNat < 0x80 then 0x20 ≤ c.toNat && c.toNat < 0x7F
  else
    Unicode.inRuns assigned c.toNat && !Unicode.inRuns invisible c.toNat &&
      !Unicode.inRuns Unicode.graphemeExtenders c.toNat

/-- The code point of a character in hexadecimal, between braces. -/
def codePointChars (c : Char) : List Char :=
  '\\' :: 'u' :: '\x7b' :: Nat.toDigits 16 c.toNat ++ ['\x7d']

/-- One character between the quotes. -/
def quoteChar (c : Char) : List Char :=
  if c = '"' then ['\\', '"']
  else if c = '\\' then ['\\', '\\']
  else if c = '\n' then ['\\', 'n']
  else if c = '\r' then ['\\', 'r']
  else if c = '\t' then ['\\', 't']
  else if c.toNat = 0 then ['\\', '0']
  else if isVisible c then [c]
  else codePointChars c

/-- A text in double quotes. -/
def quoted (s : String) : String :=
  String.ofList ('"' :: s.toList.flatMap quoteChar ++ ['"'])

end DocMatch.Text
