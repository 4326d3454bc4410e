import EvmIndexer.Text.LowerCase
import EvmIndexer.Text.PrintableTable

/-!
# Quoted text in messages

A message that names an offending text shows it between quotes and on one line.
The quote is single, unless the text has a single quote and no double one.
The quote in use and the backslash are escaped, and so is every character
without a picture: by its letter if it has one, else by its number in two, four
or eight hexadecimal digits.
-/

namespace EvmIndexer.Text

def isPrintable (c : Char) : Bool :=
  let n := c.toNat
  if n < 0x80 then 0x20 ≤ n && n != 0x7f else !inRanges unprintableRanges n

/-- The last `width` hexadecimal digits of a number, leading zeros included. -/
def hexDigits (width n : Nat) : List Char :=
  (List.range width).reverse.map fun i => Nat.digitChar (n / Nat.pow 16 i % 16)

/-- How one character is written between quotes. -/
def escape (quote c : Char) : List Char :=
  if c == quote || c == '\\' then ['\\', c]
  else if c == '\n' then ['\\', 'n']
  else if c == '\r' then ['\\', 'r']
  else if c == '\t' then ['\\', 't']
  else if isPrintable c then [c]
  else if c.toNat < 0x100 then '\\' :: 'x' :: hexDigits 2 c.toNat
  else if c.toNat < 0x10000 then '\\' :: 'u' :: hexDigits 4 c.toNat
  else '\\' :: 'U' :: hexDigits 8 c.toNat

def quoted (s : String) : String :=
  let quote := if s.toList.contains '\'' && !s.toList.contains '"' then '"' else '\''
  String.ofList (quote :: s.toList.flatMap (escape quote) ++ [quote])

end EvmIndexer.Text
