/-!
# Blank characters and trimmed text

Text reaches the indexer with blanks around it: envelopes pasted from a shell,
identifiers typed at a prompt, signatures from a web service. All of them are
trimmed by the same rule, and the blanks it removes are those of the character
database, not the six of a terminal: no-break and ideographic spaces count, the
zero-width space does not.

Trimming is two uses of `dropWhile`, one from either end, so the laws of
`dropWhile` are the laws of trimming.
-/

namespace EvmIndexer.Text

def isBlank (c : Char) : Bool :=
  let n := c.toNat
  (0x9 ≤ n && n ≤ 0xd) || (0x1c ≤ n && n ≤ 0x20) || n == 0x85 || n == 0xa0
    || n == 0x1680 || (0x2000 ≤ n && n ≤ 0x200a) || n == 0x2028 || n == 0x2029
    || n == 0x202f || n == 0x205f || n == 0x3000

/-- The blanks of the first 128 characters that may stand between the byte
pairs of hexadecimal text. -/
def isAsciiBlank (c : Char) : Bool :=
  c == ' ' || (0x9 ≤ c.toNat && c.toNat ≤ 0xd)

/-- Drops the characters of a class from the end. -/
def dropWhileEnd (p : Char → Bool) (cs : List Char) : List Char :=
  (cs.reverse.dropWhile p).reverse

/-- Drops the characters of a class from both ends. -/
def trimBy (p : Char → Bool) (cs : List Char) : List Char :=
  dropWhileEnd p (cs.dropWhile p)

/-- The text without the blanks at its two ends. -/
def trim (s : String) : String :=
  String.ofList (trimBy isBlank s.toList)

/-- The first `n` characters. -/
def take (n : Nat) (s : String) : String :=
  String.ofList (s.toList.take n)

end EvmIndexer.Text
