import EvmIndexer.Text.CaseTable

/-!
# Lower-case text

Addresses, topics and selectors are compared and stored in lower case. They are
only text, and nothing promises that the text is hexadecimal, so lowering is
defined on every character: by the table of capital letters, by the one capital
that lowers to two characters, and by the one whose lower form depends on its
place, the sigma that ends a word.

On the first 128 characters lowering is `Char.toLower`, which is why it leaves
every hexadecimal digit in its class.
-/

namespace EvmIndexer.Text

/-- Whether a code point lies in one of the ranges. -/
def inRanges (ranges : List (Nat × Nat)) (n : Nat) : Bool :=
  ranges.any fun (first, last) => first ≤ n && n ≤ last

/-- Whether a character is cased and takes part in the scan for a word's end. -/
def isCased (c : Char) : Bool := inRanges casedRanges c.toNat

/-- Whether a character is passed over in that scan. -/
def isCaseIgnorable (c : Char) : Bool := inRanges caseIgnorableRanges c.toNat

/-- The lower form of a character by the table, the character itself if the
table has none. -/
def lowerByTable (c : Char) : Char :=
  let n := c.toNat
  match capitalRuns.find? fun (first, last, step, _) =>
      first ≤ n && n ≤ last && (n - first) % step == 0 with
  | some (_, _, _, offset) => Char.ofNat (n + offset).toNat
  | none => c

/-- A capital sigma ends a word when a cased letter stands before it and none
after it, characters that are passed over left aside. `before` is read
backwards. -/
def endsWord (before after : List Char) : Bool :=
  let nextCased (cs : List Char) : Bool :=
    ((cs.dropWhile isCaseIgnorable).head?.map isCased).getD false
  nextCased before && !nextCased after

/-- The lower form of one character in its place. -/
def lowerAt (before : List Char) (c : Char) (after : List Char) : List Char :=
  if c.toNat < 0x80 then [c.toLower]
  else if c == 'İ' then ['i', Char.ofNat 0x307]
  else if c == 'Σ' then [if endsWord before after then 'ς' else 'σ']
  else [lowerByTable c]

/-- Lowers the rest of a text whose beginning, read backwards, is `before`. -/
def lowerFrom (before : List Char) : List Char → List Char
  | [] => []
  | c :: rest => lowerAt before c rest ++ lowerFrom (c :: before) rest

/-- The text in lower case. -/
def lower (s : String) : String :=
  String.ofList (lowerFrom [] s.toList)

end EvmIndexer.Text
