import EvmIndexer.Bytes.Hex

/-!
# Answers of a contract

A call without arguments answers with words of 32 bytes. This module reads the
four forms in which a token tells its name, symbol and decimals: a number of one
byte or of a whole word, text of any length, and text that fills one word.

Text of any length stands behind two words, where it begins and how many bytes
it has, and is filled up with zeros to whole words. A word taken for such text
would have to begin inside itself, so an answer of a single word is never both.
-/

namespace EvmIndexer.Abi

def wordSize : Nat := 32

/-- The number in the first word, and what follows it. -/
def readWord (answer : Bytes) : Option (Nat × Bytes) := do
  let (word, rest) ← answer.splitAt? wordSize
  return (Bytes.toNat word, rest)

def readByte (answer : Bytes) : Option Nat := do
  let (n, _) ← readWord answer
  if n ≤ 255 then some n else none

def readNumber (answer : Bytes) : Option Nat :=
  (readWord answer).map (·.1)

/-- The bytes of the first word. -/
def readFixed (answer : Bytes) : Option Bytes :=
  (answer.splitAt? wordSize).map (·.1)

def roundUp (n : Nat) : Nat := (n + (wordSize - 1)) / wordSize * wordSize

def readText (answer : Bytes) : Option String := do
  let (offset, _) ← readWord answer
  if offset < wordSize ∨ answer.length ≤ offset then none
  else
    let (length, rest) ← readWord (answer.drop offset)
    let (padded, _) ← rest.splitAt? (roundUp length)
    if (padded.drop length).all (· == 0) then Bytes.toText? (padded.take length)
    else none

end EvmIndexer.Abi
