import EvmIndexer.Bytes.Hex
import EvmIndexer.Bytes.Lossy

/-!
# Text with percent signs

In the parts of an address a character may stand as a percent sign and two
hexadecimal digits for each of its bytes. Reading takes such bytes where it finds
them and leaves everything else alone; writing uses them for every character that
is not safe. What is safe depends on the part.

In forms a blank is written as a plus sign.
-/

namespace EvmIndexer.Text.Percent

/-- The bytes of a run of characters of the first 128. -/
def toBytes : List Char → Bytes
  | '%' :: hi :: lo :: rest =>
    match Bytes.Hex.pair? hi lo with
    | some b => b :: toBytes rest
    | none => '%'.toNat.toUInt8 :: toBytes (hi :: lo :: rest)
  | c :: rest => c.toNat.toUInt8 :: toBytes rest
  | [] => []

/-- Whether a character is one of the first 128. -/
def isAscii (c : Char) : Bool := c.toNat < 0x80

/-- Reads text. Bytes are put together into characters within a run of the first
128 characters. -/
def decode : List Char → List Char
  | [] => []
  | c :: rest =>
    if isAscii c then
      Bytes.toTextLossy (toBytes (c :: rest.takeWhile isAscii))
        ++ decode (rest.dropWhile isAscii)
    else c :: decode rest
termination_by cs => cs.length
decreasing_by
  · have := (List.dropWhile_sublist isAscii (l := rest)).length_le
    simp
    omega
  · simp

def isUnreserved (c : Char) : Bool :=
  c.isAlphanum || c == '_' || c == '.' || c == '-' || c == '~'

def encodeByte (b : UInt8) : List Char :=
  '%' :: (Bytes.Hex.writeByte b).map Char.toUpper

/-- Writes text; `safe` holds the characters that are safe besides those that
are everywhere. -/
def encode (safe : List Char) (cs : List Char) : List Char :=
  cs.flatMap fun c =>
    if isUnreserved c || safe.contains c then [c]
    else (Bytes.ofText (String.singleton c)).flatMap encodeByte

def decodeForm (cs : List Char) : List Char :=
  decode (cs.map fun c => if c == '+' then ' ' else c)

def encodeForm (cs : List Char) : List Char :=
  (encode [' '] cs).map fun c => if c == ' ' then '+' else c

end EvmIndexer.Text.Percent
