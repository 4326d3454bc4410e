import EvmIndexer.Bytes.Basic

/-!
# Text of an unknown encoding

A document may come in any of three encodings and either order of bytes. A mark
at its beginning tells which; without a mark the zeros among the first bytes do,
since a document begins with characters below 128.

Numbers set aside for pairs are let through even where they stand alone. They
are no characters, and are read as the replacement character.
-/

namespace EvmIndexer.Text

/-- The order of the bytes of a number. -/
inductive Order where
  | big
  | little
deriving DecidableEq, Repr

inductive Encoding where
  | utf8
  | utf16 (order : Order)
  | utf32 (order : Order)
deriving DecidableEq, Repr

namespace Encoding

/-- The encoding of a document, and its bytes without the mark. -/
def detect : Bytes → Encoding × Bytes
  | 0 :: 0 :: 0xfe :: 0xff :: rest => (.utf32 .big, rest)
  | 0xff :: 0xfe :: 0 :: 0 :: rest => (.utf32 .little, rest)
  | 0xfe :: 0xff :: rest => (.utf16 .big, rest)
  | 0xff :: 0xfe :: rest => (.utf16 .little, rest)
  | 0xef :: 0xbb :: 0xbf :: rest => (.utf8, rest)
  | bs@(a :: b :: c :: d :: _) =>
    if a = 0 then (if b = 0 then .utf32 .big else .utf16 .big, bs)
    else if b = 0 then
      (if c = 0 ∧ d = 0 then .utf32 .little else .utf16 .little, bs)
    else (.utf8, bs)
  | [a, b] =>
    if a = 0 then (.utf16 .big, [a, b])
    else if b = 0 then (.utf16 .little, [a, b])
    else (.utf8, [a, b])
  | bs => (.utf8, bs)

/-- The character of a number, the replacement character for a number set aside
for pairs. -/
def charOf (n : Nat) : Char :=
  if 0xd800 ≤ n && n < 0xe000 then Char.ofNat 0xfffd else Char.ofNat n

/-- The number in a byte that continues a sequence. -/
def continuation? (b : UInt8) : Option Nat :=
  if 0x80 ≤ b.toNat && b.toNat < 0xc0 then some (b.toNat - 0x80) else none

/-- Reads UTF-8. Overlong forms and numbers beyond the last character are
refused. -/
def readUtf8 : Bytes → Option (List Char)
  | [] => some []
  | a :: rest =>
    if a.toNat < 0x80 then (readUtf8 rest).map (Char.ofNat a.toNat :: ·)
    else match rest with
      | [] => none
      | b :: rest =>
        if 0xc2 ≤ a.toNat && a.toNat < 0xe0 then do
          let y ← continuation? b
          let cs ← readUtf8 rest
          return Char.ofNat ((a.toNat - 0xc0) * 64 + y) :: cs
        else match rest with
          | [] => none
          | c :: rest =>
            if 0xe0 ≤ a.toNat && a.toNat < 0xf0 then do
              let y ← continuation? b
              let z ← continuation? c
              let n := ((a.toNat - 0xe0) * 64 + y) * 64 + z
              let cs ← readUtf8 rest
              if n < 0x800 then none else some (charOf n :: cs)
            else match rest with
              | [] => none
              | d :: rest =>
                if 0xf0 ≤ a.toNat && a.toNat < 0xf5 then do
                  let x ← continuation? b
                  let y ← continuation? c
                  let z ← continuation? d
                  let n := (((a.toNat - 0xf0) * 64 + x) * 64 + y) * 64 + z
                  let cs ← readUtf8 rest
                  if n < 0x10000 ∨ 0x110000 ≤ n then none
                  else some (Char.ofNat n :: cs)
                else none

def units16 (order : Order) : Bytes → Option (List Nat)
  | [] => some []
  | [_] => none
  | a :: b :: rest => do
    let unit := match order with
      | .big => 256 * a.toNat + b.toNat
      | .little => 256 * b.toNat + a.toNat
    let units ← units16 order rest
    return unit :: units

def joinPairs : List Nat → List Char
  | [] => []
  | [a] => [charOf a]
  | a :: b :: rest =>
    if 0xd800 ≤ a && a < 0xdc00 && 0xdc00 ≤ b && b < 0xe000 then
      Char.ofNat (0x10000 + (a - 0xd800) * 0x400 + (b - 0xdc00)) :: joinPairs rest
    else charOf a :: joinPairs (b :: rest)

def readUtf32 (order : Order) : Bytes → Option (List Char)
  | [] => some []
  | a :: b :: c :: d :: rest => do
    let n := match order with
      | .big => Bytes.toNat [a, b, c, d]
      | .little => Bytes.toNat [d, c, b, a]
    let cs ← readUtf32 order rest
    if 0x110000 ≤ n then none else some (charOf n :: cs)
  | _ => none

def read : Encoding → Bytes → Option (List Char)
  | .utf8, bs => readUtf8 bs
  | .utf16 order, bs => (units16 order bs).map joinPairs
  | .utf32 order, bs => readUtf32 order bs

/-- Reads a document whose encoding has to be found first. -/
def readAny (bs : Bytes) : Option (List Char) :=
  let (encoding, rest) := detect bs
  encoding.read rest

end Encoding

end EvmIndexer.Text
