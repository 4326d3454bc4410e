import EvmIndexer.Bytes.Basic

/-!
# Text from bytes that may be broken

Reading never fails: what is not UTF-8 becomes the replacement character. A
character that is cut short counts as one mistake, however many of its bytes are
there, and reading goes on with the byte that does not fit.
-/

namespace EvmIndexer.Bytes

/-- The character that stands for what cannot be read. -/
def replacement : Char := '\uFFFD'

/-- The ranges of the bytes that have to follow a first byte. -/
def followers (first : UInt8) : Option (List (Nat × Nat)) :=
  let n := first.toNat
  let next := (0x80, 0xbf)
  if n < 0x80 then some []
  else if n < 0xc2 then none
  else if n < 0xe0 then some [next]
  else if n = 0xe0 then some [(0xa0, 0xbf), next]
  else if n = 0xed then some [(0x80, 0x9f), next]
  else if n < 0xf0 then some [next, next]
  else if n = 0xf0 then some [(0x90, 0xbf), next, next]
  else if n < 0xf4 then some [next, next, next]
  else if n = 0xf4 then some [(0x80, 0x8f), next, next]
  else none

/-- The bytes that follow as they have to, up to the first that does not. -/
def fitting : List (Nat × Nat) → Bytes → Bytes
  | (low, high) :: ranges, b :: bs =>
    if low ≤ b.toNat && b.toNat ≤ high then b :: fitting ranges bs else []
  | _, _ => []

/-- Reads one character: how many bytes after the first belong to it, and the
character. -/
def readChar (first : UInt8) (rest : Bytes) : Nat × Char :=
  match followers first with
  | none => (0, replacement)
  | some ranges =>
    let more := fitting ranges rest
    let char := if more.length = ranges.length then
        ((toText? (first :: more)).bind fun s => s.toList.head?).getD replacement
      else replacement
    (more.length, char)

def toTextLossy : Bytes → List Char
  | [] => []
  | first :: rest =>
    let (count, char) := readChar first rest
    char :: toTextLossy (rest.drop count)
termination_by bs => bs.length
decreasing_by simp only [List.length_drop, List.length_cons]; omega

end EvmIndexer.Bytes
