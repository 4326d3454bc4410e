import EvmIndexer.Bytes.Hex

/-!
# Keccak-256

The hash of the chain: transaction hashes, addresses, selectors, event topics
and the checksum in the letters of an address are all cut from it.

The state is twenty-five lanes of 64 bits, lane `x + 5 y` standing at column `x`
and row `y`. One round is the five step mappings of the permutation, and each of
them says what every lane becomes, so a round reads as a set of equations. The
message is padded with a one bit, zeros and a one bit to a multiple of 136
bytes. The two bits that the later standard puts in front of this padding are
absent here, because the chain was built before it.
-/

namespace EvmIndexer.Keccak

abbrev State := Vector UInt64 25

/-- The lane at a column and a row, both taken modulo five. -/
def State.lane (s : State) (x y : Nat) : UInt64 :=
  s.get ⟨x % 5 + 5 * (y % 5), by omega⟩

/-- Builds a state from what stands at each column and row. -/
def State.ofLanes (f : Nat → Nat → UInt64) : State :=
  Vector.ofFn fun i => f (i.val % 5) (i.val / 5)

def rotate (w : UInt64) (n : Nat) : UInt64 :=
  if n % 64 == 0 then w
  else (w <<< UInt64.ofNat (n % 64)) ||| (w >>> UInt64.ofNat (64 - n % 64))

/-- How far each lane is rotated, lane `x + 5 y` at place `x + 5 y`. -/
def rotations : Vector Nat 25 :=
  #v[0, 1, 62, 28, 27, 36, 44, 6, 55, 20, 3, 10, 43, 25, 39, 41, 45, 15, 21, 8,
    18, 2, 61, 56, 14]

/-- The constant added to the first lane in each round. -/
def roundConstants : List UInt64 := [
  0x0000000000000001, 0x0000000000008082, 0x800000000000808a,
  0x8000000080008000, 0x000000000000808b, 0x0000000080000001,
  0x8000000080008081, 0x8000000000008009, 0x000000000000008a,
  0x0000000000000088, 0x0000000080008009, 0x000000008000000a,
  0x000000008000808b, 0x800000000000008b, 0x8000000000008089,
  0x8000000000008003, 0x8000000000008002, 0x8000000000000080,
  0x000000000000800a, 0x800000008000000a, 0x8000000080008081,
  0x8000000000008080, 0x0000000080000001, 0x8000000080008008]

/-- Adds to every lane the parities of two neighbouring columns. -/
def theta (s : State) : State :=
  let parity : Vector UInt64 5 := Vector.ofFn fun x =>
    s.lane x 0 ^^^ s.lane x 1 ^^^ s.lane x 2 ^^^ s.lane x 3 ^^^ s.lane x 4
  let mix : Vector UInt64 5 := Vector.ofFn fun x =>
    parity.get ⟨(x.val + 4) % 5, by omega⟩
      ^^^ rotate (parity.get ⟨(x.val + 1) % 5, by omega⟩) 1
  State.ofLanes fun x y => s.lane x y ^^^ mix.get ⟨x % 5, by omega⟩

/-- Rotates every lane and moves it to its new place. -/
def rhoPi (s : State) : State :=
  State.ofLanes fun x y =>
    let column := (x + 3 * y) % 5
    rotate (s.lane column x)
      (rotations.get ⟨(x + 3 * y) % 5 + 5 * (x % 5), by omega⟩)

/-- Combines each lane with the next two of its row. -/
def chi (s : State) : State :=
  State.ofLanes fun x y =>
    s.lane x y ^^^ (~~~ s.lane (x + 1) y &&& s.lane (x + 2) y)

/-- Adds the round's constant to the first lane. -/
def iota (c : UInt64) (s : State) : State := s.set 0 (s[0] ^^^ c)

def round (s : State) (c : UInt64) : State := iota c (chi (rhoPi (theta s)))

def permute (s : State) : State := roundConstants.foldl round s

def rate : Nat := 136

/-- The lane that eight bytes spell, least significant byte first. -/
def laneOfBytes (bs : Bytes) : UInt64 :=
  bs.foldr (fun b w => (w <<< 8) ||| b.toUInt64) 0

/-- Adds a block of bytes to the state and permutes it. -/
def absorb (s : State) (block : Bytes) : State :=
  permute (Vector.ofFn fun i =>
    s[i] ^^^ laneOfBytes ((block.drop (8 * i.val)).take 8))

def pad (message : Bytes) : Bytes :=
  let fill := rate - message.length % rate
  if fill == 1 then message ++ [0x81]
  else message ++ 1 :: List.replicate (fill - 2) 0 ++ [0x80]

def blocks : Nat → Bytes → List Bytes
  | 0, _ => []
  | n + 1, bs => bs.take rate :: blocks n (bs.drop rate)

/-- The eight bytes of a lane, least significant byte first. -/
def bytesOfLane (w : UInt64) : Bytes :=
  (List.range 8).map fun i => (w >>> UInt64.ofNat (8 * i)).toUInt8

end EvmIndexer.Keccak

namespace EvmIndexer

open Keccak in
def keccak256 (message : Bytes) : Bytes :=
  let padded := pad message
  let final := (blocks (padded.length / rate) padded).foldl absorb
    (Vector.replicate 25 0)
  (List.range 4).flatMap fun i => bytesOfLane (final.lane i 0)

end EvmIndexer
