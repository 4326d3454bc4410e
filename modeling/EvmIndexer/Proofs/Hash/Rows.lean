import EvmIndexer.Hash.Keccak

/-!
# The hash, row by row

The permutation tells what stands at each column and row, and keeps the lanes in a
vector that every step builds anew. That reads as a set of equations; to decide a
closed hash it is slow, because a lane is found by walking through the vector, as
often as it is needed.

Here a state is five rows of five lanes, and the steps are written out for rows.
Each is shown to be the step of the permutation. The rest of the hash does not
look at lanes, so it is the same by the recursion over rounds and blocks, and
`keccak256_eq` lets a closed hash be decided by its rows.
-/

namespace EvmIndexer

namespace Keccak

/-- The lanes of a row, column by column. -/
structure Row where
  c0 : UInt64
  c1 : UInt64
  c2 : UInt64
  c3 : UInt64
  c4 : UInt64

def Row.xor (p q : Row) : Row :=
  ⟨p.c0 ^^^ q.c0, p.c1 ^^^ q.c1, p.c2 ^^^ q.c2, p.c3 ^^^ q.c3, p.c4 ^^^ q.c4⟩

structure Rows where
  r0 : Row
  r1 : Row
  r2 : Row
  r3 : Row
  r4 : Row

namespace Rows

def xor (s t : Rows) : Rows :=
  ⟨s.r0.xor t.r0, s.r1.xor t.r1, s.r2.xor t.r2, s.r3.xor t.r3, s.r4.xor t.r4⟩

/-! ## The steps -/

def theta (s : Rows) : Rows :=
  let parity := (((s.r0.xor s.r1).xor s.r2).xor s.r3).xor s.r4
  let mix : Row := {
    c0 := parity.c4 ^^^ rotate parity.c1 1
    c1 := parity.c0 ^^^ rotate parity.c2 1
    c2 := parity.c1 ^^^ rotate parity.c3 1
    c3 := parity.c2 ^^^ rotate parity.c4 1
    c4 := parity.c3 ^^^ rotate parity.c0 1 }
  ⟨s.r0.xor mix, s.r1.xor mix, s.r2.xor mix, s.r3.xor mix, s.r4.xor mix⟩

/-- Every new row takes a lane of each old one. -/
def rhoPi (s : Rows) : Rows where
  r0 := ⟨rotate s.r0.c0 0, rotate s.r1.c1 44, rotate s.r2.c2 43, rotate s.r3.c3 21,
    rotate s.r4.c4 14⟩
  r1 := ⟨rotate s.r0.c3 28, rotate s.r1.c4 20, rotate s.r2.c0 3, rotate s.r3.c1 45,
    rotate s.r4.c2 61⟩
  r2 := ⟨rotate s.r0.c1 1, rotate s.r1.c2 6, rotate s.r2.c3 25, rotate s.r3.c4 8,
    rotate s.r4.c0 18⟩
  r3 := ⟨rotate s.r0.c4 27, rotate s.r1.c0 36, rotate s.r2.c1 10, rotate s.r3.c2 15,
    rotate s.r4.c3 56⟩
  r4 := ⟨rotate s.r0.c2 62, rotate s.r1.c3 55, rotate s.r2.c4 39, rotate s.r3.c0 41,
    rotate s.r4.c1 2⟩

end Rows

def Row.chi (r : Row) : Row where
  c0 := r.c0 ^^^ (~~~ r.c1 &&& r.c2)
  c1 := r.c1 ^^^ (~~~ r.c2 &&& r.c3)
  c2 := r.c2 ^^^ (~~~ r.c3 &&& r.c4)
  c3 := r.c3 ^^^ (~~~ r.c4 &&& r.c0)
  c4 := r.c4 ^^^ (~~~ r.c0 &&& r.c1)

namespace Rows

def chi (s : Rows) : Rows := ⟨s.r0.chi, s.r1.chi, s.r2.chi, s.r3.chi, s.r4.chi⟩

def iota (c : UInt64) (s : Rows) : Rows := { s with r0 := { s.r0 with c0 := s.r0.c0 ^^^ c } }

def round (s : Rows) (c : UInt64) : Rows := iota c s.theta.rhoPi.chi

def permute (s : Rows) : Rows := roundConstants.foldl round s

/-! ## The whole hash -/

def zero : Rows :=
  let row : Row := ⟨0, 0, 0, 0, 0⟩
  ⟨row, row, row, row, row⟩

/-- The lanes that a block spells. -/
def ofBlock (block : Bytes) : Rows :=
  let lane (i : Nat) := laneOfBytes ((block.drop (8 * i)).take 8)
  let row (i : Nat) : Row := ⟨lane i, lane (i + 1), lane (i + 2), lane (i + 3), lane (i + 4)⟩
  ⟨row 0, row 5, row 10, row 15, row 20⟩

def absorb (s : Rows) (block : Bytes) : Rows := (s.xor (ofBlock block)).permute

def hash (message : Bytes) : Bytes :=
  let padded := pad message
  let final := (blocks (padded.length / rate) padded).foldl absorb zero
  [final.r0.c0, final.r0.c1, final.r0.c2, final.r0.c3].flatMap bytesOfLane

end Rows

/-! ## They are the steps of the permutation -/

namespace State

def row (s : State) (y : Nat) : Row :=
  ⟨s.lane 0 y, s.lane 1 y, s.lane 2 y, s.lane 3 y, s.lane 4 y⟩

def rows (s : State) : Rows := ⟨s.row 0, s.row 1, s.row 2, s.row 3, s.row 4⟩

theorem lane_ofFn (f : Fin 25 → UInt64) (x y : Nat) :
    State.lane (Vector.ofFn f) x y = f (Fin.ofNat 25 (x % 5 + 5 * (y % 5))) := by
  have hplace : x % 5 + 5 * (y % 5) < 25 := by omega
  refine (Vector.getElem_ofFn hplace).trans (congrArg f (Fin.ext ?_))
  exact (Nat.mod_eq_of_lt hplace).symm

theorem lane_ofLanes (f : Nat → Nat → UInt64) (x y : Nat) :
    (ofLanes f).lane x y = f (x % 5) (y % 5) := by
  have hplace : x % 5 + 5 * (y % 5) < 25 := by omega
  have hcolumn : (x % 5 + 5 * (y % 5)) % 5 = x % 5 := by omega
  have hrow : (x % 5 + 5 * (y % 5)) / 5 = y % 5 := by omega
  rw [ofLanes, lane_ofFn, Fin.val_ofNat, Nat.mod_eq_of_lt hplace, hcolumn, hrow]

theorem rows_theta (s : State) : (theta s).rows = s.rows.theta := by
  simp only [rows, row, theta, lane_ofLanes]
  rfl

theorem rows_rhoPi (s : State) : (rhoPi s).rows = s.rows.rhoPi := by
  simp only [rows, row, rhoPi, lane_ofLanes]
  rfl

theorem rows_chi (s : State) : (chi s).rows = s.rows.chi := by
  simp only [rows, row, chi, lane_ofLanes]
  rfl

theorem lane_iota (c : UInt64) (s : State) (x y : Nat) :
    (iota c s).lane x y =
      if 0 = x % 5 + 5 * (y % 5) then s.lane 0 0 ^^^ c else s.lane x y := by
  have hplace : x % 5 + 5 * (y % 5) < 25 := by omega
  exact Vector.getElem_set (by omega) hplace

theorem rows_iota (c : UInt64) (s : State) : (iota c s).rows = s.rows.iota c := by
  simp only [rows, row, lane_iota]
  rfl

theorem rows_round (s : State) (c : UInt64) : (round s c).rows = s.rows.round c := by
  rw [round, rows_iota, rows_chi, rows_rhoPi, rows_theta, Rows.round]

theorem rows_permute (s : State) : (permute s).rows = s.rows.permute :=
  (List.foldl_hom rows fun s c => (rows_round s c).symm).symm

theorem rows_absorb (s : State) (block : Bytes) :
    (absorb s block).rows = s.rows.absorb block := by
  rw [absorb, rows_permute, Rows.absorb]
  simp only [rows, row, lane_ofFn]
  rfl

theorem rows_absorbAll (blocks : List Bytes) (s : State) :
    (blocks.foldl absorb s).rows = blocks.foldl Rows.absorb s.rows :=
  (List.foldl_hom rows fun s block => (rows_absorb s block).symm).symm

end State

end Keccak

theorem keccak256_eq (message : Bytes) : keccak256 message = Keccak.Rows.hash message := by
  have hzero : Keccak.State.rows (Vector.replicate 25 0) = .zero := rfl
  simp only [Keccak.Rows.hash, ← hzero, ← Keccak.State.rows_absorbAll]
  rfl

end EvmIndexer
