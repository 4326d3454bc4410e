import EvmIndexer.Bytes.Basic
import Mathlib.Algebra.Group.Nat.Defs
import Mathlib.Data.List.Induction

/-!
# Numbers as byte strings

`Bytes.ofNat` writes a number with the fewest bytes and `Bytes.toNat` reads any
byte string. Reading undoes writing, so a number that went into an envelope
comes out again, and nothing `ofNat` writes begins with a zero byte, so the
strict readers of lengths and of signature numbers take all of it.

Everything here follows from one equation: `ofNat` of a number is `ofNat` of its
256th part with one byte behind it. It also gives the converse: a byte string that
does not begin with a zero byte is the one that `ofNat` writes.
-/

namespace EvmIndexer.Bytes

@[simp] theorem toNat_nil : toNat [] = 0 := rfl

theorem toNat_concat (xs : Bytes) (b : UInt8) :
    toNat (xs ++ [b]) = 256 * toNat xs + b.toNat := by
  rw [toNat, List.foldl_append]
  rfl

theorem pushNat_eq_append (n : Nat) (rest : Bytes) :
    pushNat n rest = ofNat n ++ rest := by
  induction n using Nat.strongRecOn generalizing rest with
  | _ n ih =>
      unfold ofNat
      rw [pushNat.eq_def n rest, pushNat.eq_def n []]
      split
      · rfl
      · next hn =>
          have hlt : n / 256 < n := by omega
          rw [ih _ hlt, ih _ hlt [_], List.append_assoc]
          rfl

@[simp] theorem ofNat_zero : ofNat 0 = [] := by
  unfold ofNat
  rw [pushNat.eq_def]
  rfl

/-- The last byte of a number is its remainder, and its quotient stands before
it. -/
theorem ofNat_of_pos {n : Nat} (hn : n ≠ 0) :
    ofNat n = ofNat (n / 256) ++ [UInt8.ofNat (n % 256)] := by
  conv => lhs; unfold ofNat
  rw [pushNat.eq_def, dif_neg hn, pushNat_eq_append]

@[simp] theorem toNat_ofNat (n : Nat) : toNat (ofNat n) = n := by
  induction n using Nat.strongRecOn with
  | _ n ih =>
      by_cases hn : n = 0
      · subst hn
        simp
      · have hbyte : (UInt8.ofNat (n % 256)).toNat = n % 256 := by simp
        rw [ofNat_of_pos hn, toNat_concat, ih _ (by omega), hbyte]
        omega

theorem ofNat_ne_nil {n : Nat} (hn : n ≠ 0) : ofNat n ≠ [] := by
  rw [ofNat_of_pos hn]
  simp

/-- No number is written with a zero byte in front. -/
theorem head?_ofNat_ne_zero (n : Nat) : (ofNat n).head? ≠ some 0 := by
  induction n using Nat.strongRecOn with
  | _ n ih =>
      by_cases hn : n = 0
      · subst hn
        simp
      · rw [ofNat_of_pos hn]
        by_cases hq : n / 256 = 0
        · rw [hq, ofNat_zero, List.nil_append, List.head?_cons]
          intro h
          injection h with h
          have hbyte := congrArg UInt8.toNat h
          simp at hbyte
          omega
        · have hhead := ih (n / 256) (by omega)
          obtain ⟨b, rest, hb⟩ := List.exists_cons_of_ne_nil (ofNat_ne_nil hq)
          rw [hb] at hhead ⊢
          exact hhead

theorem length_ofNat_le {n width : Nat} (h : n < 256 ^ width) :
    (ofNat n).length ≤ width := by
  induction width generalizing n with
  | zero =>
      have hn : n = 0 := by simpa using h
      simp [hn]
  | succ k ih =>
      by_cases hn : n = 0
      · simp [hn]
      · rw [ofNat_of_pos hn, List.length_append, List.length_singleton]
        have hq : n / 256 < 256 ^ k := by
          rw [Nat.div_lt_iff_lt_mul (by omega)]
          rwa [Nat.pow_succ] at h
        have := ih hq
        omega

theorem toNat_lt (bs : Bytes) : toNat bs < 256 ^ bs.length := by
  induction bs using List.reverseRecOn with
  | nil => simp
  | append_singleton xs b ih =>
      have hb := b.toNat_lt
      rw [toNat_concat, List.length_append, List.length_singleton, Nat.pow_succ]
      omega

theorem length_ofNat_mono {m n : Nat} (h : m ≤ n) :
    (ofNat m).length ≤ (ofNat n).length := by
  have hn := toNat_lt (ofNat n)
  rw [toNat_ofNat] at hn
  exact length_ofNat_le (Nat.lt_of_le_of_lt h hn)

theorem ofNat_injective {m n : Nat} (h : ofNat m = ofNat n) : m = n := by
  rw [← toNat_ofNat m, h, toNat_ofNat]

/-- A byte string without a zero byte in front is the shortest of its number. -/
theorem ofNat_toNat {bs : Bytes} (h : bs.head? ≠ some 0) :
    ofNat (toNat bs) = bs := by
  induction bs using List.reverseRecOn with
  | nil => simp
  | append_singleton xs b ih =>
      have hb := b.toNat_lt
      have hpos : toNat (xs ++ [b]) ≠ 0 := by
        rw [toNat_concat]
        cases xs with
        | nil =>
            intro hzero
            have hbyte : b = 0 := UInt8.toNat_inj.1 (by simpa using hzero)
            exact h (by simp [hbyte])
        | cons x rest =>
            intro hzero
            have hprefix : ofNat (toNat (x :: rest)) = x :: rest := ih h
            rw [show toNat (x :: rest) = 0 by omega, ofNat_zero] at hprefix
            cases hprefix
      have hinit : ofNat (toNat xs) = xs := by
        cases xs with
        | nil => simp
        | cons x rest => exact ih h
      have hquotient : toNat (xs ++ [b]) / 256 = toNat xs := by
        rw [toNat_concat]
        omega
      have hlast : UInt8.ofNat (toNat (xs ++ [b]) % 256) = b := by
        apply UInt8.toNat_inj.1
        rw [toNat_concat, UInt8.toNat_ofNat']
        omega
      rw [ofNat_of_pos hpos, hquotient, hinit, hlast]

/-! ## Numbers of a fixed width -/

theorem length_ofNatFixed (width n : Nat) : (ofNatFixed width n).length = width := by
  rw [ofNatFixed, List.length_map, List.length_reverse, List.length_range]

/-- The last byte of a number is its remainder also where the width is fixed. -/
theorem ofNatFixed_succ (width n : Nat) :
    ofNatFixed (width + 1) n = ofNatFixed width (n / 256) ++ [UInt8.ofNat (n % 256)] := by
  have hdigit : ∀ i, n / 256 ^ (i + 1) = n / 256 / 256 ^ i := fun i => by
    rw [Nat.pow_succ, Nat.mul_comm, Nat.div_div_eq_div_mul]
  rw [ofNatFixed, List.range_succ_eq_map, List.reverse_cons, List.map_append,
    ← List.map_reverse, List.map_map]
  congr 1
  · exact List.map_congr_left fun i _ => congrArg (fun q => UInt8.ofNat (q % 256)) (hdigit i)
  · simp

theorem toNat_ofNatFixed {width n : Nat} (h : n < 256 ^ width) :
    toNat (ofNatFixed width n) = n := by
  induction width generalizing n with
  | zero =>
      have hn : n = 0 := by simpa using h
      rw [hn]
      rfl
  | succ width ih =>
      have hq : n / 256 < 256 ^ width := by
        rw [Nat.div_lt_iff_lt_mul (by omega)]
        rwa [Nat.pow_succ] at h
      have hbyte : (UInt8.ofNat (n % 256)).toNat = n % 256 := by simp
      rw [ofNatFixed_succ, toNat_concat, ih hq, hbyte]
      omega

end EvmIndexer.Bytes
