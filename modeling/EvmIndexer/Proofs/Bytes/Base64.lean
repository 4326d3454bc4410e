import EvmIndexer.Bytes.Base64
import EvmIndexer.Bytes.Hex
import EvmIndexer.Proofs.Text.Trim
import Mathlib.Tactic.IntervalCases

/-!
# Base64 text that was written is read back

Writing is regrouping eight bits as six, looking each group up in the alphabet
and filling the text up. `sextets` is the regrouping alone, so that reading back
is three facts: a character of the alphabet has its own value, the fill that is
written is one that fits, and regrouping is undone.

The alphabet has `0`, `x` and `X`, so written text can begin the way marked
hexadecimal text does. It does for the byte strings whose first two bytes spell
those characters and for no others.
-/

namespace EvmIndexer.Bytes.Base64

/-- The groups of six bits of a byte string, the last one filled with zeros. -/
def sextets : Bytes → List Nat
  | [] => []
  | [a] => [a.toNat / 4, a.toNat % 4 * 16]
  | [a, b] =>
    [a.toNat / 4, a.toNat % 4 * 16 + b.toNat / 16, b.toNat % 16 * 4]
  | a :: b :: c :: rest =>
    a.toNat / 4 :: (a.toNat % 4 * 16 + b.toNat / 16)
      :: (b.toNat % 16 * 4 + c.toNat / 64) :: c.toNat % 64 :: sextets rest

/-- How many `=` fill up the text of so many bytes. -/
def fill (bytes : Nat) : Nat := 2 * bytes % 3

theorem write_eq (bs : Bytes) :
    write bs = (sextets bs).map char ++ List.replicate (fill bs.length) '=' := by
  induction bs using write.induct with
  | case1 => rfl
  | case2 a => rfl
  | case3 a b => simp [write, sextets, fill]
  | case4 a b c rest ih =>
      have hfill : fill (a :: b :: c :: rest).length = fill rest.length := by
        simp only [fill, List.length_cons]
        omega
      rw [hfill, write, ih]
      rfl

theorem lt_of_mem_sextets {bs : Bytes} {v : Nat} (h : v ∈ sextets bs) : v < 64 := by
  induction bs using sextets.induct with
  | case1 => cases h
  | case2 a =>
      have ha := a.toNat_lt
      simp only [sextets, List.mem_cons, List.not_mem_nil, or_false] at h
      omega
  | case3 a b =>
      have ha := a.toNat_lt
      have hb := b.toNat_lt
      simp only [sextets, List.mem_cons, List.not_mem_nil, or_false] at h
      omega
  | case4 a b c rest ih =>
      have ha := a.toNat_lt
      have hb := b.toNat_lt
      have hc := c.toNat_lt
      simp only [sextets, List.mem_cons] at h
      rcases h with h | h | h | h | h
      · omega
      · omega
      · omega
      · omega
      · exact ih h

theorem length_sextets (bs : Bytes) :
    (sextets bs).length = bs.length + (bs.length + 2) / 3 := by
  induction bs using sextets.induct with
  | case1 => rfl
  | case2 a => simp only [sextets, List.length_cons, List.length_nil]
  | case3 a b => simp only [sextets, List.length_cons, List.length_nil]
  | case4 a b c rest ih =>
      simp only [sextets, List.length_cons, ih]
      omega

theorem ofNat_eq_of_mod {b : UInt8} {n : Nat} (h : n % 256 = b.toNat) :
    UInt8.ofNat n = b := by
  apply UInt8.toNat_inj.1
  rw [UInt8.toNat_ofNat']
  exact h

theorem ofValues_sextets (bs : Bytes) : ofValues (sextets bs) = some bs := by
  induction bs using sextets.induct with
  | case1 => rfl
  | case2 a =>
      have ha := a.toNat_lt
      rw [sextets, ofValues, ofNat_eq_of_mod (b := a) (by omega)]
  | case3 a b =>
      have ha := a.toNat_lt
      have hb := b.toNat_lt
      rw [sextets, ofValues, ofNat_eq_of_mod (b := a) (by omega),
        ofNat_eq_of_mod (b := b) (by omega)]
  | case4 a b c rest ih =>
      have ha := a.toNat_lt
      have hb := b.toNat_lt
      have hc := c.toNat_lt
      rw [sextets, ofValues, ih, ofNat_eq_of_mod (b := a) (by omega),
        ofNat_eq_of_mod (b := b) (by omega), ofNat_eq_of_mod (b := c) (by omega)]
      rfl

/-! ## The alphabet -/

theorem value?_char : ∀ v < 64, value? (char v) = some v := by
  decide +kernel

theorem isVisible_char : ∀ v < 64, Text.isVisible (char v) = true := by
  decide +kernel

theorem char_inj {v w : Nat} (hv : v < 64) (hw : w < 64) (h : char v = char w) :
    v = w := by
  have hvalue : some v = some w := by
    rw [← value?_char v hv, h, value?_char w hw]
  exact Option.some.inj hvalue

theorem isVisible_of_mem_write {bs : Bytes} {c : Char} (h : c ∈ write bs) :
    Text.isVisible c = true := by
  rw [write_eq] at h
  rcases List.mem_append.1 h with h | h
  · obtain ⟨v, hv, rfl⟩ := List.mem_map.1 h
    exact isVisible_char v (lt_of_mem_sextets hv)
  · rw [List.eq_of_mem_replicate h]
    rfl

/-! ## Reading -/

theorem fillFits_sextets (bs : Bytes) :
    fillFits (sextets bs).length (fill bs.length) = true := by
  rw [length_sextets, fill]
  generalize bs.length = n
  obtain h | h | h : n % 3 = 0 ∨ n % 3 = 1 ∨ n % 3 = 2 := by omega
  · have hmod : (n + (n + 2) / 3) % 4 = 0 := by omega
    have hfill : 2 * n % 3 = 0 := by omega
    simp [fillFits, hmod, hfill]
  · have hmod : (n + (n + 2) / 3) % 4 = 2 := by omega
    have hfill : 2 * n % 3 = 2 := by omega
    simp [fillFits, hmod, hfill]
  · have hmod : (n + (n + 2) / 3) % 4 = 3 := by omega
    have hfill : 2 * n % 3 = 1 := by omega
    simp [fillFits, hmod, hfill]

theorem filterMap_value?_char {vs : List Nat} (h : ∀ v ∈ vs, v < 64) :
    (vs.map char).filterMap value? = vs := by
  induction vs with
  | nil => rfl
  | cons v rest ih =>
      have hv := value?_char v (h v List.mem_cons_self)
      have hrest := ih fun w hw => h w (List.mem_cons_of_mem _ hw)
      rw [List.map_cons, List.filterMap_cons_some hv, hrest]

/-- Reading undoes writing. -/
theorem read_write (bs : Bytes) : read (write bs) = some bs := by
  have hletters : ∀ c ∈ (sextets bs).map char, (value? c).isSome = true := by
    intro c hc
    obtain ⟨v, hv, rfl⟩ := List.mem_map.1 hc
    rw [value?_char v (lt_of_mem_sextets hv)]
    rfl
  have hfill : ∀ c ∈ List.replicate (fill bs.length) '=', (value? c).isSome = false := by
    intro c hc
    rw [List.eq_of_mem_replicate hc]
    rfl
  have hbody : (write bs).takeWhile (fun c => (value? c).isSome)
      = (sextets bs).map char := by
    rw [write_eq, List.takeWhile_append_of_pos hletters]
    cases h : List.replicate (fill bs.length) '=' with
    | nil => simp
    | cons c rest =>
        have hc := hfill c (h ▸ List.mem_cons_self)
        simp [hc]
  have hrest : (write bs).dropWhile (fun c => (value? c).isSome)
      = List.replicate (fill bs.length) '=' := by
    rw [write_eq, Text.dropWhile_append_of_all hletters,
      Text.dropWhile_eq_self_of_none hfill]
  have hall : (List.replicate (fill bs.length) '=').all (· == '=') = true := by
    simp
  simp only [read, hbody, hrest, hall, List.length_map, List.length_replicate,
    fillFits_sextets, Bool.and_self, if_true]
  rw [filterMap_value?_char fun v hv => lt_of_mem_sextets hv, ofValues_sextets]

/-! ## Text that begins with a mark -/

/-- Whether the first two bytes spell `0x` or `0X`. -/
def looksMarked : Bytes → Bool
  | a :: b :: _ =>
    (a == 0xd3 && b.toNat / 16 == 1) || (a == 0xd1 && b.toNat / 16 == 7)
  | _ => false

theorem hasMark_cons_cons (p q : Char) (rest : List Char) :
    Hex.hasMark (p :: q :: rest) = (p == '0' && (q == 'x' || q == 'X')) := by
  by_cases hp : p = '0'
  · subst hp
    rfl
  · rw [beq_false_of_ne hp, Bool.false_and]
    unfold Hex.hasMark
    split
    · next h => exact absurd (List.cons.inj h).1 hp
    · rfl

theorem char_beq {v w : Nat} (hv : v < 64) (hw : w < 64) :
    (char v == char w) = (v == w) := by
  by_cases h : v = w
  · subst h
    simp
  · rw [beq_false_of_ne h, beq_false_of_ne fun hchar => h (char_inj hv hw hchar)]

theorem hasMark_char {v w : Nat} (hv : v < 64) (hw : w < 64) (rest : List Char) :
    Hex.hasMark (char v :: char w :: rest) = (v == 52 && (w == 49 || w == 23)) := by
  have hmarks : '0' = char 52 ∧ 'x' = char 49 ∧ 'X' = char 23 := by decide +kernel
  obtain ⟨hzero, hlower, hupper⟩ := hmarks
  rw [hasMark_cons_cons, hzero, hlower, hupper, char_beq hv (by omega),
    char_beq hw (by omega), char_beq hw (by omega)]

/-- The text of a byte string has a mark exactly if its first two bytes spell
one. -/
theorem hasMark_write (bs : Bytes) : Hex.hasMark (write bs) = looksMarked bs := by
  have hpair : ∀ a b : UInt8, ∀ rest : List Char,
      Hex.hasMark (char (a.toNat / 4) :: char (a.toNat % 4 * 16 + b.toNat / 16) :: rest)
        = looksMarked [a, b] := by
    intro a b rest
    have ha := a.toNat_lt
    have hb := b.toNat_lt
    rw [hasMark_char (by omega) (by omega), Bool.eq_iff_iff]
    simp only [looksMarked, Bool.and_eq_true, Bool.or_eq_true, beq_iff_eq,
      ← UInt8.toNat_inj]
    show _ ↔ a.toNat = 211 ∧ _ ∨ a.toNat = 209 ∧ _
    omega
  match bs with
  | [] => rfl
  | [a] =>
      have ha := a.toNat_lt
      show Hex.hasMark (char _ :: char _ :: _) = false
      rw [hasMark_char (by omega) (by omega), Bool.eq_false_iff]
      simp only [ne_eq, Bool.and_eq_true, Bool.or_eq_true, beq_iff_eq]
      omega
  | [a, b] => exact hpair a b _
  | a :: b :: c :: rest => exact hpair a b _

end EvmIndexer.Bytes.Base64
