import EvmIndexer.Bytes.Hex
import EvmIndexer.Proofs.Text.Trim
import Mathlib.Tactic.IntervalCases

/-!
# Digits that were written are read back

Reading looks at nothing but the value of each digit. So the digits of a byte
string read back as that byte string, and they do so whatever the case of their
letters, which is all that an address with a checksum changes about them. The other
way round, whatever is read was spelt by the digits, so bytes have no other spelling.
-/

namespace EvmIndexer.Bytes.Hex

theorem digit?_digitChar {n : Nat} (h : n < 16) :
    digit? (Nat.digitChar n) = some n := by
  interval_cases n <;> rfl

theorem digit?_toUpper_digitChar {n : Nat} (h : n < 16) :
    digit? (Nat.digitChar n).toUpper = some n := by
  interval_cases n <;> rfl

theorem toNat_digitChar_lt {n : Nat} (h : n < 16) :
    (Nat.digitChar n).toNat < 128 := by
  interval_cases n <;> decide

theorem isLowerDigit_digitChar {n : Nat} (h : n < 16) :
    isLowerDigit (Nat.digitChar n) = true := by
  interval_cases n <;> rfl

theorem isLowerDigit_iff {d : Char} :
    isLowerDigit d = true ↔ d ∈ "0123456789abcdef".toList := by
  constructor
  · intro h
    simp only [isLowerDigit, Bool.or_eq_true, Bool.and_eq_true, decide_eq_true_eq] at h
    have hall : ∀ n < 103, ('0' ≤ Char.ofNat n ∧ Char.ofNat n ≤ '9') ∨
        ('a' ≤ Char.ofNat n ∧ Char.ofNat n ≤ 'f') →
          Char.ofNat n ∈ "0123456789abcdef".toList := by decide
    have hsmall : d.toNat < 103 := by
      rcases h with ⟨-, hnine⟩ | ⟨-, hf⟩
      · exact Nat.lt_of_le_of_lt hnine (by decide)
      · exact Nat.lt_of_le_of_lt hf (by decide)
    have hd := hall d.toNat hsmall
    rw [Char.ofNat_toNat] at hd
    exact hd h
  · intro h
    have hall : "0123456789abcdef".toList.all isLowerDigit = true := by decide
    exact List.all_eq_true.1 hall d h

theorem exists_of_mem_write {bs : Bytes} {c : Char} (h : c ∈ write bs) :
    ∃ n, n < 16 ∧ c = Nat.digitChar n := by
  obtain ⟨b, -, hc⟩ := List.mem_flatMap.1 h
  have hb := b.toNat_lt
  simp only [writeByte, List.mem_cons, List.not_mem_nil, or_false] at hc
  rcases hc with rfl | rfl
  · exact ⟨b.toNat / 16, by omega, rfl⟩
  · exact ⟨b.toNat % 16, by omega, rfl⟩

theorem length_write (bs : Bytes) : (write bs).length = 2 * bs.length := by
  induction bs with
  | nil => rfl
  | cons b rest ih =>
      show (writeByte b ++ write rest).length = _
      rw [List.length_append, ih, List.length_cons]
      show 2 + _ = _
      omega

/-- What is read depends on the values of the digits alone. -/
theorem read_congr {cs ds : List Char} (h : cs.map digit? = ds.map digit?) :
    read cs = read ds := by
  induction cs using read.induct generalizing ds with
  | case1 =>
      cases ds with
      | nil => rfl
      | cons d rest => cases h
  | case2 c =>
      obtain ⟨d, rest, rfl, -, hrest⟩ := List.map_eq_cons_iff.1 h.symm
      obtain rfl := List.map_eq_nil_iff.1 hrest
      rfl
  | case3 hi lo rest ih =>
      obtain ⟨hi', ds', rfl, hhi, h'⟩ := List.map_eq_cons_iff.1 h.symm
      obtain ⟨lo', rest', rfl, hlo, hrest⟩ := List.map_eq_cons_iff.1 h'
      simp only [read, pair?, hhi, hlo, ih hrest.symm]

theorem read_write (bs : Bytes) : read (write bs) = some bs := by
  induction bs with
  | nil => rfl
  | cons b rest ih =>
      have hb := b.toNat_lt
      have hpair : pair? (Nat.digitChar (b.toNat / 16))
          (Nat.digitChar (b.toNat % 16)) = some b := by
        have hvalue : 16 * (b.toNat / 16) + b.toNat % 16 = b.toNat := by omega
        simp only [pair?, digit?_digitChar (show b.toNat / 16 < 16 by omega),
          digit?_digitChar (show b.toNat % 16 < 16 by omega)]
        show some (UInt8.ofNat _) = some b
        rw [hvalue, UInt8.ofNat_toNat]
      show read (_ :: _ :: write rest) = _
      simp only [read, hpair, ih]
      rfl

/-! ## Digits in any case -/

theorem digit?_toLower (c : Char) : digit? c.toLower = digit? c := by
  by_cases hupper : 'A' ≤ c ∧ c ≤ 'Z'
  · have hlow : 65 ≤ c.toNat := hupper.1
    have hhigh : c.toNat ≤ 90 := hupper.2
    rw [← Char.ofNat_toNat c]
    generalize c.toNat = n at hlow hhigh
    interval_cases n <;> rfl
  · have hsame : c.toLower = c := by
      unfold Char.toLower
      exact dif_neg hupper
    rw [hsame]

theorem toNat_of_digit? {c : Char} {n : Nat} (h : digit? c = some n) :
    48 ≤ c.toNat ∧ c.toNat ≤ 102 := by
  simp only [digit?, Bool.and_eq_true, decide_eq_true_eq] at h
  split at h
  · next hd => exact ⟨hd.1, Nat.le_trans hd.2 (by decide)⟩
  · split at h
    · next hd => exact ⟨Nat.le_trans (by decide) hd.1, hd.2⟩
    · split at h
      · next hd =>
          exact ⟨Nat.le_trans (by decide) hd.1, Nat.le_trans hd.2 (by decide)⟩
      · cases h

theorem isVisible_of_digit? {c : Char} {n : Nat} (h : digit? c = some n) :
    Text.isVisible c = true := by
  have hrange := toNat_of_digit? h
  simp only [Text.isVisible, Bool.and_eq_true, decide_eq_true_eq]
  exact ⟨Nat.le_trans (by decide) hrange.1, Nat.le_trans hrange.2 (by decide)⟩

/-- Digits that differ from those written in the case of letters alone. -/
def Spells (digits : List Char) (bs : Bytes) : Prop :=
  digits.map Char.toLower = write bs

theorem Spells.read_eq {digits : List Char} {bs : Bytes} (h : Spells digits bs) :
    read digits = some bs := by
  have hvalues : digits.map digit? = (write bs).map digit? := by
    rw [← h, List.map_map]
    exact List.map_congr_left fun c _ => (digit?_toLower c).symm
  rw [read_congr hvalues, read_write]

theorem Spells.isSome_digit? {digits : List Char} {bs : Bytes} (h : Spells digits bs)
    {c : Char} (hc : c ∈ digits) : (digit? c).isSome = true := by
  have hwritten : c.toLower ∈ write bs := h ▸ List.mem_map_of_mem hc
  obtain ⟨n, hn, hchar⟩ := exists_of_mem_write hwritten
  rw [← digit?_toLower, hchar, digit?_digitChar hn]
  rfl

theorem Spells.isVisible {digits : List Char} {bs : Bytes} (h : Spells digits bs)
    {c : Char} (hc : c ∈ digits) : Text.isVisible c = true := by
  obtain ⟨n, hn⟩ := Option.isSome_iff_exists.1 (h.isSome_digit? hc)
  exact isVisible_of_digit? hn

theorem Spells.length_eq {digits : List Char} {bs : Bytes} (h : Spells digits bs) :
    digits.length = 2 * bs.length := by
  rw [← length_write, ← h, List.length_map]

theorem toLower_of_digit? {c : Char} {n : Nat} (h : digit? c = some n) :
    n < 16 ∧ c.toLower = Nat.digitChar n := by
  have hall : ∀ m < 103, ∀ k ∈ digit? (Char.ofNat m),
      k < 16 ∧ (Char.ofNat m).toLower = Nat.digitChar k := by decide
  have hc := hall c.toNat (Nat.lt_succ_of_le (toNat_of_digit? h).2)
  rw [Char.ofNat_toNat] at hc
  exact hc n h

theorem writeByte_ofNat {high low : Nat} (hhigh : high < 16) (hlow : low < 16) :
    writeByte (UInt8.ofNat (16 * high + low)) =
      [Nat.digitChar high, Nat.digitChar low] := by
  have hvalue : (UInt8.ofNat (16 * high + low)).toNat = 16 * high + low := by
    rw [UInt8.toNat_ofNat']
    omega
  rw [writeByte, hvalue, show (16 * high + low) / 16 = high by omega,
    show (16 * high + low) % 16 = low by omega]

/-- Digits that are read spell what is read. -/
theorem spells_of_read {digits : List Char} {bs : Bytes} (h : read digits = some bs) :
    Spells digits bs := by
  unfold Spells
  induction digits using read.induct generalizing bs with
  | case1 =>
      cases h
      rfl
  | case2 c => cases h
  | case3 hi lo rest ih =>
      simp only [read, pair?, Option.bind_eq_bind, Option.bind_eq_some_iff] at h
      obtain ⟨b, ⟨high, hhigh, low, hlow, hb⟩, tail, htail, hbs⟩ := h
      cases hb
      cases hbs
      obtain ⟨hhigh, hhi⟩ := toLower_of_digit? hhigh
      obtain ⟨hlow, hlo⟩ := toLower_of_digit? hlow
      rw [List.map_cons, List.map_cons, ih htail, hhi, hlo]
      show _ = writeByte (UInt8.ofNat (16 * high + low)) ++ write tail
      rw [writeByte_ofNat hhigh hlow]
      rfl

theorem write_drop (n : Nat) (bs : Bytes) : write (bs.drop n) = (write bs).drop (2 * n) := by
  induction n generalizing bs with
  | zero => rfl
  | succ n ih =>
      cases bs with
      | nil => exact List.drop_nil.symm
      | cons b rest => exact ih rest

/-! ## Marked text -/

theorem toList_marked (bs : Bytes) : (marked bs).toList = '0' :: 'x' :: write bs :=
  String.toList_ofList

theorem marked_ne_empty (bs : Bytes) : marked bs ≠ "" := by
  intro hempty
  have hlist := congrArg String.toList hempty
  rw [toList_marked] at hlist
  cases hlist

theorem length_marked (bs : Bytes) : (marked bs).length = 2 + 2 * bs.length := by
  rw [← String.length_toList, toList_marked, List.length_cons, List.length_cons, length_write]
  omega

theorem write_take (n : Nat) (bs : Bytes) : write (bs.take n) = (write bs).take (2 * n) := by
  induction n generalizing bs with
  | zero => rfl
  | succ n ih =>
      cases bs with
      | nil => exact List.take_nil.symm
      | cons b rest => exact congrArg (writeByte b ++ ·) (ih rest)

/-- The first characters of a stored byte string are the first bytes, written out. -/
theorem take_marked (n : Nat) (bs : Bytes) :
    Text.take (2 * n + 2) (marked bs) = marked (bs.take n) := by
  rw [Text.take, toList_marked, marked, write_take]
  rfl

/-! ## Text without blanks -/

theorem readSpaced_eq_read {cs : List Char}
    (h : ∀ c ∈ cs, Text.isAsciiBlank c = false) : readSpaced cs = read cs := by
  induction cs using read.induct with
  | case1 => rfl
  | case2 c =>
      have hc := h c List.mem_cons_self
      simp [readSpaced, read, hc]
  | case3 hi lo rest ih =>
      have hhi := h hi List.mem_cons_self
      have hrest := ih fun c hc => h c (List.mem_cons_of_mem _ (List.mem_cons_of_mem _ hc))
      simp [readSpaced, read, hhi, hrest]

/-! ## Text with blanks between the bytes -/

/-- Digits of a byte string in any case, with blanks between the bytes. -/
inductive SpellsApart : List Char → Bytes → Prop
  | none : SpellsApart [] []
  | last {hi lo : Char} {b : UInt8} (hpair : Spells [hi, lo] [b]) :
      SpellsApart [hi, lo] [b]
  | more {hi lo : Char} {blanks rest : List Char} {b : UInt8} {bs : Bytes}
      (hpair : Spells [hi, lo] [b]) (hblanks : ∀ c ∈ blanks, Text.isAsciiBlank c = true)
      (hmore : bs ≠ []) (hrest : SpellsApart rest bs) :
      SpellsApart (hi :: lo :: (blanks ++ rest)) (b :: bs)

theorem Spells.pair_eq {hi lo : Char} {b : UInt8} (h : Spells [hi, lo] [b]) :
    pair? hi lo = some b := by
  have hread := h.read_eq
  cases hpair : pair? hi lo with
  | none => simp [read, hpair] at hread
  | some b' =>
      simp only [read, hpair] at hread
      cases hread
      rfl

theorem Spells.exists_cons {digits : List Char} {b : UInt8} {bs : Bytes}
    (h : Spells digits (b :: bs)) :
    ∃ hi lo rest, digits = hi :: lo :: rest ∧ Spells [hi, lo] [b] ∧ Spells rest bs := by
  obtain ⟨hi, tail, rfl, hhi, htail⟩ := List.map_eq_cons_iff.1 h
  obtain ⟨lo, rest, rfl, hlo, hrest⟩ := List.map_eq_cons_iff.1 htail
  refine ⟨hi, lo, rest, rfl, ?_, hrest⟩
  show [hi.toLower, lo.toLower] = writeByte b ++ []
  rw [hhi, hlo]
  rfl

/-- There need not be any blanks. -/
theorem Spells.apart {digits : List Char} {bs : Bytes} (h : Spells digits bs) :
    SpellsApart digits bs := by
  induction bs generalizing digits with
  | nil =>
      rw [List.map_eq_nil_iff.1 h]
      exact .none
  | cons b bs ih =>
      obtain ⟨hi, lo, rest, rfl, hpair, hrest⟩ := h.exists_cons
      cases bs with
      | nil =>
          rw [List.map_eq_nil_iff.1 hrest]
          exact .last hpair
      | cons b' bs => exact @SpellsApart.more _ _ [] _ _ _ hpair (by simp) (by simp) (ih hrest)

theorem readSpaced_append_of_blanks {blanks : List Char}
    (h : ∀ c ∈ blanks, Text.isAsciiBlank c = true) (cs : List Char) :
    readSpaced (blanks ++ cs) = readSpaced cs := by
  induction blanks with
  | nil => rfl
  | cons c rest ih =>
      have hc := h c List.mem_cons_self
      have hskip : readSpaced (c :: (rest ++ cs)) = readSpaced (rest ++ cs) := by
        cases rest ++ cs with
        | nil => simp [readSpaced, hc]
        | cons d more => simp [readSpaced, hc]
      rw [List.cons_append, hskip]
      exact ih fun d hd => h d (List.mem_cons_of_mem _ hd)

theorem Spells.readSpaced_eq {hi lo : Char} {b : UInt8} (h : Spells [hi, lo] [b])
    (rest : List Char) :
    readSpaced (hi :: lo :: rest) = (readSpaced rest).map (b :: ·) := by
  have hvisible : Text.isAsciiBlank hi = false :=
    Text.isAsciiBlank_of_isVisible (h.isVisible List.mem_cons_self)
  simp only [readSpaced, hvisible, h.pair_eq]
  cases readSpaced rest <;> rfl

section SpellsApart

variable {digits : List Char} {bs : Bytes}

theorem SpellsApart.read_eq (h : SpellsApart digits bs) : readSpaced digits = some bs := by
  induction h with
  | none => rfl
  | last hpair => rw [hpair.readSpaced_eq, readSpaced, Option.map_some]
  | more hpair hblanks hmore hrest ih =>
      rw [hpair.readSpaced_eq, readSpaced_append_of_blanks hblanks, ih, Option.map_some]

/-- It begins and ends with a digit, if there are any bytes. -/
theorem SpellsApart.hasEnds (h : SpellsApart digits bs) :
    Text.HasEnds (fun c => (digit? c).isSome) digits := by
  induction h with
  | none => exact Text.hasEnds_of_all (by simp)
  | last hpair => exact Text.hasEnds_of_all fun c hc => hpair.isSome_digit? hc
  | @more hi lo blanks rest b bs hpair hblanks hmore hrest ih =>
      have hne : rest ≠ [] := by
        rintro rfl
        cases hrest
        exact hmore rfl
      have hlast : (hi :: lo :: (blanks ++ rest)).getLast? = rest.getLast? := by
        show ([hi, lo] ++ (blanks ++ rest)).getLast? = _
        rw [← List.append_assoc, List.getLast?_append_of_ne_nil _ hne]
      constructor
      · intro c hc
        cases hc
        exact hpair.isSome_digit? List.mem_cons_self
      · intro c hc
        rw [hlast] at hc
        exact ih.2 c hc

/-- It does not look as if it had a mark, since the letter of the mark is no digit. -/
theorem SpellsApart.hasMark_eq (h : SpellsApart digits bs) : hasMark digits = false := by
  have hletter : ∀ {hi lo : Char} {b : UInt8} (rest : List Char), Spells [hi, lo] [b] →
      hasMark (hi :: lo :: rest) = false := by
    intro hi lo b rest hpair
    have hdigit : (digit? lo).isSome = true := hpair.isSome_digit? (by simp)
    by_cases hzero : hi = '0'
    · subst hzero
      have hx : lo ≠ 'x' := by
        rintro rfl
        cases hdigit
      have hX : lo ≠ 'X' := by
        rintro rfl
        cases hdigit
      simp [hasMark, hx, hX]
    · simp [hasMark, hzero]
  cases h with
  | none => rfl
  | last hpair => exact hletter [] hpair
  | more hpair => exact hletter _ hpair

/-- What may stand in front of digits: nothing, or a mark. -/
def marks : List (List Char) := [[], ['0', 'x'], ['0', 'X']]

theorem SpellsApart.dropMark_eq {mark : List Char} (hmark : mark ∈ marks)
    (h : SpellsApart digits bs) : dropMark (mark ++ digits) = digits := by
  simp only [marks, List.mem_cons, List.not_mem_nil, or_false] at hmark
  rcases hmark with rfl | rfl | rfl
  · rw [List.nil_append, dropMark, h.hasMark_eq]
    rfl
  · rfl
  · rfl

end SpellsApart

end EvmIndexer.Bytes.Hex
