import EvmIndexer.Text.LowerCase

/-!
# Lowering twice

Text that was lowered is in lower case: lowering it again changes nothing. An
address that was lowered once may therefore be compared with one that was lowered
on the way in and again on the way out.

What has to be known of the table of capitals is that it never leads to a
capital. Its runs are given by their ends and a step of one or two, and so are
the characters they are lowered to. Two such rows of characters have none in
common if one ends before the other begins, or if they take every other
character and begin at different parities. One evaluation of the table settles
that for all pairs of runs; no proof walks through the capitals.

Another one settles which capitals are lowered into the first 128 characters: the
table has one, a sign that becomes the letter k. So text that is lowered to digits
and to the first letters was made of these in either case and of nothing else.
-/

namespace EvmIndexer.Text

/-- A run of capitals: the first, the last, the step and the offset. -/
abbrev Run := Nat × Nat × Nat × Int

/-- Whether a run has the capital `n`. -/
def Run.has (run : Run) (n : Nat) : Bool :=
  run.1 ≤ n && n ≤ run.2.1 && (n - run.1) % run.2.2.1 == 0

/-- Whether the characters from `first` to `last` at a step are none of the
capitals of a run. -/
def Run.avoids (first last step : Nat) (run : Run) : Bool :=
  Nat.blt last run.1 || (Nat.blt run.2.1 first ||
    (Nat.beq run.2.2.1 2 && (Nat.beq first last || Nat.beq step 2) &&
      Nat.beq ((first + run.1) % 2) 1))

/-- Whether the lower forms of a run are no capitals: none of the table, none of
the first 128 characters, and not the capital I with a dot. -/
def Run.lowersOut (run : Run) : Bool :=
  let first := (run.1 + run.2.2.2).toNat
  let last := (run.2.1 + run.2.2.2).toNat
  0x5a < first && (last < 0x130 || 0x130 < first) &&
    capitalRuns.all (Run.avoids first last run.2.2.1)

theorem all_lowersOut : capitalRuns.all Run.lowersOut = true := by
  decide +kernel

theorem Run.not_has_of_avoids {first last step n : Nat} {run : Run}
    (h : run.avoids first last step = true) (hfirst : first ≤ n)
    (hlast : n ≤ last) (hstep : (n - first) % step = 0) : run.has n = false := by
  unfold Run.avoids at h
  rw [Run.has]
  simp only [Bool.or_eq_true, Bool.and_eq_true, Nat.blt_eq, Nat.beq_eq] at h
  rcases h with hbelow | habove | ⟨⟨htwo, hrow⟩, hparity⟩
  · rw [decide_eq_false (by omega : ¬ run.1 ≤ n)]; rfl
  · rw [decide_eq_false (by omega : ¬ n ≤ run.2.1), Bool.and_false]; rfl
  · have hodd : run.1 ≤ n → (n - run.1) % 2 = 1 := by
      intro hle
      rcases hrow with hone | hstep2
      · omega
      · rw [hstep2] at hstep; omega
    rw [htwo]
    by_cases hle : run.1 ≤ n
    · rw [hodd hle, Bool.and_comm]; rfl
    · rw [decide_eq_false hle]; rfl

/-- What the table says of a character that is no capital of it. -/
theorem lowerByTable_of_not_has {c : Char}
    (h : ∀ run ∈ capitalRuns, Run.has run c.toNat = false) :
    lowerByTable c = c := by
  have hnone : capitalRuns.find? (fun run => Run.has run c.toNat) = none :=
    List.find?_eq_none.2 fun run hrun => by simp [h run hrun]
  unfold lowerByTable
  show (match capitalRuns.find? (fun run => Run.has run c.toNat) with
    | some (_, _, _, offset) => Char.ofNat (c.toNat + offset).toNat
    | none => c) = c
  rw [hnone]

/-- What the table says of a capital of it. -/
theorem lowerByTable_of_find? {c : Char} {run : Run}
    (h : capitalRuns.find? (fun run => Run.has run c.toNat) = some run) :
    lowerByTable c = Char.ofNat (c.toNat + run.2.2.2).toNat := by
  unfold lowerByTable
  show (match capitalRuns.find? (fun run => Run.has run c.toNat) with
    | some (_, _, _, offset) => Char.ofNat (c.toNat + offset).toNat
    | none => c) = _
  rw [h]

/-! ## Characters in lower case -/

/-- A character that stays as it is in every place. -/
def IsLower (c : Char) : Prop :=
  ∀ before after, lowerAt before c after = [c]

theorem toLower_of_not_capital {c : Char} (h : c.toNat < 0x41 ∨ 0x5a < c.toNat) :
    c.toLower = c := by
  unfold Char.toLower
  rw [dif_neg]
  rintro ⟨hle, hge⟩
  have hle' : 0x41 ≤ c.toNat := hle
  have hge' : c.toNat ≤ 0x5a := hge
  omega

theorem isLower_of_ascii {c : Char} (hsmall : c.toNat < 0x80)
    (h : c.toNat < 0x41 ∨ 0x5a < c.toNat) : IsLower c := by
  intro before after
  rw [lowerAt, if_pos hsmall, toLower_of_not_capital h]

/-- The table has the capital sigma too. -/
theorem exists_has_sigma : ∃ run ∈ capitalRuns, Run.has run 0x3a3 = true := by
  decide +kernel

theorem isLower_of_not_has {c : Char} (hlarge : 0x5a < c.toNat)
    (hdotted : c.toNat ≠ 0x130)
    (h : ∀ run ∈ capitalRuns, Run.has run c.toNat = false) : IsLower c := by
  intro before after
  by_cases hsmall : c.toNat < 0x80
  · exact isLower_of_ascii hsmall (Or.inr hlarge) before after
  · have hi : (c == 'İ') = false :=
      beq_false_of_ne fun heq => hdotted (by rw [heq]; rfl)
    have hs : (c == 'Σ') = false := by
      refine beq_false_of_ne fun heq => ?_
      obtain ⟨run, hrun, hhas⟩ := exists_has_sigma
      have hnot := h run hrun
      rw [heq] at hnot
      exact absurd hhas (ne_true_of_eq_false hnot)
    simp only [lowerAt, if_neg hsmall, hi, hs, Bool.false_eq_true, if_false,
      lowerByTable_of_not_has h]

theorem toNat_ofNat (n : Nat) :
    (Char.ofNat n).toNat = n ∨ (Char.ofNat n).toNat = 0 := by
  unfold Char.ofNat
  by_cases hvalid : n.isValidChar
  · rw [dif_pos hvalid]
    exact Or.inl rfl
  · rw [dif_neg hvalid]
    exact Or.inr rfl

/-- The lower form of a capital of the table is in lower case. -/
theorem isLower_ofNat {run : Run} (hrun : run ∈ capitalRuns) {n : Nat}
    (hn : run.has n = true) : IsLower (Char.ofNat (n + run.2.2.2).toNat) := by
  have hout := List.all_eq_true.1 all_lowersOut run hrun
  simp only [Run.lowersOut, Bool.and_eq_true, Bool.or_eq_true,
    decide_eq_true_eq] at hout
  simp only [Run.has, Bool.and_eq_true, decide_eq_true_eq, beq_iff_eq] at hn
  obtain ⟨⟨hlarge, hdotted⟩, hall⟩ := hout
  obtain ⟨⟨hfirst, hlast⟩, hstep⟩ := hn
  rcases toNat_ofNat (n + run.2.2.2).toNat with hvalid | hzero
  · refine isLower_of_not_has (by omega) (by omega) fun run' hrun' => ?_
    rw [hvalid]
    refine Run.not_has_of_avoids (List.all_eq_true.1 hall run' hrun') (by omega)
      (by omega) ?_
    rw [← hstep]
    congr 1
    omega
  · -- an offset that led out of the characters would give the zero character
    exact isLower_of_ascii (by omega) (by omega)

/-- The lower form by the table is in lower case. -/
theorem isLower_lowerByTable {c : Char} (hlarge : 0x80 ≤ c.toNat)
    (hdotted : c ≠ 'İ') : IsLower (lowerByTable c) := by
  cases hfind : capitalRuns.find? (fun run => Run.has run c.toNat) with
  | none =>
      have hnone : ∀ run ∈ capitalRuns, Run.has run c.toNat = false := by
        simpa using hfind
      rw [lowerByTable_of_not_has hnone]
      refine isLower_of_not_has (by omega) (fun heq => hdotted ?_) hnone
      rw [← Char.ofNat_toNat c, heq]
  | some run =>
      have hhas := List.find?_some hfind
      rw [lowerByTable_of_find? hfind]
      exact isLower_ofNat (List.mem_of_find?_eq_some hfind) hhas

theorem isLower_toLower {c : Char} (h : c.toNat < 0x80) : IsLower c.toLower := by
  by_cases hcapital : 0x41 ≤ c.toNat ∧ c.toNat ≤ 0x5a
  · have hlower : c.toLower.toNat = c.toNat + 0x20 := by
      unfold Char.toLower
      rw [dif_pos ⟨hcapital.1, hcapital.2⟩]
      show (c.val + 32).toNat = c.val.toNat + 32
      have hsum : c.val.toNat + 32 < 2 ^ 32 := by
        have hle : c.val.toNat ≤ 0x5a := hcapital.2
        omega
      rw [UInt32.toNat_add]
      exact Nat.mod_eq_of_lt hsum
    exact isLower_of_ascii (by omega) (by omega)
  · rw [toLower_of_not_capital (by omega)]
    exact isLower_of_ascii h (by omega)

/-- Whatever a character is lowered to is in lower case. -/
theorem isLower_of_mem_lowerAt {before after : List Char} {c d : Char}
    (hd : d ∈ lowerAt before c after) : IsLower d := by
  unfold lowerAt at hd
  split at hd
  · next hsmall =>
      rw [List.mem_singleton.1 hd]
      exact isLower_toLower hsmall
  · next hlarge =>
      split at hd
      · simp only [List.mem_cons, List.not_mem_nil, or_false] at hd
        rcases hd with rfl | rfl
        · exact isLower_of_ascii (by decide) (by decide)
        · exact isLower_of_not_has (by decide) (by decide) (by decide +kernel)
      · next hdotted =>
          split at hd
          · rw [List.mem_singleton.1 hd]
            split
            · exact isLower_of_not_has (by decide) (by decide)
                (by decide +kernel)
            · exact isLower_of_not_has (by decide) (by decide)
                (by decide +kernel)
          · rw [List.mem_singleton.1 hd]
            exact isLower_lowerByTable (by omega) (by simpa using hdotted)

/-! ## Text in lower case -/

theorem isLower_of_mem_lowerFrom {cs : List Char} {before : List Char} {d : Char}
    (hd : d ∈ lowerFrom before cs) : IsLower d := by
  induction cs generalizing before with
  | nil => cases hd
  | cons c rest ih =>
      rw [lowerFrom] at hd
      rcases List.mem_append.1 hd with hhere | hlater
      · exact isLower_of_mem_lowerAt hhere
      · exact ih hlater

theorem lowerFrom_of_isLower {cs : List Char} (h : ∀ c ∈ cs, IsLower c)
    (before : List Char) : lowerFrom before cs = cs := by
  induction cs generalizing before with
  | nil => rfl
  | cons c rest ih =>
      rw [lowerFrom, h c (by simp), ih (fun d hd => h d (by simp [hd]))]
      rfl

/-- On the first 128 characters the place does not matter. -/
theorem lowerFrom_of_ascii {cs : List Char} (h : ∀ c ∈ cs, c.toNat < 0x80)
    (before : List Char) : lowerFrom before cs = cs.map Char.toLower := by
  induction cs generalizing before with
  | nil => rfl
  | cons c rest ih =>
      rw [lowerFrom, lowerAt, if_pos (h c (by simp)), ih fun d hd => h d (by simp [hd])]
      rfl

/-- Lowering is idempotent. -/
theorem lower_lower (s : String) : lower (lower s) = lower s := by
  unfold lower
  rw [String.toList_ofList,
    lowerFrom_of_isLower (fun _ hd => isLower_of_mem_lowerFrom hd)]

/-! ## Which characters are lowered into the first 128 -/

/-- Whether the lower forms of a run are characters behind the letter x, or the run is
the one sign that is lowered to the letter k. -/
def Run.lowersHigh (run : Run) : Bool :=
  let first := (run.1 + run.2.2.2).toNat
  let last := (run.2.1 + run.2.2.2).toNat
  (Nat.blt 0x78 first &&
      (Nat.blt last 0xd800 || (Nat.blt 0xdfff first && Nat.blt last 0x110000))) ||
    (Nat.beq run.1 run.2.1 && Nat.beq first 0x6b)

theorem all_lowersHigh : capitalRuns.all Run.lowersHigh = true := by
  decide +kernel

/-- Of the first 128 characters, only the letter k is the lower form of another
character by the table. -/
theorem lowerByTable_high {c : Char} (h : 0x80 ≤ c.toNat) :
    lowerByTable c = 'k' ∨ 0x78 < (lowerByTable c).toNat := by
  cases hfind : capitalRuns.find? (fun run => Run.has run c.toNat) with
  | none =>
      have hnone : ∀ run ∈ capitalRuns, Run.has run c.toNat = false := by
        simpa using hfind
      rw [lowerByTable_of_not_has hnone]
      exact Or.inr (by omega)
  | some run =>
      have hhigh := List.all_eq_true.1 all_lowersHigh run (List.mem_of_find?_eq_some hfind)
      have hhas := List.find?_some hfind
      simp only [Run.lowersHigh, Bool.or_eq_true, Bool.and_eq_true, Nat.blt_eq,
        Nat.beq_eq] at hhigh
      simp only [Run.has, Bool.and_eq_true, decide_eq_true_eq, beq_iff_eq] at hhas
      rw [lowerByTable_of_find? hfind]
      rcases hhigh with ⟨hlarge, hvalid⟩ | ⟨hone, hk⟩
      · right
        have hchar : (c.toNat + run.2.2.2).toNat.isValidChar := by
          rcases hvalid with hlow | ⟨hbehind, hbelow⟩
          · exact Or.inl (by omega)
          · exact Or.inr ⟨by omega, by omega⟩
        have hnat : (Char.ofNat (c.toNat + run.2.2.2).toNat).toNat =
            (c.toNat + run.2.2.2).toNat := by
          unfold Char.ofNat
          rw [dif_pos hchar]
          rfl
        rw [hnat]
        omega
      · left
        rw [show (c.toNat + run.2.2.2).toNat = 0x6b by omega]

/-- A character that is lowered to characters before the letter k, or to x, is one of
the first 128. -/
theorem small_of_lowerAt {before after : List Char} {c : Char}
    (h : ∀ d ∈ lowerAt before c after, d.toNat < 0x6b ∨ d = 'x') : c.toNat < 0x80 := by
  refine Nat.lt_of_not_le fun hlarge => ?_
  have hfar : ∀ d ∈ lowerAt before c after, d.toNat < 0x79 := by
    intro d hd
    rcases h d hd with hsmall | rfl
    · omega
    · decide
  simp only [lowerAt, if_neg (Nat.not_lt.2 hlarge)] at h hfar
  split at hfar
  · exact absurd (hfar (Char.ofNat 0x307) (by simp)) (by decide)
  · next hdotted =>
      rw [if_neg hdotted] at h
      split at hfar
      · have hsigma := hfar _ (List.mem_singleton_self _)
        split at hsigma
        · exact absurd hsigma (by decide)
        · exact absurd hsigma (by decide)
      · next hsigma =>
          rw [if_neg hsigma] at h
          have hbelow := hfar _ (List.mem_singleton_self _)
          rcases lowerByTable_high (c := c) (by omega) with hk | hhigh
          · have hplain := h _ (List.mem_singleton_self _)
            rw [hk] at hplain
            exact absurd hplain (by decide)
          · omega

theorem small_of_mem_lowerFrom {cs : List Char} {before : List Char}
    (h : ∀ d ∈ lowerFrom before cs, d.toNat < 0x6b ∨ d = 'x') :
    ∀ c ∈ cs, c.toNat < 0x80 := by
  induction cs generalizing before with
  | nil => exact fun c hc => nomatch hc
  | cons c rest ih =>
      rw [lowerFrom] at h
      intro d hd
      rcases List.mem_cons.1 hd with rfl | hd
      · exact small_of_lowerAt fun e he => h e (List.mem_append_left _ he)
      · exact ih (fun e he => h e (List.mem_append_right _ he)) d hd

/-- Text that is lowered to such characters is lowered letter by letter. -/
theorem toList_lower_of_plain {s : String}
    (h : ∀ d ∈ (lower s).toList, d.toNat < 0x6b ∨ d = 'x') :
    (lower s).toList = s.toList.map Char.toLower := by
  rw [lower, String.toList_ofList] at h ⊢
  exact lowerFrom_of_ascii (small_of_mem_lowerFrom h) []

end EvmIndexer.Text
