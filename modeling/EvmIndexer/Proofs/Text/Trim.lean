import EvmIndexer.Text.Blank
import Mathlib.Data.List.Basic
import Mathlib.Data.List.DropRight

/-!
# Text with blanks around it

Whatever blanks stand around a text are trimmed away, however many there are, and
what is left of any text begins and ends with no blank. The visible characters of the
first 128 are no blanks of either kind, and every text that spells bytes is made of
them.
-/

namespace EvmIndexer.Text

theorem dropWhile_append_of_all {p : Char → Bool} {front : List Char}
    (hfront : ∀ c ∈ front, p c = true) (cs : List Char) :
    (front ++ cs).dropWhile p = cs.dropWhile p := by
  induction front with
  | nil => rfl
  | cons c rest ih =>
      rw [List.cons_append, List.dropWhile_cons_of_pos (hfront c List.mem_cons_self)]
      exact ih fun d hd => hfront d (List.mem_cons_of_mem _ hd)

theorem dropWhile_eq_self_of_head {p : Char → Bool} {cs : List Char}
    (h : ∀ c ∈ cs.head?, p c = false) : cs.dropWhile p = cs := by
  cases cs with
  | nil => rfl
  | cons c rest =>
      apply List.dropWhile_cons_of_neg
      rw [h c rfl]
      exact Bool.false_ne_true

theorem dropWhile_eq_self_of_none {p : Char → Bool} {cs : List Char}
    (hcs : ∀ c ∈ cs, p c = false) : cs.dropWhile p = cs :=
  dropWhile_eq_self_of_head fun c hc => hcs c (List.mem_of_mem_head? hc)

/-- What is put around a text makes no difference to what trimming leaves of it. -/
theorem trimBy_around {p : Char → Bool} {before after : List Char}
    (hbefore : ∀ c ∈ before, p c = true) (core : List Char)
    (hafter : ∀ c ∈ after, p c = true) :
    trimBy p (before ++ core ++ after) = trimBy p core := by
  have hfront : (before ++ core ++ after).dropWhile p = (core ++ after).dropWhile p := by
    rw [List.append_assoc, dropWhile_append_of_all hbefore]
  rw [trimBy, trimBy, hfront, List.dropWhile_append]
  split
  · next hempty =>
      rw [List.isEmpty_iff.1 hempty, List.dropWhile_eq_nil_iff.2 hafter]
  · rw [dropWhileEnd, dropWhileEnd, List.reverse_append, dropWhile_append_of_all]
    intro c hc
    exact hafter c (List.mem_reverse.1 hc)

theorem trimBy_eq_self {p : Char → Bool} {cs : List Char}
    (hfirst : ∀ c ∈ cs.head?, p c = false) (hlast : ∀ c ∈ cs.getLast?, p c = false) :
    trimBy p cs = cs := by
  have hreversed : cs.reverse.dropWhile p = cs.reverse := by
    apply dropWhile_eq_self_of_head
    rwa [List.head?_reverse]
  rw [trimBy, dropWhile_eq_self_of_head hfirst, dropWhileEnd, hreversed, List.reverse_reverse]

/-- Trimming takes off what was put around. -/
theorem trimBy_surrounded {p : Char → Bool} {before core after : List Char}
    (hbefore : ∀ c ∈ before, p c = true) (hcore : ∀ c ∈ core, p c = false)
    (hafter : ∀ c ∈ after, p c = true) :
    trimBy p (before ++ core ++ after) = core := by
  rw [trimBy_around hbefore core hafter]
  apply trimBy_eq_self
  · intro c hc
    exact hcore c (List.mem_of_mem_head? hc)
  · intro c hc
    exact hcore c (List.mem_of_mem_getLast? hc)

/-! ## Ends that stay -/

/-- Whether the first and the last character, if there are any, are of a class. -/
def HasEnds (p : Char → Bool) (cs : List Char) : Prop :=
  (∀ c ∈ cs.head?, p c = true) ∧ ∀ c ∈ cs.getLast?, p c = true

section HasEnds

variable {p q : Char → Bool} {cs ds : List Char}

theorem hasEnds_of_all (h : ∀ c ∈ cs, p c = true) : HasEnds p cs :=
  ⟨fun c hc => h c (List.mem_of_mem_head? hc), fun c hc => h c (List.mem_of_mem_getLast? hc)⟩

theorem HasEnds.append (hcs : HasEnds p cs) (hds : HasEnds p ds) : HasEnds p (cs ++ ds) := by
  constructor
  · intro c hc
    cases cs with
    | nil => exact hds.1 c hc
    | cons d rest => exact hcs.1 c hc
  · intro c hc
    by_cases hempty : ds = []
    · subst hempty
      rw [List.append_nil] at hc
      exact hcs.2 c hc
    · rw [List.getLast?_append_of_ne_nil _ hempty] at hc
      exact hds.2 c hc

theorem HasEnds.imp (h : HasEnds p cs) (hpq : ∀ c, p c = true → q c = true) : HasEnds q cs :=
  ⟨fun c hc => hpq c (h.1 c hc), fun c hc => hpq c (h.2 c hc)⟩

theorem HasEnds.trimBy_eq (h : HasEnds p cs) (hpq : ∀ c, p c = true → q c = false) :
    trimBy q cs = cs :=
  trimBy_eq_self (fun c hc => hpq c (h.1 c hc)) (fun c hc => hpq c (h.2 c hc))

end HasEnds

/-! ## What trimming leaves -/

theorem prefix_dropWhileEnd (p : Char → Bool) (cs : List Char) :
    dropWhileEnd p cs <+: cs :=
  List.rdropWhile_prefix p cs

theorem mem_of_mem_trimBy {p : Char → Bool} {cs : List Char} {c : Char}
    (h : c ∈ trimBy p cs) : c ∈ cs :=
  (List.dropWhile_suffix p).subset ((prefix_dropWhileEnd p _).subset h)

theorem head?_trimBy {p : Char → Bool} {cs : List Char} {c : Char}
    (h : (trimBy p cs).head? = some c) : p c = false := by
  obtain ⟨dropped, hdropped⟩ := prefix_dropWhileEnd p (cs.dropWhile p)
  have hfirst : (cs.dropWhile p).head? = some c := by
    rw [← hdropped, List.head?_append]
    exact congrArg (·.or dropped.head?) h
  have hnot := List.head?_dropWhile_not p cs
  rw [hfirst] at hnot
  exact hnot

theorem getLast?_trimBy {p : Char → Bool} {cs : List Char} {c : Char}
    (h : (trimBy p cs).getLast? = some c) : p c = false := by
  rw [trimBy, dropWhileEnd, List.getLast?_reverse] at h
  have hnot := List.head?_dropWhile_not p (cs.dropWhile p).reverse
  rw [h] at hnot
  exact hnot

theorem trim_trim (s : String) : trim (trim s) = trim s := by
  have hagain : trimBy isBlank (trimBy isBlank s.toList) = trimBy isBlank s.toList :=
    trimBy_eq_self (fun _ hc => head?_trimBy hc) (fun _ hc => getLast?_trimBy hc)
  rw [trim, trim, String.toList_ofList, hagain]

theorem mem_dropWhile_of_not {p : Char → Bool} {cs : List Char} {c : Char}
    (hc : p c = false) (h : c ∈ cs) : c ∈ cs.dropWhile p := by
  rw [← List.takeWhile_append_dropWhile (p := p) (l := cs)] at h
  rcases List.mem_append.1 h with htaken | hleft
  · have hblank := List.mem_takeWhile_imp htaken
    rw [hc] at hblank
    cases hblank
  · exact hleft

/-- Trimming takes off no character of another class. -/
theorem mem_trimBy_iff {p : Char → Bool} {cs : List Char} {c : Char} (hc : p c = false) :
    c ∈ trimBy p cs ↔ c ∈ cs := by
  refine ⟨mem_of_mem_trimBy, fun h => ?_⟩
  rw [trimBy, dropWhileEnd, List.mem_reverse]
  refine mem_dropWhile_of_not hc (List.mem_reverse.2 ?_)
  exact mem_dropWhile_of_not hc h

/-! ## Characters that stay -/

/-- Whether a character is one of those from `!` to `~`. -/
def isVisible (c : Char) : Bool := '!' ≤ c && c ≤ '~'

theorem toNat_of_isVisible {c : Char} (h : isVisible c = true) :
    33 ≤ c.toNat ∧ c.toNat ≤ 126 := by
  simp only [isVisible, Bool.and_eq_true, decide_eq_true_eq] at h
  exact h

theorem isBlank_of_isVisible {c : Char} (h : isVisible c = true) :
    isBlank c = false := by
  have hrange := toNat_of_isVisible h
  simp only [isBlank, Bool.or_eq_false_iff, Bool.and_eq_false_iff,
    decide_eq_false_iff_not, beq_eq_false_iff_ne]
  omega

theorem isAsciiBlank_of_isVisible {c : Char} (h : isVisible c = true) :
    isAsciiBlank c = false := by
  have hrange := toNat_of_isVisible h
  simp only [isAsciiBlank, Bool.or_eq_false_iff, Bool.and_eq_false_iff,
    decide_eq_false_iff_not, beq_eq_false_iff_ne]
  refine ⟨?_, by omega⟩
  rintro rfl
  exact absurd hrange.1 (by decide)

end EvmIndexer.Text
