import EvmIndexer.Listener.Machine
import Mathlib.Data.List.Basic

/-!
# Histories of a listener

A statement about every reachable state is a statement about every history, and it
is proved move by move. The induction is made here once. It lets each move depend
on the state it is made in, since some statements hold only of histories in which
a move comes at a good moment.

What happens in a history is counted in the same way, with a count for each move
that may look at the listener before and after it.
-/

namespace EvmIndexer.Listener

/-- Every move of a history is made in a state that suits it. -/
def Always (suits : Listener → Move → Prop) : Listener → List Move → Prop
  | _, [] => True
  | l, move :: rest => suits l move ∧ ∀ l' ∈ l.step? move, Always suits l' rest

instance decidableAlways (suits : Listener → Move → Prop)
    [∀ l move, Decidable (suits l move)] :
    ∀ l history, Decidable (Always suits l history)
  | _, [] => .isTrue trivial
  | l, move :: rest =>
    have : DecidablePred fun l' => Always suits l' rest :=
      fun l' => decidableAlways suits l' rest
    inferInstanceAs (Decidable (_ ∧ ∀ l' ∈ l.step? move, Always suits l' rest))

/-- The sum of the counts of the moves of a history. -/
def tally (count : Listener → Move → Listener → Nat) : Listener → List Move → Nat
  | _, [] => 0
  | l, move :: rest =>
    match l.step? move with
    | some l' => count l move l' + tally count l' rest
    | none => 0

variable {l l' : Listener} {move : Move} {history rest : List Move}

theorem run?_cons (l : Listener) (move : Move) (rest : List Move) :
    l.run? (move :: rest) = (l.step? move).bind fun l' => l'.run? rest := rfl

theorem run?_cons_eq_some :
    l.run? (move :: rest) = some l' ↔
      ∃ middle, l.step? move = some middle ∧ middle.run? rest = some l' := by
  rw [run?_cons, Option.bind_eq_some_iff]

theorem run?_append_eq_some :
    l.run? (history ++ rest) = some l' ↔
      ∃ middle, l.run? history = some middle ∧ middle.run? rest = some l' := by
  rw [run?, List.foldlM_append]
  exact Option.bind_eq_some_iff

theorem always_of_forall {suits : Move → Prop}
    (h : ∀ move ∈ history, suits move) : Always (fun _ => suits) l history := by
  induction history generalizing l with
  | nil => exact trivial
  | cons move rest ih =>
      exact ⟨h move (by simp), fun _ _ => ih fun other hother => h other (by simp [hother])⟩

/-- What every suitable move keeps, a history of suitable moves keeps. -/
theorem run?_keeps {I : Listener → Prop} {suits : Listener → Move → Prop}
    (hstep : ∀ {l l' move}, I l → suits l move → l.step? move = some l' → I l')
    (hsuits : Always suits l history) (h : I l) (hrun : l.run? history = some l') :
    I l' := by
  induction history generalizing l with
  | nil =>
      cases hrun
      exact h
  | cons move rest ih =>
      obtain ⟨middle, hmove, hrest⟩ := run?_cons_eq_some.1 hrun
      exact ih (hsuits.2 middle hmove) (hstep h hsuits.1 hmove) hrest

/-- What suits every state that an invariant allows, suits a whole history. -/
theorem Always.of_keeps {I : Listener → Prop} {suits more : Listener → Move → Prop}
    (hstep : ∀ {l l' move}, I l → suits l move → l.step? move = some l' → I l')
    (hmore : ∀ {l move}, I l → suits l move → more l move)
    (hsuits : Always suits l history) (h : I l) : Always more l history := by
  induction history generalizing l with
  | nil => exact trivial
  | cons move rest ih =>
      exact ⟨hmore h hsuits.1, fun middle hmove =>
        ih (hsuits.2 middle hmove) (hstep h hsuits.1 hmove)⟩

theorem Always.and {suits more : Listener → Move → Prop} (h : Always suits l history)
    (hmore : Always more l history) :
    Always (fun l move => suits l move ∧ more l move) l history := by
  induction history generalizing l with
  | nil => exact trivial
  | cons move rest ih =>
      exact ⟨⟨h.1, hmore.1⟩, fun middle hmove =>
        ih (h.2 middle hmove) (hmore.2 middle hmove)⟩

theorem tally_add (count more : Listener → Move → Listener → Nat) (l : Listener)
    (history : List Move) :
    tally (fun before move after => count before move after + more before move after) l
      history = tally count l history + tally more l history := by
  induction history generalizing l with
  | nil => rfl
  | cons move rest ih =>
      rw [tally, tally, tally]
      split
      · rw [ih]
        omega
      · rfl

/-- A number that every suitable move raises by its count is raised by the tally of
a history. -/
theorem run?_tally {I : Listener → Prop} {suits : Listener → Move → Prop}
    {count : Listener → Move → Listener → Nat} (number : Listener → Nat)
    (hstep : ∀ {l l' move}, I l → suits l move → l.step? move = some l' →
      I l' ∧ number l' = number l + count l move l')
    (hsuits : Always suits l history) (h : I l) (hrun : l.run? history = some l') :
    number l' = number l + tally count l history := by
  induction history generalizing l with
  | nil =>
      cases hrun
      rfl
  | cons move rest ih =>
      obtain ⟨middle, hmove, hrest⟩ := run?_cons_eq_some.1 hrun
      obtain ⟨hmiddle, hnumber⟩ := hstep h hsuits.1 hmove
      rw [ih (hsuits.2 middle hmove) hmiddle hrest, hnumber, tally, hmove, Nat.add_assoc]

end EvmIndexer.Listener
