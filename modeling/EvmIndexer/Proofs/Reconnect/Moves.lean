import EvmIndexer.Reconnect.Supervisor
import Mathlib.Data.List.Basic
import Mathlib.Data.List.Count

/-!
# What the moves of a supervisor do

The timer is armed by a call for it and by nothing else, and only the timer starts
runs. A shutdown cancels the latest run, which is why it has to be known that no other
one waits for its first step. Then the supervisor is quiet, and stays so: nobody is
told any more that the timer was armed, it does not go off, and no run begins.

A cancelled run may still end in its own way, and if it fails it asks for the timer
once more. In a history that is a call like any other, and it is answered like one.
-/

namespace EvmIndexer.Supervisor

/-- The supervisor after a history, if all its moves are possible. -/
def run? (s : Supervisor) (history : List Move) : Option Supervisor :=
  history.foldlM step? s

/-- The answer to the call for the timer that a move makes, if it makes one. A run
that fails makes one too. -/
def answer? (s : Supervisor) : Move → Option Bool
  | .schedule | .fail _ => some s.schedule.1
  | _ => none

/-- The answers to all calls for the timer in a history. -/
def answers (s : Supervisor) : List Move → List Bool
  | [] => []
  | move :: rest =>
    match s.step? move with
    | some s' => (s.answer? move).toList ++ s'.answers rest
    | none => []

variable {s s' : Supervisor} {move : Move} {history rest : List Move}

theorem run?_cons_eq_some :
    s.run? (move :: rest) = some s' ↔
      ∃ middle, s.step? move = some middle ∧ middle.run? rest = some s' :=
  Option.bind_eq_some_iff

theorem run?_append_eq_some :
    s.run? (history ++ rest) = some s' ↔
      ∃ middle, s.run? history = some middle ∧ middle.run? rest = some s' := by
  rw [run?, List.foldlM_append]
  exact Option.bind_eq_some_iff

/-! ## Asking for the timer -/

theorem schedule_of_isArmed (h : s.timer.isArmed = true) : s.schedule = (false, s) := by
  unfold schedule Timer.schedule
  rw [h, Bool.true_or, if_pos rfl]

theorem schedule_of_closed (h : s.timer.closed = true) : s.schedule = (false, s) := by
  unfold schedule Timer.schedule
  rw [h, Bool.or_true, if_pos rfl]

theorem schedule_of_due_eq_none (hdue : s.timer.due = none)
    (hclosed : s.timer.closed = false) :
    s.schedule = (true, { s with timer := { s.timer with
      due := some (s.clock + s.timer.delay), attempts := s.timer.attempts + 1 } }) := by
  unfold schedule Timer.schedule
  rw [if_neg (by simp [Timer.isArmed, hdue, hclosed])]

/-! ## The latest run -/

theorem length_cancelLatest (runs : List Run) :
    (cancelLatest runs).length = runs.length := by
  unfold cancelLatest
  split
  · next run hlast =>
      split
      · have hpos : runs ≠ [] := by
          rintro rfl
          cases hlast
        rw [List.length_append, List.length_dropLast, List.length_singleton]
        have := List.length_pos_iff.2 hpos
        omega
      · rfl
  · rfl

theorem getElem?_cancelLatest {runs : List Run} {run : Nat} {stage : Run}
    (h : runs[run]? = some stage) :
    (cancelLatest runs)[run]? = some (if run + 1 = runs.length ∧ stage.isLive = true then
      .cancelled else stage) := by
  have hlt := (List.getElem?_eq_some_iff.1 h).1
  have hlast : runs.getLast? = runs[runs.length - 1]? := List.getLast?_eq_getElem?
  unfold cancelLatest
  by_cases hlatest : run + 1 = runs.length
  · have hrun : runs.length - 1 = run := by omega
    rw [hlast, hrun, h]
    simp only
    split
    · next hlive =>
        rw [if_pos ⟨hlatest, hlive⟩, List.getElem?_append_right (by simp; omega)]
        simp [hrun]
    · next hlive => rw [if_neg fun hboth => hlive hboth.2, h]
  · rw [if_neg fun hboth => hlatest hboth.1]
    split
    · split
      · rw [List.getElem?_append_left (by simp; omega), List.getElem?_dropLast,
          if_pos (by omega), h]
      · exact h
    · exact h

/-- A run that a shutdown leaves waiting for its first step is not the latest. -/
theorem getElem?_of_cancelLatest {runs : List Run} {run : Nat}
    (h : (cancelLatest runs)[run]? = some .spawned) :
    runs[run]? = some .spawned ∧ run + 1 ≠ runs.length := by
  obtain ⟨hlt, -⟩ := List.getElem?_eq_some_iff.1 h
  rw [length_cancelLatest] at hlt
  have hbefore := List.getElem?_eq_getElem hlt
  have hcancelled := getElem?_cancelLatest hbefore
  rw [h] at hcancelled
  split at hcancelled
  · cases hcancelled
  · next hkept =>
      rw [← Option.some.inj hcancelled] at hbefore hkept
      exact ⟨hbefore, fun hlatest => hkept ⟨hlatest, rfl⟩⟩

/-! ## What a history adds up to -/

/-- What a call for the timer is answered is what becomes of the count of armings. -/
theorem attempts_schedule (s : Supervisor) :
    s.schedule.2.timer.attempts = s.timer.attempts + [s.schedule.1].count true := by
  by_cases hclosed : s.timer.closed = true
  · rw [schedule_of_closed hclosed]
    rfl
  cases hdue : s.timer.due with
  | some due =>
      rw [schedule_of_isArmed (by rw [Timer.isArmed, hdue]; rfl)]
      rfl
  | none =>
      rw [schedule_of_due_eq_none hdue (by simpa using hclosed)]
      rfl

theorem attempts_step (hstep : s.step? move = some s') :
    s'.timer.attempts = s.timer.attempts + (s.answer? move).toList.count true := by
  cases move with
  | schedule =>
      cases hstep
      exact attempts_schedule s
  | fail run =>
      obtain ⟨-, hs'⟩ := Option.ite_none_right_eq_some.1 hstep
      cases hs'
      exact attempts_schedule { s with runs := s.runs.set run .over }
  | shutdown =>
      cases hstep
      rfl
  | wait | fire | begin | succeed =>
      obtain ⟨-, hs'⟩ := Option.ite_none_right_eq_some.1 hstep
      cases hs'
      rfl

theorem attempts_run (hrun : s.run? history = some s') :
    s'.timer.attempts = s.timer.attempts + (s.answers history).count true := by
  induction history generalizing s with
  | nil =>
      cases hrun
      rfl
  | cons move rest ih =>
      obtain ⟨middle, hstep, hrest⟩ := run?_cons_eq_some.1 hrun
      rw [ih hrest, attempts_step hstep, answers, hstep, List.count_append, Nat.add_assoc]

/-- Only the timer starts runs. -/
theorem length_runs_step (hstep : s.step? move = some s') :
    s'.runs.length = s.runs.length + [move].count .fire := by
  cases move with
  | schedule =>
      cases hstep
      rfl
  | fire =>
      obtain ⟨-, hs'⟩ := Option.ite_none_right_eq_some.1 hstep
      cases hs'
      exact List.length_append
  | shutdown =>
      cases hstep
      exact length_cancelLatest s.runs
  | wait =>
      obtain ⟨-, hs'⟩ := Option.ite_none_right_eq_some.1 hstep
      cases hs'
      rfl
  | begin | succeed | fail =>
      obtain ⟨-, hs'⟩ := Option.ite_none_right_eq_some.1 hstep
      cases hs'
      exact List.length_set

theorem length_runs_run (hrun : s.run? history = some s') :
    s'.runs.length = s.runs.length + history.count .fire := by
  induction history generalizing s with
  | nil =>
      cases hrun
      rfl
  | cons move rest ih =>
      obtain ⟨middle, hstep, hrest⟩ := run?_cons_eq_some.1 hrun
      rw [ih hrest, length_runs_step hstep, Nat.add_assoc, ← List.count_append,
        List.singleton_append]

/-! ## After a shutdown -/

/-- The timer is closed, and no run waits for its first step. -/
structure Quiet (s : Supervisor) : Prop where
  closed : s.timer.closed = true
  due : s.timer.due = none
  spawned : .spawned ∉ s.runs

theorem Quiet.schedule (h : Quiet s) : s.schedule = (false, s) :=
  schedule_of_closed h.closed

theorem Quiet.setRun (h : Quiet s) {run : Nat} {stage : Run} (hstage : stage ≠ .spawned) :
    Quiet { s with runs := s.runs.set run stage } where
  closed := h.closed
  due := h.due
  spawned hmem := (List.mem_or_eq_of_mem_set hmem).elim h.spawned fun heq => hstage heq.symm

/-- A move that arms no timer, lets none go off and begins no run. -/
structure Idle (s : Supervisor) (move : Move) : Prop where
  answer : s.answer? move ≠ some true
  fire : move ≠ .fire
  begin : ∀ run, move ≠ .begin run

theorem Quiet.step (h : Quiet s) (hstep : s.step? move = some s') :
    Quiet s' ∧ Idle s move := by
  cases move with
  | wait seconds =>
      obtain ⟨-, hs'⟩ := Option.ite_none_right_eq_some.1 hstep
      cases hs'
      exact ⟨{ h with }, nofun, nofun, nofun⟩
  | schedule =>
      cases hstep
      rw [h.schedule]
      refine ⟨h, ?_, nofun, nofun⟩
      rw [answer?, h.schedule]
      nofun
  | fire =>
      obtain ⟨hfire, -⟩ := Option.ite_none_right_eq_some.1 hstep
      simp [canFire, Timer.isDue, h.due] at hfire
  | begin run =>
      obtain ⟨hrun, -⟩ := Option.ite_none_right_eq_some.1 hstep
      exact absurd (List.mem_of_getElem? hrun) h.spawned
  | succeed run =>
      obtain ⟨-, hs'⟩ := Option.ite_none_right_eq_some.1 hstep
      cases hs'
      exact ⟨h.setRun nofun, nofun, nofun, nofun⟩
  | fail run =>
      obtain ⟨-, hs'⟩ := Option.ite_none_right_eq_some.1 hstep
      have hover : Quiet { s with runs := s.runs.set run .over } := h.setRun nofun
      rw [hover.schedule] at hs'
      cases hs'
      refine ⟨hover, ?_, nofun, nofun⟩
      rw [answer?, h.schedule]
      nofun
  | shutdown =>
      cases hstep
      refine ⟨⟨rfl, rfl, fun hmem => ?_⟩, nofun, nofun, nofun⟩
      obtain ⟨run, hrun⟩ := List.mem_iff_getElem?.1 hmem
      exact h.spawned (List.mem_of_getElem? (getElem?_of_cancelLatest hrun).1)

theorem Quiet.run (h : Quiet s) (hrun : s.run? history = some s') :
    Quiet s' ∧ true ∉ s.answers history ∧ .fire ∉ history ∧
      ∀ run, .begin run ∉ history := by
  induction history generalizing s with
  | nil =>
      cases hrun
      exact ⟨h, nofun, nofun, nofun⟩
  | cons move rest ih =>
      obtain ⟨middle, hstep, hrest⟩ := run?_cons_eq_some.1 hrun
      obtain ⟨hquiet, hidle⟩ := h.step hstep
      obtain ⟨hlast, hanswers, hfire, hbegin⟩ := ih hquiet hrest
      refine ⟨hlast, ?_, ?_, fun run => ?_⟩
      · rw [answers, hstep, List.mem_append, Option.mem_toList]
        exact fun hor => hor.elim hidle.answer hanswers
      · exact fun hmem => (List.mem_cons.1 hmem).elim (fun heq => hidle.fire heq.symm) hfire
      · exact fun hmem => (List.mem_cons.1 hmem).elim
          (fun heq => hidle.begin run heq.symm) (hbegin run)

end EvmIndexer.Supervisor
