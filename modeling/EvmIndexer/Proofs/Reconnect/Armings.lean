import EvmIndexer.Proofs.Reconnect.Moves
import Mathlib.Algebra.Order.Field.Rat

/-!
# What becomes of a timer

The record of an arming says when the timer was armed and what became of it then: it
still waits, it was cancelled, or it went off and started a run. Of that run it is
noted when it took its first step, and whether somebody shut the supervisor down
before it could. The records are kept by the moves of a history alone. How the
supervisor keeps its timer does not matter for them, so that they could tell of two
timers that are armed at once, if there ever were two.

There never are. All the records but the last are of timers that are settled, and the
last one waits exactly if the supervisor holds a timer. `Tells` is that invariant. It
also says of each timer that went off how far its run is, and this is all that is to
be known: a run that was started takes its first step unless a shutdown comes first,
since the timer does not go off again while one waits for it.
-/

namespace EvmIndexer.Supervisor

/-! ## Records -/

/-- What became of a timer that was armed. -/
inductive Fate where
  | waits
  | cancelled
  /-- It went off at that time and started that run. -/
  | wentOff (time : Rat) (run : Nat)
deriving DecidableEq, Repr

/-- The record of one arming. -/
structure Arming where
  /-- When the timer was armed. -/
  time : Rat
  fate : Fate := .waits
  /-- When its run took a first step. -/
  begun : List Rat := []
  /-- Whether a shutdown came between its going off and the first step of its run. -/
  forestalled : Bool := false
deriving DecidableEq, Repr

namespace Arming

def waits (arming : Arming) : Bool := arming.fate == .waits

def isCancelled (arming : Arming) : Bool := arming.fate == .cancelled

/-- The run that was started, if the timer went off. -/
def run? (arming : Arming) : Option Nat :=
  match arming.fate with
  | .wentOff _ run => some run
  | _ => none

def goOff (now : Rat) (run : Nat) (arming : Arming) : Arming :=
  match arming.fate with
  | .waits => { arming with fate := .wentOff now run }
  | _ => arming

def begin (now : Rat) (run : Nat) (arming : Arming) : Arming :=
  if arming.run? = some run then { arming with begun := arming.begun ++ [now] }
  else arming

def shutDown (arming : Arming) : Arming :=
  match arming.fate with
  | .waits => { arming with fate := .cancelled }
  | .cancelled => arming
  | .wentOff _ _ =>
    if arming.begun = [] then { arming with forestalled := true } else arming

end Arming

/-- The records after a move, from those before it. -/
def record (s : Supervisor) (told : List Arming) (move : Move) : List Arming :=
  match move with
  | .wait _ | .succeed _ => told
  | .schedule | .fail _ =>
    if s.answer? move = some true then told ++ [{ time := s.clock }] else told
  | .fire => told.map (Arming.goOff s.clock s.runs.length)
  | .begin run => told.map (Arming.begin s.clock run)
  | .shutdown => told.map Arming.shutDown

/-- The records of a history, behind those that were told before. -/
def armings (s : Supervisor) (told : List Arming) : List Move → List Arming
  | [] => told
  | move :: rest =>
    match s.step? move with
    | some s' => s'.armings (s.record told move) rest
    | none => told

/-! ## What the records tell of the supervisor -/

/-- The record of the timer that is armed, if one is. -/
def armed (s : Supervisor) : List Arming :=
  s.timer.due.toList.map fun due => { time := due - s.timer.delay }

/-- Whether the record of a timer agrees with how far the run is that it started. -/
def Arming.Tracks (arming : Arming) : Run → Prop
  | .spawned => arming.begun = [] ∧ arming.forestalled = false
  | .running | .over => arming.begun.length = 1 ∧ arming.forestalled = false
  | .cancelled =>
    if arming.forestalled then arming.begun = [] else arming.begun.length = 1

/-- What holds of a timer that went off at a time and started a run. -/
structure Arming.WentOff (arming : Arming) (s : Supervisor) (time : Rat) (run : Nat) :
    Prop where
  onTime : arming.time + s.timer.delay ≤ time
  past : time ≤ s.clock
  later : ∀ first ∈ arming.begun, time ≤ first
  tracks : ∃ stage, s.runs[run]? = some stage ∧ arming.Tracks stage

/-- What the records of the timers that wait no more tell of the supervisor. -/
structure Tells (delay : Rat) (s : Supervisor) (settled : List Arming) : Prop where
  delay : s.timer.delay = delay
  ended : ∀ arming ∈ settled, arming.waits = false
  attempts : s.timer.attempts = settled.length + s.armed.length
  runs : settled.filterMap Arming.run? = List.range s.runs.length
  wentOff : ∀ arming ∈ settled, ∀ time run, arming.fate = .wentOff time run →
    arming.WentOff s time run
  latest : ∀ run, s.runs[run]? = some .spawned → run + 1 = s.runs.length

variable {s s' : Supervisor} {move : Move} {history : List Move} {delay : Rat}
  {settled : List Arming} {arming : Arming}

theorem Arming.run?_eq_some_iff {run : Nat} :
    arming.run? = some run ↔ ∃ time, arming.fate = .wentOff time run := by
  unfold Arming.run?
  cases arming.fate <;> simp

theorem fate_of_mem_armed (h : arming ∈ s.armed) : arming.fate = .waits := by
  obtain ⟨due, -, rfl⟩ := List.mem_map.1 h
  rfl

theorem length_armed (s : Supervisor) : s.armed.length = s.timer.isArmed.toNat := by
  rw [armed, List.length_map, Timer.isArmed]
  cases s.timer.due <;> rfl

/-- A timer that is armed has started no run. -/
theorem filterMap_run?_armed (s : Supervisor) : s.armed.filterMap Arming.run? = [] :=
  List.filterMap_eq_nil_iff.2 fun arming harming => by
    rw [Arming.run?, fate_of_mem_armed harming]

theorem Arming.goOff_of_ended (h : arming.waits = false) (now : Rat) (run : Nat) :
    arming.goOff now run = arming := by
  unfold Arming.goOff
  split
  · next hfate => simp [Arming.waits, hfate] at h
  · rfl

theorem Arming.begin_fate (arming : Arming) (now : Rat) (run : Nat) :
    (arming.begin now run).fate = arming.fate := by
  unfold Arming.begin
  split <;> rfl

theorem Arming.shutDown_fate (h : arming.waits = false) :
    arming.shutDown.fate = arming.fate := by
  unfold Arming.shutDown
  split
  · next hfate => simp [Arming.waits, hfate] at h
  · rfl
  · split <;> rfl

theorem Arming.run?_congr {other : Arming} (h : arming.fate = other.fate) :
    arming.run? = other.run? := by
  rw [Arming.run?, h]
  rfl

theorem Arming.waits_congr {other : Arming} (h : arming.fate = other.fate) :
    arming.waits = other.waits := by
  rw [Arming.waits, h]
  rfl

/-- The run of a timer that went off takes one first step, unless a shutdown comes
before it. -/
theorem Arming.WentOff.begins {time : Rat} {run : Nat} (h : arming.WentOff s time run) :
    if arming.forestalled then arming.begun = []
    else arming.begun.length = 1 ∨
      arming.begun = [] ∧ (s.step? (.begin run)).isSome = true := by
  obtain ⟨stage, hstage, htracks⟩ := h.tracks
  match stage, hstage, htracks with
  | .spawned, hstage, htracks =>
      rw [htracks.2, if_neg Bool.false_ne_true]
      exact Or.inr ⟨htracks.1, by rw [step?, if_pos hstage]; rfl⟩
  | .running, _, htracks | .over, _, htracks =>
      rw [htracks.2, if_neg Bool.false_ne_true]
      exact Or.inl htracks.1
  | .cancelled, _, htracks =>
      rw [Arming.Tracks] at htracks
      split at htracks
      · next hforestalled => rwa [if_pos hforestalled]
      · next hforestalled => rw [if_neg hforestalled]; exact Or.inl htracks

/-! ## The record of a timer that went off -/

section WentOff

variable {time : Rat} {run other : Nat}

theorem Arming.WentOff.finish (h : arming.WentOff s time other)
    (hrun : s.runs[run]? = some .running) :
    arming.WentOff { s with runs := s.runs.set run .over } time other := by
  obtain ⟨stage, hstage, htracks⟩ := h.tracks
  refine { h with tracks := ?_ }
  show ∃ stage, (s.runs.set run .over)[other]? = some stage ∧ arming.Tracks stage
  by_cases hsame : run = other
  · subst hsame
    rw [hrun] at hstage
    cases hstage
    exact ⟨.over, List.getElem?_set_self (List.getElem?_eq_some_iff.1 hrun).1, htracks⟩
  · rw [List.getElem?_set_ne hsame]
    exact ⟨stage, hstage, htracks⟩

theorem Arming.WentOff.fire (h : arming.WentOff s time run) :
    arming.WentOff { s with timer := s.timer.goOff, runs := s.runs ++ [.spawned] }
      time run := by
  obtain ⟨stage, hstage, htracks⟩ := h.tracks
  refine { h with tracks := ⟨stage, ?_, htracks⟩ }
  exact (List.getElem?_append_left (List.getElem?_eq_some_iff.1 hstage).1).trans hstage

/-- The record of the timer that goes off now. -/
theorem Arming.wentOff_fired {due : Rat} (hdue : due ≤ s.clock) :
    Arming.WentOff { time := due - s.timer.delay, fate := .wentOff s.clock s.runs.length }
      { s with timer := s.timer.goOff, runs := s.runs ++ [.spawned] }
      s.clock s.runs.length where
  onTime := by
    show due - s.timer.delay + s.timer.delay ≤ s.clock
    rwa [sub_add_cancel]
  past := le_refl _
  later := nofun
  tracks := ⟨.spawned, List.getElem?_concat_length, rfl, rfl⟩

theorem Arming.WentOff.begin (h : arming.WentOff s time other)
    (hfate : arming.fate = .wentOff time other) (hrun : s.runs[run]? = some .spawned) :
    (arming.begin s.clock run).WentOff { s with runs := s.runs.set run .running }
      time other := by
  obtain ⟨stage, hstage, htracks⟩ := h.tracks
  have hstarted : arming.run? = some other := Arming.run?_eq_some_iff.2 ⟨time, hfate⟩
  by_cases hsame : run = other
  · -- its first step is the only one
    subst hsame
    rw [hrun] at hstage
    cases hstage
    rw [Arming.begin, if_pos hstarted, htracks.1]
    refine ⟨h.onTime, h.past, ?_, .running,
      List.getElem?_set_self (List.getElem?_eq_some_iff.1 hrun).1, rfl, htracks.2⟩
    intro first hfirst
    rw [List.mem_singleton.1 hfirst]
    exact h.past
  · have hother : arming.run? ≠ some run := fun heq =>
      hsame (Option.some.inj (heq.symm.trans hstarted))
    rw [Arming.begin, if_neg hother]
    exact { h with
      tracks := ⟨stage, (List.getElem?_set_ne hsame).trans hstage, htracks⟩ }

/-- A run that waits for its first step at a shutdown has to be the latest. -/
theorem Arming.WentOff.shutDown (h : arming.WentOff s time run)
    (hfate : arming.fate = .wentOff time run)
    (hlatest : s.runs[run]? = some .spawned → run + 1 = s.runs.length) :
    arming.shutDown.WentOff
      { s with timer := s.timer.close, runs := cancelLatest s.runs } time run := by
  obtain ⟨stage, hstage, htracks⟩ := h.tracks
  have hcancelled := getElem?_cancelLatest hstage
  unfold Arming.shutDown
  rw [hfate]
  simp only
  split
  · next hbegun =>
      refine { h with tracks := ⟨.cancelled, ?_, hbegun⟩ }
      show (cancelLatest s.runs)[run]? = some .cancelled
      rw [hcancelled]
      match stage, hstage, htracks with
      | .spawned, hstage, _ => rw [if_pos ⟨hlatest hstage, rfl⟩]
      | .running, _, htracks | .over, _, htracks =>
          rw [Arming.Tracks, hbegun] at htracks
          exact absurd htracks.1 (by decide)
      | .cancelled, _, _ => rw [ite_self]
  · next hbegun =>
      refine { h with tracks := ⟨_, hcancelled, ?_⟩ }
      split
      · -- a run that took its first step may be cancelled later
        match stage, htracks with
        | .spawned, htracks => exact absurd htracks.1 hbegun
        | .running, htracks | .over, htracks =>
            rw [Arming.Tracks, htracks.2]
            exact htracks.1
        | .cancelled, htracks => exact htracks
      · exact htracks

end WentOff

theorem exists_of_canFire (h : s.canFire = true) :
    ∃ due, s.timer.due = some due ∧ due ≤ s.clock ∧ .spawned ∉ s.runs := by
  unfold canFire Timer.isDue at h
  rw [Bool.and_eq_true, Bool.not_eq_true'] at h
  obtain ⟨hdue, hspawned⟩ := h
  split at hdue
  · next due hsome =>
      refine ⟨due, hsome, of_decide_eq_true hdue, fun hmem => ?_⟩
      rw [List.contains_iff_mem.2 hmem] at hspawned
      cases hspawned
  · cases hdue

/-- Only the latest run may wait for its first step. That is so for one that is
started when no other one waits. -/
theorem latest_append {runs : List Run} (h : .spawned ∉ runs) (run : Nat)
    (hrun : (runs ++ [.spawned])[run]? = some .spawned) :
    run + 1 = (runs ++ [Run.spawned]).length := by
  have hlt := (List.getElem?_eq_some_iff.1 hrun).1
  rw [List.length_append, List.length_singleton] at hlt ⊢
  by_cases hbefore : run < runs.length
  · rw [List.getElem?_append_left hbefore] at hrun
    exact absurd (List.mem_of_getElem? hrun) h
  · omega

/-- It stays so if a run goes on. -/
theorem latest_set {runs : List Run} {run : Nat} {stage : Run} (hstage : stage ≠ .spawned)
    (h : ∀ other, runs[other]? = some .spawned → other + 1 = runs.length) (other : Nat)
    (hother : (runs.set run stage)[other]? = some .spawned) :
    other + 1 = (runs.set run stage).length := by
  rw [List.length_set]
  rw [List.getElem?_set] at hother
  split at hother
  · split at hother
    · exact absurd (Option.some.inj hother) hstage
    · cases hother
  · exact h other hother

/-! ## The moves, one by one -/

/-- A call for the timer arms it where the record of the call stands. -/
theorem Tells.schedule (h : Tells delay s settled) :
    Tells delay s.schedule.2 settled ∧
      (if s.schedule.1 = true then settled ++ s.armed ++ [{ time := s.clock }]
        else settled ++ s.armed) = settled ++ s.schedule.2.armed := by
  by_cases hclosed : s.timer.closed = true
  · rw [schedule_of_closed hclosed]
    exact ⟨h, rfl⟩
  cases hdue : s.timer.due with
  | some due =>
      rw [schedule_of_isArmed (by rw [Timer.isArmed, hdue]; rfl)]
      exact ⟨h, rfl⟩
  | none =>
      rw [schedule_of_due_eq_none hdue (by simpa using hclosed)]
      have hnone : s.armed = [] := by rw [armed, hdue]; rfl
      refine ⟨{ h with
        attempts := ?_
        wentOff := fun arming harming time run hfate => ?_ }, ?_⟩
      · rw [h.attempts, hnone]
        rfl
      · exact { h.wentOff arming harming time run hfate with }
      · rw [if_pos rfl, hnone, List.append_nil, armed]
        simp [add_sub_cancel_right]

/-- A run that is at work ends. -/
theorem Tells.finish (h : Tells delay s settled) {run : Nat}
    (hrun : s.runs[run]? = some .running) :
    Tells delay { s with runs := s.runs.set run .over } settled where
  delay := h.delay
  ended := h.ended
  attempts := h.attempts
  runs := by rw [List.length_set]; exact h.runs
  wentOff arming harming time other hfate :=
    (h.wentOff arming harming time other hfate).finish hrun
  latest := latest_set nofun h.latest

/-- The timer goes off, and its record is the last of those that wait no more. -/
theorem Tells.fire (h : Tells delay s settled) (hfire : s.canFire = true) :
    ∃ last : Arming,
      (settled ++ s.armed).map (Arming.goOff s.clock s.runs.length) = settled ++ [last] ∧
        Tells delay { s with timer := s.timer.goOff, runs := s.runs ++ [.spawned] }
          (settled ++ [last]) := by
  obtain ⟨due, hsome, hdue, hspawned⟩ := exists_of_canFire hfire
  have hkept : settled.map (Arming.goOff s.clock s.runs.length) = settled := by
    rw [List.map_congr_left fun arming harming =>
      Arming.goOff_of_ended (h.ended arming harming) _ _]
    exact List.map_id _
  refine ⟨{ time := due - s.timer.delay, fate := .wentOff s.clock s.runs.length }, ?_,
    h.delay, ?_, ?_, ?_, ?_, latest_append hspawned⟩
  · rw [List.map_append, hkept, armed, hsome]
    rfl
  · simp only [List.mem_append, List.mem_singleton, or_imp, forall_and, forall_eq]
    exact ⟨h.ended, rfl⟩
  · have hattempts := h.attempts
    rw [armed, hsome] at hattempts
    simp only [Timer.goOff, armed, Option.toList_none, List.map_nil, List.length_append]
    exact hattempts
  · rw [List.filterMap_append, h.runs, List.length_append, List.length_singleton,
      List.range_succ]
    rfl
  · intro arming harming time run hfate
    rcases List.mem_append.1 harming with hold | hlast
    · exact (h.wentOff arming hold time run hfate).fire
    · obtain rfl := List.mem_singleton.1 hlast
      cases hfate
      exact Arming.wentOff_fired hdue

/-- A run takes its first step, and the record of its timer says so. -/
theorem Tells.begin (h : Tells delay s settled) {run : Nat}
    (hrun : s.runs[run]? = some .spawned) :
    (settled ++ s.armed).map (Arming.begin s.clock run) =
        settled.map (Arming.begin s.clock run) ++ s.armed ∧
      Tells delay { s with runs := s.runs.set run .running }
        (settled.map (Arming.begin s.clock run)) := by
  refine ⟨?_, h.delay, ?_, ?_, ?_, ?_, ?_⟩
  · rw [List.map_append, armed, List.map_map]
    rfl
  · intro arming harming
    obtain ⟨before, hbefore, rfl⟩ := List.mem_map.1 harming
    rw [Arming.waits_congr (Arming.begin_fate before _ _)]
    exact h.ended before hbefore
  · rw [List.length_map]
    exact h.attempts
  · rw [List.filterMap_map, List.length_set, ← h.runs]
    exact List.filterMap_congr fun arming _ => Arming.run?_congr (Arming.begin_fate arming _ _)
  · intro arming harming time other hfate
    obtain ⟨before, hbefore, rfl⟩ := List.mem_map.1 harming
    rw [Arming.begin_fate] at hfate
    exact (h.wentOff before hbefore time other hfate).begin hfate hrun
  · exact latest_set nofun h.latest

/-- A shutdown cancels the timer that is armed and the run that waits for its first
step, and the records say so of both. -/
theorem Tells.shutDown (h : Tells delay s settled) :
    Tells delay { s with timer := s.timer.close, runs := cancelLatest s.runs }
      ((settled ++ s.armed).map Arming.shutDown) := by
  have hlate : s.armed.map Arming.shutDown =
      s.armed.map fun arming => { arming with fate := .cancelled } := by
    rw [armed, List.map_map, List.map_map]
    rfl
  rw [List.map_append, hlate]
  refine ⟨h.delay, ?_, ?_, ?_, ?_, ?_⟩
  · intro arming harming
    rcases List.mem_append.1 harming with hmem | hmem
    · obtain ⟨before, hbefore, rfl⟩ := List.mem_map.1 hmem
      rw [Arming.waits_congr (Arming.shutDown_fate (h.ended before hbefore))]
      exact h.ended before hbefore
    · obtain ⟨before, -, rfl⟩ := List.mem_map.1 hmem
      rfl
  · rw [List.length_append, List.length_map, List.length_map]
    exact h.attempts
  · have hsettled : (settled.map Arming.shutDown).filterMap Arming.run? =
        settled.filterMap Arming.run? := by
      rw [List.filterMap_map]
      exact List.filterMap_congr fun arming harming =>
        Arming.run?_congr (Arming.shutDown_fate (h.ended arming harming))
    have harmed : (s.armed.map fun arming => { arming with fate := .cancelled }).filterMap
        Arming.run? = [] := by
      rw [List.filterMap_map]
      exact List.filterMap_eq_nil_iff.2 fun _ _ => rfl
    rw [List.filterMap_append, hsettled, harmed, List.append_nil, length_cancelLatest]
    exact h.runs
  · intro arming harming time run hfate
    rcases List.mem_append.1 harming with hmem | hmem
    · obtain ⟨before, hbefore, rfl⟩ := List.mem_map.1 hmem
      rw [Arming.shutDown_fate (h.ended before hbefore)] at hfate
      exact (h.wentOff before hbefore time run hfate).shutDown hfate (h.latest run)
    · obtain ⟨before, -, rfl⟩ := List.mem_map.1 hmem
      cases hfate
  · intro run hrun
    rw [length_cancelLatest]
    exact h.latest run (getElem?_of_cancelLatest hrun).1

/-! ## Histories -/

theorem Tells.step (h : Tells delay s settled) (hstep : s.step? move = some s') :
    ∃ after, s.record (settled ++ s.armed) move = after ++ s'.armed ∧ Tells delay s' after := by
  cases move with
  | wait seconds =>
      obtain ⟨hpos, hs'⟩ := Option.ite_none_right_eq_some.1 hstep
      cases hs'
      refine ⟨settled, rfl, { h with wentOff := fun arming harming time run hfate => ?_ }⟩
      have hoff := h.wentOff arming harming time run hfate
      exact { hoff with past := hoff.past.trans (le_add_of_nonneg_right hpos) }
  | schedule =>
      cases hstep
      refine ⟨settled, ?_, h.schedule.1⟩
      rw [← h.schedule.2]
      simp only [record, answer?, Option.some.injEq]
  | fire =>
      obtain ⟨hfire, hs'⟩ := Option.ite_none_right_eq_some.1 hstep
      cases hs'
      obtain ⟨last, hrecord, htells⟩ := h.fire hfire
      exact ⟨settled ++ [last], hrecord.trans (List.append_nil _).symm, htells⟩
  | begin run =>
      obtain ⟨hrun, hs'⟩ := Option.ite_none_right_eq_some.1 hstep
      cases hs'
      exact ⟨_, (h.begin hrun).1, (h.begin hrun).2⟩
  | succeed run =>
      obtain ⟨hrun, hs'⟩ := Option.ite_none_right_eq_some.1 hstep
      cases hs'
      exact ⟨settled, rfl, h.finish hrun⟩
  | fail run =>
      obtain ⟨hrun, hs'⟩ := Option.ite_none_right_eq_some.1 hstep
      cases hs'
      refine ⟨settled, ?_, (h.finish hrun).schedule.1⟩
      rw [← (h.finish hrun).schedule.2]
      simp only [record, answer?, Option.some.injEq]
      rfl
  | shutdown =>
      cases hstep
      exact ⟨_, (List.append_nil _).symm, h.shutDown⟩

theorem Tells.run (h : Tells delay s settled) (hrun : s.run? history = some s') :
    ∃ after, s.armings (settled ++ s.armed) history = after ++ s'.armed ∧
      Tells delay s' after := by
  induction history generalizing s settled with
  | nil =>
      cases hrun
      exact ⟨settled, rfl, h⟩
  | cons move rest ih =>
      obtain ⟨middle, hstep, hrest⟩ := run?_cons_eq_some.1 hrun
      obtain ⟨between, hrecord, htells⟩ := h.step hstep
      rw [armings, hstep, hrecord]
      exact ih htells hrest

/-- The run that a shutdown cancels is the only one that may wait for its first
step. -/
theorem Tells.quiet (h : Tells delay s settled) :
    Quiet { s with timer := s.timer.close, runs := cancelLatest s.runs } where
  closed := rfl
  due := rfl
  spawned hmem := by
    obtain ⟨run, hrun⟩ := List.mem_iff_getElem?.1 hmem
    obtain ⟨hbefore, hlatest⟩ := getElem?_of_cancelLatest hrun
    exact hlatest (h.latest run hbefore)

/-- A supervisor with a timer that was never asked for. -/
theorem tells_fresh (delay clock : Rat) :
    Tells delay { timer := { delay }, clock } [] where
  delay := rfl
  ended := nofun
  attempts := rfl
  runs := rfl
  wentOff := nofun
  latest := nofun

/-- A timer that waits no more was cancelled or went off. -/
theorem Tells.counts (h : Tells delay s settled) :
    (settled ++ s.armed).countP Arming.waits = s.timer.isArmed.toNat ∧
      (settled ++ s.armed).countP Arming.isCancelled + s.runs.length = settled.length := by
  have hsettled : settled.countP Arming.waits = 0 :=
    List.countP_eq_zero.2 fun arming harming => by simp [h.ended arming harming]
  have hwaits : s.armed.countP Arming.waits = s.armed.length :=
    List.countP_eq_length.2 fun arming harming => by
      rw [Arming.waits, fate_of_mem_armed harming]
      rfl
  have hcancelled : s.armed.countP Arming.isCancelled = 0 :=
    List.countP_eq_zero.2 fun arming harming => by
      rw [Arming.isCancelled, fate_of_mem_armed harming]
      decide
  have hruns : settled.countP (fun arming => arming.run?.isSome) = s.runs.length := by
    rw [← List.length_filterMap_eq_countP, h.runs, List.length_range]
  have hended : settled.countP (fun arming => ¬ arming.isCancelled = true) =
      settled.countP fun arming => arming.run?.isSome := by
    refine List.countP_congr fun arming harming => ?_
    have hnot := h.ended arming harming
    unfold Arming.waits at hnot
    unfold Arming.isCancelled Arming.run?
    cases hfate : arming.fate <;> simp_all
  constructor
  · rw [List.countP_append, hsettled, hwaits, length_armed, Nat.zero_add]
  · rw [List.countP_append, hcancelled, ← hruns, ← hended]
    exact (List.length_eq_countP_add_countP Arming.isCancelled).symm

/-- The discipline of the timer, for every history. At most one timer is armed. The
timer was armed as often as somebody was told so, and each of these timers went off,
was cancelled or is armed still; those that went off started a run each. A timer goes
off no sooner than after its delay, and the run that it starts takes one first step,
which is still to come if it is possible, unless a shutdown comes before it. After a
shutdown nobody is told that the timer was armed, none is, and no run begins. -/
theorem timer_discipline {delay clock : Rat} {timer : Timer} {history : List Move}
    {s : Supervisor} (hnew : Timer.ofDelay? delay = some timer)
    (hrun : run? { timer, clock } history = some s) :
    let told := armings { timer, clock } [] history
    (told.countP Arming.waits = s.timer.isArmed.toNat ∧ told.countP Arming.waits ≤ 1) ∧
    s.timer.attempts = (answers { timer, clock } history).count true ∧
    s.timer.attempts = history.count .fire + told.countP Arming.isCancelled +
      told.countP Arming.waits ∧
    told.filterMap Arming.run? = List.range (history.count .fire) ∧
    (∀ arming ∈ told, ∀ time run, arming.fate = .wentOff time run →
      arming.time + delay ≤ time ∧ (∀ first ∈ arming.begun, time ≤ first) ∧
      if arming.forestalled then arming.begun = []
      else arming.begun.length = 1 ∨
        arming.begun = [] ∧ (s.step? (.begin run)).isSome = true) ∧
    ∀ before after, history = before ++ .shutdown :: after →
      ∃ stopped, run? { timer, clock } (before ++ [.shutdown]) = some stopped ∧
        true ∉ stopped.answers after ∧ s.schedule.1 = false ∧
        s.timer.isArmed = false ∧ ∀ run, .begin run ∉ after := by
  intro told
  obtain ⟨-, htimer⟩ := Option.ite_none_left_eq_some.1 hnew
  obtain rfl := Option.some.inj htimer
  have hfresh := tells_fresh delay clock
  obtain ⟨settled, htold, htells⟩ := hfresh.run hrun
  have htold : told = settled ++ s.armed := htold
  obtain ⟨hwaits, hcancelled⟩ := htells.counts
  have hfires : s.runs.length = history.count .fire :=
    (length_runs_run hrun).trans (Nat.zero_add _)
  rw [htold]
  refine ⟨?_, ?_, ?_, ?_, ?_, ?_⟩
  · exact ⟨hwaits, hwaits.le.trans (Bool.toNat_le _)⟩
  · exact (attempts_run hrun).trans (Nat.zero_add _)
  · rw [htells.attempts, hwaits, ← hcancelled, length_armed, hfires]
    omega
  · rw [List.filterMap_append, htells.runs, filterMap_run?_armed, List.append_nil,
      hfires]
  · intro arming harming time run hfate
    have hmem : arming ∈ settled := by
      rcases List.mem_append.1 harming with hmem | hmem
      · exact hmem
      · rw [fate_of_mem_armed hmem] at hfate
        cases hfate
    have hoff := htells.wentOff arming hmem time run hfate
    exact ⟨htells.delay ▸ hoff.onTime, hoff.later, hoff.begins⟩
  · rintro before after rfl
    obtain ⟨called, hbefore, hrest⟩ := run?_append_eq_some.1 hrun
    obtain ⟨stopped, hstep, hafter⟩ := run?_cons_eq_some.1 hrest
    obtain ⟨_, -, hcalled⟩ := hfresh.run hbefore
    have hquiet : Quiet stopped := Option.some.inj hstep ▸ hcalled.quiet
    obtain ⟨hlast, hanswers, -, hbegin⟩ := hquiet.run hafter
    refine ⟨stopped, ?_, hanswers, ?_, ?_, hbegin⟩
    · exact run?_append_eq_some.2 ⟨called, hbefore, run?_cons_eq_some.2 ⟨_, hstep, rfl⟩⟩
    · rw [hlast.schedule]
    · rw [Timer.isArmed, hlast.due]
      rfl

/-- A run that fails, a timer that it asks for, and a shutdown before the first step
of the next run. -/
theorem timer_discipline_forestalled :
    let history : List Move := [.schedule, .schedule, .wait 5, .fire, .begin 0, .wait 1,
      .fail 0, .wait 6, .fire, .shutdown, .schedule]
    ∃ s, run? { timer := { delay := 5 } } history = some s ∧
      armings { timer := { delay := 5 } } [] history =
        [⟨0, .wentOff 5 0, [5], false⟩, ⟨6, .wentOff 12 1, [], true⟩] ∧
      s.timer.attempts = 2 ∧ s.timer.isArmed = false := by
  intro history
  have hpossible : (run? { timer := { delay := 5 } } history).isSome = true := by
    decide +kernel
  obtain ⟨s, hrun⟩ := Option.isSome_iff_exists.1 hpossible
  have hnew : Timer.ofDelay? 5 = some { delay := 5 } := by decide +kernel
  obtain ⟨-, hattempts, -, -, -, hstopped⟩ := timer_discipline hnew hrun
  obtain ⟨stopped, -, -, -, hunarmed, -⟩ := hstopped (history.take 9) [.schedule] rfl
  exact ⟨s, hrun, by decide +kernel, hattempts.trans (by decide +kernel), hunarmed⟩

end EvmIndexer.Supervisor
