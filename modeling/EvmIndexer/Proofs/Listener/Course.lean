import EvmIndexer.Proofs.Listener.History
import EvmIndexer.Proofs.Listener.Steps
import Mathlib.Data.List.Count

/-!
# The course of a listener

A listener that was started once is always about one thing: it uses a connection,
or its latest attempt to get one goes on, or it waits for its timer. `Course` says
which, and it is kept by every move but the shutdown. It is what makes the listener
neither stuck, for in each of the three cases something is under way that leads on,
nor doubled, for no two of them come together and no two attempts go on at once.

The timer is armed where an attempt fails and where the connection in use ends, and
in the course of a listener it is not armed at that moment. So each of these arms
it, and the number of times it was armed counts them.

A shutdown ends all this. Whatever happens afterwards, and however often the
listener is started again, its phase does not change any more.
-/

namespace EvmIndexer.Listener

variable {l l' : Listener} {move : Move} {history : List Move}

/-! ## What a history is asked for -/

/-- A listener that was not started yet. -/
def fresh (channel : String) (delay clock : Rat) : Listener where
  channel := channel
  timer := { delay }
  clock := clock

/-- The number of things under way that lead to a connection, a connection in use
counted as well. -/
def ways (l : Listener) : Nat :=
  l.installed.toList.length + l.attempts.countP (·.stage.isLive) +
    l.timer.due.toList.length

/-- The number of attempts that are over. -/
def overCount (l : Listener) : Nat := l.attempts.countP (·.stage == .over)

/-- The number of attempts that a move ended without a connection. -/
def failed (before : Listener) (_ : Move) (after : Listener) : Nat :=
  if after.installed.isSome then 0 else after.overCount - before.overCount

/-- Whether a move is the end of the connection in use, as a number. -/
def lost (before : Listener) (move : Move) (_ : Listener) : Nat :=
  match move with
  | .terminate conn => if before.installed = some conn then 1 else 0
  | _ => 0

/-! ## The three courses -/

/-- Attempts that do not go on. -/
def Settled (attempts : List Attempt) : Prop :=
  ∀ attempt ∈ attempts, attempt.stage.isLive = false

/-- The latest attempt goes on, and nothing else is under way. -/
structure Tries (l : Listener) (before : List Attempt) (attempt : Attempt) :
    Prop where
  attempts : l.attempts = before ++ [attempt]
  settled : Settled before
  live : attempt.stage.isLive = true
  watched : ∀ conn, attempt.stage = .subscribing conn → l.Watches conn
  wanted : ∀ conn, attempt.stage ≠ .retiring conn
  installed : l.installed = none
  due : l.timer.due = none
  phase : l.phase = if attempt.stage = .spawned then .disconnected else .connecting

/-- What a listener is about that was started and not shut down. -/
inductive Course (l : Listener) : Prop
  | inUse (conn : Nat) (hinstalled : l.installed = some conn)
      (hwatched : l.Watches conn) (hsettled : Settled l.attempts)
      (hdue : l.timer.due = none) (hphase : l.phase = .listening)
  | trying (before : List Attempt) (attempt : Attempt)
      (htries : Tries l before attempt)
  | waiting (due : Rat) (hinstalled : l.installed = none)
      (hsettled : Settled l.attempts) (hdue : l.timer.due = some due)
      (hphase : l.phase = .disconnected)

/-- A listener that is on its course, and that nobody has shut down. -/
structure Underway (l : Listener) : Prop where
  course : Course l
  unclosed : l.timer.closed = false
  notCalled : l.shutdown = .notCalled

theorem settled_append {attempts more : List Attempt} :
    Settled (attempts ++ more) ↔ Settled attempts ∧ Settled more := by
  simp only [Settled, List.mem_append, or_imp, forall_and]

theorem Settled.countP_eq_zero {attempts : List Attempt} (h : Settled attempts) :
    attempts.countP (·.stage.isLive) = 0 := by
  rw [List.countP_eq_zero]
  intro attempt hattempt
  rw [h attempt hattempt]
  decide

theorem Course.ways_eq_one (h : Course l) : l.ways = 1 := by
  cases h with
  | inUse conn hinstalled _ hsettled hdue =>
      rw [ways, hinstalled, hsettled.countP_eq_zero, hdue]
      rfl
  | trying before attempt htries =>
      rw [ways, htries.installed, htries.attempts, List.countP_append,
        htries.settled.countP_eq_zero, List.countP_singleton, htries.live, htries.due]
      rfl
  | waiting due hinstalled hsettled hdue =>
      rw [ways, hinstalled, hsettled.countP_eq_zero, hdue]
      rfl

theorem Course.phase_ne_closing (h : Course l) : l.phase ≠ .closing := by
  cases h with
  | inUse _ _ _ _ _ hphase => rw [hphase]; decide
  | trying _ _ htries => rw [htries.phase]; split <;> decide
  | waiting _ _ _ _ hphase => rw [hphase]; decide

theorem Course.listening_iff (h : Course l) :
    l.phase = .listening ↔ l.installed.isSome = true := by
  cases h with
  | inUse _ hinstalled _ _ _ hphase => simp [hinstalled, hphase]
  | trying _ _ htries =>
      rw [htries.phase, htries.installed]
      split <;> simp
  | waiting _ hinstalled _ _ hphase => simp [hinstalled, hphase]

theorem Course.disconnected_of_isArmed (h : Course l)
    (harmed : l.timer.isArmed = true) : l.phase = .disconnected := by
  rw [Timer.isArmed] at harmed
  cases h with
  | inUse _ _ _ _ hdue => rw [hdue] at harmed; cases harmed
  | trying _ _ htries => rw [htries.due] at harmed; cases harmed
  | waiting _ _ _ _ hphase => exact hphase

/-- An attempt that goes on is the latest one. -/
theorem Course.tries_of_stage? (h : Course l) {attempt : Nat} {stage : Stage}
    (hstage : l.stage? attempt = some stage) (hlive : stage.isLive = true) :
    ∃ before byTimer, attempt = before.length ∧ Tries l before ⟨byTimer, stage⟩ := by
  obtain ⟨found, hfound, rfl⟩ := Option.map_eq_some_iff.1 hstage
  have hsettled : ¬ Settled l.attempts := fun hsettled => by
    rw [hsettled found (List.mem_of_getElem? hfound)] at hlive
    cases hlive
  cases h with
  | inUse _ _ _ hall => exact absurd hall hsettled
  | waiting _ _ hall => exact absurd hall hsettled
  | trying before latest htries =>
      rw [htries.attempts] at hfound
      by_cases hbefore : attempt < before.length
      · rw [List.getElem?_append_left hbefore] at hfound
        rw [htries.settled found (List.mem_of_getElem? hfound)] at hlive
        cases hlive
      · rw [List.getElem?_append_right (Nat.le_of_not_lt hbefore),
          List.getElem?_singleton] at hfound
        split at hfound
        · next hlast =>
            cases hfound
            exact ⟨before, found.byTimer, by omega, htries⟩
        · cases hfound

/-! ## Moves that keep the course -/

/-- Nothing but the phase, the timer, the attempts and the connections has a part in
the course. -/
theorem Underway.congr (h : Underway l) (hphase : l'.phase = l.phase)
    (hinstalled : l'.installed = l.installed) (htimer : l'.timer = l.timer)
    (hattempts : l'.attempts = l.attempts) (hshutdown : l'.shutdown = l.shutdown)
    (hwatched : ∀ conn, l.Watches conn → l'.Watches conn) : Underway l' := by
  refine ⟨?_, by rw [htimer]; exact h.unclosed, by rw [hshutdown]; exact h.notCalled⟩
  cases h.course with
  | inUse conn hconn hwatches hsettled hdue hlistening =>
      exact .inUse conn (hinstalled.trans hconn) (hwatched conn hwatches)
        (hattempts ▸ hsettled) (htimer ▸ hdue) (hphase.trans hlistening)
  | trying before attempt htries =>
      exact .trying before attempt { htries with
        attempts := hattempts.trans htries.attempts
        watched := fun conn hconn => hwatched conn (htries.watched conn hconn)
        installed := hinstalled.trans htries.installed
        due := htimer ▸ htries.due
        phase := hphase.trans htries.phase }
  | waiting due hnone hsettled hdue hwaits =>
      exact .waiting due (hinstalled.trans hnone) (hattempts ▸ hsettled)
        (htimer ▸ hdue) (hphase.trans hwaits)

theorem attempts_setStage {before : List Attempt} {attempt : Attempt}
    (h : l.attempts = before ++ [attempt]) (stage : Stage) :
    (l.setStage before.length stage).attempts =
      before ++ [{ attempt with stage }] := by
  show l.attempts.modify before.length _ = _
  rw [h, List.modify_eq_take_cons_drop (by simp)]
  simp

section Tries

variable {before : List Attempt} {attempt : Attempt} {stage : Stage}

theorem Tries.overCount_eq (h : Tries l before attempt) :
    l.overCount = before.countP (·.stage == .over) := by
  rw [overCount, h.attempts, List.countP_append, List.countP_singleton]
  have hstage : (attempt.stage == .over) = false := by
    have hlive := h.live
    cases hstage : attempt.stage <;> simp_all [Stage.isLive]
  simp [hstage]

theorem Tries.settled_setStage (h : Tries l before attempt)
    (hstage : stage.isLive = false) :
    Settled (l.setStage before.length stage).attempts := by
  rw [attempts_setStage h.attempts, settled_append]
  exact ⟨h.settled, by simpa [Settled] using hstage⟩

theorem Tries.overCount_setStage (h : Tries l before attempt) (stage : Stage) :
    (l.setStage before.length stage).overCount =
      l.overCount + if stage == .over then 1 else 0 := by
  rw [h.overCount_eq, overCount, attempts_setStage h.attempts, List.countP_append,
    List.countP_singleton]

end Tries

/-! ## Where the timer is armed -/

theorem schedule_of_due_eq_none {timer : Timer} (hdue : timer.due = none)
    (hclosed : timer.closed = false) (now : Rat) :
    (timer.schedule now).2 = { timer with
      due := some (now + timer.delay), attempts := timer.attempts + 1 } := by
  unfold Timer.schedule
  rw [if_neg (by simp [Timer.isArmed, hdue, hclosed])]

/-- Once nothing is under way any more, the timer is armed. -/
theorem underway_connectionLost (hsettled : Settled l.attempts)
    (hdue : l.timer.due = none) (hclosed : l.timer.closed = false)
    (hnotCalled : l.shutdown = .notCalled) (hphase : l.phase ≠ .closing) :
    Underway l.connectionLost ∧ l.connectionLost.attempts = l.attempts ∧
      l.connectionLost.installed = none ∧
      l.connectionLost.timer.attempts = l.timer.attempts + 1 := by
  unfold connectionLost
  rw [if_neg hphase, schedule_of_due_eq_none hdue hclosed]
  exact ⟨⟨.waiting _ rfl hsettled rfl rfl, hclosed, hnotCalled⟩, rfl, rfl, rfl⟩

/-- What a move makes of a listener that is on its course. -/
structure Advances (before : Listener) (move : Move) (after : Listener) : Prop where
  underway : Underway after
  attempts : after.timer.attempts =
    before.timer.attempts + (failed before move after + lost before move after)

/-- A move at which the timer is not armed. -/
theorem advances_of_eq (h : Underway l')
    (htimer : l'.timer.attempts = l.timer.attempts)
    (hover : l'.installed.isSome = true ∨ l'.overCount = l.overCount)
    (hlost : lost l move l' = 0) : Advances l move l' := by
  refine ⟨h, ?_⟩
  have hfailed : failed l move l' = 0 := by
    unfold failed
    rcases hover with hsome | hover
    · rw [if_pos hsome]
    · rw [hover, Nat.sub_self, ite_self]
  rw [htimer, hfailed, hlost, Nat.add_zero]

/-- An attempt ends, and the timer is armed. -/
theorem Underway.endFailed (h : Underway l) {before : List Attempt}
    {attempt : Attempt} (htries : Tries l before attempt)
    (hlost : ∀ l', lost l move l' = 0) :
    Advances l move (l.endFailed before.length) := by
  obtain ⟨hunderway, hattempts, hinstalled, htimer⟩ :=
    @underway_connectionLost (l.setStage before.length .over)
      (htries.settled_setStage rfl) htries.due h.unclosed h.notCalled
      h.course.phase_ne_closing
  refine ⟨hunderway, ?_⟩
  have hover : (l.endFailed before.length).overCount = l.overCount + 1 := by
    have hcounted := htries.overCount_setStage .over
    rw [overCount] at hcounted ⊢
    exact (congrArg _ hattempts).trans hcounted
  rw [hlost, failed, hover]
  show (l.setStage before.length .over).connectionLost.timer.attempts = _
  rw [htimer, if_neg (by simp [Listener.endFailed, hinstalled])]
  show l.timer.attempts + 1 = _
  omega

/-! ## The moves -/

section Moves

variable {before : List Attempt} {attempt : Attempt} {conn : Nat}

/-- A connection that closes is still watched, and still in use. -/
theorem Underway.modifyConnection (h : Underway l) {change : Connection → Connection}
    (hchange : ∀ c, (change c).watched = c.watched) :
    Underway (l.modifyConnection conn change) :=
  h.congr rfl rfl rfl rfl rfl fun _ hwatches => hwatches.modifyConnection hchange

theorem Underway.markClosed (h : Underway l) (closed : Bool) :
    Underway (l.markClosed conn closed) := by
  unfold Listener.markClosed
  split
  · exact h.modifyConnection fun _ => rfl
  · exact h

theorem timer_markClosed (l : Listener) (conn : Nat) (closed : Bool) :
    (l.markClosed conn closed).timer = l.timer := by
  unfold Listener.markClosed
  split <;> rfl

theorem attempts_markClosed (l : Listener) (conn : Nat) (closed : Bool) :
    (l.markClosed conn closed).attempts = l.attempts := by
  unfold Listener.markClosed
  split <;> rfl

theorem Tries.markClosed (h : Tries l before attempt) (closed : Bool) :
    Tries (l.markClosed conn closed) before attempt := by
  unfold Listener.markClosed
  split
  · exact { h with watched := fun other hother =>
      (h.watched other hother).modifyConnection fun _ => rfl }
  · exact h

/-- The latest attempt goes on in another stage. -/
theorem Underway.goOn (h : Underway l) (htries : Tries l before attempt)
    {stage : Stage} (hlive : stage.isLive = true)
    (hwatched : ∀ conn, stage = .subscribing conn → l.Watches conn)
    (hwanted : ∀ conn, stage ≠ .retiring conn) (hold : attempt.stage ≠ .spawned)
    (hnew : stage ≠ .spawned) :
    Underway (l.setStage before.length stage) := by
  have hphase := htries.phase
  rw [if_neg hold] at hphase
  refine ⟨.trying before { attempt with stage } { htries with
    attempts := attempts_setStage htries.attempts stage
    live := hlive
    watched := hwatched
    wanted := hwanted
    phase := ?_ }, h.unclosed, h.notCalled⟩
  rw [if_neg hnew]
  exact hphase

/-- The latest attempt calls the connector. -/
theorem Underway.dial (h : Underway l) (htries : Tries l before attempt)
    (hlost : ∀ l', lost l move l' = 0) : Advances l move (l.dial before.length) := by
  have hgoes : Underway { l.setStage before.length (.dialing l.calls) with
      phase := .connecting, calls := l.calls + 1 } :=
    ⟨.trying before { attempt with stage := .dialing l.calls } { htries with
      attempts := attempts_setStage htries.attempts _
      live := rfl
      watched := fun _ h => nomatch h
      wanted := fun _ h => nomatch h
      phase := rfl }, h.unclosed, h.notCalled⟩
  unfold Listener.dial
  rw [if_neg h.course.phase_ne_closing]
  exact advances_of_eq hgoes rfl (Or.inr (htries.overCount_setStage _)) (hlost _)

/-- An attempt gives up its connection, or ends where this is closed already. -/
theorem Underway.failWith (h : Underway l) (htries : Tries l before attempt)
    (hstage : attempt.stage ≠ .spawned) (hlost : ∀ l', lost l move l' = 0) :
    Advances l move (l.failWith before.length conn) := by
  have hnoticed : Underway (l.notice .error) :=
    h.congr rfl rfl rfl rfl rfl fun _ hwatches => hwatches
  have htries' : Tries (l.notice .error) before attempt := { htries with }
  unfold Listener.failWith
  simp only
  split
  · have hended : Advances (l.notice .error) move
        ((l.notice .error).endFailed before.length) := hnoticed.endFailed htries' hlost
    exact ⟨hended.underway, hended.attempts⟩
  · refine advances_of_eq (hnoticed.goOn htries' rfl (fun _ h => nomatch h)
      (fun _ h => nomatch h) hstage (fun h => nomatch h)) rfl (Or.inr ?_) (hlost _)
    exact htries'.overCount_setStage _

theorem Underway.connect (h : Underway l) (htries : Tries l before attempt)
    (hstage : attempt.stage ≠ .spawned) (hlost : ∀ l', lost l move l' = 0)
    (call : Nat) (watchable : Bool) :
    Advances l move (l.connect before.length call watchable) := by
  have hgrown : ∀ given conn, l.Watches conn →
      Watches { l with connections := l.connections ++ [given] } conn := by
    rintro given conn ⟨c, hc, hwatched⟩
    have hlt := (List.getElem?_eq_some_iff.1 hc).1
    exact ⟨c, (List.getElem?_append_left hlt).trans hc, hwatched⟩
  let grown : Listener := { l with
    connections := l.connections ++ [{ call, watched := watchable }] }
  have hunderway : Underway grown := h.congr rfl rfl rfl rfl rfl (hgrown _)
  have htries' : Tries grown before attempt :=
    { htries with watched := fun conn hconn => hgrown _ conn (htries.watched conn hconn) }
  unfold Listener.connect
  simp only
  split
  · next hwatchable =>
      refine advances_of_eq (hunderway.goOn htries' rfl ?_ (fun _ h => nomatch h) hstage
        (fun h => nomatch h)) rfl (Or.inr (htries'.overCount_setStage _)) (hlost _)
      intro _ hconn
      cases hconn
      exact ⟨_, List.getElem?_concat_length, hwatchable⟩
  · have hfailed : Advances grown move
        (grown.failWith before.length l.connections.length) :=
      hunderway.failWith htries' hstage hlost
    exact ⟨hfailed.underway, hfailed.attempts⟩

/-- The connection of the latest attempt comes into use. -/
theorem Underway.install (h : Underway l) {byTimer : Bool}
    (htries : Tries l before ⟨byTimer, .subscribing conn⟩)
    (hlost : ∀ l', lost l move l' = 0) :
    Advances l move (l.install before.length conn) := by
  unfold Listener.install
  simp only
  rw [if_neg (show (l.modifyConnection conn _).phase ≠ .closing from
    h.course.phase_ne_closing)]
  refine advances_of_eq ⟨.inUse conn rfl ?_ ?_ htries.due rfl, h.unclosed, h.notCalled⟩
    rfl (Or.inl rfl) (hlost _)
  · exact (htries.watched conn rfl).modifyConnection fun _ => rfl
  · exact htries.settled_setStage rfl

/-- The end of the connection in use arms the timer. -/
theorem Underway.usedEnd (h : Underway l) (hinstalled : l.installed = some conn) :
    Advances l (.terminate conn) ((l.markEnded conn).notice .warning).connectionLost := by
  cases h.course with
  | trying _ _ htries => rw [htries.installed] at hinstalled; cases hinstalled
  | waiting _ hnone => rw [hnone] at hinstalled; cases hinstalled
  | inUse used hused hwatches hsettled hdue hphase =>
      obtain ⟨hunderway, hattempts, hnone, htimer⟩ :=
        @underway_connectionLost ((l.markEnded conn).notice .warning) hsettled hdue
          h.unclosed h.notCalled h.course.phase_ne_closing
      refine ⟨hunderway, ?_⟩
      rw [htimer, failed, overCount, hattempts, lost, if_pos hinstalled]
      show _ = l.timer.attempts + (ite _ 0 (l.overCount - l.overCount) + 1)
      rw [Nat.sub_self, ite_self]
      rfl

/-- The end of another connection does not matter. -/
theorem Underway.otherEnd (h : Underway l)
    (hunused : l.Watches conn → l.installed ≠ some conn) :
    Advances l (.terminate conn) (l.markEnded conn) := by
  have hother : l.installed ≠ some conn := by
    intro hinstalled
    cases h.course with
    | trying _ _ htries => rw [htries.installed] at hinstalled; cases hinstalled
    | waiting _ hnone => rw [hnone] at hinstalled; cases hinstalled
    | inUse used hused hwatches =>
        obtain rfl := Option.some.inj (hused.symm.trans hinstalled)
        exact hunused hwatches hinstalled
  exact advances_of_eq (h.modifyConnection fun _ => rfl) rfl (Or.inr rfl) (if_neg hother)

/-- The timer goes off, and an attempt is made. -/
theorem Underway.fire (h : Underway l) (hdue : l.timer.isDue l.clock = true)
    (hlost : ∀ l', lost l move l' = 0) :
    Advances l move { l.addAttempt true with timer := l.timer.goOff } := by
  unfold Timer.isDue at hdue
  cases h.course with
  | inUse _ _ _ _ hnone => rw [hnone] at hdue; cases hdue
  | trying _ _ htries => rw [htries.due] at hdue; cases hdue
  | waiting due hinstalled hsettled _ hphase =>
      refine advances_of_eq ⟨.trying l.attempts ⟨true, .spawned⟩ ?_, h.unclosed,
        h.notCalled⟩ rfl (Or.inr ?_) (hlost _)
      · exact ⟨rfl, hsettled, rfl, (fun _ h => nomatch h), (fun _ h => nomatch h),
          hinstalled, rfl, hphase⟩
      · show (l.attempts ++ [_]).countP _ = l.attempts.countP _
        rw [List.countP_append]
        rfl

end Moves

theorem Underway.alike (h : Underway l) (halike : Alike l l') : Underway l' := by
  refine h.congr halike.phase halike.installed halike.timer halike.attempts
    halike.shutdown fun conn hwatches => ?_
  rwa [Watches, halike.connections]

theorem lost_of_isAside (h : move.isAside = true) : lost l move l' = 0 := by
  cases move <;> first | rfl | cases h

/-- The latest attempt does what its stage lets it do. -/
theorem Underway.proceeds (h : Underway l) {before : List Attempt} {byTimer : Bool}
    {old : Stage} (htries : Tries l before ⟨byTimer, old⟩)
    (hgoes : Proceeds l before.length old move l') : Advances l move l' := by
  cases hgoes with
  | begin => exact h.dial htries fun _ => rfl
  | connected watchable =>
      exact h.connect htries (fun h => by cases h) (fun _ => rfl) _ watchable
  | refused =>
      have hended : Advances (l.notice .error) (.refused before.length)
          ((l.notice .error).endFailed before.length) :=
        (h.alike (alike_notice l _)).endFailed { htries with } fun _ => rfl
      exact ⟨hended.underway, hended.attempts⟩
  | subscribed => exact h.install htries fun _ => rfl
  | unsubscribed => exact h.failWith htries (fun h => by cases h) fun _ => rfl
  | @discarded conn closed =>
      have hended : Advances (l.markClosed conn closed) (.released before.length closed)
          ((l.markClosed conn closed).endFailed before.length) :=
        (h.markClosed closed).endFailed (htries.markClosed closed) fun _ => rfl
      refine ⟨hended.underway, ?_⟩
      rw [hended.attempts, timer_markClosed, failed, failed, overCount, overCount,
        attempts_markClosed]
      rfl
  | retired =>
      -- a connection is not wanted any more only after a shutdown
      exact absurd rfl (htries.wanted _)

theorem Underway.step (h : Underway l) (hstart : move ≠ .start)
    (hshutdown : move ≠ .shutdown) (hstep : l.step? move = some l') :
    Advances l move l' := by
  cases steps_of_step? hstep with
  | aside hmove halike =>
      exact advances_of_eq (h.alike halike) (by rw [halike.timer])
        (Or.inr (by rw [overCount, overCount, halike.attempts])) (lost_of_isAside hmove)
  | start => exact absurd rfl hstart
  | fire hdue => exact h.fire hdue fun _ => rfl
  | proceeds hstage hgoes =>
      obtain ⟨before, byTimer, rfl, htries⟩ := h.course.tries_of_stage? hstage hgoes.isLive
      exact h.proceeds htries hgoes
  | drop => exact advances_of_eq (h.markClosed true) rfl (Or.inr rfl) rfl
  | unheeded hunused => exact h.otherEnd hunused
  | lost _ hinstalled => exact h.usedEnd hinstalled
  | shutdown => exact absurd rfl hshutdown
  | concludes hends => exact absurd h.notCalled hends.ne_notCalled

/-! ## Whole histories -/

/-- The first start puts the listener on its course. -/
theorem underway_start {channel : String} {delay clock : Rat}
    (hstep : (fresh channel delay clock).step? .start = some l) :
    Underway l ∧ l.timer.attempts = 0 := by
  cases hstep
  refine ⟨⟨.trying [] ⟨false, .dialing 0⟩ ?_, rfl, rfl⟩, rfl⟩
  exact ⟨rfl, (fun _ h => nomatch h), rfl, (fun _ h => nomatch h),
    (fun _ h => nomatch h), rfl, rfl, rfl⟩

theorem underway_run? (h : Underway l) (hstart : .start ∉ history)
    (hshutdown : .shutdown ∉ history) (hrun : l.run? history = some l') :
    Underway l' ∧ l'.timer.attempts = l.timer.attempts +
      tally (fun before move after => failed before move after + lost before move after)
        l history := by
  have hmoves : Always (fun _ move => move ≠ .start ∧ move ≠ .shutdown) l history :=
    always_of_forall fun move hmove =>
      ⟨fun heq => hstart (heq ▸ hmove), fun heq => hshutdown (heq ▸ hmove)⟩
  refine ⟨run?_keeps (fun hl hmove hstep => ?_) hmoves h hrun,
    run?_tally (fun l => l.timer.attempts) (fun hl hmove hstep => ?_) hmoves h hrun⟩
  · exact (hl.step hmove.1 hmove.2 hstep).underway
  · have hadvances := hl.step hmove.1 hmove.2 hstep
    exact ⟨hadvances.underway, hadvances.attempts⟩

/-- A listener that was started once is about exactly one thing as long as nobody
shuts it down: it uses a connection, and its phase says so; or one attempt, and no
other, goes on; or the timer is armed, and there is no connection. Its timer was
armed once for every attempt that ended without a connection and every end of the
connection in use. A shutdown, in whatever state and however often the listener was
started, is final. -/
theorem one_way_forward (channel : String) (delay clock : Rat)
    (history : List Move) :
    (∀ l, .start ∉ history → .shutdown ∉ history →
      (fresh channel delay clock).run? (.start :: history) = some l →
        l.ways = 1 ∧
        (l.phase = .listening ↔ l.installed.isSome = true) ∧
        (l.timer.isArmed = true → l.phase = .disconnected) ∧
        l.timer.attempts =
          tally failed (fresh channel delay clock) (.start :: history) +
            tally lost (fresh channel delay clock) (.start :: history)) ∧
    ∀ l l' : Listener, .shutdown ∈ history → l.run? history = some l' →
      l'.phase = .closing := by
  refine ⟨fun l hstart hshutdown hrun => ?_, fun l l' hshutdown hrun => ?_⟩
  · obtain ⟨started, hstep, hrest⟩ := run?_cons_eq_some.1 hrun
    obtain ⟨hunderway, hzero⟩ := underway_start hstep
    obtain ⟨hlast, hattempts⟩ := underway_run? hunderway hstart hshutdown hrest
    refine ⟨hlast.course.ways_eq_one, hlast.course.listening_iff,
      hlast.course.disconnected_of_isArmed, ?_⟩
    rw [hattempts, hzero, ← tally_add, tally, hstep]
    cases hstep
    rfl
  · obtain ⟨before, after, rfl⟩ := List.append_of_mem hshutdown
    obtain ⟨called, -, hrest⟩ := run?_append_eq_some.1 hrun
    obtain ⟨closed, hstep, hafter⟩ := run?_cons_eq_some.1 hrest
    cases hstep
    have hany : Always (fun _ _ => True) called.callShutdown after :=
      always_of_forall fun _ _ => trivial
    exact run?_keeps (fun h _ hstep => closing_step h hstep) hany
      (closing_callShutdown _) hafter

/-- An attempt that is refused, one that succeeds after the delay, and an end of
its connection that is told twice: the timer was armed twice. -/
theorem one_way_forward_twice :
    let history : List Move := [.refused 0, .wait 5, .fire, .begin 1,
      .connected 1 true, .subscribed 1, .terminate 0, .terminate 0]
    ∃ l l', (fresh "decode" 5 0).run? (.start :: history) = some l ∧
      l.ways = 1 ∧ l.timer.attempts = 2 ∧ l.timer.isArmed = true ∧
      l.phase = .disconnected ∧
      l.run? [.shutdown, .wait 9, .start] = some l' ∧ l'.phase = .closing := by
  intro history
  have harms : ((fresh "decode" 5 0).run? (.start :: history)).map
      (·.timer.isArmed) = some true := by decide +kernel
  obtain ⟨l, hrun, harmed⟩ := Option.map_eq_some_iff.1 harms
  obtain ⟨l', hclosed⟩ : ∃ l', l.run? [.shutdown, .wait 9, .start] = some l' :=
    ⟨_, rfl⟩
  obtain ⟨hways, -, hdisconnected, hattempts⟩ :=
    (one_way_forward "decode" 5 0 history).1 l (by decide) (by decide) hrun
  have hclosing := (one_way_forward "decode" 5 0 [.shutdown, .wait 9, .start]).2 l l'
    (by decide) hclosed
  refine ⟨l, l', hrun, hways, ?_, harmed, hdisconnected harmed, hclosed, hclosing⟩
  rw [hattempts]
  decide +kernel

end EvmIndexer.Listener
