import EvmIndexer.Listener.Machine

/-!
# What a move does to a listener

Every account of a listener's moves is a case analysis of what a move can find and
what it leaves, which is said here once. An attempt that goes on proceeds; a
shutdown that waits concludes; a connection ends, heeded or not; time passes, or an
identifier is heard or handled, which has no part in the life of connections.

What comes with it is the one fact that every such account needs: nothing but a
shutdown leads into the phase of a shutdown, and nothing leads out of it.
-/

namespace EvmIndexer.Listener

/-- Two states that differ at most in the clock, in the identifiers that were heard
and in what became of them. -/
structure Alike (l l' : Listener) : Prop where
  phase : l'.phase = l.phase
  installed : l'.installed = l.installed
  timer : l'.timer = l.timer
  connections : l'.connections = l.connections
  attempts : l'.attempts = l.attempts
  shutdown : l'.shutdown = l.shutdown

/-- Whether a move has no part in the life of connections. -/
def Move.isAside : Move → Bool
  | .wait _ | .notify _ _ _ | .handle _ | .complete _ _ => true
  | _ => false

/-- Whether the end of a connection is watched. -/
def Watches (l : Listener) (conn : Nat) : Prop :=
  ∃ c, l.connections[conn]? = some c ∧ c.watched = true

/-- The listener after the end of a connection, before anybody heeds it. -/
def markEnded (l : Listener) (conn : Nat) : Listener :=
  l.modifyConnection conn fun c => { c with closed := true, ended := true }

/-- What an attempt does that is in a stage. -/
inductive Proceeds (l : Listener) (attempt : Nat) : Stage → Move → Listener → Prop
  | begin : Proceeds l attempt .spawned (.begin attempt) (l.dial attempt)
  | connected {call : Nat} (watchable : Bool) :
      Proceeds l attempt (.dialing call) (.connected attempt watchable)
        (l.connect attempt call watchable)
  | refused {call : Nat} :
      Proceeds l attempt (.dialing call) (.refused attempt)
        ((l.notice .error).endFailed attempt)
  | subscribed {conn : Nat} :
      Proceeds l attempt (.subscribing conn) (.subscribed attempt)
        (l.install attempt conn)
  | unsubscribed {conn : Nat} :
      Proceeds l attempt (.subscribing conn) (.unsubscribed attempt)
        (l.failWith attempt conn)
  | discarded {conn : Nat} (closed : Bool) :
      Proceeds l attempt (.discarding conn) (.released attempt closed)
        ((l.markClosed conn closed).endFailed attempt)
  | retired {conn : Nat} (closed : Bool) :
      Proceeds l attempt (.retiring conn) (.released attempt closed)
        ((l.markClosed conn closed).setStage attempt .over)

/-- What a shutdown does that waits. -/
inductive Concludes (l : Listener) : Shutdown → Move → Listener → Prop
  | attemptEnded : Concludes l .cancelling .attemptEnded l.giveUpConnection
  | closed {conn : Nat} :
      Concludes l (.closing conn) (.connectionEnded true)
        (l.markClosed conn true).awaitTasks
  | stuck {conn : Nat} :
      Concludes l (.closing conn) (.connectionEnded false) { l with shutdown := .raised }
  | tasksEnded {tasks : List Nat} :
      Concludes l (.waiting tasks) .tasksEnded { l with shutdown := .returned }

/-- What the moves of a listener find and leave. -/
inductive Steps (l : Listener) : Move → Listener → Prop
  | aside {move : Move} {l' : Listener} (hmove : move.isAside = true)
      (halike : Alike l l') : Steps l move l'
  | start : Steps l .start ((l.addAttempt false).dial l.attempts.length)
  | fire (hdue : l.timer.isDue l.clock = true) :
      Steps l .fire { l.addAttempt true with timer := l.timer.goOff }
  | proceeds {attempt : Nat} {old : Stage} {move : Move} {l' : Listener}
      (hstage : l.stage? attempt = some old) (hgoes : Proceeds l attempt old move l') :
      Steps l move l'
  | drop (conn : Nat) : Steps l (.drop conn) (l.markClosed conn true)
  | unheeded {conn : Nat} (hunused : l.Watches conn → l.installed ≠ some conn) :
      Steps l (.terminate conn) (l.markEnded conn)
  | lost {conn : Nat} (hwatched : l.Watches conn) (hinstalled : l.installed = some conn) :
      Steps l (.terminate conn) ((l.markEnded conn).notice .warning).connectionLost
  | shutdown : Steps l .shutdown l.callShutdown
  | concludes {move : Move} {l' : Listener} (hends : Concludes l l.shutdown move l') :
      Steps l move l'

variable {l l' : Listener} {move : Move}

theorem alike_notice (l : Listener) (n : Notice) : Alike l (l.notice n) :=
  ⟨rfl, rfl, rfl, rfl, rfl, rfl⟩

theorem alike_hear (l : Listener) (conn : Nat) (channel payload : String) :
    Alike l (l.hear conn channel payload) := by
  unfold hear
  simp only
  split <;> exact ⟨rfl, rfl, rfl, rfl, rfl, rfl⟩

theorem alike_endHandling (l : Listener) (task : Nat) (txId : String) (ending : Ending) :
    Alike l (l.endHandling task txId ending) := by
  cases ending <;> exact ⟨rfl, rfl, rfl, rfl, rfl, rfl⟩

section Watched

variable {conn : Nat}

theorem watches_iff :
    l.Watches conn ↔ (l.connections[conn]?.map (·.watched)).getD false = true := by
  unfold Watches
  cases l.connections[conn]? <;> simp

theorem watches_modifyConnection {change : Connection → Connection} {other : Nat}
    (hchange : ∀ c, (change c).watched = c.watched) :
    (l.modifyConnection other change).Watches conn ↔ l.Watches conn := by
  rw [watches_iff, watches_iff, modifyConnection, List.getElem?_modify]
  cases l.connections[conn]? with
  | none => exact Iff.rfl
  | some c =>
      show (if other = conn then change c else c).watched = true ↔ c.watched = true
      split
      · rw [hchange]
      · exact Iff.rfl

theorem Watches.modifyConnection {change : Connection → Connection} {other : Nat}
    (h : l.Watches conn) (hchange : ∀ c, (change c).watched = c.watched) :
    (l.modifyConnection other change).Watches conn :=
  (watches_modifyConnection hchange).2 h

theorem watches_markEnded {other : Nat} :
    (l.markEnded other).Watches conn ↔ l.Watches conn :=
  watches_modifyConnection fun _ => rfl

theorem connectionEnd_of_unused (h : l.Watches conn → l.installed ≠ some conn) :
    l.connectionEnd conn = l.markEnded conn := by
  unfold connectionEnd
  simp only
  refine if_neg fun hheeded => ?_
  obtain ⟨hwatched, hinstalled⟩ := Bool.and_eq_true_iff.1 hheeded
  have hended : (l.markEnded conn).Watches conn := watches_iff.2 hwatched
  exact h (watches_markEnded.1 hended) (beq_iff_eq.1 hinstalled)

theorem connectionEnd_of_used (hwatched : l.Watches conn)
    (hinstalled : l.installed = some conn) :
    l.connectionEnd conn = ((l.markEnded conn).notice .warning).connectionLost := by
  unfold connectionEnd
  simp only
  have hended : (l.markEnded conn).Watches conn := watches_markEnded.2 hwatched
  exact if_pos (Bool.and_eq_true_iff.2 ⟨watches_iff.1 hended, beq_iff_eq.2 hinstalled⟩)

end Watched

theorem steps_of_step? (h : l.step? move = some l') : Steps l move l' := by
  cases move <;> simp only [step?] at h
  case wait =>
    split at h <;> cases h
    exact .aside rfl ⟨rfl, rfl, rfl, rfl, rfl, rfl⟩
  case start =>
    cases h
    exact .start
  case fire =>
    split at h <;> cases h
    next hfire => exact .fire (Bool.and_eq_true_iff.1 hfire).1
  case begin =>
    split at h <;> cases h
    next hstage => exact .proceeds hstage .begin
  case connected =>
    split at h <;> cases h
    next hstage => exact .proceeds hstage (.connected _)
  case refused =>
    split at h <;> cases h
    next hstage => exact .proceeds hstage .refused
  case subscribed =>
    split at h <;> cases h
    next hstage => exact .proceeds hstage .subscribed
  case unsubscribed =>
    split at h <;> cases h
    next hstage => exact .proceeds hstage .unsubscribed
  case released =>
    split at h <;> cases h
    next hstage => exact .proceeds hstage (.discarded _)
    next hstage => exact .proceeds hstage (.retired _)
  case drop =>
    split at h <;> cases h
    exact .drop _
  case terminate conn =>
    split at h <;> cases h
    by_cases hused : l.Watches conn ∧ l.installed = some conn
    · rw [connectionEnd_of_used hused.1 hused.2]
      exact .lost hused.1 hused.2
    · have hunused := not_and.1 hused
      rw [connectionEnd_of_unused hunused]
      exact .unheeded hunused
  case notify =>
    split at h <;> cases h
    exact .aside rfl (alike_hear l _ _ _)
  case handle =>
    split at h <;> cases h
    exact .aside rfl ⟨rfl, rfl, rfl, rfl, rfl, rfl⟩
  case complete =>
    split at h <;> cases h
    exact .aside rfl (alike_endHandling l _ _ _)
  case shutdown =>
    cases h
    exact .shutdown
  case attemptEnded =>
    split at h <;> cases h
    next hshutdown => exact .concludes (by rw [hshutdown]; exact .attemptEnded)
  case connectionEnded closed =>
    split at h <;> cases h
    next hshutdown =>
      refine .concludes ?_
      rw [hshutdown]
      cases closed
      · exact .stuck
      · exact .closed
  case tasksEnded =>
    split at h
    · next hshutdown =>
        split at h <;> cases h
        exact .concludes (by rw [hshutdown]; exact .tasksEnded)
    · cases h

theorem Proceeds.isLive {attempt : Nat} {old : Stage}
    (h : Proceeds l attempt old move l') : old.isLive = true := by
  cases h <;> rfl

theorem Concludes.ne_notCalled {waits : Shutdown} (h : Concludes l waits move l') :
    waits ≠ .notCalled := by
  rintro rfl
  cases h

/-! ## The phase of a shutdown -/

section Closing

variable (l) (attempt conn : Nat)

theorem closing_connectionLost_iff :
    l.connectionLost.phase = .closing ↔ l.phase = .closing := by
  unfold connectionLost
  split
  · exact Iff.rfl
  · next hopen => exact iff_of_false (fun h => by cases h) hopen

theorem closing_dial_iff : (l.dial attempt).phase = .closing ↔ l.phase = .closing := by
  unfold dial
  split
  · exact Iff.rfl
  · next hopen => exact iff_of_false (fun h => by cases h) hopen

theorem closing_failWith_iff :
    (l.failWith attempt conn).phase = .closing ↔ l.phase = .closing := by
  unfold failWith
  simp only
  split
  · exact closing_connectionLost_iff _
  · exact Iff.rfl

theorem closing_connect_iff (call : Nat) (watchable : Bool) :
    (l.connect attempt call watchable).phase = .closing ↔ l.phase = .closing := by
  unfold connect
  simp only
  split
  · exact Iff.rfl
  · exact closing_failWith_iff _ _ _

theorem closing_install_iff :
    (l.install attempt conn).phase = .closing ↔ l.phase = .closing := by
  unfold install
  simp only
  split
  · exact Iff.rfl
  · next hopen => exact iff_of_false (fun h => by cases h) hopen

theorem phase_markClosed (closed : Bool) : (l.markClosed conn closed).phase = l.phase := by
  unfold markClosed
  split <;> rfl

theorem phase_giveUpConnection : l.giveUpConnection.phase = l.phase := by
  unfold giveUpConnection
  simp only
  split
  · rfl
  · split <;> rfl

theorem closing_callShutdown : l.callShutdown.phase = .closing := by
  unfold callShutdown
  split
  · assumption
  · simp only
    split
    · rfl
    · exact phase_giveUpConnection _

end Closing

theorem Proceeds.closing_iff {attempt : Nat} {old : Stage}
    (h : Proceeds l attempt old move l') : l'.phase = .closing ↔ l.phase = .closing := by
  cases h with
  | begin => exact closing_dial_iff _ _
  | connected => exact closing_connect_iff _ _ _ _
  | refused => exact closing_connectionLost_iff _
  | subscribed => exact closing_install_iff _ _ _
  | unsubscribed => exact closing_failWith_iff _ _ _
  | @discarded conn closed =>
      rw [← phase_markClosed l conn closed]
      exact closing_connectionLost_iff _
  | @retired conn closed =>
      rw [← phase_markClosed l conn closed]
      rfl

theorem Concludes.phase_eq {waits : Shutdown} (h : Concludes l waits move l') :
    l'.phase = l.phase := by
  cases h with
  | attemptEnded => exact phase_giveUpConnection l
  | closed => rfl
  | stuck => rfl
  | tasksEnded => rfl

/-- Nothing but the shutdown leads to its phase, and nothing leads out of it. -/
theorem Steps.closing_iff (h : Steps l move l') (hmove : move ≠ .shutdown) :
    l'.phase = .closing ↔ l.phase = .closing := by
  cases h with
  | aside _ halike => rw [halike.phase]
  | start => exact closing_dial_iff _ _
  | fire => exact Iff.rfl
  | proceeds _ hgoes => exact hgoes.closing_iff
  | drop => exact Iff.rfl
  | unheeded => exact Iff.rfl
  | lost => exact closing_connectionLost_iff _
  | shutdown => exact absurd rfl hmove
  | concludes hends => rw [hends.phase_eq]

theorem closing_step (h : l.phase = .closing) (hstep : l.step? move = some l') :
    l'.phase = .closing := by
  by_cases hmove : move = .shutdown
  · subst hmove
    cases hstep
    exact closing_callShutdown l
  · exact ((steps_of_step? hstep).closing_iff hmove).2 h

end EvmIndexer.Listener
