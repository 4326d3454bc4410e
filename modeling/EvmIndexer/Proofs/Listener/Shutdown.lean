import EvmIndexer.Proofs.Listener.Course
import EvmIndexer.Proofs.Listener.Ownership

/-!
# Connections after a shutdown

After a shutdown an open connection is held by an attempt, which closes it as soon
as it goes on, or the shutdown is about to close it. So once the shutdown has
returned and no attempt goes on, no connection is open.

An owner can be lost in two ways, and these are the only ones. A move before the
shutdown may forget the connection in use, which takes a second start. And the
shutdown may cancel an attempt of the timer that holds a connection, or overlook one
that another attempt has overtaken.
-/

namespace EvmIndexer.Listener

variable {l l' : Listener} {move : Move} {attempt conn : Nat} {old new : Stage}
  {history : List Move}

/-! ## A good moment for a shutdown -/

/-- Of the timer's attempts at most the latest goes on, and it has no connection. -/
def Stoppable (l : Listener) : Prop :=
  ∀ i : Fin l.attempts.length, l.attempts[i].byTimer = true →
    l.attempts[i].stage.isLive = true →
      l.timerAttempt? = some i.1 ∧ l.attempts[i].stage.conn? = none

instance decidableStoppable (l : Listener) : Decidable (Stoppable l) :=
  inferInstanceAs (Decidable (∀ _ : Fin l.attempts.length, _ → _ → _ ∧ _))

/-! ## After the shutdown -/

/-- No attempt of the timer goes on. -/
def Stopped (l : Listener) : Prop :=
  ∀ attempt ∈ l.attempts, attempt.byTimer = true → attempt.stage.isLive = false

/-- A listener that was shut down. -/
structure Leaves (l : Listener) : Prop where
  phase : l.phase = .closing
  due : l.timer.due = none
  stopped : Stopped l
  givenUp : l.installed = none ∨ l.shutdown = .cancelling
  owned : ∀ conn, l.isClosed conn = false →
    l.Holds conn ∨ l.installed = some conn ∨ l.shutdown = .closing conn

theorem stage?_markClosed (l : Listener) (conn : Nat) (closed : Bool) (attempt : Nat) :
    (l.markClosed conn closed).stage? attempt = l.stage? attempt := by
  rw [stage?, attempts_markClosed, stage?]

theorem exists_of_mem_setStage {changed : Attempt}
    (h : changed ∈ (l.setStage attempt new).attempts) :
    ∃ i found, l.attempts[i]? = some found ∧
      (changed = found ∧ attempt ≠ i ∨
        changed = { found with stage := new } ∧ attempt = i) := by
  obtain ⟨i, hi⟩ := List.mem_iff_getElem?.1 h
  obtain ⟨found, hfound, rfl⟩ := Option.map_eq_some_iff.1
    ((List.getElem?_modify _ attempt l.attempts i).symm.trans hi)
  refine ⟨i, found, hfound, ?_⟩
  by_cases hi : attempt = i
  · exact Or.inr ⟨if_pos hi, hi⟩
  · exact Or.inl ⟨if_neg hi, hi⟩

/-- An attempt that goes on after the shutdown is not the timer's. -/
theorem Stopped.setStage (h : Stopped l) (hstage : l.stage? attempt = some old)
    (hlive : old.isLive = true) : Stopped (l.setStage attempt new) := by
  intro changed hchanged htimer
  obtain ⟨i, found, hfound, ⟨rfl, -⟩ | ⟨rfl, rfl⟩⟩ := exists_of_mem_setStage hchanged
  · exact h changed (List.mem_of_getElem? hfound) htimer
  · rw [stage?, hfound] at hstage
    rw [← Option.some.inj hstage, h found (List.mem_of_getElem? hfound) htimer] at hlive
    cases hlive

theorem Stopped.addAttempt (h : Stopped l) : Stopped (l.addAttempt false) := by
  intro attempt hattempt htimer
  rcases List.mem_append.1 hattempt with hold | hnew
  · exact h attempt hold htimer
  · obtain rfl := List.mem_singleton.1 hnew
    cases htimer

/-- What a shut down listener keeps in every move that is none of the shutdown. -/
structure Remains (before after : Listener) : Prop where
  due : after.timer.due = none
  stopped : Stopped after
  installed : after.installed = before.installed
  shutdown : after.shutdown = before.shutdown

theorem Leaves.remains (h : Leaves l) : Remains l l :=
  ⟨h.due, h.stopped, rfl, rfl⟩

theorem connectionLost_of_closing (hphase : l.phase = .closing) : l.connectionLost = l :=
  if_pos hphase

section Remains

variable {before : Listener} (h : Remains before l)

include h

theorem Remains.congr (htimer : l'.timer = l.timer) (hattempts : l'.attempts = l.attempts)
    (hinstalled : l'.installed = l.installed) (hshutdown : l'.shutdown = l.shutdown) :
    Remains before l' where
  due := htimer ▸ h.due
  stopped := by rw [Stopped, hattempts]; exact h.stopped
  installed := hinstalled.trans h.installed
  shutdown := hshutdown.trans h.shutdown

theorem Remains.alike (halike : Alike l l') : Remains before l' :=
  h.congr halike.timer halike.attempts halike.installed halike.shutdown

theorem Remains.markClosed (conn : Nat) (closed : Bool) :
    Remains before (l.markClosed conn closed) := by
  unfold Listener.markClosed
  split
  · exact h.congr rfl rfl rfl rfl
  · exact h

theorem Remains.setStage (hstage : l.stage? attempt = some old)
    (hlive : old.isLive = true) : Remains before (l.setStage attempt new) :=
  ⟨h.due, h.stopped.setStage hstage hlive, h.installed, h.shutdown⟩

theorem Remains.dial (hphase : l.phase = .closing) (hstage : l.stage? attempt = some old)
    (hlive : old.isLive = true) : Remains before (l.dial attempt) := by
  rw [Listener.dial, if_pos hphase]
  exact h.setStage hstage hlive

theorem Remains.endFailed (hphase : l.phase = .closing)
    (hstage : l.stage? attempt = some old) (hlive : old.isLive = true) :
    Remains before (l.endFailed attempt) := by
  rw [Listener.endFailed,
    connectionLost_of_closing (l := l.setStage attempt .over) hphase]
  exact h.setStage hstage hlive

theorem Remains.failWith (hphase : l.phase = .closing)
    (hstage : l.stage? attempt = some old) (hlive : old.isLive = true) (conn : Nat) :
    Remains before (l.failWith attempt conn) := by
  have hnoticed : Remains before (l.notice .error) := h.alike (alike_notice l _)
  unfold Listener.failWith
  simp only
  split
  · exact hnoticed.endFailed hphase hstage hlive
  · exact hnoticed.setStage hstage hlive

theorem Remains.connect (hphase : l.phase = .closing)
    (hstage : l.stage? attempt = some old) (hlive : old.isLive = true) (call : Nat)
    (watchable : Bool) : Remains before (l.connect attempt call watchable) := by
  have hgrown : Remains before { l with
      connections := l.connections ++ [{ call, watched := watchable }] } :=
    h.congr rfl rfl rfl rfl
  unfold Listener.connect
  simp only
  split
  · exact hgrown.setStage hstage hlive
  · exact hgrown.failWith hphase hstage hlive _

theorem Remains.install (hphase : l.phase = .closing)
    (hstage : l.stage? attempt = some old) (hlive : old.isLive = true) (conn : Nat) :
    Remains before (l.install attempt conn) := by
  have hsubscribed : Remains before (l.modifyConnection conn fun c =>
      { c with subscribed := true }) := h.congr rfl rfl rfl rfl
  unfold Listener.install
  simp only
  rw [if_pos (show (l.modifyConnection conn _).phase = .closing from hphase)]
  exact hsubscribed.setStage hstage hlive

end Remains

theorem Remains.proceeds {before : Listener} (h : Remains before l)
    (hphase : l.phase = .closing) (hstage : l.stage? attempt = some old)
    (hgoes : Proceeds l attempt old move l') : Remains before l' := by
  have hlive := hgoes.isLive
  cases hgoes with
  | begin => exact h.dial hphase hstage hlive
  | connected watchable => exact h.connect hphase hstage hlive _ watchable
  | refused => exact (h.alike (alike_notice l _)).endFailed hphase hstage hlive
  | subscribed => exact h.install hphase hstage hlive _
  | unsubscribed => exact h.failWith hphase hstage hlive _
  | discarded closed =>
      exact (h.markClosed _ closed).endFailed ((phase_markClosed _ _ _).trans hphase)
        ((stage?_markClosed ..).trans hstage) hlive
  | retired closed =>
      exact (h.markClosed _ closed).setStage ((stage?_markClosed ..).trans hstage) hlive

theorem Leaves.remains_step (h : Leaves l) (hsteps : Steps l move l')
    (hshutdown : move ≠ .shutdown) :
    Remains l l' ∨ Concludes l l.shutdown move l' := by
  cases hsteps with
  | aside _ halike => exact Or.inl (h.remains.alike halike)
  | start =>
      have hadded : Remains l (l.addAttempt false) :=
        ⟨h.due, h.stopped.addAttempt, rfl, rfl⟩
      exact Or.inl (hadded.dial h.phase (stage?_addAttempt_self l false) rfl)
  | fire hdue =>
      rw [Timer.isDue, h.due] at hdue
      cases hdue
  | proceeds hstage hgoes => exact Or.inl (h.remains.proceeds h.phase hstage hgoes)
  | drop conn => exact Or.inl (h.remains.markClosed conn true)
  | unheeded => exact Or.inl (h.remains.congr rfl rfl rfl rfl)
  | @lost conn =>
      rw [connectionLost_of_closing (l := (l.markEnded conn).notice .warning) h.phase]
      exact Or.inl (h.remains.congr rfl rfl rfl rfl)
  | shutdown => exact absurd rfl hshutdown
  | concludes hends => exact Or.inr hends

/-! ## The steps of the shutdown -/

theorem installed_giveUpConnection (l : Listener) :
    l.giveUpConnection.installed = none := by
  unfold giveUpConnection
  simp only
  split
  · rfl
  · split <;> rfl

theorem shutdown_giveUpConnection (hinstalled : l.installed = some conn)
    (hopen : l.isClosed conn = false) : l.giveUpConnection.shutdown = .closing conn := by
  unfold giveUpConnection
  simp only
  rw [hinstalled]
  have hgiven : isClosed { l with installed := none } conn = false := hopen
  simp only
  rw [if_neg (by rw [hgiven]; decide)]

/-- The connection in use is given up, whether an attempt had to end first or not. -/
theorem leaves_giveUpConnection (hphase : l.phase = .closing) (hdue : l.timer.due = none)
    (hstopped : Stopped l) (howned : Owned l) : Leaves l.giveUpConnection := by
  refine ⟨(phase_giveUpConnection l).trans hphase, ?_, ?_,
    Or.inl (installed_giveUpConnection l), ?_⟩
  · unfold giveUpConnection
    simp only
    split
    · exact hdue
    · split <;> exact hdue
  · rw [Stopped, attempts_giveUpConnection]
    exact hstopped
  · intro conn hopen
    rw [isClosed_of_connections_eq (connections_giveUpConnection l)] at hopen
    rcases howned conn hopen with hinstalled | hheld
    · exact Or.inr (Or.inr (shutdown_giveUpConnection hinstalled hopen))
    · exact Or.inl (hheld.of_attempts_eq (attempts_giveUpConnection l))

/-- What the shutdown gives up while it waits is closed when it goes on. -/
theorem Leaves.concludes (h : Leaves l) {waits : Shutdown} (hwaits : l.shutdown = waits)
    (hcloses : move.closes = true) (hends : Concludes l waits move l') : Leaves l' := by
  have hnone : waits ≠ .cancelling → l.installed = none := fun hne =>
    h.givenUp.resolve_right (hwaits ▸ hne)
  cases hends with
  | attemptEnded =>
      refine leaves_giveUpConnection h.phase h.due h.stopped fun conn hopen => ?_
      rcases h.owned conn hopen with hheld | hinstalled | hclosing
      · exact Or.inr hheld
      · exact Or.inl hinstalled
      · cases hwaits.symm.trans hclosing
  | closed =>
      have hnone := hnone fun heq => by cases heq
      refine ⟨h.phase, h.due, h.stopped, Or.inl hnone, fun conn hopen => ?_⟩
      obtain ⟨hne, hwas⟩ := ne_of_isClosed_markClosed (l := l) hopen
      rcases h.owned conn hwas with hheld | hinstalled | hclosing
      · exact Or.inl (hheld.of_attempts_eq rfl)
      · cases hnone.symm.trans hinstalled
      · exact absurd (Shutdown.closing.inj (hwaits.symm.trans hclosing)) hne
  | stuck => cases hcloses
  | tasksEnded =>
      have hnone := hnone fun heq => by cases heq
      refine ⟨h.phase, h.due, h.stopped, Or.inl hnone, fun conn hopen => ?_⟩
      rcases h.owned conn hopen with hheld | hinstalled | hclosing
      · exact Or.inl (hheld.of_attempts_eq rfl)
      · cases hnone.symm.trans hinstalled
      · cases hwaits.symm.trans hclosing

theorem Leaves.step (h : Leaves l) (hcloses : move.closes = true)
    (hstep : l.step? move = some l') : Leaves l' := by
  by_cases hmove : move = .shutdown
  · subst hmove
    cases hstep
    rw [callShutdown, if_pos h.phase]
    exact h
  rcases h.remains_step (steps_of_step? hstep) hmove with hremains | hends
  · refine ⟨closing_step h.phase hstep, hremains.due, hremains.stopped, ?_,
      fun conn hopen => ?_⟩
    · rw [hremains.installed, hremains.shutdown]
      exact h.givenUp
    rw [hremains.installed, hremains.shutdown]
    by_cases howner : l.installed = some conn ∨ l.shutdown = .closing conn
    · exact Or.inr howner
    · have hheld := holds_step hstep hcloses hmove
        (fun hwas => (h.owned conn hwas).resolve_right howner) hopen
      rw [hremains.installed] at hheld
      exact hheld.imp_right Or.inl
  · exact h.concludes rfl hcloses hends

theorem timerAttempt?_eq_some (h : l.timerAttempt? = some attempt) :
    ∃ found, l.attempts[attempt]? = some found ∧ found.byTimer = true ∧
      found.stage.isLive = true := by
  obtain ⟨hlast, hlive⟩ := Option.filter_eq_some_iff.1 h
  obtain ⟨-, htimer⟩ := List.mem_filter.1 (List.mem_of_getLast? hlast)
  cases hfound : l.attempts[attempt]? with
  | none =>
      rw [hfound] at htimer
      cases htimer
  | some found =>
      rw [hfound] at htimer
      rw [stage?, hfound] at hlive
      exact ⟨found, rfl, htimer, hlive⟩

/-- The shutdown takes over what is in use and cancels what holds nothing. -/
theorem leaves_callShutdown (hphase : l.phase ≠ .closing) (howned : Owned l)
    (hstoppable : Stoppable l) : Leaves l.callShutdown := by
  let closed : Listener := { l with phase := .closing, timer := l.timer.close }
  have hfinds : ∀ i found, l.attempts[i]? = some found → found.byTimer = true →
      found.stage.isLive = true → l.timerAttempt? = some i ∧ found.stage.conn? = none := by
    intro i found hfound htimer hlive
    obtain ⟨hlt, rfl⟩ := List.getElem?_eq_some_iff.1 hfound
    exact hstoppable ⟨i, hlt⟩ htimer hlive
  unfold callShutdown
  rw [if_neg hphase]
  simp only
  split
  · next attempt hattempt =>
      have hattempt : l.timerAttempt? = some attempt := hattempt
      obtain ⟨found, hfound, htimer, hlive⟩ := timerAttempt?_eq_some hattempt
      have hstage : closed.stage? attempt = some found.stage := by
        show (l.attempts[attempt]?).map _ = _
        rw [hfound]
        rfl
      refine ⟨rfl, rfl, ?_, Or.inr rfl, fun conn hopen => ?_⟩
      · intro changed hchanged hbyTimer
        obtain ⟨i, found, hfound, ⟨rfl, hne⟩ | ⟨rfl, -⟩⟩ :=
          exists_of_mem_setStage (l := closed) hchanged
        · by_contra hgoes
          have hlatest := (hfinds i changed hfound hbyTimer (by simpa using hgoes)).1
          exact hne (Option.some.inj (hattempt.symm.trans hlatest))
        · rfl
      · rcases howned conn hopen with hinstalled | hheld
        · exact Or.inr (Or.inl hinstalled)
        · have hclosed : closed.Holds conn := hheld.of_attempts_eq rfl
          have hset : (closed.setStage attempt .cancelled).Holds conn :=
            hclosed.setStage hstage (by simp [(hfinds _ _ hfound htimer hlive).2])
          exact Or.inl (hset.of_attempts_eq rfl)
  · next hnone =>
      have hnone : l.timerAttempt? = none := hnone
      refine leaves_giveUpConnection rfl rfl (fun attempt hattempt htimer => ?_) howned
      obtain ⟨i, hi⟩ := List.mem_iff_getElem?.1 hattempt
      by_contra hlive
      have hfound := (hfinds i attempt hi htimer (by simpa using hlive)).1
      rw [hnone] at hfound
      cases hfound

/-! ## A listener that was started once -/

/-- While a connection is in use no attempt goes on that could take its place. -/
theorem Underway.spares (h : Underway l) (hshutdown : move ≠ .shutdown) :
    Spares l move := by
  intro conn hinstalled l' hstep hopen
  have hinstalled : l.installed = some conn := hinstalled
  cases steps_of_step? hstep with
  | aside _ halike => exact halike.installed.trans hinstalled
  | start =>
      unfold Listener.dial
      split <;> exact hinstalled
  | fire => exact hinstalled
  | proceeds hstage hgoes =>
      obtain ⟨_, _, -, htries⟩ := h.course.tries_of_stage? hstage hgoes.isLive
      rw [htries.installed] at hinstalled
      cases hinstalled
  | drop => exact hinstalled
  | unheeded => exact hinstalled
  | lost _ hother =>
      -- the connection in use is not open any more
      obtain rfl := Option.some.inj (hinstalled.symm.trans hother)
      rw [isClosed_of_connections_eq (connections_connectionLost _)] at hopen
      exact absurd rfl (ne_of_isClosed_modifyConnection (l := l) hopen fun _ => rfl)
  | shutdown => exact absurd rfl hshutdown
  | concludes hends => exact absurd h.notCalled hends.ne_notCalled

/-- An attempt of the timer that goes on is the one that a shutdown cancels. -/
theorem Underway.timerAttempt? (h : Underway l) {found : Attempt}
    (hfound : l.attempts[attempt]? = some found) (hbyTimer : found.byTimer = true)
    (hlive : found.stage.isLive = true) : l.timerAttempt? = some attempt := by
  have hstage : l.stage? attempt = some found.stage := by
    rw [stage?, hfound]
    rfl
  obtain ⟨before, _, rfl, htries⟩ := h.course.tries_of_stage? hstage hlive
  have hlength : l.attempts.length = before.length + 1 := by
    rw [htries.attempts, List.length_append, List.length_singleton]
  rw [Listener.timerAttempt?, hlength, List.range_succ, List.filter_append,
    List.filter_singleton, hfound]
  simp [hbyTimer, hstage, hlive]

/-- Before its shutdown a listener that was started once forgets no open connection,
and a shutdown cancels every attempt of the timer that goes on. -/
theorem started_once {channel : String} {delay clock : Rat} (hstart : .start ∉ history)
    (hshutdown : .shutdown ∉ history)
    (hrun : (fresh channel delay clock).run? (.start :: history) = some l) :
    Always Spares (fresh channel delay clock) (.start :: history) ∧
    ∀ attempt found, l.attempts[attempt]? = some found → found.byTimer = true →
      found.stage.isLive = true → l.timerAttempt? = some attempt := by
  have hmoves : ∀ move ∈ history, move ≠ .start ∧ move ≠ .shutdown := fun move hmove =>
    ⟨fun heq => hstart (heq ▸ hmove), fun heq => hshutdown (heq ▸ hmove)⟩
  obtain ⟨started, hstep, hrest⟩ := run?_cons_eq_some.1 hrun
  have hunderway := (underway_start hstep).1
  refine ⟨⟨fun _ h => (nomatch h), fun middle hmiddle => ?_⟩, ?_⟩
  · obtain rfl := Option.some.inj (hstep.symm.trans hmiddle)
    exact Always.of_keeps
      (fun hl hmove hstep => (hl.step hmove.1 hmove.2 hstep).underway)
      (fun hl hmove => hl.spares hmove.2) (always_of_forall hmoves) hunderway
  · intro attempt found hfound hbyTimer hlive
    exact (underway_run? hunderway hstart hshutdown hrest).1.timerAttempt? hfound
      hbyTimer hlive

/-! ## Whole histories -/

/-- Once a shutdown has returned and no start goes on, every connection that was ever
given is closed: where closing a connection succeeds, no move before the shutdown
made the listener forget an open connection, and the shutdown found no attempt of the
timer but the latest, and this without a connection. -/
theorem closed_after_shutdown (channel : String) (delay clock : Rat)
    (before after : List Move) (called l : Listener)
    (hcloses : ∀ move ∈ before ++ after, move.closes = true)
    (hfirst : .shutdown ∉ before)
    (hspares : Always Spares (fresh channel delay clock) before)
    (hbefore : (fresh channel delay clock).run? before = some called)
    (hstoppable : Stoppable called)
    (hafter : called.run? (.shutdown :: after) = some l)
    (hreturned : l.shutdown = .returned)
    (hstarts : ∀ attempt ∈ l.attempts,
      attempt.byTimer = false → attempt.stage.isLive = false) :
    ∀ c ∈ l.connections, c.closed = true := by
  have hmoves : ∀ move ∈ before, move.closes = true ∧ move ≠ .shutdown :=
    fun move hmove => ⟨hcloses move (List.mem_append_left _ hmove),
      fun heq => hfirst (heq ▸ hmove)⟩
  have howned : called.phase ≠ .closing ∧ Owned called := by
    refine run?_keeps (I := fun l => l.phase ≠ .closing ∧ Owned l) ?_
      (Always.and (always_of_forall hmoves) hspares) ?_ hbefore
    · intro l l' move h hmove hstep
      have hopen := (steps_of_step? hstep).closing_iff hmove.1.2
      exact ⟨fun hclosing => h.1 (hopen.1 hclosing),
        h.2.step hstep hmove.1.1 hmove.1.2 hmove.2⟩
    · exact ⟨fun h => (nomatch h), fun _ h => (nomatch h)⟩
  obtain ⟨_, hcall, hrest⟩ := run?_cons_eq_some.1 hafter
  cases hcall
  have hleaves : Leaves l :=
    run?_keeps (fun h hmove hstep => h.step hmove hstep)
      (always_of_forall fun move hmove => hcloses move (List.mem_append_right _ hmove))
      (leaves_callShutdown howned.1 howned.2 hstoppable) hrest
  have hnone := hleaves.givenUp.resolve_right (by rw [hreturned]; exact fun h => nomatch h)
  intro c hc
  obtain ⟨conn, hconn⟩ := List.mem_iff_getElem?.1 hc
  by_contra hopen
  have hopen : l.isClosed conn = false := by
    rw [isClosed, hconn]
    simpa using hopen
  rcases hleaves.owned conn hopen with
    ⟨attempt, stage, hstage, hholds⟩ | hinstalled | hclosing
  · obtain ⟨found, hfound, rfl⟩ := Option.map_eq_some_iff.1 hstage
    have hmem := List.mem_of_getElem? hfound
    have hover : found.stage.isLive = false := by
      cases hbyTimer : found.byTimer with
      | false => exact hstarts found hmem hbyTimer
      | true => exact hleaves.stopped found hmem hbyTimer
    rw [Stage.isLive_of_conn? hholds] at hover
    cases hover
  · rw [hnone] at hinstalled
    cases hinstalled
  · rw [hreturned] at hclosing
    cases hclosing

/-- A shutdown while the start waits for its subscription: the start closes the
connection itself. -/
theorem closed_after_shutdown_subscribing :
    ∃ called l, (fresh "decode" 5 0).run? [.start, .connected 0 true] = some called ∧
      called.run? [.shutdown, .subscribed 0, .released 0 true] = some l ∧
      l.connections ≠ [] ∧ ∀ c ∈ l.connections, c.closed = true :=
  ⟨_, _, rfl, rfl, by decide, closed_after_shutdown "decode" 5 0
    [.start, .connected 0 true] [.subscribed 0, .released 0 true] _ _
    (by decide) (by decide) (by decide +kernel) rfl (by decide) rfl rfl (by decide)⟩

/-- A shutdown while an attempt of the timer waits for its subscription: nobody closes
its connection. -/
theorem open_after_cancelling :
    ((fresh "decode" 5 0).run? [.start, .refused 0, .wait 5, .fire, .begin 1,
        .connected 1 true, .shutdown, .attemptEnded]).map
      (fun l => (l.shutdown, l.attempts.any (·.stage.isLive),
        l.connections.map (·.closed))) = some (.returned, false, [false]) := by
  decide +kernel

/-- A shutdown of a listener that was started twice: the first connection is open. -/
theorem open_after_second_start :
    ((fresh "decode" 5 0).run? [.start, .connected 0 true, .subscribed 0, .start,
        .connected 1 true, .subscribed 1, .shutdown, .connectionEnded true]).map
      (fun l => (l.shutdown, l.attempts.any (·.stage.isLive),
        l.connections.map (·.closed))) = some (.returned, false, [false, true]) := by
  decide +kernel

end EvmIndexer.Listener
