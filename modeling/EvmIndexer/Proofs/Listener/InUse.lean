import EvmIndexer.Proofs.Listener.Attempts
import EvmIndexer.Proofs.Listener.Course

/-!
# The connection in use

A listener compares a connection that tells of its end with the one in use, and an
attempt puts its connection into use only after the channel was subscribed. So the
end of a connection is heeded from that moment on, and never before it. Here it is
shown that this one gap is the only one: where no subscription succeeds on a
connection that has told of its end already, the connection in use of a listener
that listens has not told of its end, and every end that matters arms the timer,
be it the end of the connection in use or of one whose subscription goes on and
must then fail. The gap itself is shown by the history that goes through it.
-/

namespace EvmIndexer.Listener

/-- Whether a connection told of its end. -/
def hasEnded (l : Listener) (conn : Nat) : Bool :=
  (l.connections[conn]?.map (·.ended)).getD false

/-- Whether a move puts no connection into use that told of its end. -/
def takesUnended (l : Listener) : Move → Bool
  | .subscribed attempt =>
    match l.stage? attempt with
    | some (.subscribing conn) => !l.hasEnded conn
    | _ => true
  | _ => true

/-- A connection whose end is watched and has not come. -/
def Alive (l : Listener) (conn : Nat) : Prop :=
  ∃ c, l.connections[conn]? = some c ∧ c.watched = true ∧ c.ended = false

/-- The listener waits for its timer. -/
def Waits (l : Listener) : Prop :=
  l.installed = none ∧ l.phase = .disconnected ∧ l.timer.isArmed = true

/-- What a listener that was not shut down keeps, whatever its connections do. -/
structure Watchful (l : Listener) : Prop where
  phase : l.phase ≠ .closing
  unclosed : l.timer.closed = false
  notCalled : l.shutdown = .notCalled
  watched : ∀ attempt conn, l.stage? attempt = some (.subscribing conn) →
    l.Watches conn
  closed : ∀ c ∈ l.connections, c.ended = true → c.closed = true

/-- The connection in use has not told of its end, and there is one while the
listener listens. -/
structure Attends (l : Listener) : Prop extends Watchful l where
  alive : ∀ conn, l.installed = some conn → l.Alive conn
  listening : l.phase = .listening → l.installed.isSome = true

variable {l l' : Listener} {move : Move} {attempt conn : Nat} {stage : Stage}

/-! ## The loss of a connection -/

theorem unclosed_schedule {timer : Timer} (h : timer.closed = false) (now : Rat) :
    (timer.schedule now).2.closed = false ∧ (timer.schedule now).2.isArmed = true := by
  unfold Timer.schedule
  split
  · next harmed => exact ⟨h, by simpa [h] using harmed⟩
  · exact ⟨h, rfl⟩

theorem Watchful.connectionLost (h : Watchful l) :
    Attends l.connectionLost ∧ Waits l.connectionLost := by
  obtain ⟨hunclosed, harmed⟩ := unclosed_schedule h.unclosed l.clock
  unfold Listener.connectionLost
  rw [if_neg h.phase]
  exact ⟨{ h with
    phase := fun h => nomatch h
    unclosed := hunclosed
    alive := fun _ h => nomatch h
    listening := fun h => nomatch h }, rfl, rfl, harmed⟩

/-! ## The moves of an attempt -/

theorem Watchful.setStage (h : Watchful l)
    (hstage : ∀ conn, stage = .subscribing conn → l.Watches conn) :
    Watchful (l.setStage attempt stage) where
  phase := h.phase
  unclosed := h.unclosed
  notCalled := h.notCalled
  watched _ conn hfound := by
    rcases stage?_of_setStage hfound with heq | hfound
    · exact hstage conn heq.symm
    · exact h.watched _ conn hfound
  closed := h.closed

theorem Watchful.addAttempt (h : Watchful l) (byTimer : Bool) :
    Watchful (l.addAttempt byTimer) where
  phase := h.phase
  unclosed := h.unclosed
  notCalled := h.notCalled
  watched _ conn hfound := by
    rcases stage?_of_addAttempt hfound with heq | hfound
    · cases heq
    · exact h.watched _ conn hfound
  closed := h.closed

theorem Watchful.endFailed (h : Watchful l) (attempt : Nat) :
    Attends (l.endFailed attempt) ∧ Waits (l.endFailed attempt) := by
  have hover : Watchful (l.setStage attempt .over) := h.setStage fun _ h => nomatch h
  exact hover.connectionLost

theorem Attends.setStage (h : Attends l)
    (hstage : ∀ conn, stage = .subscribing conn → l.Watches conn) :
    Attends (l.setStage attempt stage) :=
  { h.toWatchful.setStage hstage with alive := h.alive, listening := h.listening }

theorem Attends.addAttempt (h : Attends l) (byTimer : Bool) :
    Attends (l.addAttempt byTimer) :=
  { h.toWatchful.addAttempt byTimer with alive := h.alive, listening := h.listening }

theorem Attends.dial (h : Attends l) (attempt : Nat) : Attends (l.dial attempt) := by
  have hcalls : Attends (l.setStage attempt (.dialing l.calls)) :=
    h.setStage fun _ h => nomatch h
  unfold Listener.dial
  rw [if_neg h.phase]
  exact { hcalls with
    phase := fun h => nomatch h
    listening := fun h => nomatch h }

theorem Attends.failWith (h : Attends l) (attempt conn : Nat) :
    Attends (l.failWith attempt conn) := by
  have hnoticed : Attends (l.notice .error) := { h with }
  unfold Listener.failWith
  simp only
  split
  · exact (hnoticed.endFailed attempt).1
  · exact hnoticed.setStage fun _ h => nomatch h

/-- A new connection changes nothing for the others. -/
theorem Attends.connect (h : Attends l) (attempt call : Nat) (watchable : Bool) :
    Attends (l.connect attempt call watchable) := by
  have hold : ∀ {conn : Nat} {c : Connection}, l.connections[conn]? = some c →
      (l.connections ++ [{ call, watched := watchable }])[conn]? = some c := by
    intro conn c hc
    exact (List.getElem?_append_left (List.getElem?_eq_some_iff.1 hc).1).trans hc
  have hgrown : Attends { l with
      connections := l.connections ++ [{ call, watched := watchable }] } := by
    refine { h with watched := ?_, closed := ?_, alive := ?_ }
    · intro attempt conn hstage
      obtain ⟨c, hc, hwatched⟩ := h.watched attempt conn hstage
      exact ⟨c, hold hc, hwatched⟩
    · intro c hc
      rcases List.mem_append.1 hc with hc | hc
      · exact h.closed c hc
      · obtain rfl := List.mem_singleton.1 hc
        intro hended
        cases hended
    · intro conn hinstalled
      obtain ⟨c, hc, halive⟩ := h.alive conn hinstalled
      exact ⟨c, hold hc, halive⟩
  unfold Listener.connect
  simp only
  split
  · next hwatchable =>
      refine hgrown.setStage fun conn heq => ?_
      cases heq
      exact ⟨_, List.getElem?_concat_length, hwatchable⟩
  · exact hgrown.failWith attempt _

theorem Watchful.modifyConnection (h : Watchful l) (conn : Nat)
    {change : Connection → Connection} (hwatched : ∀ c, (change c).watched = c.watched)
    (hclosed : ∀ c, (c.ended = true → c.closed = true) →
      (change c).ended = true → (change c).closed = true) :
    Watchful (l.modifyConnection conn change) := by
  refine { h with watched := ?_, closed := ?_ }
  · intro attempt other hstage
    exact (h.watched attempt other hstage).modifyConnection hwatched
  · intro c hc
    obtain ⟨i, hi⟩ := List.mem_iff_getElem?.1 hc
    rw [getElem?_modifyConnection] at hi
    obtain ⟨old, hold, rfl⟩ := Option.map_eq_some_iff.1 hi
    have hwas := h.closed old (List.mem_of_getElem? hold)
    split
    · exact hclosed old hwas
    · exact hwas

/-- What does not end the connection in use. -/
theorem Attends.modifyConnection (h : Attends l) (conn : Nat)
    {change : Connection → Connection} (hwatched : ∀ c, (change c).watched = c.watched)
    (hclosed : ∀ c, (c.ended = true → c.closed = true) →
      (change c).ended = true → (change c).closed = true)
    (hended : l.installed = some conn → ∀ c, (change c).ended = c.ended) :
    Attends (l.modifyConnection conn change) := by
  refine { h.toWatchful.modifyConnection conn hwatched hclosed with
    alive := ?_, listening := h.listening }
  intro other hinstalled
  obtain ⟨c, hc, hwatches, hlives⟩ := h.alive other hinstalled
  refine ⟨if conn = other then change c else c, ?_, ?_⟩
  · rw [getElem?_modifyConnection, hc]
    rfl
  · split
    · next heq =>
        subst heq
        exact ⟨(hwatched c).trans hwatches, (hended hinstalled c).trans hlives⟩
    · exact ⟨hwatches, hlives⟩

theorem Attends.markClosed (h : Attends l) (conn : Nat) (closed : Bool) :
    Attends (l.markClosed conn closed) := by
  unfold Listener.markClosed
  split
  · exact h.modifyConnection conn (fun _ => rfl) (fun _ _ _ => rfl) fun _ _ => rfl
  · exact h

/-- A connection that has not told of its end comes into use. -/
theorem Attends.install (h : Attends l)
    (hstage : l.stage? attempt = some (.subscribing conn))
    (hended : l.hasEnded conn = false) : Attends (l.install attempt conn) := by
  have hsubscribed : Attends (l.modifyConnection conn fun c =>
      { c with subscribed := true }) :=
    h.modifyConnection conn (fun _ => rfl) (fun _ h => h) fun _ _ => rfl
  have hover : Attends ((l.modifyConnection conn fun c =>
      { c with subscribed := true }).setStage attempt .over) :=
    hsubscribed.setStage fun _ h => nomatch h
  unfold Listener.install
  simp only
  rw [if_neg (show (l.modifyConnection conn _).phase ≠ .closing from h.phase)]
  refine { hover with phase := ?_, alive := ?_, listening := ?_ }
  · exact fun h => nomatch h
  · intro other hother
    cases hother
    obtain ⟨c, hc, hwatched⟩ := h.watched attempt conn hstage
    rw [hasEnded, hc] at hended
    refine ⟨{ c with subscribed := true }, ?_, hwatched, hended⟩
    show (l.modifyConnection conn _).connections[conn]? = _
    rw [getElem?_modifyConnection, hc, Option.map_some, if_pos rfl]
  · exact fun _ => rfl

/-- The end of the connection in use arms the timer. -/
theorem Watchful.usedEnd (h : Watchful l) (conn : Nat) :
    Attends ((l.markEnded conn).notice .warning).connectionLost ∧
      Waits ((l.markEnded conn).notice .warning).connectionLost := by
  have hended : Watchful (l.markEnded conn) :=
    h.modifyConnection conn (fun _ => rfl) fun _ _ _ => rfl
  have hnoticed : Watchful ((l.markEnded conn).notice .warning) := { hended with }
  exact hnoticed.connectionLost

theorem Attends.watches (h : Attends l) (hinstalled : l.installed = some conn) :
    l.Watches conn := by
  obtain ⟨c, hc, hwatched, -⟩ := h.alive conn hinstalled
  exact ⟨c, hc, hwatched⟩

theorem Attends.alike (h : Attends l) (halike : Alike l l') : Attends l' := by
  refine ⟨⟨?_, ?_, ?_, ?_, ?_⟩, ?_, ?_⟩
  · rw [halike.phase]; exact h.phase
  · rw [halike.timer]; exact h.unclosed
  · rw [halike.shutdown]; exact h.notCalled
  · simp only [stage?, Watches, halike.attempts, halike.connections]
    exact h.watched
  · rw [halike.connections]; exact h.closed
  · simp only [Alive, halike.installed, halike.connections]
    exact h.alive
  · rw [halike.phase, halike.installed]; exact h.listening

theorem Attends.proceeds (h : Attends l) (hmove : l.takesUnended move = true)
    (hstage : l.stage? attempt = some stage)
    (hgoes : Proceeds l attempt stage move l') : Attends l' := by
  cases hgoes with
  | begin => exact h.dial _
  | connected watchable => exact h.connect _ _ watchable
  | refused => exact ((h.alike (alike_notice l _)).endFailed _).1
  | subscribed =>
      refine h.install hstage ?_
      simpa [takesUnended, hstage] using hmove
  | unsubscribed => exact h.failWith _ _
  | discarded closed => exact ((h.markClosed _ closed).endFailed _).1
  | retired closed => exact (h.markClosed _ closed).setStage fun _ h => by cases h

theorem Attends.step (h : Attends l) (hmove : l.takesUnended move = true)
    (hshutdown : move ≠ .shutdown) (hstep : l.step? move = some l') :
    Attends l' := by
  cases steps_of_step? hstep with
  | aside _ halike => exact h.alike halike
  | start => exact (h.addAttempt false).dial _
  | fire => exact { h.addAttempt true with }
  | proceeds hstage hgoes => exact h.proceeds hmove hstage hgoes
  | drop conn => exact h.markClosed conn true
  | unheeded hunused =>
      exact h.modifyConnection _ (fun _ => rfl) (fun _ _ _ => rfl) fun hinstalled =>
        absurd hinstalled (hunused (h.watches hinstalled))
  | lost => exact (h.toWatchful.usedEnd _).1
  | shutdown => exact absurd rfl hshutdown
  | concludes hends => exact absurd h.notCalled hends.ne_notCalled

/-! ## Whole histories -/

theorem attends_run? {channel : String} {delay clock : Rat} {history : List Move}
    (hsuits : Always (fun l move => l.takesUnended move = true)
      (fresh channel delay clock) history)
    (hrun : (fresh channel delay clock).run? history = some l) :
    l.phase = .closing ∨ Attends l := by
  refine run?_keeps (I := fun l => l.phase = .closing ∨ Attends l) ?_ hsuits
    (Or.inr ?_) hrun
  · intro l l' move h hmove hstep
    rcases h with hclosing | hattends
    · exact Or.inl (closing_step hclosing hstep)
    · by_cases hshutdown : move = .shutdown
      · subst hshutdown
        cases hstep
        exact Or.inl (closing_callShutdown l)
      · exact Or.inr (hattends.step hmove hshutdown hstep)
  · exact ⟨⟨(fun h => nomatch h), rfl, rfl, (fun _ _ h => nomatch h),
      (fun _ h => nomatch h)⟩, (fun _ h => nomatch h), (fun h => nomatch h)⟩

/-- Where no subscription succeeds on a connection that has told of its end, a
listener that listens uses a connection that has not told of its end, however often
it was started. And as long as nobody shuts it down, no end of a connection is lost
on it: the end of the connection in use arms the timer, and so does the failure that
is all that can follow where a connection told of its end while it was subscribed. -/
theorem listening_alive (channel : String) (delay clock : Rat) (history : List Move)
    (l : Listener)
    (hsuits : Always (fun l move => l.takesUnended move = true)
      (fresh channel delay clock) history)
    (hrun : (fresh channel delay clock).run? history = some l) :
    (l.phase = .listening → ∃ conn c, l.installed = some conn ∧
      l.connections[conn]? = some c ∧ c.ended = false) ∧
    (l.phase ≠ .closing → ∀ conn, l.installed = some conn →
      ∃ l', l.step? (.terminate conn) = some l' ∧ l'.Waits) ∧
    (l.phase ≠ .closing → ∀ attempt conn,
      l.stage? attempt = some (.subscribing conn) → l.hasEnded conn = true →
        l.takesUnended (.subscribed attempt) = false ∧
        ∃ l', l.step? (.unsubscribed attempt) = some l' ∧ l'.Waits) := by
  rcases attends_run? hsuits hrun with hclosing | h
  · refine ⟨?_, fun hopen => absurd hclosing hopen, fun hopen => absurd hclosing hopen⟩
    intro hlistening
    rw [hclosing] at hlistening
    cases hlistening
  refine ⟨?_, fun _ => ?_, fun _ => ?_⟩
  · intro hlistening
    obtain ⟨conn, hconn⟩ := Option.isSome_iff_exists.1 (h.listening hlistening)
    obtain ⟨c, hc, -, halive⟩ := h.alive conn hconn
    exact ⟨conn, c, hconn, hc, halive⟩
  · intro conn hinstalled
    obtain ⟨c, hc, -⟩ := h.alive conn hinstalled
    refine ⟨_, ?_, (h.toWatchful.usedEnd conn).2⟩
    rw [step?, if_pos (List.getElem?_eq_some_iff.1 hc).1,
      connectionEnd_of_used (h.watches hinstalled) hinstalled]
  · intro attempt conn hstage hended
    obtain ⟨c, hc, -⟩ := h.watched attempt conn hstage
    have hnoticed : Watchful (l.notice .error) := { h.toWatchful with }
    have hclosed : (l.notice .error).isClosed conn = true := by
      rw [hasEnded, hc] at hended
      show (l.connections[conn]?.map _).getD true = true
      rw [hc]
      exact h.closed c (List.mem_of_getElem? hc) hended
    refine ⟨by simp [takesUnended, hstage, hended], l.failWith attempt conn, ?_, ?_⟩
    · simp only [step?, hstage]
    · unfold failWith
      simp only
      rw [if_pos hclosed]
      exact (hnoticed.endFailed attempt).2

/-- A connection that tells of its end while it is subscribed, and the one that
takes its place. -/
theorem listening_alive_second :
    let history : List Move := [.start, .connected 0 true, .terminate 0,
      .unsubscribed 0, .wait 5, .fire, .begin 1, .connected 1 true, .subscribed 1]
    ∃ l, (fresh "decode" 5 0).run? history = some l ∧ l.phase = .listening ∧
      (∃ conn c, l.installed = some conn ∧ l.connections[conn]? = some c ∧
        c.ended = false) ∧
      ∃ l', l.step? (.terminate 1) = some l' ∧ l'.Waits := by
  intro history
  have hphase : ((fresh "decode" 5 0).run? history).map
      (fun l => (l.phase, l.installed)) = some (.listening, some 1) := by
    decide +kernel
  obtain ⟨l, hrun, hl⟩ := Option.map_eq_some_iff.1 hphase
  obtain ⟨hlistening, hinstalled⟩ := Prod.mk.inj hl
  obtain ⟨halive, hends, -⟩ := listening_alive "decode" 5 0 history l
    (by decide +kernel) hrun
  exact ⟨l, hrun, hlistening, halive hlistening,
    hends (by rw [hlistening]; decide) 1 hinstalled⟩

/-- A connection that tells of its end while it is subscribed, and is put into use
all the same. Nothing is under way that would bring another one. -/
theorem ended_in_use :
    ∃ l, (fresh "decode" 5 0).run? [.start, .connected 0 true, .terminate 0,
        .subscribed 0] = some l ∧
      l.phase = .listening ∧ l.installed = some 0 ∧ l.hasEnded 0 = true ∧
      l.timer.isArmed = false :=
  ⟨_, rfl, rfl, rfl, rfl, rfl⟩

end EvmIndexer.Listener
