import EvmIndexer.Proofs.Listener.Course

/-!
# The tasks of a listener

Every identifier that a connection brings on the listener's channel gets a task of
its own, in the order in which they are heard. A task begins once and ends once,
and nothing else that the listener does touches it.

The shutdown comes to the tasks last, when the attempt and the connection are given
up, and waits for those that are not over by then. Each task that was there when it
was called is over by then or among them, so when the shutdown has returned they are
all over.

It does not come so far when the connection cannot be closed. The error ends the
shutdown where it is, and tasks are left at work that nobody waits for.
-/

namespace EvmIndexer.Listener

variable {l l' : Listener} {move : Move} {task : Nat} {history : List Move}

/-! ## What is heard -/

/-- The identifier that a move brings on a channel, if it brings one. -/
def brings (l : Listener) (own : String) : Move → List String
  | .notify conn channel payload =>
    let subscribed := (l.connections[conn]?.map (·.subscribed)).getD false
    if subscribed ∧ channel = own ∧ payload ≠ "" then [payload] else []
  | _ => []

/-- The identifiers that a history brings on a channel. -/
def heard (own : String) : Listener → List Move → List String
  | _, [] => []
  | l, move :: rest =>
    match l.step? move with
    | some l' => l.brings own move ++ heard own l' rest
    | none => []

/-! ## What a move does with the tasks -/

structure SameTasks (l l' : Listener) : Prop where
  channel : l'.channel = l.channel
  handlings : l'.handlings = l.handlings
  handled : l'.handled = l.handled

/-- The same tasks, and a shutdown that came no further. -/
structure Untouched (l l' : Listener) : Prop extends SameTasks l l' where
  shutdown : l'.shutdown = l.shutdown

/-- Whether a move is one of a task, or brings a notification. -/
def Move.isForTasks : Move → Bool
  | .notify _ _ _ | .handle _ | .complete _ _ => true
  | _ => false

/-- What the moves of a listener do with its tasks. -/
inductive Tends (l : Listener) : Move → Listener → Prop
  | aloof {move : Move} {l' : Listener} (hmove : move.isForTasks = false)
      (hsame : SameTasks l l') : Tends l move l'
  | hears {conn : Nat} {channel payload : String} :
      Tends l (.notify conn channel payload) (l.hear conn channel payload)
  | begins {task : Nat} {txId : String}
      (hspawned : l.handlings[task]? = some ⟨txId, .spawned⟩) :
      Tends l (.handle task) (l.setHandling task .running (.begun txId))
  | ends {task : Nat} {txId : String} (ending : Ending)
      (hrunning : l.handlings[task]? = some ⟨txId, .running⟩) :
      Tends l (.complete task ending) (l.endHandling task txId ending)

theorem Untouched.trans {l'' : Listener} (h : Untouched l l') (hmore : Untouched l' l'') :
    Untouched l l'' where
  channel := hmore.channel.trans h.channel
  handlings := hmore.handlings.trans h.handlings
  handled := hmore.handled.trans h.handled
  shutdown := hmore.shutdown.trans h.shutdown

section Untouched

variable (l) (attempt conn : Nat)

theorem untouched_setStage (stage : Stage) : Untouched l (l.setStage attempt stage) :=
  ⟨⟨rfl, rfl, rfl⟩, rfl⟩

theorem untouched_modifyConnection (change : Connection → Connection) :
    Untouched l (l.modifyConnection conn change) :=
  ⟨⟨rfl, rfl, rfl⟩, rfl⟩

theorem untouched_notice (n : Notice) : Untouched l (l.notice n) :=
  ⟨⟨rfl, rfl, rfl⟩, rfl⟩

theorem untouched_markClosed (closed : Bool) : Untouched l (l.markClosed conn closed) := by
  unfold markClosed
  split <;> exact ⟨⟨rfl, rfl, rfl⟩, rfl⟩

theorem untouched_connectionLost : Untouched l l.connectionLost := by
  unfold connectionLost
  split <;> exact ⟨⟨rfl, rfl, rfl⟩, rfl⟩

theorem untouched_dial : Untouched l (l.dial attempt) := by
  unfold dial
  split <;> exact ⟨⟨rfl, rfl, rfl⟩, rfl⟩

theorem untouched_endFailed : Untouched l (l.endFailed attempt) :=
  (untouched_setStage l attempt .over).trans (untouched_connectionLost _)

theorem untouched_failWith : Untouched l (l.failWith attempt conn) := by
  unfold failWith
  simp only
  split
  · exact (untouched_notice l .error).trans (untouched_endFailed _ attempt)
  · exact (untouched_notice l .error).trans (untouched_setStage _ attempt _)

theorem untouched_connect (call : Nat) (watchable : Bool) :
    Untouched l (l.connect attempt call watchable) := by
  have hgrown : Untouched l { l with
      connections := l.connections ++ [{ call, watched := watchable }] } :=
    ⟨⟨rfl, rfl, rfl⟩, rfl⟩
  unfold connect
  simp only
  split
  · exact hgrown.trans (untouched_setStage _ attempt _)
  · exact hgrown.trans (untouched_failWith _ attempt _)

theorem untouched_install : Untouched l (l.install attempt conn) := by
  unfold install
  simp only
  split <;> exact ⟨⟨rfl, rfl, rfl⟩, rfl⟩

end Untouched

theorem Proceeds.untouched {attempt : Nat} {old : Stage}
    (h : Proceeds l attempt old move l') : Untouched l l' := by
  cases h with
  | begin => exact untouched_dial l attempt
  | connected watchable => exact untouched_connect l attempt _ watchable
  | refused => exact (untouched_notice l .error).trans (untouched_endFailed _ attempt)
  | subscribed => exact untouched_install l attempt _
  | unsubscribed => exact untouched_failWith l attempt _
  | discarded closed =>
      exact (untouched_markClosed l _ closed).trans (untouched_endFailed _ attempt)
  | retired closed =>
      exact (untouched_markClosed l _ closed).trans (untouched_setStage _ attempt _)

/-- A move of an attempt or of a connection leaves the tasks and the shutdown
alone. -/
theorem Steps.untouched (h : Steps l move l') (haside : move.isAside = false)
    (hshutdown : move ≠ .shutdown) :
    Untouched l l' ∨ Concludes l l.shutdown move l' := by
  cases h with
  | aside hmove => rw [hmove] at haside; cases haside
  | start =>
      have hadded : Untouched l (l.addAttempt false) := ⟨⟨rfl, rfl, rfl⟩, rfl⟩
      exact Or.inl (hadded.trans (untouched_dial _ _))
  | fire => exact Or.inl ⟨⟨rfl, rfl, rfl⟩, rfl⟩
  | proceeds _ hgoes => exact Or.inl hgoes.untouched
  | drop conn => exact Or.inl (untouched_markClosed l conn true)
  | unheeded => exact Or.inl (untouched_modifyConnection l _ _)
  | @lost conn =>
      have hmarked : Untouched l ((l.markEnded conn).notice .warning) :=
        ⟨⟨rfl, rfl, rfl⟩, rfl⟩
      exact Or.inl (hmarked.trans (untouched_connectionLost _))
  | shutdown => exact absurd rfl hshutdown
  | concludes hends => exact Or.inr hends

theorem sameTasks_giveUpConnection (l : Listener) : SameTasks l l.giveUpConnection := by
  unfold giveUpConnection
  simp only
  split
  · exact ⟨rfl, rfl, rfl⟩
  · split <;> exact ⟨rfl, rfl, rfl⟩

theorem sameTasks_callShutdown (l : Listener) : SameTasks l l.callShutdown := by
  unfold callShutdown
  split
  · exact ⟨rfl, rfl, rfl⟩
  · simp only
    split
    · exact ⟨rfl, rfl, rfl⟩
    · obtain ⟨hchannel, hhandlings, hhandled⟩ :=
        sameTasks_giveUpConnection { l with phase := .closing, timer := l.timer.close }
      exact ⟨hchannel, hhandlings, hhandled⟩

theorem Concludes.sameTasks {waits : Shutdown} (h : Concludes l waits move l') :
    SameTasks l l' := by
  cases h with
  | attemptEnded => exact sameTasks_giveUpConnection l
  | closed => exact ⟨rfl, rfl, rfl⟩
  | stuck => exact ⟨rfl, rfl, rfl⟩
  | tasksEnded => exact ⟨rfl, rfl, rfl⟩

/-- A shutdown that was called gets on by its own moves only. -/
theorem shutdown_step (hstep : l.step? move = some l') (hshutdown : move ≠ .shutdown) :
    l'.shutdown = l.shutdown ∨ Concludes l l.shutdown move l' := by
  have hsteps := steps_of_step? hstep
  cases haside : move.isAside with
  | false => exact (hsteps.untouched haside hshutdown).imp_left (·.shutdown)
  | true =>
      cases hsteps with
      | aside _ halike => exact Or.inl halike.shutdown
      | proceeds _ hgoes => exact Or.inl hgoes.untouched.shutdown
      | concludes hends => exact Or.inr hends
      | _ => cases haside

theorem sameTasks_step (hstep : l.step? move = some l') (haside : move.isAside = false) :
    SameTasks l l' := by
  by_cases hshutdown : move = .shutdown
  · subst hshutdown
    cases hstep
    exact sameTasks_callShutdown l
  · rcases (steps_of_step? hstep).untouched haside hshutdown with huntouched | hends
    · exact huntouched.toSameTasks
    · exact hends.sameTasks

theorem tends_of_step? (hstep : l.step? move = some l') : Tends l move l' := by
  cases move with
  | wait =>
      simp only [step?] at hstep
      split at hstep <;> cases hstep
      exact .aloof rfl ⟨rfl, rfl, rfl⟩
  | notify =>
      simp only [step?] at hstep
      split at hstep <;> cases hstep
      exact .hears
  | handle =>
      simp only [step?] at hstep
      split at hstep <;> cases hstep
      next hspawned => exact .begins hspawned
  | complete _ ending =>
      simp only [step?] at hstep
      split at hstep <;> cases hstep
      next hrunning => exact .ends ending hrunning
  | _ => exact .aloof rfl (sameTasks_step hstep rfl)

/-! ## One task for each identifier -/

theorem brings_of_aloof (own : String) (hmove : move.isForTasks = false) :
    l.brings own move = [] := by
  cases move <;> first | rfl | cases hmove

theorem hear_eq (l : Listener) (conn : Nat) (channel payload : String) :
    l.hear conn channel payload = { l with
      handlings := l.handlings ++
        (l.brings l.channel (.notify conn channel payload)).map (⟨·, .spawned⟩) } := by
  unfold hear brings accepts isHeard
  simp only [Bool.and_eq_true, beq_iff_eq, bne_iff_ne]
  split
  · rfl
  · rw [List.map_nil, List.append_nil]

theorem txIds_setHandling (l : Listener) (task : Nat) (stage : Handling.Stage)
    (event : Handled) :
    (l.setHandling task stage event).handlings.map (·.txId) =
      l.handlings.map (·.txId) := by
  apply List.ext_getElem?
  intro i
  rw [setHandling, List.getElem?_map, List.getElem?_map, List.getElem?_modify]
  cases l.handlings[i]? with
  | none => rfl
  | some h =>
      show some (if task = i then _ else _ : Handling).txId = _
      split <;> rfl

/-- However a task ends, it is over, and the end is no beginning. -/
theorem exists_endHandling (l : Listener) (task : Nat) (txId : String)
    (ending : Ending) :
    ∃ event, (∀ other, event ≠ .begun other) ∧
      SameTasks (l.setHandling task .over event) (l.endHandling task txId ending) := by
  cases ending with
  | decoded => exact ⟨.ended txId, nofun, rfl, rfl, rfl⟩
  | notDecoded => exact ⟨.ended txId, nofun, rfl, rfl, rfl⟩
  | raised => exact ⟨.raised txId, nofun, rfl, rfl, rfl⟩

theorem Tends.channel (h : Tends l move l') : l'.channel = l.channel := by
  cases h with
  | aloof _ hsame => exact hsame.channel
  | hears => rw [hear_eq]
  | begins => rfl
  | ends ending => cases ending <;> rfl

theorem Tends.txIds (h : Tends l move l') :
    l'.handlings.map (·.txId) = l.handlings.map (·.txId) ++ l.brings l.channel move := by
  cases h with
  | aloof hmove hsame => rw [hsame.handlings, brings_of_aloof _ hmove, List.append_nil]
  | hears =>
      rw [hear_eq, List.map_append, List.map_map]
      exact congrArg _ (List.map_id _)
  | begins =>
      rw [txIds_setHandling]
      exact (List.append_nil _).symm
  | @ends task txId ending =>
      obtain ⟨event, -, hsame⟩ := exists_endHandling l task txId ending
      rw [hsame.handlings, txIds_setHandling]
      exact (List.append_nil _).symm

/-- The tasks are those of the identifiers that were heard, in their order. -/
theorem txIds_run? (hrun : l.run? history = some l') :
    l'.handlings.map (·.txId) =
      l.handlings.map (·.txId) ++ heard l.channel l history := by
  induction history generalizing l with
  | nil =>
      cases hrun
      rw [heard, List.append_nil]
  | cons move rest ih =>
      obtain ⟨middle, hmove, hrest⟩ := run?_cons_eq_some.1 hrun
      have htends := tends_of_step? hmove
      rw [ih hrest, htends.txIds, htends.channel, heard, hmove, List.append_assoc]

/-! ## Each task begins once -/

def taskStage? (l : Listener) (task : Nat) : Option Handling.Stage :=
  l.handlings[task]?.map (·.stage)

theorem taskStage?_congr (h : l'.handlings = l.handlings) :
    l.taskStage? task = l'.taskStage? task := by
  rw [taskStage?, taskStage?, h]

/-- How a task gets from one stage to the next. -/
inductive Lives (task : Nat) :
    Option Handling.Stage → Move → Option Handling.Stage → Prop
  | stays {stage : Option Handling.Stage} {move : Move} (hmove : move ≠ .handle task) :
      Lives task stage move stage
  | spawned {move : Move} (hmove : move ≠ .handle task) :
      Lives task none move (some .spawned)
  | begins : Lives task (some .spawned) (.handle task) (some .running)
  | ends {move : Move} (hmove : move ≠ .handle task) :
      Lives task (some .running) move (some .over)

theorem taskStage?_setHandling (l : Listener) (other : Nat) (stage : Handling.Stage)
    (event : Handled) (task : Nat) :
    (l.setHandling other stage event).taskStage? task =
      if other = task then (l.taskStage? task).map fun _ => stage
      else l.taskStage? task := by
  rw [taskStage?, setHandling, List.getElem?_modify, taskStage?]
  split <;> cases l.handlings[task]? <;> rfl

theorem lives_hear (l : Listener) (conn : Nat) (channel payload : String) (task : Nat) :
    Lives task (l.taskStage? task) (.notify conn channel payload)
      ((l.hear conn channel payload).taskStage? task) := by
  rw [hear_eq, taskStage?, taskStage?]
  by_cases hlt : task < l.handlings.length
  next =>
    rw [List.getElem?_append_left hlt]
    exact .stays nofun
  next =>
    have hge := Nat.le_of_not_lt hlt
    rw [List.getElem?_eq_none hge, List.getElem?_append_right hge, List.getElem?_map]
    generalize l.brings l.channel (.notify conn channel payload) = new
    cases new[task - l.handlings.length]? with
    | none => exact .stays nofun
    | some txId => exact .spawned nofun

theorem Tends.lives (h : Tends l move l') (task : Nat) :
    Lives task (l.taskStage? task) move (l'.taskStage? task) := by
  cases h with
  | aloof hmove hsame =>
      rw [taskStage?_congr hsame.handlings]
      exact .stays (by rintro rfl; cases hmove)
  | hears => exact lives_hear l _ _ _ task
  | @begins other txId hspawned =>
      rw [taskStage?_setHandling]
      split
      · next heq =>
          subst heq
          rw [taskStage?, hspawned]
          exact .begins
      · next hne => exact .stays (by rintro ⟨⟩; exact hne rfl)
  | @ends other txId ending hrunning =>
      obtain ⟨event, -, hsame⟩ := exists_endHandling l other txId ending
      rw [← taskStage?_congr hsame.handlings, taskStage?_setHandling]
      split
      · next heq =>
          subst heq
          rw [taskStage?, hrunning]
          exact .ends nofun
      · exact .stays nofun

/-- How often a task began, so far as its stage tells. -/
def begun : Option Handling.Stage → Nat
  | none | some .spawned => 0
  | some .running | some .over => 1

theorem count_handle (task : Nat) (hrun : l.run? history = some l') :
    begun (l.taskStage? task) + history.count (.handle task) =
      begun (l'.taskStage? task) := by
  induction history generalizing l with
  | nil =>
      cases hrun
      rfl
  | cons move rest ih =>
      obtain ⟨middle, hmove, hrest⟩ := run?_cons_eq_some.1 hrun
      rw [← ih hrest]
      -- the first move is counted exactly where it takes the task to its beginning
      have hlives := (tends_of_step? hmove).lives task
      generalize l.taskStage? task = before at hlives ⊢
      generalize middle.taskStage? task = after at hlives ⊢
      cases hlives with
      | stays hne => rw [List.count_cons_of_ne hne]
      | spawned hne => rw [List.count_cons_of_ne hne]; rfl
      | begins => rw [List.count_cons_self]; simp only [begun]; omega
      | ends hne => rw [List.count_cons_of_ne hne]; rfl

/-! ## Each beginning is that of a task -/

/-- How many tasks of an identifier began. -/
def begunFor (l : Listener) (txId : String) : Nat :=
  l.handlings.countP fun h => h.txId == txId && h.stage != .spawned

theorem countP_modify {α : Type} {p : α → Bool} {xs : List α} {i : Nat} {x : α}
    (h : xs[i]? = some x) (f : α → α) :
    (xs.modify i f).countP p + (if p x then 1 else 0) =
      xs.countP p + if p (f x) then 1 else 0 := by
  obtain ⟨hlt, rfl⟩ := List.getElem?_eq_some_iff.1 h
  have hxs : xs.countP p =
      (xs.take i).countP p + ((xs.drop (i + 1)).countP p + if p xs[i] then 1 else 0) := by
    rw [← List.countP_cons, ← List.countP_append, ← List.drop_eq_getElem_cons hlt,
      List.take_append_drop]
  rw [List.modify_eq_take_cons_drop hlt, List.countP_append, List.countP_cons, hxs]
  omega

theorem begunFor_hear (l : Listener) (conn : Nat) (channel payload txId : String) :
    (l.hear conn channel payload).begunFor txId = l.begunFor txId := by
  have hnew : ∀ payloads : List String,
      (payloads.map (⟨·, .spawned⟩ : String → Handling)).countP
        (fun h => h.txId == txId && h.stage != .spawned) = 0 := by
    intro payloads
    simp [List.countP_eq_zero]
  rw [hear_eq, begunFor, List.countP_append, hnew, Nat.add_zero, begunFor]

theorem begunFor_setHandling {mine : String} {old stage : Handling.Stage}
    (h : l.handlings[task]? = some ⟨mine, old⟩) (hstage : stage ≠ .spawned)
    (event : Handled) (txId : String) :
    (l.setHandling task stage event).begunFor txId =
      l.begunFor txId + if old = .spawned ∧ mine = txId then 1 else 0 := by
  have hcount := countP_modify (p := fun h => h.txId == txId && h.stage != .spawned) h
    fun h => { h with stage }
  have hnew : (stage != .spawned) = true := bne_iff_ne.2 hstage
  rw [begunFor, begunFor, setHandling]
  by_cases hmine : mine = txId
  next =>
    by_cases hold : old = .spawned
    · simpa [hmine, hold, hnew] using hcount
    · simpa [hmine, hold, hnew] using hcount
  next => simpa [hmine] using hcount

theorem Tends.count_begun (h : Tends l move l') (txId : String)
    (hl : l.handled.count (.begun txId) = l.begunFor txId) :
    l'.handled.count (.begun txId) = l'.begunFor txId := by
  cases h with
  | aloof _ hsame => rw [begunFor, hsame.handlings, hsame.handled]; exact hl
  | hears => rw [begunFor_hear, ← hl, hear_eq]
  | @begins task mine hspawned =>
      rw [begunFor_setHandling hspawned (by decide), setHandling, List.count_append, hl,
        List.count_singleton]
      by_cases hmine : mine = txId <;> simp [hmine]
  | @ends task mine ending hrunning =>
      obtain ⟨event, hevent, hsame⟩ := exists_endHandling l task mine ending
      have hbegun : (l.endHandling task mine ending).begunFor txId = l.begunFor txId := by
        rw [begunFor, hsame.handlings, ← begunFor,
          begunFor_setHandling hrunning (by decide), if_neg (by rintro ⟨⟨⟩, -⟩)]
        rfl
      rw [hbegun, hsame.handled, setHandling, List.count_append, hl,
        List.count_singleton, beq_false_of_ne (hevent txId)]
      rfl

theorem count_begun_run? (hrun : l.run? history = some l') (txId : String)
    (hl : l.handled.count (.begun txId) = l.begunFor txId) :
    l'.handled.count (.begun txId) = l'.begunFor txId := by
  have hany : Always (fun _ _ => True) l history := always_of_forall fun _ _ => trivial
  exact run?_keeps (I := fun l => l.handled.count (.begun txId) = l.begunFor txId)
    (fun h _ hstep => (tends_of_step? hstep).count_begun txId h) hany hl hrun

/-! ## What the shutdown waits for -/

theorem Lives.over {stage : Option Handling.Stage}
    (h : Lives task (some .over) move stage) : stage = some .over := by
  cases h
  rfl

theorem over_step (hover : l.taskStage? task = some .over)
    (hstep : l.step? move = some l') : l'.taskStage? task = some .over := by
  have hlives := (tends_of_step? hstep).lives task
  rw [hover] at hlives
  exact hlives.over

/-- How a shutdown that comes so far answers for the first tasks: it will look at
them, it waits for those that are not over, or they are over. -/
def AnswersFor (first : Nat) (l : Listener) : Shutdown → Prop
  | .notCalled | .raised => False
  | .cancelling | .closing _ => True
  | .waiting tasks => ∀ task < first, l.taskStage? task = some .over ∨ task ∈ tasks
  | .returned => ∀ task < first, l.taskStage? task = some .over

/-- A listener that was shut down and answers for its first tasks. -/
structure Answerable (first : Nat) (l : Listener) : Prop where
  phase : l.phase = .closing
  length : first ≤ l.handlings.length
  answers : AnswersFor first l l.shutdown

section Answers

variable {first : Nat}

theorem AnswersFor.of_over {shutdown : Shutdown} (h : AnswersFor first l shutdown)
    (hover : ∀ task, l.taskStage? task = some .over → l'.taskStage? task = some .over) :
    AnswersFor first l' shutdown := by
  cases shutdown with
  | notCalled => exact h
  | cancelling => exact trivial
  | closing conn => exact trivial
  | waiting tasks => exact fun task hlt => (h task hlt).imp_left (hover task)
  | returned => exact fun task hlt => hover task (h task hlt)
  | raised => exact h

theorem over_or_mem_inFlight (h : task < l.handlings.length) :
    l.taskStage? task = some .over ∨ task ∈ l.inFlight := by
  rw [taskStage?, List.getElem?_eq_getElem h, Option.map_some, Option.some.injEq]
  refine or_iff_not_imp_left.2 fun hgoes => ?_
  refine List.mem_filter.2 ⟨List.mem_range.2 h, ?_⟩
  rw [List.getElem?_eq_getElem h]
  exact bne_iff_ne.2 hgoes

theorem answersFor_awaitTasks (hlength : first ≤ l.handlings.length) :
    AnswersFor first l.awaitTasks l.awaitTasks.shutdown := by
  have hall : ∀ task < first, l.taskStage? task = some .over ∨ task ∈ l.inFlight :=
    fun task hlt => over_or_mem_inFlight (Nat.lt_of_lt_of_le hlt hlength)
  unfold awaitTasks
  simp only
  split
  · next hnone =>
      intro task hlt
      refine (hall task hlt).resolve_right fun hmem => ?_
      rw [List.isEmpty_iff.1 hnone] at hmem
      cases hmem
  · exact hall

theorem answerable_awaitTasks (hphase : l.phase = .closing)
    (hlength : first ≤ l.handlings.length) : Answerable first l.awaitTasks :=
  ⟨hphase, hlength, answersFor_awaitTasks hlength⟩

theorem answerable_giveUpConnection (hphase : l.phase = .closing)
    (hlength : first ≤ l.handlings.length) : Answerable first l.giveUpConnection := by
  unfold giveUpConnection
  simp only
  split
  · exact answerable_awaitTasks hphase hlength
  · split
    · exact answerable_awaitTasks hphase hlength
    · exact ⟨hphase, hlength, trivial⟩

/-- A shutdown answers for the tasks that it finds. -/
theorem answerable_callShutdown (hphase : l.phase ≠ .closing) :
    Answerable l.handlings.length l.callShutdown := by
  unfold callShutdown
  rw [if_neg hphase]
  simp only
  split
  · exact ⟨rfl, Nat.le_refl _, trivial⟩
  · exact answerable_giveUpConnection rfl (Nat.le_refl _)

theorem length_step (hstep : l.step? move = some l') :
    l.handlings.length ≤ l'.handlings.length := by
  have htxIds := congrArg List.length (tends_of_step? hstep).txIds
  rw [List.length_append, List.length_map, List.length_map] at htxIds
  omega

theorem allOver_of_tasksEnded {tasks : List Nat} (hwaits : l.shutdown = .waiting tasks)
    (hstep : l.step? .tasksEnded = some l') :
    ∀ task ∈ tasks, l.taskStage? task = some .over := by
  simp only [step?, hwaits] at hstep
  split at hstep
  · next hall =>
      intro task hmem
      exact beq_iff_eq.1 (List.all_eq_true.1 hall task hmem)
  · cases hstep

theorem Answerable.concludes (h : Answerable first l) {waits : Shutdown}
    (hwaits : l.shutdown = waits) (hcloses : move ≠ .connectionEnded false)
    (hstep : l.step? move = some l') (hends : Concludes l waits move l') : Answerable first l' := by
  cases hends with
  | attemptEnded => exact answerable_giveUpConnection h.phase h.length
  | closed => exact answerable_awaitTasks h.phase h.length
  | stuck => exact absurd rfl hcloses
  | @tasksEnded tasks =>
      have hanswers := h.answers
      rw [hwaits] at hanswers
      refine ⟨h.phase, h.length, fun task hlt => ?_⟩
      exact (hanswers task hlt).elim id (allOver_of_tasksEnded hwaits hstep task)

theorem Answerable.step (h : Answerable first l) (hcloses : move ≠ .connectionEnded false)
    (hstep : l.step? move = some l') : Answerable first l' := by
  by_cases hshutdown : move = .shutdown
  · subst hshutdown
    cases hstep
    rw [callShutdown, if_pos h.phase]
    exact h
  rcases shutdown_step hstep hshutdown with hsame | hends
  · refine ⟨closing_step h.phase hstep, Nat.le_trans h.length (length_step hstep), ?_⟩
    rw [hsame]
    exact h.answers.of_over fun _ hover => over_step hover hstep
  · exact h.concludes rfl hcloses hstep hends

end Answers

/-! ## Whole histories -/

theorem not_closing_run? (hshutdown : .shutdown ∉ history) (h : l.phase ≠ .closing)
    (hrun : l.run? history = some l') : l'.phase ≠ .closing := by
  have hmoves : Always (fun _ move => move ≠ .shutdown) l history :=
    always_of_forall fun move hmem heq => hshutdown (heq ▸ hmem)
  refine run?_keeps (I := fun l => l.phase ≠ .closing) ?_ hmoves h hrun
  intro l l' move hopen hmove hstep hclosing
  exact hopen (((steps_of_step? hstep).closing_iff hmove).1 hclosing)

/-- A shutdown whose connection can be closed answers to its end for the tasks that
it found. -/
theorem answerable_run? {called : Listener} {after : List Move}
    (hphase : called.phase ≠ .closing)
    (hafter : called.run? (.shutdown :: after) = some l)
    (hcloses : .connectionEnded false ∉ after) : Answerable called.handlings.length l := by
  obtain ⟨_, hcall, hrest⟩ := run?_cons_eq_some.1 hafter
  cases hcall
  have hmoves : Always (fun _ move => move ≠ .connectionEnded false)
      called.callShutdown after :=
    always_of_forall fun move hmem heq => hcloses (heq ▸ hmem)
  exact run?_keeps (fun h hmove hstep => h.step hmove hstep) hmoves
    (answerable_callShutdown hphase) hrest

theorem Answerable.over {first : Nat} (h : Answerable first l)
    (hended : l.shutdown = .returned ∨ l.shutdown = .raised) (hlt : task < first) :
    l.taskStage? task = some .over := by
  have hanswers := h.answers
  rcases hended with hreturned | hraised
  · rw [hreturned] at hanswers
    exact hanswers task hlt
  · rw [hraised] at hanswers
    cases hanswers

/-- The stage of a task tells how often it began. -/
theorem count_handle_fresh (channel : String) (delay clock : Rat) (task : Nat)
    (hrun : (fresh channel delay clock).run? history = some l) :
    history.count (.handle task) = begun (l.taskStage? task) := by
  have hcount := count_handle task hrun
  have hnone : (fresh channel delay clock).taskStage? task = none := rfl
  rwa [hnone, begun, Nat.zero_add] at hcount

/-- The place of an identifier in what was heard is the number of its task, and stays
it. -/
theorem txId_of_heard {called : Listener} {channel payload : String}
    {delay clock : Rat} {before after : List Move}
    (hbefore : (fresh channel delay clock).run? before = some called)
    (hafter : called.run? after = some l)
    (hpayload : (heard channel (fresh channel delay clock) before)[task]? = some payload) :
    task < called.handlings.length ∧
      (l.handlings.map (·.txId))[task]? = some payload := by
  have hfound : called.handlings.map (·.txId) =
      heard channel (fresh channel delay clock) before := txIds_run? hbefore
  rw [← hfound] at hpayload
  have hlt := (List.getElem?_eq_some_iff.1 hpayload).1
  rw [txIds_run? hafter, List.getElem?_append_left hlt]
  rw [List.length_map] at hlt
  exact ⟨hlt, hpayload⟩

/-- Every identifier that is heard gets one task, a task begins at most once, and the
handler begins with the identifiers of the tasks that began. When a shutdown ends
whose connection can be closed, the tasks of all identifiers that were heard before
it have begun, and are over. -/
theorem tasks_over_after_shutdown (channel : String) (delay clock : Rat)
    (before after : List Move) (called l : Listener)
    (hfirst : .shutdown ∉ before)
    (hbefore : (fresh channel delay clock).run? before = some called)
    (hafter : called.run? (.shutdown :: after) = some l) :
    let history := before ++ .shutdown :: after
    l.handlings.map (·.txId) = heard channel (fresh channel delay clock) history ∧
      (∀ task, history.count (.handle task) = begun (l.taskStage? task)) ∧
      (∀ txId, l.handled.count (.begun txId) = l.begunFor txId) ∧
      (.connectionEnded false ∉ after →
        l.shutdown = .returned ∨ l.shutdown = .raised →
        ∀ task payload,
          (heard channel (fresh channel delay clock) before)[task]? = some payload →
            l.handlings[task]? = some ⟨payload, .over⟩ ∧
            history.count (.handle task) = 1) := by
  intro history
  have hrun : (fresh channel delay clock).run? history = some l :=
    run?_append_eq_some.2 ⟨called, hbefore, hafter⟩
  have hcount := fun task => count_handle_fresh channel delay clock task hrun
  refine ⟨txIds_run? hrun, hcount, fun txId => count_begun_run? hrun txId rfl, ?_⟩
  intro hcloses hended task payload hpayload
  obtain ⟨hlt, htxId⟩ := txId_of_heard hbefore hafter hpayload
  have hfresh : (fresh channel delay clock).phase = .disconnected := rfl
  have hopen : called.phase ≠ .closing :=
    not_closing_run? hfirst (by rw [hfresh]; decide) hbefore
  have hover := (answerable_run? hopen hafter hcloses).over hended hlt
  constructor
  · obtain ⟨⟨txId, stage⟩, htask, rfl⟩ := Option.map_eq_some_iff.1 hover
    rw [List.getElem?_map, htask] at htxId
    cases htxId
    exact htask
  · rw [hcount, hover]
    rfl

/-- A shutdown that finds one task at work, which raises, and one that begins only
while the shutdown waits. -/
theorem tasks_over_after_shutdown_two :
    let before : List Move := [.start, .connected 0 true, .subscribed 0,
      .notify 0 "decode" "tx-1", .notify 0 "other" "tx-2", .notify 0 "decode" "tx-3",
      .handle 0]
    let after : List Move := [.complete 0 .raised, .connectionEnded true, .handle 1,
      .complete 1 .decoded, .tasksEnded]
    ∃ called l, (fresh "decode" 5 0).run? before = some called ∧
      called.run? (.shutdown :: after) = some l ∧ l.shutdown = .returned ∧
      l.handlings[0]? = some ⟨"tx-1", .over⟩ ∧
      l.handlings[1]? = some ⟨"tx-3", .over⟩ ∧
      (before ++ .shutdown :: after).count (.handle 1) = 1 := by
  intro before after
  obtain ⟨-, -, -, hover⟩ :=
    tasks_over_after_shutdown "decode" 5 0 before after _ _ (by decide) rfl rfl
  have hall := hover (by decide) (Or.inl rfl)
  exact ⟨_, _, rfl, rfl, rfl, (hall 0 "tx-1" rfl).1, hall 1 "tx-3" rfl⟩

/-- The connection in use cannot be closed while a task is at work: the shutdown ends,
and the task goes on. -/
theorem task_left_after_failed_close :
    ((fresh "decode" 5 0).run? [.start, .connected 0 true, .subscribed 0,
        .notify 0 "decode" "tx-1", .handle 0, .shutdown, .connectionEnded false]).map
      (fun l => (l.shutdown, l.handlings)) = some (.raised, [⟨"tx-1", .running⟩]) := by
  decide +kernel

end EvmIndexer.Listener
