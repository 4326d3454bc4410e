import EvmIndexer.Proofs.Store.Verdict

/-!
# Where faults strike and what they end

A fault strikes at a position of the journal. The entry of the statement is
there whether it was struck or not, so the journal of a run and the surroundings
together tell every fault that struck it, and what the journal was by then.

A strike is fatal or it is absorbed. Only one kind is absorbed: a fault that
refuses a row, at one of the statements of a first attempt to store an outcome.
There the savepoint takes the outcome back and a placeholder is stored. That
second attempt has no third one behind it. It can be told from the journal: its
savepoint is the one that was set right after another one had been rolled back.

A run survives if all its strikes were absorbed, and dies of the last one
otherwise. Both are kept by whatever a run does next, which is all that is needed
to follow a run through any number of items.
-/

namespace EvmIndexer

def Event.isStatement : Event → Bool
  | .statement _ => true
  | .begin | .commit | .rollback | .savepoint | .rollbackSavepoint => false

/-- A fault that struck: the journal up to there, the statement and the fault. -/
structure Strike where
  past : List Entry
  statement : Statement
  fault : Fault

/-- The fault that struck an entry, if there was one. -/
def Surroundings.strikeAt? (around : Surroundings) (past : List Entry)
    (entry : Entry) : Option Strike :=
  match entry.event with
  | .statement s => (around.faults past.length s).map (Strike.mk past s)
  | .begin | .commit | .rollback | .savepoint | .rollbackSavepoint => none

/-- The faults that struck entries behind others. -/
def Surroundings.strikes (around : Surroundings) :
    List Entry → List Entry → List Strike
  | _, [] => []
  | past, entry :: rest =>
    (around.strikeAt? past entry).toList ++ around.strikes (past ++ [entry]) rest

/-- Whether the last savepoint of a journal was set right after another one had
been rolled back, with nothing but statements since. -/
def onSecondAttempt (past : List Entry) : Bool :=
  match (past.reverse.map Entry.event).dropWhile Event.isStatement with
  | .savepoint :: .rollbackSavepoint :: _ => true
  | _ => false

/-- Whether the last thing in the journal is that a savepoint was rolled back. -/
def Store.isSetBack (store : Store) : Bool :=
  match store.journal.reverse.map Entry.event with
  | .rollbackSavepoint :: _ => true
  | _ => false

/-- The failure that a strike ends the unit of work with. -/
inductive Strike.Fatal (strike : Strike) : Failure → Prop where
  /-- The fault does not refuse the row. -/
  | foreign (h : strike.fault.refusesRow = false) :
      Fatal strike (.database strike.fault)
  /-- The statement reads. -/
  | read (h : strike.statement.isRead = true) :
      Fatal strike (.database strike.fault)
  /-- The row that is refused is that of a placeholder which was to replace a
  refused outcome. -/
  | again {txId : String} (hrefuses : strike.fault.refusesRow = true)
      (hstatement : strike.statement ∈ (Outcome.placeholder txId).statements)
      (hsecond : onSecondAttempt strike.past = true) :
      Fatal strike (.rejected (txId ++ ": " ++ strike.fault.text))

/-- Whether the unit of work goes on after a strike. -/
def Strike.Absorbed (strike : Strike) : Prop :=
  ∀ failure, ¬strike.Fatal failure

theorem Outcome.isRead_of_mem_statements {outcome : Outcome} {s : Statement}
    (h : s ∈ outcome.statements) : s.isRead = false := by
  simp only [statements, List.mem_append, List.mem_singleton] at h
  rcases h with rfl | h | h | h | h | rfl
  · rfl
  · rw [Statement.mem_ofRows h]
    rfl
  · rw [Statement.mem_ofRows h]
    rfl
  · rw [Statement.mem_ofRows h]
    rfl
  · rw [Statement.mem_ofRows h]
    rfl
  · rfl

theorem Outcome.mem_statements_placeholder {txId : String} {s : Statement} :
    s ∈ (placeholder txId).statements ↔
      s = .insertTransaction [.placeholder txId] ∨ s = .deletePending txId :=
  List.mem_pair

/-- A statement of a placeholder names its transaction. -/
theorem Outcome.eq_of_mem_statements_placeholder {txId txId' : String}
    {s : Statement} (h : s ∈ (placeholder txId).statements)
    (h' : s ∈ (placeholder txId').statements) : txId = txId' := by
  rw [mem_statements_placeholder] at h h'
  rcases h with rfl | rfl
  · rcases h' with hrows | hother
    · injection hrows with hrows
      exact congrArg Transaction.txId (List.cons.inj hrows).1
    · cases hother
  · rcases h' with hother | hid
    · cases hother
    · exact Statement.deletePending.inj hid

namespace Strike

variable {strike : Strike} {failure failure' : Failure}

theorem Fatal.unique (h : strike.Fatal failure) (h' : strike.Fatal failure') :
    failure = failure' := by
  cases h with
  | foreign hforeign =>
      cases h' with
      | foreign | read => rfl
      | again hrefuses => rw [hforeign] at hrefuses; cases hrefuses
  | read hread =>
      cases h' with
      | foreign | read => rfl
      | again _ hstatement =>
          rw [Outcome.isRead_of_mem_statements hstatement] at hread
          cases hread
  | @again txId hrefuses hstatement _ =>
      cases h' with
      | foreign hforeign => rw [hforeign] at hrefuses; cases hrefuses
      | read hread =>
          rw [Outcome.isRead_of_mem_statements hstatement] at hread
          cases hread
      | @again txId' _ hstatement' _ =>
          rw [Outcome.eq_of_mem_statements_placeholder hstatement hstatement']

theorem absorbed_of_firstAttempt (hrefuses : strike.fault.refusesRow = true)
    (hread : strike.statement.isRead = false)
    (hfirst : onSecondAttempt strike.past = false) : strike.Absorbed := by
  intro failure h
  cases h with
  | foreign hforeign => rw [hrefuses] at hforeign; cases hforeign
  | read hread' => rw [hread] at hread'; cases hread'
  | again _ _ hsecond => rw [hfirst] at hsecond; cases hsecond

end Strike

/-! ## What a run meets -/

theorem Surroundings.strikes_append (around : Surroundings)
    (past new more : List Entry) :
    around.strikes past (new ++ more) =
      around.strikes past new ++ around.strikes (past ++ new) more := by
  induction new generalizing past with
  | nil => simp [strikes]
  | cons entry rest ih =>
      simp only [List.cons_append, strikes, ih, List.append_assoc, List.nil_append]

theorem Surroundings.strikeAt?_eq_some_iff {around : Surroundings}
    {past : List Entry} {entry : Entry} {strike : Strike} :
    around.strikeAt? past entry = some strike ↔
      entry.event = .statement strike.statement ∧ strike.past = past ∧
      around.faults past.length strike.statement = some strike.fault := by
  obtain ⟨past', s', fault'⟩ := strike
  obtain ⟨event, tables⟩ := entry
  cases event with
  | statement s =>
      simp only [strikeAt?, Option.map_eq_some_iff, Event.statement.injEq]
      constructor
      · rintro ⟨fault, hfault, hstrike⟩
        cases hstrike
        exact ⟨rfl, rfl, hfault⟩
      · rintro ⟨rfl, rfl, hfault⟩
        exact ⟨fault', hfault, rfl⟩
  | begin | commit | rollback | savepoint | rollbackSavepoint =>
      simp [strikeAt?]

/-- What struck is found in the journal: the statement stands behind its past, and
the fault is the one at that position. -/
theorem Surroundings.mem_strikes_iff {around : Surroundings}
    {past new : List Entry} {strike : Strike} :
    strike ∈ around.strikes past new ↔
      ∃ front tables back,
        new = front ++ ⟨.statement strike.statement, tables⟩ :: back ∧
        strike.past = past ++ front ∧
        around.faults strike.past.length strike.statement = some strike.fault := by
  induction new generalizing past with
  | nil => simp [strikes]
  | cons entry rest ih =>
      rw [strikes, List.mem_append, ih, Option.mem_toList, strikeAt?_eq_some_iff]
      constructor
      · rintro (⟨hevent, hpast, hfault⟩ | ⟨front, tables, back, hrest, hpast, hfault⟩)
        · refine ⟨[], entry.tables, rest, ?_, by rw [hpast, List.append_nil], ?_⟩
          · rw [← hevent]
            rfl
          · rw [hpast]
            exact hfault
        · refine ⟨entry :: front, tables, back, by rw [hrest]; rfl, ?_, hfault⟩
          rw [hpast, List.append_assoc]
          rfl
      · rintro ⟨front, tables, back, hnew, hpast, hfault⟩
        cases front with
        | nil =>
            obtain ⟨rfl, rfl⟩ := List.cons.inj hnew
            rw [List.append_nil] at hpast
            rw [hpast] at hfault
            exact Or.inl ⟨rfl, hpast, hfault⟩
        | cons first front =>
            obtain ⟨rfl, rfl⟩ := List.cons.inj hnew
            refine Or.inr ⟨front, tables, back, rfl, ?_, hfault⟩
            rw [hpast, List.append_assoc]
            rfl

theorem onSecondAttempt_statement (past : List Entry) (s : Statement)
    (tables : Database) :
    onSecondAttempt (past ++ [⟨.statement s, tables⟩]) = onSecondAttempt past := by
  unfold onSecondAttempt
  rw [List.reverse_append, List.reverse_singleton, List.singleton_append,
    List.map_cons, List.dropWhile_cons_of_pos rfl]

namespace Store

variable {around : Surroundings} {before middle after : Store}
  {strikes more : List Strike}

theorem onSecondAttempt_savepoint (store : Store) :
    onSecondAttempt (store.enter .savepoint).journal = store.isSetBack := by
  unfold onSecondAttempt isSetBack
  rw [enter, List.reverse_append, List.reverse_singleton, List.singleton_append,
    List.map_cons, List.dropWhile_cons_of_neg Bool.false_ne_true]
  generalize store.journal.reverse.map Entry.event = events
  cases events with
  | nil => rfl
  | cons event rest => cases event <;> rfl

theorem isSetBack_enter (store : Store) (event : Event) :
    (store.enter event).isSetBack = (event == .rollbackSavepoint) := by
  unfold isSetBack
  rw [enter, List.reverse_append, List.reverse_singleton, List.singleton_append,
    List.map_cons]
  cases event <;> rfl

/-- A fault struck the run between two stores: the statement was sent behind what
is in the journal before, and the fault is the one at that position. -/
def StruckBy (around : Surroundings) (before after : Store) (strike : Strike) :
    Prop :=
  before.journal <+: strike.past ∧
    ∃ tables, strike.past ++ [⟨.statement strike.statement, tables⟩] <+:
      after.journal ∧
    around.faults strike.past.length strike.statement = some strike.fault

/-- The faults that struck between two stores, in order. -/
def Meets (around : Surroundings) (before after : Store) (strikes : List Strike) :
    Prop :=
  ∃ new, after.journal = before.journal ++ new ∧
    around.strikes before.journal new = strikes

namespace Meets

theorem refl (around : Surroundings) (store : Store) :
    Meets around store store [] := ⟨[], by simp, rfl⟩

theorem of_journal_eq (h : after.journal = before.journal) :
    Meets around before after [] := ⟨[], by rw [h, List.append_nil], rfl⟩

theorem trans (h : Meets around before middle strikes)
    (h' : Meets around middle after more) :
    Meets around before after (strikes ++ more) := by
  obtain ⟨new, hnew, rfl⟩ := h
  obtain ⟨new', hnew', rfl⟩ := h'
  refine ⟨new ++ new', by rw [hnew', hnew, List.append_assoc], ?_⟩
  rw [Surroundings.strikes_append, hnew]

theorem enter (h : Meets around before after strikes) {event : Event}
    (hevent : event.isStatement = false) :
    Meets around before (after.enter event) strikes := by
  have hnone : Meets around after (after.enter event) [] := by
    refine ⟨[⟨event, after.tables⟩], rfl, ?_⟩
    cases event <;> first | rfl | cases hevent
  have hboth := h.trans hnone
  rwa [List.append_nil] at hboth

theorem withTables (h : Meets around before after strikes) (tables : Database) :
    Meets around before (after.withTables tables) strikes := h

theorem accepted {s : Statement} (tables : Database)
    (h : around.faults before.journal.length s = none) :
    Meets around before ((before.withTables tables).enter (.statement s)) [] := by
  refine ⟨[⟨.statement s, tables⟩], rfl, ?_⟩
  simp only [Surroundings.strikes, Surroundings.strikeAt?, h]
  rfl

theorem struck {s : Statement} {fault : Fault}
    (h : around.faults before.journal.length s = some fault) :
    Meets around before (before.enter (.statement s))
      [⟨before.journal, s, fault⟩] := by
  refine ⟨[⟨.statement s, before.tables⟩], rfl, ?_⟩
  simp only [Surroundings.strikes, Surroundings.strikeAt?, h]
  rfl

theorem struckBy_iff (h : Meets around before after strikes) {strike : Strike} :
    StruckBy around before after strike ↔ strike ∈ strikes := by
  obtain ⟨new, hnew, rfl⟩ := h
  rw [Surroundings.mem_strikes_iff]
  constructor
  · rintro ⟨⟨front, hfront⟩, tables, ⟨back, hback⟩, hfault⟩
    refine ⟨front, tables, back, ?_, hfront.symm, hfault⟩
    rw [hnew, ← hfront] at hback
    simpa using hback.symm
  · rintro ⟨front, tables, back, rfl, hpast, hfault⟩
    refine ⟨⟨front, hpast.symm⟩, tables, ⟨back, ?_⟩, hfault⟩
    rw [hnew, hpast]
    simp

end Meets

/-- Every strike between two stores was absorbed. -/
def Survives (around : Surroundings) (before after : Store) : Prop :=
  ∃ strikes, Meets around before after strikes ∧ ∀ strike ∈ strikes, strike.Absorbed

/-- Every strike between two stores was absorbed but the last, which ends in the
failure. -/
def Dies (around : Surroundings) (before after : Store) (failure : Failure) : Prop :=
  ∃ strikes last, Meets around before after (strikes ++ [last]) ∧
    (∀ strike ∈ strikes, strike.Absorbed) ∧ last.Fatal failure

theorem Meets.survives (h : Meets around before after []) :
    Survives around before after := ⟨[], h, by simp⟩

theorem Survives.trans (h : Survives around before middle)
    (h' : Survives around middle after) : Survives around before after := by
  obtain ⟨strikes, hmeets, habsorbed⟩ := h
  obtain ⟨more, hmeets', habsorbed'⟩ := h'
  exact ⟨strikes ++ more, hmeets.trans hmeets',
    List.forall_mem_append.2 ⟨habsorbed, habsorbed'⟩⟩

theorem Survives.trans_dies {failure : Failure} (h : Survives around before middle)
    (h' : Dies around middle after failure) : Dies around before after failure := by
  obtain ⟨strikes, hmeets, habsorbed⟩ := h
  obtain ⟨more, last, hmeets', habsorbed', hfatal⟩ := h'
  have hboth : Meets around before after (strikes ++ more ++ [last]) := by
    rw [List.append_assoc]
    exact hmeets.trans hmeets'
  exact ⟨strikes ++ more, last, hboth,
    List.forall_mem_append.2 ⟨habsorbed, habsorbed'⟩, hfatal⟩

theorem Survives.enter (h : Survives around before after) {event : Event}
    (hevent : event.isStatement = false) :
    Survives around before (after.enter event) := by
  obtain ⟨strikes, hmeets, habsorbed⟩ := h
  exact ⟨strikes, hmeets.enter hevent, habsorbed⟩

theorem Dies.leave {failure : Failure} (h : Dies around before after failure)
    (tables : Database) {event : Event} (hevent : event.isStatement = false) :
    Dies around before ((after.withTables tables).enter event) failure := by
  obtain ⟨strikes, last, hmeets, habsorbed, hfatal⟩ := h
  exact ⟨strikes, last, (hmeets.withTables tables).enter hevent, habsorbed, hfatal⟩

theorem Survives.not_fatal (h : Survives around before after) {strike : Strike}
    (hstruck : StruckBy around before after strike) (failure : Failure) :
    ¬strike.Fatal failure := by
  obtain ⟨strikes, hmeets, habsorbed⟩ := h
  exact habsorbed strike (hmeets.struckBy_iff.1 hstruck) failure

/-- A run dies of one failure and of no other. -/
theorem Dies.exists_fatal_iff {failure failure' : Failure}
    (h : Dies around before after failure) :
    (∃ strike, StruckBy around before after strike ∧ strike.Fatal failure') ↔
      failure = failure' := by
  obtain ⟨strikes, last, hmeets, habsorbed, hfatal⟩ := h
  constructor
  · rintro ⟨strike, hstruck, hfatal'⟩
    rcases List.mem_append.1 (hmeets.struckBy_iff.1 hstruck) with hold | hlast
    · exact absurd hfatal' (habsorbed strike hold failure')
    · rw [List.mem_singleton.1 hlast] at hfatal'
      exact hfatal.unique hfatal'
  · rintro rfl
    exact ⟨last, hmeets.struckBy_iff.2 (by simp), hfatal⟩

end Store

/-! ## Statements and attempts -/

namespace Work

variable {α : Type} {around : Surroundings} {store : Store}

theorem Store.Meets.read {s : Statement}
    (h : around.faults store.journal.length s = none) :
    store.Meets around (store.enter (.statement s)) [] :=
  Store.Meets.accepted store.tables h

theorem Store.Dies.read {s : Statement} (hs : s.isRead = true) {fault : Fault}
    (h : around.faults store.journal.length s = some fault) :
    store.Dies around (store.enter (.statement s)) (.database fault) :=
  ⟨[], _, Store.Meets.struck h, by simp, .read hs⟩

/-- A run dies where it reads, whatever the fault. -/
theorem ends_read_struck {s : Statement} (hs : s.isRead = true)
    {read : Store → α} :
    (query s read).Ends around store
      (fun a after => a = read after ∧ store.Survives around after ∧
        after = store.enter (.statement s))
      (fun failure after => store.Dies around after failure) := by
  refine (ends_query hs).mono ?_ ?_
  · rintro _ _ ⟨haccepted, rfl, rfl⟩
    exact ⟨rfl, (Store.Meets.read haccepted).survives, rfl⟩
  · rintro _ _ ⟨fault, hstruck, rfl, rfl⟩
    exact Store.Dies.read hs hstruck

/-- A list of statements is struck once or not at all. -/
theorem ends_sendAll_meets {statements : List Statement}
    (hset : store.isSetBack = false) :
    (sendAll statements).Ends around store
      (fun _ after => store.Meets around after [] ∧ after.isSetBack = false)
      (fun failure after => ∃ strike, store.Meets around after [strike] ∧
        strike.statement ∈ statements ∧ failure = .database strike.fault ∧
        onSecondAttempt strike.past = onSecondAttempt store.journal) := by
  induction statements generalizing store with
  | nil => exact ⟨.refl around store, hset⟩
  | cons s rest ih =>
      refine Ends.bind (Ends.send_of_faults (fun haccepted => ?_)
        fun fault hstruck => ?_)
      · have hmeets := Store.Meets.accepted (s.apply store.tables) haccepted
        refine (ih (Store.isSetBack_enter _ _)).mono ?_ ?_
        · rintro _ after ⟨hrest, hset'⟩
          exact ⟨hmeets.trans hrest, hset'⟩
        · rintro failure after ⟨strike, hrest, hmem, hfailure, hattempt⟩
          refine ⟨strike, hmeets.trans hrest, List.mem_cons_of_mem _ hmem, hfailure, ?_⟩
          rw [hattempt]
          exact onSecondAttempt_statement _ s _
      · exact ⟨_, Store.Meets.struck hstruck, List.mem_cons_self, rfl, rfl⟩

theorem saveFailure_refused (txId : String) {fault : Fault}
    (h : fault.refusesRow = true) :
    saveFailure txId (.database fault) = .rejected (txId ++ ": " ++ fault.text) :=
  if_pos h

theorem saveFailure_foreign (txId : String) {fault : Fault}
    (h : fault.refusesRow = false) :
    saveFailure txId (.database fault) = .database fault :=
  if_neg (Bool.eq_false_iff.1 h)

/-- An attempt to store an outcome is struck once or not at all, and it is a
second one exactly if a savepoint has just been rolled back. -/
theorem ends_save_meets (outcome : Outcome) :
    (save outcome).Ends around store
      (fun _ after => store.Meets around after [] ∧ after.isSetBack = false)
      (fun failure after => ∃ strike, store.Meets around after [strike] ∧
        strike.statement ∈ outcome.statements ∧
        failure = saveFailure outcome.transaction.txId (.database strike.fault) ∧
        onSecondAttempt strike.past = store.isSetBack ∧ after.isSetBack = true) := by
  have hopened : store.Meets around (store.enter .savepoint) [] :=
    (Store.Meets.refl around store).enter rfl
  refine Ends.tryCatch (Ends.bracket ?_)
  rw [write_eq_sendAll]
  refine (ends_sendAll_meets (Store.isSetBack_enter _ _)).mono ?_ ?_
  · rintro _ after ⟨hmeets, hset⟩
    exact Ends.pure ⟨hopened.trans hmeets, hset⟩
  · rintro _ after ⟨strike, hmeets, hmem, rfl, hattempt⟩
    refine Ends.throw ⟨strike, ?_, hmem, rfl, ?_, Store.isSetBack_enter _ _⟩
    · exact ((hopened.trans hmeets).withTables _).enter rfl
    · rw [hattempt, Store.onSecondAttempt_savepoint]

end Work

end EvmIndexer
