import EvmIndexer.Proofs.Store.Verdict

/-!
# The events of a unit of work

Where a run of statements ends is decided by the first fault that they meet: without
one all of them are in the journal, and with one those up to the one that it struck. So
the events of a transaction of statements are known as soon as it is known whether they
meet a fault, and `ends_transaction_events` tells both cases with the tables that are
left.

This is finer than `Committed` and `RolledBack`, which tell nothing of the order of what
happened inside.
-/

namespace EvmIndexer

namespace Store

/-- The events that were entered into the journal between two stores, in order. -/
def Adds (before after : Store) (events : List Event) : Prop :=
  ∃ new, after.journal = before.journal ++ new ∧ new.map Entry.event = events

variable {before middle after : Store} {events more : List Event}

theorem Adds.refl (store : Store) : store.Adds store [] :=
  ⟨[], (List.append_nil _).symm, rfl⟩

theorem Adds.trans (h : before.Adds middle events) (h' : middle.Adds after more) :
    before.Adds after (events ++ more) := by
  obtain ⟨new, hnew, hevents⟩ := h
  obtain ⟨new', hnew', hmore⟩ := h'
  refine ⟨new ++ new', ?_, ?_⟩
  · rw [hnew', hnew, List.append_assoc]
  · rw [List.map_append, hevents, hmore]

theorem Adds.enter (h : before.Adds after events) (event : Event) :
    before.Adds (after.enter event) (events ++ [event]) :=
  h.trans ⟨[⟨event, after.tables⟩], rfl, rfl⟩

theorem Adds.withTables (h : before.Adds after events) (tables : Database) :
    before.Adds (after.withTables tables) events := h

theorem Adds.map_news (h : before.Adds after events) :
    (before.news after).map Entry.event = events := by
  obtain ⟨new, hnew, hevents⟩ := h
  rw [news, hnew, List.drop_left, hevents]

end Store

namespace Work

variable {around : Surroundings} {store : Store}

/-- Statements are sent up to the first that meets a fault, that one included. -/
theorem ends_sendAll_events (statements : List Statement) :
    (sendAll statements).Ends around store
      (fun _ after =>
        around.firstFault? store.journal.length statements = none ∧
        after.tables = Statement.applyAll statements store.tables ∧
        store.Adds after (statements.map Event.statement))
      (fun _ after => ∃ fault sent,
        around.firstFault? store.journal.length statements = some fault ∧
        sent ≠ [] ∧ sent <+: statements ∧
        store.Adds after (sent.map Event.statement)) := by
  induction statements generalizing store with
  | nil => exact Ends.pure ⟨rfl, rfl, .refl store⟩
  | cons s rest ih =>
      refine Ends.bind (Ends.send_of_faults (fun haccepted => ?_) fun fault hstruck => ?_)
      · let sent := (store.withTables (s.apply store.tables)).enter (.statement s)
        have hadds : store.Adds sent [.statement s] :=
          ((Store.Adds.refl store).withTables _).enter _
        have hfirst : around.firstFault? store.journal.length (s :: rest) =
            around.firstFault? sent.journal.length rest := by
          have hlength : sent.journal.length = store.journal.length + 1 := by
            simp [sent, Store.enter, Store.withTables]
          rw [Surroundings.firstFault?, haccepted, Option.none_or, hlength]
        rw [hfirst]
        refine ih.mono ?_ ?_
        · intro _ after hended
          obtain ⟨hnone, htables, hrest⟩ := hended
          exact ⟨hnone, htables, hadds.trans hrest⟩
        · intro _ after hended
          obtain ⟨fault, more, hfault, hnonempty, hfront, hrest⟩ := hended
          refine ⟨fault, s :: more, hfault, List.cons_ne_nil _ _, ?_, hadds.trans hrest⟩
          exact (List.prefix_cons_inj s).2 hfront
      · have hfirst : around.firstFault? store.journal.length (s :: rest) = some fault := by
          rw [Surroundings.firstFault?, hstruck, Option.some_or]
        refine ⟨fault, [s], hfirst, List.cons_ne_nil _ _, ?_, (Store.Adds.refl store).enter _⟩
        exact (List.prefix_cons_inj s).2 List.nil_prefix

/-- A transaction of statements is committed if they meet no fault, and otherwise it is
rolled back where they meet the first. -/
theorem ends_transaction_events (statements : List Statement) :
    (transaction (sendAll statements)).Ends around store
      (fun _ after =>
        around.firstFault? (store.journal.length + 1) statements = none ∧
        after.tables = Statement.applyAll statements store.tables ∧
        store.Adds after (.begin :: statements.map Event.statement ++ [.commit]))
      (fun _ after => ∃ fault sent,
        around.firstFault? (store.journal.length + 1) statements = some fault ∧
        sent ≠ [] ∧ sent <+: statements ∧ after.tables = store.tables ∧
        store.Adds after (.begin :: sent.map Event.statement ++ [.rollback])) := by
  have hbegun : store.Adds (store.enter .begin) [.begin] := (Store.Adds.refl store).enter _
  have hlength : (store.enter .begin).journal.length = store.journal.length + 1 :=
    List.length_append
  have hinner := @ends_sendAll_events around (store.enter .begin) statements
  rw [hlength] at hinner
  refine Ends.bracket (hinner.mono ?_ ?_)
  · intro _ last hended
    obtain ⟨hnone, htables, hadds⟩ := hended
    exact Ends.record ⟨hnone, htables, (hbegun.trans hadds).enter _⟩
  · intro _ last hended
    obtain ⟨fault, sent, hfault, hnonempty, hfront, hadds⟩ := hended
    refine ⟨fault, sent, hfault, hnonempty, hfront, rfl, ?_⟩
    exact ((hbegun.trans hadds).withTables _).enter _

end Work

end EvmIndexer
