import EvmIndexer.Proofs.Store.Saving

/-!
# What the database takes and what it refuses

Whether storing an outcome succeeds is decided by the first fault that its
statements meet. If there is none, the outcome is in the tables; if it is one
that speaks of the data, the outcome is refused and the tables are those before,
at whichever of the statements it struck. `Accepts` and `Refuses` say this of an
outcome for every position of the journal, so that they do not change when
something else was entered before.

Where neither a fault nor anybody else has a say, a run is determined: it ends
with one value and leaves one set of tables. `Yields` says which, and its rules
let a run be computed over the text of the work.
-/

namespace EvmIndexer

/-! ## Faults of a list of statements -/

namespace Surroundings

variable (around : Surroundings)

/-- The fault that a list of statements meets first, if the first statement is
sent at a position of the journal. -/
def firstFault? : Nat → List Statement → Option Fault
  | _, [] => none
  | position, s :: rest =>
    (around.faults position s).or (firstFault? (position + 1) rest)

/-- Whether the database takes an outcome, whenever it is stored. -/
def Accepts (outcome : Outcome) : Prop :=
  ∀ position, around.firstFault? position outcome.statements = none

/-- Whether the database refuses an outcome at one of its statements, whenever it
is stored. -/
def Refuses (outcome : Outcome) : Prop :=
  ∀ position, ∃ fault,
    around.firstFault? position outcome.statements = some fault ∧
      fault.refusesRow = true

/-- What is said about a selector by whoever is asked, if anybody is, after other
questions. -/
def reply (asked : List String) (selector : String) : LookupAnswer :=
  match around.signatures with
  | none => .unknown
  | some source => source asked selector

theorem firstFault?_eq_none {statements : List Statement}
    {around : Surroundings}
    (h : ∀ s ∈ statements, ∀ position, around.faults position s = none)
    (position : Nat) : around.firstFault? position statements = none := by
  induction statements generalizing position with
  | nil => rfl
  | cons s rest ih =>
      rw [firstFault?, h s (by simp), Option.none_or]
      exact ih (fun s' hs' => h s' (by simp [hs'])) _

end Surroundings

/-- Whether a statement reads. -/
def Statement.isRead : Statement → Bool
  | .insertTransaction _ | .insertLog _ | .insertToken _ | .insertTransfer _
  | .insertContract _ | .deletePending _ | .upsertToken _ | .fillMetadata _ =>
    false
  | .selectPending _ | .selectPendingItem _ | .selectDecodedHash _
  | .selectResponse _ | .selectWithoutLogs .. | .selectMissingContracts
  | .selectMissingTokens _ | .selectMissingTransfers ..
  | .selectMissingMetadata => true

theorem Statement.apply_of_isRead {s : Statement} (h : s.isRead = true)
    (db : Database) : s.apply db = db := by
  cases s with
  | insertTransaction | insertLog | insertToken | insertTransfer
  | insertContract | deletePending | upsertToken | fillMetadata => cases h
  | _ => rfl

/-- Nothing fails but by a refusal, and nothing is left to chance: statements
that read meet no fault, every placeholder is taken, and what is said about a
selector is the answer to it whatever was asked before. -/
structure Surroundings.Orderly (around : Surroundings)
    (answer : String → LookupAnswer) : Prop where
  reads : ∀ position (s : Statement), s.isRead = true →
    around.faults position s = none
  placeholders : ∀ txId, around.Accepts (.placeholder txId)
  steady : ∀ asked selector, around.reply asked selector = answer selector

namespace Work

variable {α β : Type} {around : Surroundings} {store : Store}
  {answer : String → LookupAnswer}

/-! ## Runs that are determined -/

/-- The run ends with a value, leaves the given tables, and leaves the responses
as they were. -/
def Yields (work : Work α) (around : Surroundings) (store : Store) (a : α)
    (tables : Database) : Prop :=
  work.Ends around store
    (fun b after => b = a ∧ after.tables = tables ∧
      after.responses = store.responses)
    (fun _ _ => False)

theorem Yields.pure {a : α} {tables : Database} (h : store.tables = tables) :
    (pure a : Work α).Yields around store a tables :=
  Ends.pure ⟨rfl, h, rfl⟩

/-- The second part of a run starts where the first has ended; all that is known
of its journal is that there is one. -/
theorem Yields.bind {work : Work β} {next : β → Work α} {b : β} {a : α}
    {tables tables' : Database} (h : work.Yields around store b tables)
    (hnext : ∀ after : Store, after.tables = tables →
      after.responses = store.responses →
        (next b).Yields around after a tables') :
    (work >>= next).Yields around store a tables' := by
  refine Ends.bind (Ends.mono h ?_ fun _ _ hfalse => hfalse.elim)
  rintro _ after ⟨rfl, htables, hresponses⟩
  refine Ends.mono (hnext after htables hresponses) ?_ fun _ _ hfalse => hfalse
  rintro _ last ⟨rfl, htables', hresponses'⟩
  exact ⟨rfl, htables', hresponses'.trans hresponses⟩

theorem Yields.bracket {opening undone : Event} {closing : Work Unit}
    {work : Work α} {a : α} {tables : Database}
    (hclosing : ∀ after : Store,
      closing.Yields around after () after.tables)
    (h : work.Yields around (store.enter opening) a tables) :
    (bracket opening closing undone work).Yields around store a tables := by
  refine Ends.bracket (Ends.mono h ?_ fun _ _ hfalse => hfalse.elim)
  rintro _ after ⟨rfl, htables, hresponses⟩
  refine Ends.mono (hclosing after) ?_ fun _ _ hfalse => hfalse.elim
  rintro _ last ⟨-, hlast, hresponses'⟩
  exact ⟨rfl, hlast.trans htables, hresponses'.trans hresponses⟩

theorem Yields.transaction {work : Work α} {a : α} {tables : Database}
    (h : work.Yields around (store.enter .begin) a tables) :
    (transaction work).Yields around store a tables :=
  Yields.bracket (fun _ => Ends.record ⟨rfl, rfl, rfl⟩) h

theorem Yields.savepoint {work : Work α} {a : α} {tables : Database}
    (h : work.Yields around (store.enter .savepoint) a tables) :
    (savepoint work).Yields around store a tables :=
  Yields.bracket (fun _ => Ends.pure ⟨rfl, rfl, rfl⟩) h

/-- The run as its caller sees it. -/
theorem Yields.run {work : Work α} {a : α} {tables : Database}
    (h : work.Yields around store a tables) :
    ∃ after, work.run around store = (.ok a, after) ∧ after.tables = tables ∧
      after.responses = store.responses := by
  rcases Ends.run h with ⟨_, after, hrun, rfl, htables, hresponses⟩ |
    ⟨_, _, -, hfalse⟩
  · exact ⟨after, hrun, htables, hresponses⟩
  · exact hfalse.elim

/-! ## Statements -/

theorem Ends.send_accepted {s : Statement} {ok : Unit → Store → Prop}
    {bad : Failure → Store → Prop}
    (h : around.faults store.journal.length s = none)
    (hok : ok () ((store.withTables (s.apply store.tables)).enter
      (.statement s))) : (Work.send s).Ends around store ok bad := by
  unfold Ends Work.send
  rw [h]
  exact hok

theorem Ends.send_struck {s : Statement} {fault : Fault}
    {ok : Unit → Store → Prop} {bad : Failure → Store → Prop}
    (h : around.faults store.journal.length s = some fault)
    (hbad : bad (.database fault) (store.enter (.statement s))) :
    (Work.send s).Ends around store ok bad := by
  unfold Ends Work.send
  rw [h]
  exact hbad

theorem Ends.send_of_faults {s : Statement} {ok : Unit → Store → Prop}
    {bad : Failure → Store → Prop}
    (hok : around.faults store.journal.length s = none →
      ok () ((store.withTables (s.apply store.tables)).enter (.statement s)))
    (hbad : ∀ fault, around.faults store.journal.length s = some fault →
      bad (.database fault) (store.enter (.statement s))) :
    (Work.send s).Ends around store ok bad := by
  cases h : around.faults store.journal.length s with
  | none => exact Ends.send_accepted h (hok h)
  | some fault => exact Ends.send_struck h (hbad fault h)

/-- A statement that reads gives what is there, or the fault that struck it, and
leaves no trace but its entry. -/
theorem ends_query {s : Statement} (hs : s.isRead = true) {read : Store → α} :
    (query s read).Ends around store
      (fun a after => around.faults store.journal.length s = none ∧
        a = read after ∧ after = store.enter (.statement s))
      (fun failure after => ∃ fault,
        around.faults store.journal.length s = some fault ∧
          failure = .database fault ∧ after = store.enter (.statement s)) := by
  have hsame : store.withTables (s.apply store.tables) = store := by
    rw [s.apply_of_isRead hs]
    rfl
  refine Ends.bind (Ends.send_of_faults (fun haccepted => ?_) fun fault hstruck => ?_)
  · rw [hsame]
    exact ⟨haccepted, rfl, rfl⟩
  · exact ⟨fault, hstruck, rfl, rfl⟩

theorem yields_query (h : around.Orderly answer) {s : Statement}
    (hs : s.isRead = true) {read : Store → α}
    (hread : read (store.enter (.statement s)) = read store) :
    (query s read).Yields around store (read store) store.tables := by
  have hsame : store.withTables (s.apply store.tables) = store := by
    rw [s.apply_of_isRead hs]
    rfl
  refine Ends.bind (Ends.send_accepted (h.reads _ s hs) (Ends.bind ?_))
  rw [hsame]
  exact ⟨hread, rfl, rfl⟩

theorem yields_askSignature (h : around.Orderly answer) (selector : String) :
    (askSignature selector).Yields around store (answer selector)
      store.tables := by
  have hreply := h.steady store.asked selector
  unfold Surroundings.reply at hreply
  unfold Yields Ends askSignature
  cases hsource : around.signatures with
  | none =>
      rw [hsource] at hreply
      exact ⟨hreply, rfl, rfl⟩
  | some source =>
      rw [hsource] at hreply
      exact ⟨hreply, rfl, rfl⟩

theorem yields_sendAll {statements : List Statement}
    (h : around.firstFault? store.journal.length statements = none) :
    (sendAll statements).Yields around store ()
      (Statement.applyAll statements store.tables) := by
  induction statements generalizing store with
  | nil => exact Yields.pure rfl
  | cons s rest ih =>
      obtain ⟨hs, hrest⟩ := Option.or_eq_none_iff.1 h
      refine Ends.bind (Ends.send_accepted hs ?_)
      exact ih (by simpa [Store.enter, Store.withTables] using hrest)

theorem ends_sendAll_struck {statements : List Statement} {fault : Fault}
    (h : around.firstFault? store.journal.length statements = some fault) :
    (sendAll statements).Ends around store (fun _ _ => False)
      (fun failure after => failure = .database fault ∧
        after.responses = store.responses) := by
  induction statements generalizing store with
  | nil => cases h
  | cons s rest ih =>
      rcases Option.or_eq_some_iff.1 h with hs | ⟨hs, hrest⟩
      · exact Ends.bind (Ends.send_struck hs ⟨rfl, rfl⟩)
      · refine Ends.bind (Ends.send_accepted hs ?_)
        exact ih (by simpa [Store.enter, Store.withTables] using hrest)

/-! ## Storing an outcome -/

variable {outcome : Outcome}

theorem yields_save (h : around.Accepts outcome) :
    (save outcome).Yields around store () (store.tables.addOutcome outcome) := by
  have hwrite : (write outcome).Yields around (store.enter .savepoint) ()
      (store.tables.addOutcome outcome) := by
    rw [write_eq_sendAll, ← Outcome.applyAll_statements]
    exact yields_sendAll (h _)
  exact Ends.tryCatch (Ends.mono (Yields.savepoint hwrite) (fun _ _ hok => hok)
    fun _ _ hfalse => hfalse.elim)

/-- An outcome that the database refuses leaves the tables as they were. -/
theorem ends_save_refused (h : around.Refuses outcome) :
    (save outcome).Ends around store (fun _ _ => False)
      (fun failure after => (∃ reason, failure = .rejected reason) ∧
        after.tables = store.tables ∧ after.responses = store.responses) := by
  obtain ⟨fault, hfault, hrefuses⟩ := h (store.enter .savepoint).journal.length
  refine Ends.tryCatch (Ends.bracket ?_)
  rw [write_eq_sendAll]
  refine Ends.mono (ends_sendAll_struck hfault) (fun _ _ hfalse => hfalse.elim) ?_
  rintro _ after ⟨rfl, hresponses⟩
  exact Ends.throw ⟨⟨_, if_pos hrefuses⟩, rfl, hresponses⟩

end Work

end EvmIndexer
