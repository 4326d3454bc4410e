import EvmIndexer.Proofs.Store.Ends

/-!
# What a run adds to the journal

The journal only grows, and each entry holds the tables right after it, so what
a run does between its beginning and its end is said about the entries it adds.
`Extends J` says that the added entries all have a property `J`; it is kept by
every event, and it is the part of a postcondition that speaks of the states in
between.

Inside a transaction the property is always of one form: the entry is not a
boundary of a transaction, and the tables in it have some property of tables.
-/

namespace EvmIndexer

/-- Whether an event happens inside a transaction. -/
def Event.isInner : Event → Bool
  | .statement _ | .savepoint | .rollbackSavepoint => true
  | .begin | .commit | .rollback => false

/-- The entries that one run may add inside a transaction: no boundary of a
transaction, and tables with the given property. -/
def Entry.Inner (I : Database → Prop) (entry : Entry) : Prop :=
  entry.event.isInner = true ∧ I entry.tables

/-- What the store entered into the journal since an earlier store. -/
def Store.news (before after : Store) : List Entry :=
  after.journal.drop before.journal.length

/-- The journal of `after` is that of `before` and entries that have the
property. What the ledger answered is the same. -/
structure Store.Extends (J : Entry → Prop) (before after : Store) : Prop where
  responses : after.responses = before.responses
  journal : ∃ new, after.journal = before.journal ++ new ∧ ∀ entry ∈ new, J entry

namespace Store.Extends

variable {J : Entry → Prop} {before middle after : Store}

theorem refl (store : Store) : Extends J store store :=
  ⟨rfl, [], by simp⟩

theorem trans (h : Extends J before middle) (h' : Extends J middle after) :
    Extends J before after := by
  obtain ⟨hresponses, new, hnew, hJ⟩ := h
  obtain ⟨hresponses', new', hnew', hJ'⟩ := h'
  refine ⟨hresponses'.trans hresponses, new ++ new', ?_, ?_⟩
  · rw [hnew', hnew, List.append_assoc]
  · intro entry hentry
    rcases List.mem_append.1 hentry with hold | hyoung
    · exact hJ entry hold
    · exact hJ' entry hyoung

theorem mono {J' : Entry → Prop} (h : Extends J before after)
    (hJ : ∀ entry, J entry → J' entry) : Extends J' before after := by
  obtain ⟨hresponses, new, hnew, hentries⟩ := h
  exact ⟨hresponses, new, hnew, fun entry he => hJ entry (hentries entry he)⟩

theorem enter (h : Extends J before after) {event : Event}
    (hJ : J ⟨event, after.tables⟩) : Extends J before (after.enter event) := by
  refine h.trans ⟨rfl, [⟨event, after.tables⟩], rfl, ?_⟩
  intro entry hentry
  rw [List.mem_singleton.1 hentry]
  exact hJ

theorem withTables (h : Extends J before after) (tables : Database) :
    Extends J before (after.withTables tables) := ⟨h.responses, h.journal⟩

/-- Every entry behind the old journal has the property. -/
theorem of_mem_news (h : Extends J before after) {entry : Entry}
    (hentry : entry ∈ news before after) : J entry := by
  obtain ⟨-, new, hnew, hJ⟩ := h
  rw [news, hnew, List.drop_left] at hentry
  exact hJ entry hentry

end Store.Extends

/-! ## Reading and asking -/

namespace Work

variable {around : Surroundings} {store : Store} {α : Type}

/-- A statement that reads leaves no trace but its entry. -/
theorem ends_read {s : Statement} {read : Store → α}
    (hread : ∀ db, s.apply db = db) :
    (query s read).Ends around store
      (fun a after => a = read (store.enter (.statement s)) ∧
        after = store.enter (.statement s))
      (fun _ after => after = store.enter (.statement s)) := by
  have hsame : store.withTables (s.apply store.tables) = store := by
    rw [hread]
    rfl
  refine Ends.query ?_ fun _ => rfl
  rw [hsame]
  exact ⟨rfl, rfl⟩

/-- A question about a signature is no event. All that it leaves behind is that it
was asked. -/
theorem ends_askSignature {selector : String} {bad : Failure → Store → Prop} :
    (askSignature selector).Ends around store
      (fun _ after => ∃ asked, after = { store with asked := asked }) bad := by
  unfold Ends askSignature
  cases around.signatures with
  | none => exact ⟨store.asked, rfl⟩
  | some source => exact ⟨store.asked ++ [selector], rfl⟩

end Work

/-! ## Lists of statements -/

namespace Statement

/-- The tables after statements that all take effect. -/
def applyAll (statements : List Statement) (db : Database) : Database :=
  statements.foldl (fun db s => s.apply db) db

/-- The tables have a property before the first of the statements and after each
of them. -/
def Along (I : Database → Prop) : List Statement → Database → Prop
  | [], db => I db
  | s :: rest, db => I db ∧ Along I rest (s.apply db)

variable {I : Database → Prop}

theorem applyAll_append (statements more : List Statement) (db : Database) :
    applyAll (statements ++ more) db = applyAll more (applyAll statements db) :=
  List.foldl_append

theorem along_of_forall (h : ∀ db, I db) (statements : List Statement)
    (db : Database) : Along I statements db := by
  induction statements generalizing db with
  | nil => exact h db
  | cons s rest ih => exact ⟨h db, ih (s.apply db)⟩

theorem Along.head {statements : List Statement} {db : Database}
    (h : Along I statements db) : I db := by
  cases statements with
  | nil => exact h
  | cons s rest => exact h.1

/-- A property that holds all along holds in the end. -/
theorem Along.last {statements : List Statement} {db : Database}
    (h : Along I statements db) : I (applyAll statements db) := by
  induction statements generalizing db with
  | nil => exact h
  | cons s rest ih => exact ih h.2

theorem Along.append {statements more : List Statement} {db : Database}
    (h : Along I statements db) (hmore : Along I more (applyAll statements db)) :
    Along I (statements ++ more) db := by
  induction statements generalizing db with
  | nil => exact hmore
  | cons s rest ih => exact ⟨h.1, ih h.2 hmore⟩

end Statement

namespace Work

variable {around : Surroundings} {store : Store}

/-- Sends statements one after the other. -/
def sendAll : List Statement → Work Unit
  | [] => pure ()
  | s :: rest => do
    send s
    sendAll rest

/-- A list of statements is carried out up to the one that fails, so the tables
in the journal are those after some of the statements. -/
theorem ends_sendAll {I : Database → Prop} {statements : List Statement}
    (hI : Statement.Along I statements store.tables) :
    (sendAll statements).Ends around store
      (fun _ after => store.Extends (Entry.Inner I) after ∧
        after.tables = Statement.applyAll statements store.tables)
      (fun _ after => store.Extends (Entry.Inner I) after) := by
  induction statements generalizing store with
  | nil => exact ⟨.refl store, rfl⟩
  | cons s rest ih =>
      have hsent : store.Extends (Entry.Inner I)
          ((store.withTables (s.apply store.tables)).enter (.statement s)) :=
        ((Store.Extends.refl store).withTables _).enter ⟨rfl, hI.2.head⟩
      refine Ends.bind (Ends.send ?_ fun fault =>
        (Store.Extends.refl store).enter ⟨rfl, hI.1⟩)
      refine (ih hI.2).mono ?_ ?_
      · intro _ after hrest
        exact ⟨hsent.trans hrest.1, hrest.2⟩
      · intro _ after hrest
        exact hsent.trans hrest

theorem sendAll_append (statements more : List Statement) :
    sendAll (statements ++ more) = (do sendAll statements; sendAll more) := by
  induction statements with
  | nil => rfl
  | cons s rest ih =>
      show (do send s; sendAll (rest ++ more)) = _
      rw [ih]
      exact (bind_assoc _ _ _).symm

/-! ## Brackets -/

/-- Behind a savepoint, work that fails leaves the tables as they were. -/
theorem ends_savepoint {α : Type} {I : Database → Prop} {work : Work α}
    {ok : α → Store → Prop} (hI : I store.tables)
    (h : work.Ends around (store.enter .savepoint) ok
      (fun _ after => store.Extends (Entry.Inner I) after)) :
    (savepoint work).Ends around store ok
      (fun _ after => store.Extends (Entry.Inner I) after ∧
        after.tables = store.tables) := by
  refine Ends.bracket (h.mono (fun a after hok => Ends.pure hok) ?_)
  intro failure after hafter
  exact ⟨(hafter.withTables _).enter ⟨rfl, hI⟩, rfl⟩

end Work

/-! ## Transactions -/

namespace Store

variable {I : Database → Prop} {before after : Store}

/-- A run of one transaction that was committed; inside it the tables have the
property at every entry. -/
def Committed (I : Database → Prop) (before after : Store) : Prop :=
  ∃ last, (before.enter .begin).Extends (Entry.Inner I) last ∧
    after = last.enter .commit

/-- A run of one transaction that was rolled back. -/
def RolledBack (I : Database → Prop) (before after : Store) : Prop :=
  ∃ last, (before.enter .begin).Extends (Entry.Inner I) last ∧
    after = (last.withTables before.tables).enter .rollback

theorem RolledBack.tables (h : RolledBack I before after) :
    after.tables = before.tables := by
  obtain ⟨last, -, rfl⟩ := h
  rfl

/-- The property holds at every entry, if it holds at both ends. -/
theorem Committed.extends (h : Committed I before after)
    (hbefore : I before.tables) (hafter : I after.tables) :
    before.Extends (fun entry => I entry.tables) after := by
  obtain ⟨last, hinner, rfl⟩ := h
  have hbegun : before.Extends (fun entry => I entry.tables)
      (before.enter .begin) := (Extends.refl before).enter hbefore
  exact (hbegun.trans (hinner.mono fun _ hentry => hentry.2)).enter hafter

theorem RolledBack.extends (h : RolledBack I before after)
    (hbefore : I before.tables) :
    before.Extends (fun entry => I entry.tables) after := by
  obtain ⟨last, hinner, rfl⟩ := h
  have hbegun : before.Extends (fun entry => I entry.tables)
      (before.enter .begin) := (Extends.refl before).enter hbefore
  have hdone := hbegun.trans (hinner.mono fun _ hentry => hentry.2)
  exact (hdone.withTables _).enter hbefore

/-- What a transaction commits is what it leaves. -/
theorem Committed.commits (h : Committed I before after) :
    before.Extends
      (fun entry => entry.event = .commit → entry.tables = after.tables) after := by
  obtain ⟨last, hinner, rfl⟩ := h
  have hbegun : before.Extends (fun entry => entry.event = .commit →
      entry.tables = last.tables) (before.enter .begin) :=
    (Extends.refl before).enter fun hevent => by cases hevent
  refine (hbegun.trans (hinner.mono fun entry hentry hevent => ?_)).enter
    fun _ => rfl
  rw [Entry.Inner, hevent] at hentry
  cases hentry.1

theorem RolledBack.commits (h : RolledBack I before after) :
    before.Extends (fun entry => entry.event ≠ .commit) after := by
  obtain ⟨last, hinner, rfl⟩ := h
  have hbegun : before.Extends (fun entry => entry.event ≠ .commit)
      (before.enter .begin) :=
    (Extends.refl before).enter fun hevent => by cases hevent
  refine ((hbegun.trans (hinner.mono fun entry hentry hevent => ?_)).withTables
    _).enter fun hevent => by cases hevent
  rw [Entry.Inner, hevent] at hentry
  cases hentry.1

theorem Committed.mem_journal (h : Committed I before after) :
    ⟨.commit, after.tables⟩ ∈ before.news after := by
  obtain ⟨last, hinner, rfl⟩ := h
  have hbegun : before.Extends (fun _ => True) (before.enter .begin) :=
    (Extends.refl before).enter trivial
  obtain ⟨-, new, hnew, -⟩ := hbegun.trans (hinner.mono fun _ _ => trivial)
  simp [news, Store.enter, hnew, List.append_assoc]

end Store

/-- A transaction commits what its work left, or leaves the tables as they
were. -/
theorem Work.ends_transaction {α : Type} {around : Surroundings} {store : Store}
    {I : Database → Prop} {work : Work α} (ok : α → Database → Prop)
    (h : work.Ends around (store.enter .begin)
      (fun a last => (store.enter .begin).Extends (Entry.Inner I) last ∧
        ok a last.tables)
      (fun _ last => (store.enter .begin).Extends (Entry.Inner I) last)) :
    (transaction work).Ends around store
      (fun a after => store.Committed I after ∧ ok a after.tables)
      (fun _ after => store.RolledBack I after) := by
  refine Ends.bracket (h.mono (fun a last hok => ?_) fun failure last hbad => ?_)
  · exact Ends.record ⟨⟨last, hok.1, rfl⟩, hok.2⟩
  · exact ⟨last, hbad, rfl⟩

/-- A transaction of statements. -/
theorem Work.ends_transaction_sendAll {around : Surroundings} {store : Store}
    {I : Database → Prop} {statements : List Statement}
    (hI : Statement.Along I statements store.tables) :
    (transaction (sendAll statements)).Ends around store
      (fun _ after => store.Committed I after ∧
        after.tables = Statement.applyAll statements store.tables)
      (fun _ after => store.RolledBack I after) := by
  have hbegun : Statement.Along I statements (store.enter .begin).tables := hI
  exact ends_transaction
    (fun _ db => db = Statement.applyAll statements store.tables)
    (ends_sendAll hbegun)

end EvmIndexer
