import EvmIndexer.Proofs.Store.Insertion
import EvmIndexer.Proofs.Store.Journal

/-!
# Storing an outcome

Storing an outcome is a list of statements, `Outcome.statements`, and what it
makes of the tables is `Database.addOutcome`: the rows of the outcome inserted in
the order in which they refer to each other, then the item taken off the queue.
The statements are carried out behind a savepoint, so the tables afterwards are
those of `addOutcome` or those before, whatever strikes whichever statement.

In between the tables pass through six states. A property that holds in all six
holds of every entry that storing the outcome adds to the journal.
-/

namespace EvmIndexer

/-- The insertion of rows, if there are any. -/
def Statement.ofRows {α : Type} (statement : List α → Statement)
    (rows : List α) : List Statement :=
  if rows.isEmpty then [] else [statement rows]

/-- The statements that store an outcome. -/
def Outcome.statements (outcome : Outcome) : List Statement :=
  [.insertTransaction [outcome.transaction]] ++
    (Statement.ofRows .insertLog outcome.logs ++
    (Statement.ofRows .insertToken outcome.tokens ++
    (Statement.ofRows .insertTransfer outcome.transfers ++
    (Statement.ofRows .insertContract outcome.contract.toList ++
    [.deletePending outcome.transaction.txId]))))

namespace Database

/-- The tables with the transaction and the logs of an outcome. -/
def addLogs (db : Database) (outcome : Outcome) : Database :=
  (db.insertTransactions [outcome.transaction]).insertLogs outcome.logs

/-- The tables with the transaction, the logs, the tokens and the transfers of an
outcome. -/
def addTransfers (db : Database) (outcome : Outcome) : Database :=
  ((db.addLogs outcome).insertTokens outcome.tokens).insertTransfers
    outcome.transfers

/-- The tables with an outcome, and its item off the queue. -/
def addOutcome (db : Database) (outcome : Outcome) : Database :=
  ((db.addTransfers outcome).insertContracts outcome.contract.toList).retire
    outcome.transaction.txId

end Database

namespace Statement

variable {α : Type} {statement : List α → Statement} {rows : List α}
  {db : Database}

theorem mem_ofRows {s : Statement} (h : s ∈ ofRows statement rows) :
    s = statement rows := by
  unfold ofRows at h
  split at h
  · cases h
  · exact List.mem_singleton.1 h

/-- A statement without rows does nothing, so it may be left out. -/
theorem applyAll_ofRows (h : (statement []).apply db = db) :
    applyAll (ofRows statement rows) db = (statement rows).apply db := by
  cases rows with
  | nil => exact h.symm
  | cons row rest => rfl

theorem along_ofRows {I : Database → Prop} (h : I db)
    (hafter : I ((statement rows).apply db)) :
    Along I (ofRows statement rows) db := by
  cases rows with
  | nil => exact h
  | cons row rest => exact ⟨h, hafter⟩

end Statement

namespace Outcome

variable {outcome : Outcome} {db : Database}

theorem applyAll_statements :
    Statement.applyAll outcome.statements db = db.addOutcome outcome := by
  simp only [statements, Statement.applyAll_append]
  rw [Statement.applyAll_ofRows rfl, Statement.applyAll_ofRows rfl,
    Statement.applyAll_ofRows rfl, Statement.applyAll_ofRows rfl]
  rfl

/-- What has to be shown for a property to hold all along. -/
theorem along_statements {I : Database → Prop} (h : I db)
    (htransaction : I (db.insertTransactions [outcome.transaction]))
    (hlogs : I (db.addLogs outcome))
    (htokens : I ((db.addLogs outcome).insertTokens outcome.tokens))
    (htransfers : I (db.addTransfers outcome))
    (hcontract : I ((db.addTransfers outcome).insertContracts
      outcome.contract.toList))
    (hretire : I (db.addOutcome outcome)) :
    Statement.Along I outcome.statements db := by
  refine Statement.Along.append ⟨h, htransaction⟩ ?_
  refine Statement.Along.append (Statement.along_ofRows htransaction hlogs) ?_
  rw [Statement.applyAll_ofRows rfl]
  refine Statement.Along.append (Statement.along_ofRows hlogs htokens) ?_
  rw [Statement.applyAll_ofRows rfl]
  refine Statement.Along.append (Statement.along_ofRows htokens htransfers) ?_
  rw [Statement.applyAll_ofRows rfl]
  refine Statement.Along.append (Statement.along_ofRows htransfers hcontract) ?_
  rw [Statement.applyAll_ofRows rfl]
  exact ⟨hcontract, hretire⟩

end Outcome

namespace Database

variable {db : Database} {outcome : Outcome} {txId : String}

theorem grows_applyAll (statements : List Statement) (db : Database) :
    Grows db (Statement.applyAll statements db) := by
  induction statements generalizing db with
  | nil => exact Grows.refl db
  | cons s rest ih => exact (grows_apply s db).trans (ih (s.apply db))

theorem grows_addOutcome (db : Database) (outcome : Outcome) :
    Grows db (db.addOutcome outcome) := by
  rw [← Outcome.applyAll_statements]
  exact grows_applyAll outcome.statements db

theorem uniqueTransactions_addOutcome (h : db.UniqueTransactions)
    (outcome : Outcome) : (db.addOutcome outcome).UniqueTransactions :=
  nodup_insertAll h

/-- An outcome that was added has a transaction row. -/
theorem isDecoded_addOutcome :
    (db.addOutcome outcome).isDecoded outcome.transaction.txId = true :=
  isDecoded_iff.2 (exists_key_insertAll _ _ (List.mem_singleton.2 rfl))

/-- An outcome gives a row to its transaction and to no other. -/
theorem isDecoded_addOutcome_of_ne (h : txId ≠ outcome.transaction.txId) :
    (db.addOutcome outcome).isDecoded txId = db.isDecoded txId := by
  rw [Bool.eq_iff_iff]
  constructor
  · intro hafter
    obtain ⟨tx, htx, hid⟩ := isDecoded_iff.1 hafter
    rcases mem_insertAll htx with hold | hnew
    · exact isDecoded_iff.2 ⟨tx, hold, hid⟩
    · rw [List.mem_singleton.1 hnew] at hid
      exact absurd hid.symm h
  · exact (grows_addOutcome db outcome).isDecoded

/-- The item that an outcome takes off the queue has a row by then. -/
theorem Accounts.addOutcome (h : db.Accounts txId) (outcome : Outcome) :
    (db.addOutcome outcome).Accounts txId := by
  rcases h with hwaits | hdecoded
  · by_cases heq : txId = outcome.transaction.txId
    · rw [heq]
      exact Or.inr isDecoded_addOutcome
    · have hbefore : ((db.addTransfers outcome).insertContracts
          outcome.contract.toList).Waits txId := hwaits
      exact Or.inl (waits_retire hbefore heq)
  · exact Or.inr ((grows_addOutcome db outcome).isDecoded hdecoded)

end Database

/-! ## Running the statements -/

namespace Work

variable {around : Surroundings} {store : Store} {outcome : Outcome}

theorem sendAll_singleton (s : Statement) : sendAll [s] = send s :=
  bind_pure _

theorem sendAll_pair (s s' : Statement) :
    sendAll [s, s'] = (do send s; send s') := by
  show (do send s; sendAll [s']) = _
  rw [sendAll_singleton]

theorem insertSome_eq_sendAll {α : Type} (statement : List α → Statement)
    (rows : List α) :
    insertSome statement rows = sendAll (Statement.ofRows statement rows) := by
  unfold insertSome Statement.ofRows
  split
  · rfl
  · rw [sendAll_singleton]

theorem write_eq_sendAll : write outcome = sendAll outcome.statements := by
  simp only [write, Outcome.statements, sendAll_append, insertSome_eq_sendAll,
    sendAll_singleton]

/-- Storing an outcome adds it to the tables, or leaves them as they were. -/
theorem ends_save {I : Database → Prop}
    (hI : Statement.Along I outcome.statements store.tables) :
    (save outcome).Ends around store
      (fun _ after => store.Extends (Entry.Inner I) after ∧
        after.tables = store.tables.addOutcome outcome)
      (fun _ after => store.Extends (Entry.Inner I) after ∧
        after.tables = store.tables) := by
  have hopened : store.Extends (Entry.Inner I) (store.enter .savepoint) :=
    (Store.Extends.refl store).enter ⟨rfl, hI.head⟩
  refine Ends.tryCatch ((ends_savepoint (I := I) hI.head ?_).mono
    (fun _ _ hok => hok) fun _ _ hbad => Ends.throw hbad)
  have hopened' : Statement.Along I outcome.statements
      (store.enter .savepoint).tables := hI
  rw [write_eq_sendAll]
  refine (ends_sendAll hopened').mono ?_ ?_
  · intro _ after hsent
    exact ⟨hopened.trans hsent.1, hsent.2.trans Outcome.applyAll_statements⟩
  · intro _ after hsent
    exact hopened.trans hsent

end Work

end EvmIndexer
