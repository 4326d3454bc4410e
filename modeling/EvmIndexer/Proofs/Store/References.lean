import EvmIndexer.Proofs.Store.Saving
import EvmIndexer.Proofs.Token.Recognition

/-!
# References between the tables

A log refers to its transaction; a transfer refers to the log that it is a view
of and to its token. The database checks the references at every statement, so
they have to be good between any two statements and not only in the end. Each
table may be added to as soon as what its new rows refer to is there; the other
insertions cannot break a reference, because the tables only grow.
-/

namespace EvmIndexer.Database

/-- Whether a token has a row. -/
def HasToken (db : Database) (address : String) : Prop :=
  ∃ token ∈ db.tokens, token.address = address

/-- Whether a log has a row. -/
def HasLog (db : Database) (key : String × Int) : Prop :=
  ∃ log ∈ db.logs, logKey log = key

/-- All references between the tables are good. -/
structure Referential (db : Database) : Prop where
  transactions : ∀ log ∈ db.logs, db.isDecoded log.txId = true
  logs : ∀ transfer ∈ db.transfers, db.HasLog (transferKey transfer)
  tokens : ∀ transfer ∈ db.transfers, db.HasToken transfer.tokenAddress

variable {db after : Database}

theorem Grows.hasToken (h : Grows db after) {address : String}
    (htoken : db.HasToken address) : after.HasToken address := by
  obtain ⟨token, hmem, haddress⟩ := htoken
  exact ⟨token, h.tokens.subset hmem, haddress⟩

theorem Grows.hasLog (h : Grows db after) {key : String × Int}
    (hlog : db.HasLog key) : after.HasLog key := by
  obtain ⟨log, hmem, hkey⟩ := hlog
  exact ⟨log, h.logs.subset hmem, hkey⟩

/-- Tables that grew keep their references good, if the new logs and transfers
have good ones. -/
theorem Referential.grow (h : db.Referential) (hgrows : Grows db after)
    (hlogs : ∀ log ∈ after.logs, log ∈ db.logs ∨ after.isDecoded log.txId = true)
    (htransfers : ∀ transfer ∈ after.transfers, transfer ∈ db.transfers ∨
      after.HasLog (transferKey transfer) ∧
        after.HasToken transfer.tokenAddress) : after.Referential := by
  refine ⟨fun log hlog => ?_, fun transfer htransfer => ?_,
    fun transfer htransfer => ?_⟩
  · rcases hlogs log hlog with hold | hnew
    · exact hgrows.isDecoded (h.transactions log hold)
    · exact hnew
  · rcases htransfers transfer htransfer with hold | hnew
    · exact hgrows.hasLog (h.logs transfer hold)
    · exact hnew.1
  · rcases htransfers transfer htransfer with hold | hnew
    · exact hgrows.hasToken (h.tokens transfer hold)
    · exact hnew.2

/-- A statement that inserts neither logs nor transfers breaks no reference. -/
theorem Referential.apply (h : db.Referential) (s : Statement)
    (hlogs : (s.apply db).logs = db.logs)
    (htransfers : (s.apply db).transfers = db.transfers) :
    (s.apply db).Referential := by
  refine h.grow (grows_apply s db) (fun log hlog => ?_)
    fun transfer htransfer => ?_
  · rw [hlogs] at hlog
    exact Or.inl hlog
  · rw [htransfers] at htransfer
    exact Or.inl htransfer

theorem Referential.insertTransactions (h : db.Referential)
    (rows : List Transaction) : (db.insertTransactions rows).Referential :=
  h.apply (.insertTransaction rows) rfl rfl

theorem Referential.insertTokens (h : db.Referential) (rows : List Token) :
    (db.insertTokens rows).Referential :=
  h.apply (.insertToken rows) rfl rfl

theorem Referential.insertContracts (h : db.Referential) (rows : List Contract) :
    (db.insertContracts rows).Referential :=
  h.apply (.insertContract rows) rfl rfl

theorem Referential.retire (h : db.Referential) (txId : String) :
    (db.retire txId).Referential :=
  h.apply (.deletePending txId) rfl rfl

theorem Referential.insertLogs (h : db.Referential) {rows : List Log}
    (hrows : ∀ log ∈ rows, db.isDecoded log.txId = true) :
    (db.insertLogs rows).Referential := by
  refine h.grow (grows_apply (.insertLog rows) db) (fun log hlog => ?_)
    fun _ htransfer => Or.inl htransfer
  rcases mem_insertAll hlog with hold | hnew
  · exact Or.inl hold
  · exact Or.inr (hrows log hnew)

theorem Referential.insertTransfers (h : db.Referential) {rows : List Transfer}
    (hrows : ∀ transfer ∈ rows, db.HasLog (transferKey transfer) ∧
      db.HasToken transfer.tokenAddress) :
    (db.insertTransfers rows).Referential := by
  refine h.grow (grows_apply (.insertTransfer rows) db)
    (fun _ hlog => Or.inl hlog) fun transfer htransfer => ?_
  rcases mem_insertAll htransfer with hold | hnew
  · exact Or.inl hold
  · exact Or.inr (hrows transfer hnew)

theorem hasToken_insertTokens {rows : List Token} {token : Token}
    (h : token ∈ rows) : (db.insertTokens rows).HasToken token.address :=
  exists_key_insertAll _ _ h

theorem hasLog_insertLogs {rows : List Log} {log : Log} (h : log ∈ rows) :
    (db.insertLogs rows).HasLog (logKey log) :=
  exists_key_insertAll _ _ h

/-- Transfers that were recognized refer to the logs they were recognized in, and
to tokens that were found or known. -/
theorem hasLog_and_hasToken_of_sound {txId : String} {known : List String}
    {logs : List Log} {found : Recognition} (h : found.Sound txId known logs)
    (hid : ∀ log ∈ logs, log.txId = txId)
    (hlogs : ∀ log ∈ logs, db.HasLog (logKey log))
    (hknown : ∀ address ∈ known, db.HasToken address) :
    ∀ transfer ∈ found.transfers,
      (db.insertTokens found.tokens).HasLog (transferKey transfer) ∧
        (db.insertTokens found.tokens).HasToken transfer.tokenAddress := by
  intro transfer htransfer
  have hgrows := grows_apply (.insertToken found.tokens) db
  constructor
  · obtain ⟨htx, log, hlog, hindex⟩ := h.transfers transfer htransfer
    have hkey : logKey log = transferKey transfer := by
      rw [logKey, transferKey, hid log hlog, htx, hindex]
    rw [← hkey]
    exact hgrows.hasLog (hlogs log hlog)
  · rcases h.covered transfer htransfer with hmet | hown
    · exact hgrows.hasToken (hknown transfer.tokenAddress hmet)
    · obtain ⟨token, htoken, haddress⟩ := List.mem_map.1 hown
      rw [← haddress]
      exact hasToken_insertTokens htoken

/-- Whether each known token has a row, in lower case. -/
def HasTokens (db : Database) (known : List String) : Prop :=
  ∀ address ∈ known, db.HasToken (Text.lower address)

end EvmIndexer.Database
