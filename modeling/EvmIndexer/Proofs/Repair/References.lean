import EvmIndexer.Proofs.Outcome.References
import EvmIndexer.Repair.Phase

/-!
# References while the tables are repaired

The phase of the logs writes the logs of transactions that have a row, and the
phase of the transfers writes views of logs that have one. Both bring the tokens
of their transfers along, so all their references are good at every statement.
Neither calls a token known that it does not insert in the same transaction.

A chunk of transfers is recognized log by log, with the tokens found so far as
the known ones. They were found in lower case, and lowering them again on the
way in changes nothing; otherwise a token could be taken for known and missed.
-/

namespace EvmIndexer

open Database

/-- What a repair does to a store with good references: they are good at every
entry and in the end, and the tables grow. -/
structure Store.Repaired (before after : Store) : Prop where
  extends_ : before.Extends (fun entry => entry.tables.Referential) after
  referential : after.tables.Referential
  grows : before.tables.Grows after.tables

namespace Store.Repaired

variable {before middle after : Store}

theorem refl (h : before.tables.Referential) : Repaired before before :=
  ⟨.refl before, h, .refl before.tables⟩

theorem trans (h : Repaired before middle) (h' : Repaired middle after) :
    Repaired before after :=
  ⟨h.extends_.trans h'.extends_, h'.referential, h.grows.trans h'.grows⟩

theorem enter (h : Repaired before after) (event : Event) :
    Repaired before (after.enter event) :=
  ⟨h.extends_.enter h.referential, h.referential, h.grows⟩

end Store.Repaired

namespace Work

variable {α β : Type} {around : Surroundings} {store : Store}

/-- Whether work repairs a store, however it ends. -/
def Repairs (work : Work α) (around : Surroundings) (store : Store) : Prop :=
  work.Ends around store (fun _ after => store.Repaired after)
    (fun _ after => store.Repaired after)

theorem Repairs.pure {a : α} (h : store.tables.Referential) :
    (pure a : Work α).Repairs around store := .refl h

theorem Repairs.bind {work : Work β} {next : β → Work α}
    (h : work.Repairs around store)
    (hnext : ∀ b after, store.Repaired after → (next b).Repairs around after) :
    (work >>= next).Repairs around store := by
  refine Ends.bind (h.mono (fun b after hafter => ?_) fun _ _ hbad => hbad)
  exact (hnext b after hafter).mono (fun _ _ => hafter.trans)
    fun _ _ => hafter.trans

theorem Repairs.tryCatch {work : Work α} {handler : Failure → Work α}
    (h : work.Repairs around store)
    (hhandler : ∀ failure after, store.Repaired after →
      (handler failure).Repairs around after) :
    (tryCatch work handler).Repairs around store := by
  refine Ends.tryCatch (h.mono (fun _ _ hok => hok)
    fun failure after hafter => ?_)
  exact (hhandler failure after hafter).mono (fun _ _ => hafter.trans)
    fun _ _ => hafter.trans

theorem Repairs.mapM {work : β → Work α} {rounds : List β}
    (h : store.tables.Referential)
    (hwork : ∀ b ∈ rounds, ∀ after, store.Repaired after →
      (work b).Repairs around after) :
    (rounds.mapM work).Repairs around store := by
  refine Ends.mapM store.Repaired (fun b hb after hafter => ?_) (.refl h)
  exact (hwork b hb after hafter).mono (fun _ _ => hafter.trans)
    fun _ _ => hafter.trans

/-- Work on the chunks of rows repairs a store, if it does on any of the rows. -/
theorem Repairs.inChunks {repair : Repair} {rows : List β}
    {work : List β → Work Nat} (h : store.tables.Referential)
    (hwork : ∀ chunk, (∀ row ∈ chunk, row ∈ rows) →
      ∀ after, store.Repaired after → (work chunk).Repairs around after) :
    (repair.inChunks rows work).Repairs around store := by
  refine Repairs.bind (Repairs.mapM h fun chunk hchunk => ?_)
    fun _ _ hafter => Repairs.pure hafter.referential
  exact hwork chunk fun row hrow => mem_of_mem_chunk hchunk hrow

/-- A statement that reads, outside of any transaction. -/
theorem repairs_send {s : Statement} (hread : ∀ db, s.apply db = db)
    (h : store.tables.Referential) : (send s).Repairs around store := by
  have hentered : store.Repaired (store.enter (.statement s)) :=
    (Store.Repaired.refl h).enter _
  refine Ends.send ?_ fun _ => hentered
  rw [hread]
  exact hentered

/-- A transaction of statements along which the references are good. -/
theorem repairs_sendAll {statements : List Statement}
    (halong : Statement.Along Referential statements store.tables) :
    (transaction (sendAll statements)).Repairs around store := by
  refine (ends_transaction_sendAll halong).mono ?_ ?_
  · rintro _ after ⟨hcommitted, htables⟩
    have hafter : after.tables.Referential := by
      rw [htables]
      exact halong.last
    refine ⟨hcommitted.extends halong.head hafter, hafter, ?_⟩
    rw [htables]
    exact grows_applyAll statements store.tables
  · intro _ after hrolled
    refine ⟨hrolled.extends halong.head, ?_, ?_⟩
    · rw [hrolled.tables]
      exact halong.head
    · rw [hrolled.tables]
      exact .refl store.tables

end Work

namespace Repair

open Work

variable {around : Surroundings} {store : Store} {repair : Repair}

/-! ## Logs -/

theorem writeLogs_eq (logs : List Log) (found : Recognition) :
    writeLogs logs found = transaction (sendAll ([.insertLog logs] ++
      (Statement.ofRows .insertToken found.tokens ++
        Statement.ofRows .insertTransfer found.transfers))) := by
  simp only [writeLogs, sendAll_append, insertSome_eq_sendAll, sendAll_singleton]

/-- Writing the logs of a transaction that has a row, with what they announce. -/
theorem along_writeLogs {db : Database} {txId : String} {logs : List Log}
    {found : Recognition} (h : db.Referential)
    (hdecoded : db.isDecoded txId = true) (hlogs : ∀ log ∈ logs, log.txId = txId)
    (hfound : Recognition.Sound txId [] logs found) :
    Statement.Along Referential ([.insertLog logs] ++
      (Statement.ofRows .insertToken found.tokens ++
        Statement.ofRows .insertTransfer found.transfers)) db := by
  have hinserted : (db.insertLogs logs).Referential :=
    h.insertLogs fun log hlog => by rw [hlogs log hlog]; exact hdecoded
  have htokens := hinserted.insertTokens found.tokens
  refine Statement.Along.append ⟨h, hinserted⟩ ?_
  refine Statement.Along.append (Statement.along_ofRows hinserted htokens) ?_
  rw [Statement.applyAll_ofRows rfl]
  refine Statement.along_ofRows htokens ?_
  refine htokens.insertTransfers ?_
  exact hasLog_and_hasToken_of_sound hfound hlogs
    (fun _ hlog => hasLog_insertLogs hlog) fun _ hmem => by cases hmem

/-- The result of a candidate has logs, and is bound to it. -/
theorem exists_of_execution? {row : Candidate.Unlogged} {execution : Execution}
    (h : row.execution? = some execution) :
    ∃ read, Execution.decode (row.response.map .text) = some read ∧ read.logs ≠ [] ∧
      execution = read.bind row.txId := by
  unfold Candidate.Unlogged.execution? at h
  obtain ⟨read, hread, hbound⟩ := Option.bind_eq_some_iff.1 h
  split at hbound
  · cases hbound
  · next hlogs =>
      cases hbound
      exact ⟨read, hread, fun hnone => hlogs (List.isEmpty_iff.2 hnone), rfl⟩

/-- The logs of a candidate carry its identifier. -/
theorem execution?_txId {row : Candidate.Unlogged} {execution : Execution}
    (h : row.execution? = some execution) :
    ∀ log ∈ execution.logs, log.txId = row.txId := by
  obtain ⟨read, -, -, rfl⟩ := exists_of_execution? h
  exact fun log hlog => Execution.bind_txId hlog

theorem repairs_logRow {row : Candidate.Unlogged} (h : store.tables.Referential)
    (hrow : store.tables.isDecoded row.txId = true) :
    (repair.logRow row).Repairs around store := by
  unfold logRow
  split
  · exact .pure h
  · next execution hexecution =>
      have hfound : Recognition.Sound row.txId [] execution.logs
          (Recognition.ofLogs repair.event row.txId (some row.height) []
            execution.logs) := Recognition.sound_ofLogs _ _ _ [] _
      have hwrite := along_writeLogs h hrow (execution?_txId hexecution) hfound
      refine Repairs.tryCatch (Repairs.bind ?_ fun _ _ hwritten =>
        .pure hwritten.referential) fun _ _ hafter => .pure hafter.referential
      rw [writeLogs_eq]
      exact repairs_sendAll hwrite

/-- The phase of the logs, from any place on. -/
theorem repairs_logsFrom {pages : List (List Candidate.Unlogged)}
    {place : Int × String} (h : store.tables.Referential)
    (hpages : ∀ page ∈ pages, ∀ row ∈ page,
      store.tables.isDecoded row.txId = true) :
    (repair.logsFrom place pages).Repairs around store := by
  induction pages generalizing place store with
  | nil =>
      exact (repairs_send (fun _ => rfl) h).bind fun _ _ hsent =>
        .pure hsent.referential
  | cons page rest ih =>
      refine (repairs_send (fun _ => rfl) h).bind fun _ sent hsent => ?_
      split
      · exact .pure hsent.referential
      · next last hlast =>
          refine Repairs.bind (Repairs.mapM hsent.referential ?_)
            fun counts paged hpaged => ?_
          · -- the tables only grew since the page was read
            intro row hrow after hafter
            have hgrows := (hsent.trans hafter).grows
            exact repairs_logRow hafter.referential
              (hgrows.isDecoded (hpages page (by simp) row hrow))
          · refine (ih hpaged.referential ?_).bind fun _ _ hlater =>
              .pure hlater.referential
            intro page' hpage' row hrow
            exact (hsent.trans hpaged).grows.isDecoded
              (hpages page' (by simp [hpage']) row hrow)

/-! ## Transfers -/

/-- What holds of the transfers and tokens recognized in announcements. -/
structure Moved (rows : List Candidate.Unmoved) (found : Recognition) :
    Prop where
  tokens : ∀ token ∈ found.tokens, Text.lower token.address = token.address
  transfers : ∀ transfer ∈ found.transfers,
    ∃ row ∈ rows, transferKey transfer = (row.txId, row.logIndex)
  covered : ∀ transfer ∈ found.transfers,
    transfer.tokenAddress ∈ found.tokens.map (·.address)

theorem moved_addUnmoved {rows : List Candidate.Unmoved} {found : Recognition}
    {row : Candidate.Unmoved} (h : Moved rows found) (hrow : row ∈ rows) :
    Moved rows (repair.addUnmoved found row) := by
  have hmore : Recognition.Sound row.txId
      ((found.tokens.map (·.address)).map Text.lower) [row.log]
      (Recognition.ofLogs repair.event row.txId row.height
        (found.tokens.map (·.address)) [row.log]) :=
    Recognition.sound_ofLogs _ _ _ _ _
  -- what was found is in lower case, so it is known by its own spelling
  have hlowered : (found.tokens.map (·.address)).map Text.lower =
      found.tokens.map (·.address) := by
    rw [List.map_map]
    exact List.map_congr_left h.tokens
  rw [hlowered] at hmore
  unfold addUnmoved
  refine ⟨fun token htoken => ?_, fun transfer htransfer => ?_,
    fun transfer htransfer => ?_⟩
  · rcases List.mem_append.1 htoken with hold | hnew
    · exact h.tokens token hold
    · exact (hmore.tokens token hnew).2
  · rcases List.mem_append.1 htransfer with hold | hnew
    · exact h.transfers transfer hold
    · obtain ⟨hid, log, hlog, hindex⟩ := hmore.transfers transfer hnew
      refine ⟨row, hrow, ?_⟩
      rw [transferKey, hid, ← hindex, List.mem_singleton.1 hlog]
      rfl
  · simp only [List.map_append, List.mem_append]
    rcases List.mem_append.1 htransfer with hold | hnew
    · exact Or.inl (h.covered transfer hold)
    · exact hmore.covered transfer hnew

theorem moved_recognizeChunk (repair : Repair) (chunk : List Candidate.Unmoved) :
    Moved chunk (repair.recognizeChunk chunk) := by
  have hstart : Moved chunk {} := ⟨by simp, by simp, by simp⟩
  exact List.foldlRecOn chunk repair.addUnmoved hstart
    fun _ h _ hrow => moved_addUnmoved h hrow

/-- Writing the transfers of logs that have a row, after their tokens. -/
theorem along_moved {db : Database} {rows : List Candidate.Unmoved}
    {found : Recognition} (h : db.Referential)
    (hrows : ∀ row ∈ rows, db.HasLog (row.txId, row.logIndex))
    (hfound : Moved rows found) :
    Statement.Along Referential
      [.insertToken found.tokens, .insertTransfer found.transfers] db := by
  have htokens := h.insertTokens found.tokens
  refine ⟨h, htokens, htokens.insertTransfers fun transfer htransfer => ⟨?_, ?_⟩⟩
  · obtain ⟨row, hrow, hkey⟩ := hfound.transfers transfer htransfer
    rw [hkey]
    exact hrows row hrow
  · obtain ⟨token, htoken, haddress⟩ :=
      List.mem_map.1 (hfound.covered transfer htransfer)
    rw [← haddress]
    exact hasToken_insertTokens htoken

theorem repairs_transferChunk {chunk : List Candidate.Unmoved}
    (h : store.tables.Referential)
    (hchunk : ∀ row ∈ chunk, store.tables.HasLog (row.txId, row.logIndex)) :
    (repair.transferChunk chunk).Repairs around store := by
  have hmoved := moved_recognizeChunk repair chunk
  unfold transferChunk
  simp only
  split
  · exact .pure h
  · refine Repairs.bind ?_ fun _ _ hwritten => .pure hwritten.referential
    rw [← sendAll_pair]
    exact repairs_sendAll (along_moved h hchunk hmoved)

theorem repairs_transfers {rows : List Candidate.Unmoved}
    (h : store.tables.Referential)
    (hrows : ∀ row ∈ rows, store.tables.HasLog (row.txId, row.logIndex)) :
    (repair.transfers rows).Repairs around store := by
  refine (repairs_send (fun _ => rfl) h).bind fun _ sent hsent => ?_
  refine Repairs.inChunks hsent.referential fun chunk hchunk after hafter => ?_
  refine repairs_transferChunk hafter.referential fun row hrow => ?_
  exact (hsent.trans hafter).grows.hasLog (hrows row (hchunk row hrow))

end Repair

end EvmIndexer
