import EvmIndexer.Proofs.Repair.References
import EvmIndexer.Proofs.Store.Verdict
import EvmIndexer.Proofs.Token.Emitters

/-!
# What the phases of a repair leave

Where no statement strikes a fault, a phase ends with its count and leaves tables
that are told by its candidates. The size of chunks has no part in it as far as
rows are inserted chunk by chunk, for inserting one list and then another is
inserting both. It does have a part in the tokens of the transfers, since every
chunk brings the tokens that its own transfers need; but a token has the same row
in every chunk, so what is inserted more than once is the same row.
-/

namespace EvmIndexer

open Database

/-- No statement strikes a fault. -/
def Surroundings.Faultless (around : Surroundings) : Prop :=
  ∀ position s, around.faults position s = none

namespace Work

variable {α β : Type} {around : Surroundings} {store : Store}

theorem Yields.tryCatch {work : Work α} {handler : Failure → Work α} {a : α}
    {tables : Database} (h : work.Yields around store a tables) :
    (tryCatch work handler).Yields around store a tables :=
  Ends.tryCatch (Ends.mono h (fun _ _ hok => hok) fun _ _ hfalse => hfalse.elim)

theorem Yields.mapM {work : β → Work α} {rounds : List β} (value : β → α)
    (step : Database → β → Database)
    (hwork : ∀ b ∈ rounds, ∀ after : Store,
      (work b).Yields around after (value b) (step after.tables b)) :
    (rounds.mapM work).Yields around store (rounds.map value)
      (rounds.foldl step store.tables) := by
  induction rounds generalizing store with
  | nil => exact Yields.pure rfl
  | cons b rest ih =>
      rw [List.mapM_cons, List.foldl_cons]
      refine (hwork b (by simp) store).bind fun after hafter _ => ?_
      have hrest : (rest.mapM work).Yields around after (rest.map value)
          (rest.foldl step after.tables) := ih fun b' hb' => hwork b' (by simp [hb'])
      rw [hafter] at hrest
      exact hrest.bind fun last hlast _ => Yields.pure hlast

variable (h : around.Faultless)

include h

theorem yields_sendAll_faultless (statements : List Statement) :
    (sendAll statements).Yields around store ()
      (Statement.applyAll statements store.tables) :=
  yields_sendAll (Surroundings.firstFault?_eq_none (fun s _ position => h position s) _)

theorem yields_send_read {s : Statement} (hs : s.isRead = true) :
    (send s).Yields around store () store.tables := by
  have hsent := @yields_sendAll_faultless around store h [s]
  rw [sendAll_singleton] at hsent
  rwa [← s.apply_of_isRead hs store.tables]

end Work

namespace Database

/-- The tables with logs and with what they announce. -/
def insertAnnounced (db : Database) (logs : List Log) (found : Recognition) : Database :=
  ((db.insertLogs logs).insertTokens found.tokens).insertTransfers found.transfers

/-- The tables with the tokens and the transfers that were recognized. -/
def insertFound (db : Database) (found : Recognition) : Database :=
  (db.insertTokens found.tokens).insertTransfers found.transfers

end Database

namespace Repair

open Work

variable {around : Surroundings} {store : Store} {repair : Repair}

theorem total_map_length {α β : Type} (f : α → List β) (as : List α) :
    total (as.map fun a => (f a).length) = (as.flatMap f).length := by
  induction as with
  | nil => rfl
  | cons a rest ih =>
      rw [List.map_cons, List.flatMap_cons, List.length_append, ← ih]
      rfl

/-! ## What is recognized chunk by chunk -/

/-- The transfers of a chunk are those that its announcements announce. -/
theorem transfers_recognizeChunk (repair : Repair) (chunk : List Candidate.Unmoved) :
    (repair.recognizeChunk chunk).transfers =
      chunk.filterMap fun row => row.log.transfer? repair.event := by
  have hfolded : ∀ found : Recognition, (chunk.foldl repair.addUnmoved found).transfers =
      found.transfers ++ chunk.filterMap fun row => row.log.transfer? repair.event := by
    induction chunk with
    | nil => exact fun found => (List.append_nil _).symm
    | cons row rest ih =>
        intro found
        have hrow : (Recognition.ofLogs repair.event row.txId row.height
            (found.tokens.map (·.address)) [row.log]).transfers =
              [row.log].filterMap (Log.transfer? repair.event) :=
          Recognition.transfers_ofLogs _ _ _ (by simp [Candidate.Unmoved.log])
        rw [List.foldl_cons, ih, addUnmoved, hrow, List.append_assoc]
        congr 1
        simp only [List.filterMap_cons, List.filterMap_nil]
        cases row.log.transfer? repair.event <;> rfl
  exact hfolded {}

/-- Every token of a chunk is the emitter of one of its transfers. -/
theorem exists_of_mem_recognizeChunk {chunk : List Candidate.Unmoved} {token : Token}
    (h : token ∈ (repair.recognizeChunk chunk).tokens) :
    ∃ row ∈ chunk, (row.log.announcement? repair.event).isSome = true ∧
      token = .firstSeen row.txId row.height (Text.lower row.log.address) := by
  have hfolded := List.foldlRecOn chunk repair.addUnmoved
    (motive := fun found => ∀ token ∈ found.tokens, ∃ row ∈ chunk,
      (row.log.announcement? repair.event).isSome = true ∧
        token = .firstSeen row.txId row.height (Text.lower row.log.address))
    (b := {}) (fun _ hnone => nomatch hnone) ?_
  · exact hfolded token h
  · intro found hfound row hrow token htoken
    rcases List.mem_append.1 htoken with hold | hnew
    · exact hfound token hold
    · obtain ⟨address, ⟨log, hlog, hannounced, rfl⟩, -, htoken⟩ :=
        Recognition.mem_tokens_ofLogs.1 hnew
      rw [List.mem_singleton.1 hlog] at hannounced htoken
      exact ⟨row, hrow, hannounced, htoken⟩

/-- A chunk has a token for every one of its transfers. -/
theorem exists_token_recognizeChunk {chunk : List Candidate.Unmoved}
    {row : Candidate.Unmoved} (hrow : row ∈ chunk)
    (hannounced : (row.log.announcement? repair.event).isSome = true) :
    ∃ token ∈ (repair.recognizeChunk chunk).tokens,
      token.address = Text.lower row.log.address := by
  obtain ⟨announced, hannounced⟩ := Option.isSome_iff_exists.1 hannounced
  have htransfer : row.log.transfer? repair.event = some {
      txId := row.log.txId
      logIndex := row.log.index
      tokenAddress := Text.lower row.log.address
      sender := announced.sender
      recipient := announced.recipient
      value := announced.value } := by rw [Log.transfer?, hannounced]; rfl
  have hcovered := (moved_recognizeChunk repair chunk).covered
  rw [transfers_recognizeChunk] at hcovered
  exact List.mem_map.1 (hcovered _ (List.mem_filterMap.2 ⟨row, hrow, htransfer⟩))

theorem tokens_eq_nil_of_transfers {chunk : List Candidate.Unmoved}
    (h : (repair.recognizeChunk chunk).transfers = []) :
    (repair.recognizeChunk chunk).tokens = [] := by
  rw [transfers_recognizeChunk, List.filterMap_eq_nil_iff] at h
  refine List.eq_nil_iff_forall_not_mem.2 fun token htoken => ?_
  obtain ⟨row, hrow, hannounced, -⟩ := exists_of_mem_recognizeChunk htoken
  have hnone := h row hrow
  rw [Log.transfer?, Option.map_eq_none_iff] at hnone
  rw [hnone] at hannounced
  cases hannounced

/-! ## Chunks -/

theorem flatMap_chunks_map {α β : Type} (size : Nat) (f : α → β) (rows : List α) :
    ((chunks size rows).flatMap fun chunk => chunk.map f) = rows.map f := by
  rw [List.flatMap_def, ← List.map_flatten, flatten_chunks]

theorem flatMap_chunks_filterMap {α β : Type} (size : Nat) (f : α → Option β)
    (rows : List α) :
    ((chunks size rows).flatMap fun chunk => chunk.filterMap f) = rows.filterMap f := by
  rw [List.flatMap_def, ← List.filterMap_flatten, flatten_chunks]

theorem transfers_chunks (repair : Repair) (rows : List Candidate.Unmoved) :
    ((chunks repair.size rows).flatMap fun chunk =>
      (repair.recognizeChunk chunk).transfers) =
        rows.filterMap fun row => row.log.transfer? repair.event := by
  simp only [transfers_recognizeChunk]
  exact flatMap_chunks_filterMap _ _ rows

/-- Chunks of announcements in one transaction need the tokens of all emitters. -/
theorem mem_tokens_chunks {rows : List Candidate.Unmoved} {txId : String}
    {height : Option Int} (hrows : ∀ row ∈ rows, row.txId = txId ∧ row.height = height)
    {token : Token} :
    (token ∈ (chunks repair.size rows).flatMap fun chunk =>
      (repair.recognizeChunk chunk).tokens) ↔
        ∃ address, Emits repair.event (rows.map (·.log)) address ∧
          token = .firstSeen txId height address := by
  -- the row of a token of any chunk is told by its address
  have hsound : ∀ {chunk token}, chunk ∈ chunks repair.size rows →
      token ∈ (repair.recognizeChunk chunk).tokens → ∃ row ∈ rows,
        (row.log.announcement? repair.event).isSome = true ∧
          token = .firstSeen txId height (Text.lower row.log.address) := by
    intro chunk token hchunk htoken
    obtain ⟨row, hrow, hannounced, rfl⟩ := exists_of_mem_recognizeChunk htoken
    have hmem := mem_of_mem_chunk hchunk hrow
    obtain ⟨hid, hheight⟩ := hrows row hmem
    exact ⟨row, hmem, hannounced, by rw [hid, hheight]⟩
  rw [List.mem_flatMap]
  constructor
  · rintro ⟨chunk, hchunk, htoken⟩
    obtain ⟨row, hrow, hannounced, rfl⟩ := hsound hchunk htoken
    exact ⟨_, ⟨row.log, List.mem_map_of_mem hrow, hannounced, rfl⟩, rfl⟩
  · rintro ⟨_, ⟨_, hlog, hannounced, rfl⟩, rfl⟩
    obtain ⟨row, hrow, rfl⟩ := List.mem_map.1 hlog
    rw [← flatten_chunks repair.size rows] at hrow
    obtain ⟨chunk, hchunk, hrow⟩ := List.mem_flatten.1 hrow
    obtain ⟨token, htoken, haddress⟩ := exists_token_recognizeChunk hrow hannounced
    obtain ⟨_, -, -, rfl⟩ := hsound hchunk htoken
    rw [← haddress]
    exact ⟨chunk, hchunk, htoken⟩

theorem foldl_insertContracts {α : Type} (contracts : α → List Contract) (as : List α)
    (db : Database) :
    as.foldl (fun db a => db.insertContracts (contracts a)) db =
      db.insertContracts (as.flatMap contracts) := by
  induction as generalizing db with
  | nil => rfl
  | cons a rest ih =>
      rw [List.foldl_cons, ih, List.flatMap_cons, insertContracts, insertContracts,
        insertContracts, List.foldl_append]

theorem foldl_insertFound {α : Type} (found : α → Recognition) (as : List α)
    (db : Database) :
    as.foldl (fun db a => db.insertFound (found a)) db =
      db.insertFound ⟨as.flatMap fun a => (found a).tokens,
        as.flatMap fun a => (found a).transfers⟩ := by
  induction as generalizing db with
  | nil => rfl
  | cons a rest ih =>
      rw [List.foldl_cons, ih]
      simp only [insertFound, insertTokens, insertTransfers, List.flatMap_cons,
        List.foldl_append]

/-! ## Logs -/

/-- The logs that a candidate is repaired with, and what they announce. -/
def logged (repair : Repair) (row : Candidate.Unlogged) : List Log × Recognition :=
  match row.execution? with
  | none => ([], {})
  | some execution => (execution.logs, Recognition.ofLogs repair.event row.txId
      (some row.height) [] execution.logs)

theorem mapM_contract {rows : List Candidate.Creation}
    {contract : Candidate.Creation → Contract}
    (hrows : ∀ row ∈ rows, row.contract = .ok (contract row)) :
    rows.mapM Candidate.Creation.contract = .ok (rows.map contract) := by
  induction rows with
  | nil => rfl
  | cons row rest ih =>
      rw [List.mapM_cons, hrows row (by simp), ih fun other hother =>
        hrows other (by simp [hother])]
      rfl

section Faultless

variable (h : around.Faultless)

include h

theorem yields_writeLogs (logs : List Log) (found : Recognition) :
    (writeLogs logs found).Yields around store ()
      (store.tables.insertAnnounced logs found) := by
  rw [writeLogs_eq]
  have hsent := @yields_sendAll_faultless around (store.enter .begin) h
    ([.insertLog logs] ++ (Statement.ofRows .insertToken found.tokens ++
      Statement.ofRows .insertTransfer found.transfers))
  rw [Statement.applyAll_append, Statement.applyAll_append,
    Statement.applyAll_ofRows rfl, Statement.applyAll_ofRows rfl] at hsent
  exact Yields.transaction hsent

theorem yields_logRow (row : Candidate.Unlogged) :
    (repair.logRow row).Yields around store (repair.logged row).1.length
      (store.tables.insertAnnounced (repair.logged row).1 (repair.logged row).2) := by
  unfold logRow logged
  cases row.execution? with
  | none => exact Yields.pure rfl
  | some execution =>
      have hwritten := @yields_writeLogs around store h execution.logs
        (Recognition.ofLogs repair.event row.txId (some row.height) [] execution.logs)
      exact Yields.tryCatch (hwritten.bind fun _ htables _ => Yields.pure htables)

/-- The phase of the logs with one page of candidates. -/
theorem yields_logs_page (rows : List Candidate.Unlogged) :
    (repair.logs [rows]).Yields around store
      (total (rows.map fun row => (repair.logged row).1.length))
      (rows.foldl (fun db row =>
        db.insertAnnounced (repair.logged row).1 (repair.logged row).2) store.tables) := by
  unfold logs logsFrom
  refine (yields_send_read h rfl).bind fun sent hsent _ => ?_
  cases hlast : rows.getLast? with
  | none =>
      rw [List.getLast?_eq_none_iff.1 hlast]
      exact Yields.pure hsent
  | some last =>
      have hpage : (rows.mapM repair.logRow).Yields around sent
          (rows.map fun row => (repair.logged row).1.length)
          (rows.foldl (fun db row =>
            db.insertAnnounced (repair.logged row).1 (repair.logged row).2) sent.tables) :=
        Yields.mapM (fun row => (repair.logged row).1.length)
          (fun db row => db.insertAnnounced (repair.logged row).1 (repair.logged row).2)
          fun row _ _ => yields_logRow h row
      rw [hsent] at hpage
      refine hpage.bind fun paged hpaged _ => ?_
      have hend : (repair.logsFrom (last.height, last.txId) []).Yields around paged 0
          paged.tables := by
        unfold logsFrom
        exact (yields_send_read h rfl).bind fun _ htables _ => Yields.pure htables
      rw [hpaged] at hend
      exact hend.bind fun _ htables _ => Yields.pure htables

/-- The phase of the logs with one candidate. -/
theorem yields_logs_singleton (row : Candidate.Unlogged) :
    (repair.logs [[row]]).Yields around store (repair.logged row).1.length
      (store.tables.insertAnnounced (repair.logged row).1 (repair.logged row).2) :=
  yields_logs_page h [row]

/-! ## Contracts -/

theorem yields_contractChunk {chunk : List Candidate.Creation}
    {contract : Candidate.Creation → Contract}
    (hchunk : ∀ row ∈ chunk, row.contract = .ok (contract row)) :
    (do
      let contracts ← contractRows chunk
      transaction (send (.insertContract contracts))
      return contracts.length : Work Nat).Yields around store chunk.length
        (store.tables.insertContracts (chunk.map contract)) := by
  have hrows : contractRows chunk = pure (chunk.map contract) := by
    rw [contractRows, mapM_contract hchunk]
  have hsent := @yields_sendAll_faultless around (store.enter .begin) h
    [.insertContract (chunk.map contract)]
  rw [sendAll_singleton] at hsent
  rw [hrows, pure_bind, List.length_map]
  exact (Yields.transaction hsent).bind fun _ htables _ => Yields.pure htables

/-- The phase of the contracts, if all candidates have one. -/
theorem yields_contracts {rows : List Candidate.Creation}
    {contract : Candidate.Creation → Contract}
    (hrows : ∀ row ∈ rows, row.contract = .ok (contract row)) :
    (repair.contracts rows).Yields around store rows.length
      (store.tables.insertContracts (rows.map contract)) := by
  unfold contracts inChunks
  refine (yields_send_read h rfl).bind fun sent hsent _ => ?_
  have hchunks : ((chunks repair.size rows).mapM fun chunk => (do
      let contracts ← contractRows chunk
      transaction (send (.insertContract contracts))
      return contracts.length : Work Nat)).Yields around sent _ _ :=
    Yields.mapM (fun chunk => chunk.length)
      (fun db chunk => db.insertContracts (chunk.map contract))
      fun chunk hchunk _ => yields_contractChunk h fun row hrow =>
        hrows row (mem_of_mem_chunk hchunk hrow)
  have hflat : (chunks repair.size rows).flatMap (·.map contract) = rows.map contract :=
    flatMap_chunks_map _ contract rows
  have htotal : total ((chunks repair.size rows).map fun chunk => chunk.length) =
      rows.length := by
    rw [total_map_length fun chunk => chunk, List.flatMap_id', flatten_chunks]
  rw [foldl_insertContracts, hsent, hflat] at hchunks
  rw [← htotal]
  exact hchunks.bind fun _ htables _ => Yields.pure htables

/-! ## Transfers -/

theorem yields_transferChunk (chunk : List Candidate.Unmoved) :
    (repair.transferChunk chunk).Yields around store
      (repair.recognizeChunk chunk).transfers.length
      (store.tables.insertFound (repair.recognizeChunk chunk)) := by
  unfold transferChunk
  simp only
  split
  · next hempty =>
      have htransfers := List.isEmpty_iff.1 hempty
      have hnone : repair.recognizeChunk chunk = {} := by
        rw [← tokens_eq_nil_of_transfers htransfers, ← htransfers]
      rw [hnone]
      exact Yields.pure rfl
  · have hsent := @yields_sendAll_faultless around (store.enter .begin) h
      [.insertToken (repair.recognizeChunk chunk).tokens,
        .insertTransfer (repair.recognizeChunk chunk).transfers]
    rw [sendAll_pair] at hsent
    exact (Yields.transaction hsent).bind fun _ htables _ => Yields.pure htables

theorem yields_transfers (rows : List Candidate.Unmoved) :
    (repair.transfers rows).Yields around store
      ((chunks repair.size rows).flatMap fun chunk =>
        (repair.recognizeChunk chunk).transfers).length
      (store.tables.insertFound
        ⟨(chunks repair.size rows).flatMap fun chunk => (repair.recognizeChunk chunk).tokens,
        (chunks repair.size rows).flatMap fun chunk =>
          (repair.recognizeChunk chunk).transfers⟩) := by
  unfold transfers inChunks
  refine (yields_send_read h rfl).bind fun sent hsent _ => ?_
  have hchunks : ((chunks repair.size rows).mapM repair.transferChunk).Yields around sent
      _ _ := Yields.mapM (fun chunk => (repair.recognizeChunk chunk).transfers.length)
        (fun db chunk => db.insertFound (repair.recognizeChunk chunk))
        fun chunk _ _ => yields_transferChunk h chunk
  rw [foldl_insertFound, hsent] at hchunks
  rw [← total_map_length]
  exact hchunks.bind fun _ htables _ => Yields.pure htables

end Faultless

end Repair

end EvmIndexer
