import EvmIndexer.Proofs.Outcome.Building
import EvmIndexer.Proofs.Response.Indexes

/-!
# No row of an outcome is lost to a key

An insertion leaves a row alone whose key is already there, and says nothing. So
a log is lost if its key is, and with it the transfer that it announces. Logs of
different transactions cannot be in each other's way; those of one transaction
are told apart by their indexes, and these are distinct because the reader of the
response sees to it. A transfer has the key of its log, and of one log there is
at most one transfer.
-/

namespace EvmIndexer

namespace Database

theorem transferKey_of_transfer? {event : String} {log : Log}
    {transfer : Transfer} (h : log.transfer? event = some transfer) :
    transferKey transfer = logKey log := by
  obtain ⟨announced, -, rfl⟩ := Option.map_eq_some_iff.1 h
  rfl

theorem map_transferKey (event : String) (logs : List Log) :
    (logs.filterMap (Log.transfer? event)).map transferKey =
      (logs.filter fun log => (log.transfer? event).isSome).map logKey := by
  induction logs with
  | nil => rfl
  | cons log rest ih =>
      cases htransfer : log.transfer? event with
      | none =>
          rw [List.filterMap_cons_none htransfer,
            List.filter_cons_of_neg (by simp [htransfer]), ih]
      | some transfer =>
          rw [List.filterMap_cons_some htransfer,
            List.filter_cons_of_pos (by simp [htransfer]), List.map_cons,
            List.map_cons, ih, transferKey_of_transfer? htransfer]

theorem nodup_transferKey (event : String) {logs : List Log}
    (h : (logs.map logKey).Nodup) :
    ((logs.filterMap (Log.transfer? event)).map transferKey).Nodup := by
  rw [map_transferKey]
  exact h.sublist (List.filter_sublist.map _)

end Database

theorem Execution.map_index_bind (txId : String) (execution : Execution) :
    (execution.bind txId).logs.map (·.index) =
      execution.logs.map (·.index) := by
  rw [bind, List.map_map]
  rfl

namespace Outcome

variable {item : PendingItem} {known : List String} {response : Option String}
  {outcome : Outcome}

theorem Built.nodup_index (h : Built item known response outcome) :
    (outcome.logs.map (·.index)).Nodup := by
  rcases h.logs_cases with ⟨hnone, -⟩ | ⟨read, hread, hlogs, -⟩
  · rw [hnone]
    exact List.nodup_nil
  · rw [hlogs, Execution.map_index_bind]
    exact Execution.nodup_of_decode hread

theorem Built.nodup_logKey (h : Built item known response outcome) :
    (outcome.logs.map Database.logKey).Nodup := by
  have hkeys : outcome.logs.map Database.logKey =
      (outcome.logs.map (·.index)).map (Prod.mk item.txId) := by
    rw [List.map_map]
    refine List.map_congr_left fun log hlog => ?_
    show (log.txId, log.index) = (item.txId, log.index)
    rw [h.fromItem.logs log hlog]
  rw [hkeys]
  exact h.nodup_index.map (Prod.mk_right_injective item.txId)

/-- The transfers that are built are those that the logs announce. -/
theorem Built.transfers_eq (h : Built item known response outcome) :
    outcome.transfers = outcome.logs.filterMap (Log.transfer? transferTopic) := by
  rcases h.logs_cases with ⟨hlogs, htransfers⟩ | ⟨read, -, hlogs, htransfers⟩
  · rw [hlogs, htransfers]
    rfl
  · rw [hlogs, htransfers]
    exact Recognition.transfers_ofLogs _ _ _ fun log hlog =>
      Execution.bind_txId hlog

/-- What an outcome leaves in tables that had no logs and transfers of its
transaction. -/
theorem Built.rows_addOutcome (h : Built item known response outcome)
    {db : Database} (hlogs : ∀ log ∈ db.logs, log.txId ≠ item.txId)
    (htransfers : ∀ transfer ∈ db.transfers, transfer.txId ≠ item.txId) :
    (db.addOutcome outcome).logs.filter (·.txId == item.txId) = outcome.logs ∧
    (db.addOutcome outcome).transfers.filter (·.txId == item.txId) =
      outcome.logs.filterMap (Log.transfer? transferTopic) := by
  have hfrom := h.fromItem
  rw [← h.transfers_eq]
  constructor
  · exact filter_insertAll_of_owner (fun _ _ hkey => congrArg Prod.fst hkey) hlogs
      hfrom.logs h.nodup_logKey
  · refine filter_insertAll_of_owner (fun _ _ hkey => congrArg Prod.fst hkey)
      htransfers (fun transfer htransfer =>
        (hfrom.recognized.transfers transfer htransfer).1) ?_
    rw [h.transfers_eq]
    exact Database.nodup_transferKey transferTopic h.nodup_logKey

open Work

variable {around : Surroundings} {store : Store}

theorem built_of_run {known known' : Option (List String)} {after : Store}
    (h : (build item known).run around store = (.ok (outcome, known'), after)) :
    Built item (known.getD []) (store.responses.lookup item.txId) outcome :=
  ((ends_build_built item known).of_run_ok h).1

theorem tables_of_save {after : Store}
    (h : (save outcome).run around store = (.ok (), after)) :
    after.tables = store.tables.addOutcome outcome := by
  have halong : Statement.Along (fun _ => True) outcome.statements store.tables :=
    Statement.along_of_forall (fun _ => trivial) _ _
  exact ((ends_save halong).of_run_ok h).2

/-- No log and no transfer is lost. The indexes of a result are distinct, whatever
it was read from; and of an outcome that was built, the logs are those of the
result, and storing it where the transaction has no logs and no transfers yet,
which works if the database takes the rows, leaves there exactly these logs, in
their order, and one transfer for each of them that announces one. -/
theorem stored_without_loss :
    (∀ raw execution, Execution.decode raw = some execution →
      (execution.logs.map (·.index)).Nodup) ∧
    ∀ (around : Surroundings) (store built : Store) (item : PendingItem)
      (known known' : Option (List String)) (outcome : Outcome),
      (build item known).run around store = (.ok (outcome, known'), built) →
      (outcome.isPlaceholder = false → ∀ execution, Execution.decode
        ((store.responses.lookup item.txId).map .text) = some execution →
          outcome.logs = (execution.bind item.txId).logs) ∧
      ∀ (writing : Surroundings) (before : Store),
        (∀ log ∈ before.tables.logs, log.txId ≠ item.txId) →
        (∀ transfer ∈ before.tables.transfers, transfer.txId ≠ item.txId) →
        (writing.Accepts outcome →
          ∃ after, (save outcome).run writing before = (.ok (), after)) ∧
        ∀ after, (save outcome).run writing before = (.ok (), after) →
          after.tables.logs.filter (·.txId == item.txId) = outcome.logs ∧
          after.tables.transfers.filter (·.txId == item.txId) =
            outcome.logs.filterMap (Log.transfer? transferTopic) := by
  refine ⟨fun _ _ hread => Execution.nodup_of_decode hread, ?_⟩
  intro around store built item known known' outcome hrun
  have hbuilt := built_of_run hrun
  refine ⟨fun hdecoded execution hread => ?_, ?_⟩
  · rw [hbuilt.logs_eq hdecoded, execution?, hread]
    rfl
  · intro writing before hlogs htransfers
    refine ⟨fun haccepts => ?_, fun after hsaved => ?_⟩
    · obtain ⟨after, hsaved, -⟩ := (yields_save haccepts).run
      exact ⟨after, hsaved⟩
    · rw [tables_of_save hsaved]
      exact hbuilt.rows_addOutcome hlogs htransfers

/-- A response with two logs, both of which have the index 7. -/
def twins : String :=
  "12210a154d7367457468657265756d5478526573706f6e736512081202400712024007"

theorem exists_read_twins :
    ∃ read, Execution.decode (some (.text twins)) = some read ∧
      (read.bind creation.txId).logs.map (·.index) = [0, 1] := by
  have hdecoded : (Execution.decode (some (.text twins))).map
      (fun read => (read.bind creation.txId).logs.map (·.index)) =
        some [0, 1] := by decide +kernel
  obtain ⟨read, hread, hindexes⟩ := Option.map_eq_some_iff.1 hdecoded
  exact ⟨read, hread, hindexes⟩

/-- Both are stored, numbered by their places. -/
theorem stored_without_loss_twins :
    let store : Store := { responses := [(creation.txId, twins)] }
    ∃ outcome known' built after,
      (build creation none).run {} store = (.ok (outcome, known'), built) ∧
      (save outcome).run {} {} = (.ok (), after) ∧
      after.tables.logs.filter (·.txId == creation.txId) = outcome.logs ∧
      outcome.logs.map (·.index) = [0, 1] := by
  intro store
  obtain ⟨read, hread, hindexes⟩ := exists_read_twins
  obtain ⟨tx, hdecode⟩ := exists_decode_creation
  obtain ⟨outcome, known', built, hrun, hbuilt⟩ :=
    @exists_built {} store creation none rfl
  obtain ⟨heq, hstored⟩ := stored_without_loss.2 {} store built creation none
    known' outcome hrun
  have hlookup : store.responses.lookup creation.txId = some twins :=
    List.lookup_cons_self
  rw [hlookup] at heq
  have hsame := heq (hbuilt.isPlaceholder_eq_false hdecode) read hread
  have haccepts : ({} : Surroundings).Accepts outcome := fun position =>
    Surroundings.firstFault?_eq_none (fun _ _ _ => rfl) position
  obtain ⟨hsaves, hrows⟩ := hstored {} {} (by simp) (by simp)
  obtain ⟨after, hsaved⟩ := hsaves haccepts
  refine ⟨outcome, known', built, after, hrun, hsaved, (hrows after hsaved).1, ?_⟩
  rw [hsame]
  exact hindexes

end Outcome

end EvmIndexer
