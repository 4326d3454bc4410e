import EvmIndexer.Proofs.Repair.Candidates
import EvmIndexer.Proofs.Store.Keyed

/-!
# Lost rows are restored

The repair derives rows from other inputs than the indexer does, from rows that it
reads back. Here it is shown that it derives the same rows: what an item left in
the tables can be deleted and comes back as it was. Without logs, tokens, transfers
and contracts, the phases of the logs and the contracts bring everything back, in
the same places. Without tokens and transfers alone, the phase of the transfers
brings them back, in whatever order the logs are found and whatever the size of
chunks; then the tables are the same by key.
-/

namespace EvmIndexer

open Database

namespace Database

/-- No row has the key of a row of an outcome. -/
structure Lacks (db : Database) (outcome : Outcome) : Prop where
  transactions : ∀ tx ∈ db.transactions, tx.txId ≠ outcome.transaction.txId
  logs : ∀ own ∈ outcome.logs, ∀ log ∈ db.logs, logKey log ≠ logKey own
  tokens : ∀ own ∈ outcome.tokens, ∀ token ∈ db.tokens, token.address ≠ own.address
  transfers : ∀ own ∈ outcome.transfers, ∀ transfer ∈ db.transfers,
    transferKey transfer ≠ transferKey own
  contracts : ∀ own ∈ outcome.contract.toList, ∀ contract ∈ db.contracts,
    contract.address ≠ own.address

/-- The tables without the tokens and the transfers of an outcome. -/
def withoutTransfers (db : Database) (outcome : Outcome) : Database :=
  { db with
    tokens := dropKeys (·.address) outcome.tokens db.tokens
    transfers := dropKeys transferKey outcome.transfers db.transfers }

/-- The tables without the rows of an outcome that are derived from others. -/
def withoutDerived (db : Database) (outcome : Outcome) : Database :=
  { db.withoutTransfers outcome with
    logs := dropKeys logKey outcome.logs db.logs
    contracts := dropKeys (·.address) outcome.contract.toList db.contracts }

/-- Two databases have the same queue and the same rows under every key. -/
structure SameTables (db other : Database) : Prop where
  pending : db.pending = other.pending
  transactions : SameRows (·.txId) db.transactions other.transactions
  logs : SameRows logKey db.logs other.logs
  tokens : SameRows (·.address) db.tokens other.tokens
  transfers : SameRows transferKey db.transfers other.transfers
  contracts : SameRows (·.address) db.contracts other.contracts

/-- The candidates that the stored rows of a transaction are. -/
def creationsOf (db : Database) (txId : String) (height : Option Int) :
    List Candidate.Creation :=
  (db.transactions.filter (·.txId == txId)).filterMap (Transaction.creation? height)

/-- The candidates that the stored logs of an outcome are. -/
def unmovedOf (db : Database) (event : String) (outcome : Outcome)
    (height : Option Int) : List Candidate.Unmoved :=
  (db.logs.filter fun log => outcome.logs.any (logKey · == logKey log)).filterMap
    (Log.unmoved? event height)

end Database

section Restoration

variable {item : PendingItem} {response : Option String} {outcome : Outcome}
  {db : Database} {repair : Repair}

/-! ## What is there after a deletion -/

theorem withoutTransfers_addOutcome (h : db.Lacks outcome) :
    (db.addOutcome outcome).withoutTransfers outcome =
      { db.addOutcome outcome with tokens := db.tokens, transfers := db.transfers } := by
  have htokens : dropKeys (·.address) outcome.tokens (db.addOutcome outcome).tokens =
      db.tokens := dropKeys_insertAll h.tokens
  have htransfers : dropKeys transferKey outcome.transfers
      (db.addOutcome outcome).transfers = db.transfers := dropKeys_insertAll h.transfers
  rw [withoutTransfers, htokens, htransfers]

theorem withoutDerived_addOutcome (h : db.Lacks outcome) :
    (db.addOutcome outcome).withoutDerived outcome =
      { db.addOutcome outcome with
        logs := db.logs
        tokens := db.tokens
        transfers := db.transfers
        contracts := db.contracts } := by
  have hlogs : dropKeys logKey outcome.logs (db.addOutcome outcome).logs = db.logs :=
    dropKeys_insertAll h.logs
  have hcontracts : dropKeys (·.address) outcome.contract.toList
      (db.addOutcome outcome).contracts = db.contracts := dropKeys_insertAll h.contracts
  rw [withoutDerived, hlogs, hcontracts, withoutTransfers_addOutcome h]

/-- The transaction of an outcome is the only one with its identifier. -/
theorem creationsOf_addOutcome (h : db.Lacks outcome)
    (hid : outcome.transaction.txId = item.txId) (height : Option Int) :
    (db.addOutcome outcome).creationsOf item.txId height =
      (outcome.transaction.creation? height).toList := by
  have hfiltered : (db.addOutcome outcome).transactions.filter (·.txId == item.txId) =
      [outcome.transaction] := by
    rw [← hid]
    exact filter_insertAll_of_owner (fun _ _ hkey => hkey) h.transactions (by simp)
      (List.nodup_singleton _)
  rw [creationsOf, hfiltered]
  cases hcreation : outcome.transaction.creation? height <;>
    simp [hcreation]

/-- The logs of an outcome are the only ones with their keys. -/
theorem unmovedOf_addOutcome (h : db.Lacks outcome)
    (hnodup : (outcome.logs.map logKey).Nodup) (event : String) (height : Option Int) :
    (db.addOutcome outcome).unmovedOf event outcome height =
      outcome.logs.filterMap (Log.unmoved? event height) := by
  have hlogs : (db.addOutcome outcome).logs = db.logs ++ outcome.logs :=
    insertAll_of_fresh hnodup h.logs
  have hold : (db.logs.filter fun log => outcome.logs.any (logKey · == logKey log)) = [] := by
    rw [List.filter_eq_nil_iff]
    intro log hlog
    simpa using fun own hown heq => h.logs own hown log hlog heq.symm
  have hown : (outcome.logs.filter fun log => outcome.logs.any (logKey · == logKey log)) =
      outcome.logs := by
    rw [List.filter_eq_self]
    intro log hlog
    simpa using ⟨log, hlog, rfl⟩
  rw [unmovedOf, hlogs, List.filter_append, hold, hown, List.nil_append]

/-! ## What the phases derive -/

/-- The phase of the logs derives the logs of the outcome and what they announce. -/
theorem logged_eq (h : Outcome.Built item [] response outcome)
    (hdecoded : outcome.isPlaceholder = false) (hevent : repair.event = transferTopic) :
    repair.logged ⟨item.txId, item.height, response⟩ =
      (outcome.logs, ⟨outcome.tokens, outcome.transfers⟩) := by
  rw [h.recognized, h.logs_eq hdecoded]
  unfold Repair.logged Candidate.Unlogged.execution? Outcome.execution?
  cases hread : Execution.decode (response.map .text) with
  | none => rfl
  | some execution =>
      by_cases hempty : execution.logs = []
      · simp [hempty, Execution.bind, Recognition.ofLogs]
      · simp [hempty, hevent]

/-- The phase of the contracts derives the contract of the outcome. -/
theorem yields_contracts_creation? {around : Surroundings} {store : Store}
    (h : Outcome.Built item [] response outcome) (hfaultless : around.Faultless) :
    (repair.contracts (outcome.transaction.creation? (some item.height)).toList).Yields
      around store outcome.contract.toList.length
      (store.tables.insertContracts outcome.contract.toList) := by
  rcases h.contract_cases with
    ⟨hnone, hcontract⟩ | ⟨row, created, hrow, hcreated, hcontract⟩
  · rw [hnone, hcontract]
    exact @Repair.yields_contracts _ _ _ hfaultless [] (fun _ => ⟨"", "", "", none, none⟩)
      fun _ hmem => nomatch hmem
  · rw [hrow, hcontract]
    exact Repair.yields_contracts hfaultless fun _ hmem => by
      rw [List.mem_singleton.1 hmem, hcreated]

section Moved

variable (h : Outcome.Built item [] response outcome) {rows : List Candidate.Unmoved}
  (hevent : repair.event = transferTopic)
  (hrows : rows.Perm (outcome.logs.filterMap
    (Log.unmoved? repair.event (some item.height))))

include h hevent hrows

/-- The phase of the transfers derives the transfers of the outcome. -/
theorem perm_transfers_chunks :
    ((chunks repair.size rows).flatMap fun chunk =>
      (repair.recognizeChunk chunk).transfers).Perm outcome.transfers := by
  rw [Repair.transfers_chunks, h.transfers_eq, ← hevent,
    ← filterMap_transfer?_unmoved? h.lowered repair.event (some item.height)]
  exact hrows.filterMap _

/-- And the same tokens, some of them perhaps more than once. -/
theorem mem_tokens_chunks_iff {token : Token} :
    (token ∈ (chunks repair.size rows).flatMap fun chunk =>
      (repair.recognizeChunk chunk).tokens) ↔ token ∈ outcome.tokens := by
  have howned : ∀ row ∈ rows, row.txId = item.txId ∧ row.height = some item.height := by
    intro row hrow
    obtain ⟨log, hlog, hfound⟩ := List.mem_filterMap.1 (hrows.mem_iff.1 hrow)
    obtain ⟨-, hid, hheight⟩ := (h.lowered log hlog).of_unmoved? hfound
    exact ⟨hid.trans (h.fromItem.logs log hlog), hheight⟩
  have hemits : ∀ address, Emits repair.event (rows.map (·.log)) address ↔
      Emits repair.event outcome.logs address := by
    intro address
    rw [← emits_unmoved? h.lowered repair.event (some item.height)]
    simp only [Emits, (hrows.map _).mem_iff]
  rw [Repair.mem_tokens_chunks howned, h.mem_tokens_iff, ← hevent]
  simp [hemits]

/-- So the tables are the same by key. -/
theorem sameTables_insertFound (hlacks : db.Lacks outcome) :
    (((db.addOutcome outcome).withoutTransfers outcome).insertFound
      ⟨(chunks repair.size rows).flatMap fun chunk => (repair.recognizeChunk chunk).tokens,
      (chunks repair.size rows).flatMap fun chunk =>
        (repair.recognizeChunk chunk).transfers⟩).SameTables (db.addOutcome outcome) := by
  rw [withoutTransfers_addOutcome hlacks]
  have hperm := perm_transfers_chunks h hevent hrows
  refine ⟨rfl, fun _ => rfl, fun _ => rfl, ?_, ?_, fun _ => rfl⟩
  · refine sameRows_insertAll (fun token => mem_tokens_chunks_iff h hevent hrows) ?_
    intro token htoken other hother heq
    exact h.eq_of_address_eq ((mem_tokens_chunks_iff h hevent hrows).1 htoken)
      ((mem_tokens_chunks_iff h hevent hrows).1 hother) heq
  · refine sameRows_insertAll (fun transfer => hperm.mem_iff) ?_
    intro transfer htransfer other hother heq
    exact List.inj_on_of_nodup_map h.nodup_transferKey (hperm.mem_iff.1 htransfer)
      (hperm.mem_iff.1 hother) heq

end Moved

end Restoration

/-- What an item left can be deleted and is restored. Let an outcome be built for an
item that decodes, with no tokens known, and be stored in tables that have none of
its keys. If its logs, tokens, transfers and contract are deleted, the phase of the
logs with the item as its candidate and then the phase of the contracts, with the
candidates that are the stored rows of the transaction, leave the tables as they
were. If its tokens and transfers alone are deleted, so does the phase of the
transfers with the candidates that are the stored logs, by key, in whatever order it
finds them and whatever the size of its chunks. -/
theorem restored (item : PendingItem) (tx : Transaction) (known known' : Option (List String))
    (outcome : Outcome) (around writing repairing : Surroundings)
    (store built before saved : Store) (repair : Repair)
    (hdecode : Transaction.decode (.text item.raw) item.txId item.gasUsed = .ok tx)
    (hknown : known.getD [] = [])
    (hbuild : (Outcome.build item known).run around store = (.ok (outcome, known'), built))
    (hlacks : before.tables.Lacks outcome)
    (hsave : (Work.save outcome).run writing before = (.ok (), saved))
    (hevent : repair.event = transferTopic) (hfaultless : repairing.Faultless) :
    (∀ emptied : Store, emptied.tables = saved.tables.withoutDerived outcome →
      ∃ logged repaired,
        (repair.logs [[⟨item.txId, item.height,
          store.responses.lookup item.txId⟩]]).run repairing emptied =
            (.ok outcome.logs.length, logged) ∧
        (repair.contracts (logged.tables.creationsOf item.txId (some item.height))).run
          repairing logged = (.ok outcome.contract.toList.length, repaired) ∧
        repaired.tables = saved.tables) ∧
    ∀ (emptied : Store) (rows : List Candidate.Unmoved),
      emptied.tables = saved.tables.withoutTransfers outcome →
      rows.Perm (emptied.tables.unmovedOf repair.event outcome (some item.height)) →
      ∃ repaired,
        (repair.transfers rows).run repairing emptied =
          (.ok outcome.transfers.length, repaired) ∧
        repaired.tables.SameTables saved.tables := by
  have hbuilt := Outcome.built_of_run hbuild
  rw [hknown] at hbuilt
  have hdecoded := hbuilt.isPlaceholder_eq_false hdecode
  rw [Outcome.tables_of_save hsave]
  constructor
  · intro emptied hemptied
    rw [withoutDerived_addOutcome hlacks] at hemptied
    have hphase := @Repair.yields_logs_singleton repairing emptied repair hfaultless
      ⟨item.txId, item.height, store.responses.lookup item.txId⟩
    rw [logged_eq hbuilt hdecoded hevent] at hphase
    obtain ⟨logged, hlogs, hlogged, -⟩ := hphase.run
    -- the phase of the logs leaves the transactions as they are
    have hcreations : logged.tables.creationsOf item.txId (some item.height) =
        (outcome.transaction.creation? (some item.height)).toList := by
      rw [← creationsOf_addOutcome hlacks hbuilt.fromItem.transaction, hlogged, hemptied]
      rfl
    obtain ⟨repaired, hcontracts, htables, -⟩ :=
      (@yields_contracts_creation? _ _ _ repair repairing logged hbuilt hfaultless).run
    refine ⟨logged, repaired, hlogs, ?_, ?_⟩
    · rw [hcreations, hcontracts]
    · rw [htables, hlogged, hemptied]
      rfl
  · intro emptied rows hemptied hrows
    have hunmoved : emptied.tables.unmovedOf repair.event outcome (some item.height) =
        outcome.logs.filterMap (Log.unmoved? repair.event (some item.height)) := by
      rw [← unmovedOf_addOutcome hlacks hbuilt.nodup_logKey, hemptied]
      rfl
    rw [hunmoved] at hrows
    obtain ⟨repaired, hrun, htables, -⟩ :=
      (@Repair.yields_transfers repairing emptied repair hfaultless rows).run
    refine ⟨repaired, ?_, ?_⟩
    · rw [hrun, (perm_transfers_chunks hbuilt hevent hrows).length_eq]
    · rw [htables, hemptied]
      exact sameTables_insertFound hbuilt hevent hrows hlacks

/-- The contract and the log of a creation are restored, and its transfer with
nothing but the log. -/
theorem restored_creation :
    let item := Outcome.creation
    let response := Outcome.announcing
    ∃ outcome known' built saved,
      (Outcome.build item none).run {} { responses := [(item.txId, response)] } =
        (.ok (outcome, known'), built) ∧
      (Work.save outcome).run {} {} = (.ok (), saved) ∧
      outcome.transfers.length = 1 ∧
      (∃ logged repaired,
        (Repair.logs {} [[⟨item.txId, item.height, some response⟩]]).run {}
          { saved with tables := saved.tables.withoutDerived outcome } =
            (.ok outcome.logs.length, logged) ∧
        (Repair.contracts {} (logged.tables.creationsOf item.txId (some item.height))).run
          {} logged = (.ok outcome.contract.toList.length, repaired) ∧
        repaired.tables = saved.tables) ∧
      ∃ repaired,
        (Repair.transfers {} (saved.tables.unmovedOf transferTopic outcome
          (some item.height))).run {}
            { saved with tables := saved.tables.withoutTransfers outcome } =
              (.ok 1, repaired) ∧
        repaired.tables.SameTables saved.tables := by
  intro item response
  let store : Store := { responses := [(item.txId, response)] }
  obtain ⟨tx, hdecode⟩ := Outcome.exists_decode_creation
  obtain ⟨outcome, known', built, hbuild, hbuilt⟩ :=
    @Outcome.exists_built {} store item none rfl
  have hlookup : store.responses.lookup item.txId = some response :=
    List.lookup_cons_self
  have htransfers : outcome.transfers.length = 1 := by
    rw [hlookup] at hbuilt
    have hannounces : Outcome.Announces item.txId outcome := Outcome.Built.announces hbuilt
    rw [hannounces.transfers]
    rfl
  have hlacks : ({} : Store).tables.Lacks outcome := by
    constructor <;> simp
  have haccepts : ({} : Surroundings).Accepts outcome := fun position =>
    Surroundings.firstFault?_eq_none (fun _ _ _ => rfl) position
  obtain ⟨saved, hsave, -⟩ := (@Work.yields_save {} {} outcome haccepts).run
  obtain ⟨hderived, hmoved⟩ := restored item tx none known' outcome {} {} {} store built {}
    saved {} hdecode rfl hbuild hlacks hsave rfl fun _ _ => rfl
  rw [hlookup] at hderived
  rw [htransfers] at hmoved
  exact ⟨outcome, known', built, saved, hbuild, hsave, htransfers, hderived _ rfl,
    hmoved _ _ rfl (.refl _)⟩

end EvmIndexer
