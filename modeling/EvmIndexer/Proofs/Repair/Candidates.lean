import EvmIndexer.Proofs.Outcome.Coherence
import EvmIndexer.Proofs.Outcome.Stored
import EvmIndexer.Proofs.Repair.Phases

/-!
# Stored rows as candidates

A repair starts from rows that were stored, and the indexer from what it had
decoded. The two agree because little is lost between them. The logs of a result
are stored with their topics in lower case and their data marked as hexadecimal,
so a log that is read back as a candidate is the log that was stored, and the
search for announcements finds every log that announces a transfer, and perhaps
some with topics that hold no addresses. A transaction that is read back as a
creation has all that its contract was derived from.
-/

namespace EvmIndexer

open Database

/-! ## Logs -/

/-- The candidate that a stored log is, if it has the topic of the event and at least
three topics. -/
def Log.unmoved? (event : String) (height : Option Int) (log : Log) :
    Option Candidate.Unmoved :=
  if log.event? = some event ∧ 3 ≤ log.topics.length then
    some {
      txId := log.txId
      logIndex := log.index
      address := log.address
      topics := log.topics
      data := some log.data
      height := height }
  else none

/-- A log as the reader of responses writes it. -/
structure Log.Lowered (log : Log) : Prop where
  topics : ∀ topic ∈ log.topics, Text.lower topic = topic
  data : ∃ content, log.data = Bytes.Hex.marked content

theorem Execution.lowered_of_decode {raw : Option RawResponse} {execution : Execution}
    (h : decode raw = some execution) : ∀ log ∈ execution.logs, log.Lowered := by
  obtain ⟨message, -, -, hlogs⟩ := exists_of_decode h
  intro log hlog
  rw [hlogs, zipWith_storedLog] at hlog
  obtain ⟨i, hi, rfl⟩ := List.mem_mapIdx.1 hlog
  refine ⟨fun topic htopic => ?_, _, rfl⟩
  obtain ⟨written, -, rfl⟩ := List.mem_map.1 htopic
  exact Text.lower_lower written

theorem Execution.lowered_bind {raw : Option RawResponse} {execution : Execution}
    (h : decode raw = some execution) (txId : String) :
    ∀ log ∈ (execution.bind txId).logs, log.Lowered := by
  intro log hlog
  obtain ⟨unbound, hunbound, rfl⟩ := List.mem_map.1 hlog
  have hlowered := lowered_of_decode h unbound hunbound
  exact ⟨hlowered.topics, hlowered.data⟩

section Unmoved

variable {event : String} {height : Option Int} {log : Log} {row : Candidate.Unmoved}

/-- A stored log is read back as it is. -/
theorem Log.Lowered.of_unmoved? (h : log.Lowered)
    (hrow : log.unmoved? event height = some row) :
    row.log = log ∧ row.txId = log.txId ∧ row.height = height := by
  unfold Log.unmoved? at hrow
  split at hrow
  · cases hrow
    refine ⟨?_, rfl, rfl⟩
    obtain ⟨content, hmarked⟩ := h.data
    -- stored data is never taken for missing data
    have hdata : log.data ≠ "" := by
      rw [hmarked]
      exact Bytes.Hex.marked_ne_empty content
    simp only [Candidate.Unmoved.log]
  · cases hrow

/-- Every log that announces a transfer is found. -/
theorem Log.Lowered.exists_unmoved (h : log.Lowered)
    (hannounced : (log.announcement? event).isSome = true) (height : Option Int) :
    ∃ row, log.unmoved? event height = some row := by
  unfold Log.announcement? at hannounced
  split at hannounced
  · next first second third rest htopics =>
      split at hannounced
      · next hevent =>
          rw [h.topics first (by simp [htopics])] at hevent
          exact ⟨_, if_pos ⟨by simp [Log.event?, htopics, hevent], by simp [htopics]⟩⟩
      · cases hannounced
  · cases hannounced

/-- So the transfers of what is found are the transfers of the logs. -/
theorem filterMap_transfer?_unmoved? {logs : List Log} (h : ∀ log ∈ logs, log.Lowered)
    (event : String) (height : Option Int) :
    ((logs.filterMap (Log.unmoved? event height)).filterMap fun row =>
      row.log.transfer? event) = logs.filterMap (Log.transfer? event) := by
  rw [List.filterMap_filterMap]
  refine List.filterMap_congr fun log hlog => ?_
  cases hrow : log.unmoved? event height with
  | some row =>
      rw [Option.bind_some, ((h log hlog).of_unmoved? hrow).1]
  | none =>
      rw [Option.bind_none, Log.transfer?]
      cases hannounced : log.announcement? event with
      | none => rfl
      | some announced =>
          obtain ⟨row, hfound⟩ := (h log hlog).exists_unmoved
            (by rw [hannounced]; rfl) height
          rw [hfound] at hrow
          cases hrow

/-- And the tokens that they need are those that the logs need. -/
theorem emits_unmoved? {logs : List Log} (h : ∀ log ∈ logs, log.Lowered)
    (event : String) (height : Option Int) {address : String} :
    Emits event ((logs.filterMap (Log.unmoved? event height)).map (·.log)) address ↔
      Emits event logs address := by
  constructor
  · rintro ⟨_, hmem, hannounced, rfl⟩
    obtain ⟨row, hrow, rfl⟩ := List.mem_map.1 hmem
    obtain ⟨log, hlog, hfound⟩ := List.mem_filterMap.1 hrow
    rw [((h log hlog).of_unmoved? hfound).1] at hannounced ⊢
    exact ⟨log, hlog, hannounced, rfl⟩
  · rintro ⟨log, hlog, hannounced, rfl⟩
    obtain ⟨row, hfound⟩ := (h log hlog).exists_unmoved hannounced height
    have hrow := ((h log hlog).of_unmoved? hfound).1
    exact ⟨log, List.mem_map.2 ⟨row, List.mem_filterMap.2 ⟨log, hlog, hfound⟩, hrow⟩,
      hannounced, rfl⟩

end Unmoved

/-! ## Creations -/

/-- The candidate that a stored transaction is, if it is a successful creation with a
sender. -/
def Transaction.creation? (height : Option Int) (tx : Transaction) :
    Option Candidate.Creation :=
  if tx.recipient = none ∧ tx.status.code = 1 ∧ tx.sender ≠ "" then
    some {
      txId := tx.txId
      creator := tx.sender
      nonce := tx.nonce
      code := tx.data
      height := height }
  else none

theorem Status.code_eq_one_iff {status : Status} : status.code = 1 ↔ status = .success := by
  cases status <;> decide

/-- The contract of a candidate is the contract of its transaction. -/
theorem Contract.of_ofTransaction? {tx : Transaction} {height : Option Int}
    {contract : Option Contract} (h : ofTransaction? tx height = .ok contract) :
    (tx.creation? height = none ∧ contract = none) ∨
      ∃ row created, tx.creation? height = some row ∧ row.contract = .ok created ∧
        contract = some created := by
  unfold ofTransaction? at h
  split at h
  · next hcreates =>
      simp only [Bool.and_eq_true, Transaction.createsContract, Option.isNone_iff_eq_none,
        decide_eq_true_eq, bne_iff_ne, ne_eq] at hcreates
      obtain ⟨⟨hrecipient, hstatus⟩, hsender⟩ := hcreates
      rw [map_eq_pure_bind] at h
      obtain ⟨created, hcreated, hsome⟩ := exists_of_bind_eq_ok h
      cases hsome
      exact Or.inr ⟨_, created, if_pos ⟨hrecipient, Status.code_eq_one_iff.2 hstatus,
        hsender⟩, hcreated, rfl⟩
  · next hcreates =>
      cases h
      refine Or.inl ⟨if_neg fun hcreation => hcreates ?_, rfl⟩
      obtain ⟨hrecipient, hstatus, hsender⟩ := hcreation
      simp [Transaction.createsContract, hrecipient, Status.code_eq_one_iff.1 hstatus,
        hsender]

/-! ## Outcomes -/

namespace Outcome

variable {item : PendingItem} {known : List String} {response : Option String}
  {outcome : Outcome}

theorem Built.lowered (h : Built item known response outcome) :
    ∀ log ∈ outcome.logs, log.Lowered := by
  rcases h.logs_cases with ⟨hnone, -⟩ | ⟨read, hread, hlogs, -⟩
  · rw [hnone]
    exact fun _ hlog => nomatch hlog
  · rw [hlogs]
    exact Execution.lowered_bind hread item.txId

/-- The row of a token is told by its address. -/
theorem Built.eq_of_address_eq (h : Built item known response outcome)
    {token other : Token} (htoken : token ∈ outcome.tokens)
    (hother : other ∈ outcome.tokens) (heq : token.address = other.address) :
    token = other := by
  obtain ⟨_, -, -, rfl⟩ := h.mem_tokens_iff.1 htoken
  obtain ⟨_, -, -, rfl⟩ := h.mem_tokens_iff.1 hother
  exact congrArg _ heq

theorem Built.nodup_transferKey (h : Built item known response outcome) :
    (outcome.transfers.map transferKey).Nodup := by
  rw [h.transfers_eq]
  exact Database.nodup_transferKey transferTopic h.nodup_logKey

/-- The contract of a decoded item is that of its transaction as a candidate. -/
theorem Built.contract_cases (h : Built item known response outcome) :
    (outcome.transaction.creation? (some item.height) = none ∧ outcome.contract = none) ∨
      ∃ row created, outcome.transaction.creation? (some item.height) = some row ∧
        row.contract = .ok created ∧ outcome.contract = some created := by
  cases h with
  | placeholder => exact Or.inl ⟨rfl, rfl⟩
  | assembled signature hdecode hassemble =>
      obtain ⟨contract, hcontract, hassembled⟩ := exists_of_bind_eq_ok hassemble
      cases hassembled
      exact Contract.of_ofTransaction? hcontract

end Outcome

end EvmIndexer
