import EvmIndexer.Proofs.Contract.Derivation
import EvmIndexer.Proofs.Envelope.Canonical
import EvmIndexer.Proofs.Token.Recognition

/-!
# What an item leads to

Building an outcome reads the recorded response and asks about the signature.
All the rest is a function of the item, the tokens met before and the response:
`Outcome.derive`. An answer about the signature goes into the transaction row
only, so the logs, the tokens, the transfers and the contract are the derived
ones whoever is asked. `Outcome.Of` says that an outcome may have come from an
item, as what was derived or as the placeholder in its place.

Every row of such an outcome carries the identifier of the item: the transaction
and the logs as part of their keys, a transfer by the log that it is a view of,
a token as the transaction it was first seen in, a contract as its creation.

There always is a derived outcome: only a contract could fail to be derived, and
not that of a decoded transaction.
-/

namespace EvmIndexer

namespace Outcome

/-- The outcome with an answer about the signature. -/
def withSignature (outcome : Outcome) (signature : String) : Outcome :=
  { outcome with transaction := outcome.transaction.withSignature signature }

/-- What an item and the recorded response lead to, if nobody is asked about the
signature. -/
def derive (item : PendingItem) (known : List String)
    (response : Option String) : Except Contract.Fault Outcome :=
  match Transaction.decode (.text item.raw) item.txId item.gasUsed with
  | .error _ => .ok (placeholder item.txId)
  | .ok tx =>
    let execution := (Execution.decode (response.map .text)).map
      (Execution.bind item.txId)
    assemble item (tx.withExecution execution) execution
      (recognize item known execution)

/-- Whether an outcome may have come from an item: it is the derived one, with an
answer about the signature, or the placeholder. -/
def Of (item : PendingItem) (known : List String) (response : Option String)
    (outcome : Outcome) : Prop :=
  outcome = placeholder item.txId ∨ ∃ derived signature,
    derive item known response = .ok derived ∧
      outcome = derived.withSignature signature

/-- What holds of every outcome of an item, if `known` are the tokens met
before. -/
structure FromItem (item : PendingItem) (known : List String)
    (outcome : Outcome) : Prop where
  transaction : outcome.transaction.txId = item.txId
  logs : ∀ log ∈ outcome.logs, log.txId = item.txId
  recognized : Recognition.Sound item.txId (known.map Text.lower) outcome.logs
    ⟨outcome.tokens, outcome.transfers⟩
  contract : ∀ contract ∈ outcome.contract, contract.creationTx = item.txId

end Outcome

/-! ## The identifier -/

/-- A transaction that was decoded is the row of a parsed envelope. -/
theorem Transaction.exists_of_decode {raw : RawEnvelope} {txId : String}
    {gasUsed : Option Int} {tx : Transaction}
    (h : Transaction.decode raw txId gasUsed = .ok tx) :
    ∃ envelope parsed sender, parsed.sender? = some sender ∧
      tx = ofParsed txId gasUsed envelope parsed sender := by
  obtain ⟨envelope, -, hdecoded⟩ := exists_of_bind_eq_ok h
  obtain ⟨parsed, -, hparsed⟩ := exists_of_bind_eq_ok hdecoded
  obtain ⟨_, -, hchecked⟩ := exists_of_bind_eq_ok hparsed
  split at hchecked
  · next sender hsender =>
      cases hchecked
      exact ⟨envelope, parsed, sender, hsender, rfl⟩
  · cases hchecked

theorem Transaction.decode_txId {raw : RawEnvelope} {txId : String}
    {gasUsed : Option Int} {tx : Transaction}
    (h : Transaction.decode raw txId gasUsed = .ok tx) : tx.txId = txId := by
  obtain ⟨envelope, parsed, sender, -, rfl⟩ := Transaction.exists_of_decode h
  rfl

theorem Transaction.withExecution_txId (tx : Transaction)
    (execution : Option Execution) :
    (tx.withExecution execution).txId = tx.txId := by
  cases execution <;> rfl

theorem Transaction.withSignature_empty (tx : Transaction) :
    tx.withSignature "" = tx := if_pos rfl

theorem Transaction.withSignature_txId (tx : Transaction) (signature : String) :
    (tx.withSignature signature).txId = tx.txId := by
  unfold Transaction.withSignature
  split <;> rfl

/-- The identifier and the gas have their own columns and show in no other. -/
theorem Transaction.decode_as {raw : RawEnvelope} {txId : String}
    {gasUsed : Option Int} {tx : Transaction}
    (h : Transaction.decode raw txId gasUsed = .ok tx) (other : String)
    (gas : Option Int) :
    Transaction.decode raw other gas =
      .ok { tx with txId := other, gasUsed := gas } := by
  obtain ⟨envelope, henvelope, hdecoded⟩ := exists_of_bind_eq_ok h
  obtain ⟨parsed, hparsed, hrow⟩ := exists_of_bind_eq_ok hdecoded
  obtain ⟨_, hchecked, hsender⟩ := exists_of_bind_eq_ok hrow
  rw [Transaction.decode, henvelope, Envelope.ok_bind, Transaction.ofEnvelope, hparsed,
    Envelope.ok_bind, hchecked, Envelope.ok_bind]
  split at hsender
  · cases hsender
    rfl
  · cases hsender

theorem Transaction.decode_status {raw : RawEnvelope} {txId : String}
    {gasUsed : Option Int} {tx : Transaction}
    (h : Transaction.decode raw txId gasUsed = .ok tx) :
    tx.status = .success := by
  obtain ⟨envelope, parsed, sender, -, rfl⟩ := Transaction.exists_of_decode h
  rfl

theorem Transaction.derivable_of_decode {raw : RawEnvelope} {txId : String}
    {gasUsed : Option Int} {tx : Transaction}
    (h : Transaction.decode raw txId gasUsed = .ok tx) : tx.Derivable := by
  obtain ⟨_, _, _, hsender, rfl⟩ := Transaction.exists_of_decode h
  exact Transaction.derivable_ofParsed hsender

theorem Transaction.withExecution_status {tx : Transaction}
    (h : tx.status = .success) (execution : Option Execution) :
    (tx.withExecution execution).isPlaceholder = false := by
  cases execution with
  | none => simp [withExecution, isPlaceholder, h]
  | some execution =>
      simp only [withExecution, isPlaceholder]
      split <;> rfl

theorem Transaction.withSignature_isPlaceholder (tx : Transaction)
    (signature : String) :
    (tx.withSignature signature).isPlaceholder = tx.isPlaceholder := by
  unfold withSignature
  split <;> rfl

theorem Transaction.placeholder_isPlaceholder (txId : String) :
    (Transaction.placeholder txId).isPlaceholder = true := rfl

theorem Execution.bind_txId {txId : String} {execution : Execution} {log : Log}
    (h : log ∈ (execution.bind txId).logs) : log.txId = txId := by
  obtain ⟨unbound, -, rfl⟩ := List.mem_map.1 h
  rfl

/-- A contract does not depend on the signature. -/
theorem Contract.ofTransaction?_withSignature (tx : Transaction)
    (signature : String) (height : Option Int) :
    Contract.ofTransaction? (tx.withSignature signature) height =
      Contract.ofTransaction? tx height := by
  unfold Transaction.withSignature
  split <;> rfl

/-- A contract is that of a creation, and carries its transaction and its height. -/
theorem Contract.eq_of_ofTransaction? {tx : Transaction} {height : Option Int}
    {contract : Contract} (h : Contract.ofTransaction? tx height = .ok (some contract)) :
    ∃ address codeHash, contract =
      { address := address
        creator := Text.lower tx.sender
        creationTx := tx.txId
        creationHeight := height
        codeHash := codeHash } := by
  unfold Contract.ofTransaction? at h
  split at h
  · obtain ⟨created, hcreated, hsome⟩ := exists_of_bind_eq_ok (by
      rwa [map_eq_pure_bind] at h)
    cases hsome
    obtain ⟨address, -, hderived⟩ := exists_of_bind_eq_ok hcreated
    obtain ⟨codeHash, -, hhashed⟩ := exists_of_bind_eq_ok hderived
    cases hhashed
    exact ⟨address, codeHash, rfl⟩
  · cases h

theorem Contract.ofTransaction?_creationTx {tx : Transaction}
    {height : Option Int} {contract : Contract}
    (h : Contract.ofTransaction? tx height = .ok (some contract)) :
    contract.creationTx = tx.txId := by
  obtain ⟨address, codeHash, rfl⟩ := Contract.eq_of_ofTransaction? h
  rfl

namespace Outcome

variable {item : PendingItem} {known : List String} {response : Option String}
  {outcome : Outcome}

theorem assemble_withSignature (tx : Transaction) (execution : Option Execution)
    (found : Recognition) (signature : String) :
    assemble item (tx.withSignature signature) execution found =
      (assemble item tx execution found).map (·.withSignature signature) := by
  unfold assemble
  rw [Contract.ofTransaction?_withSignature]
  cases Contract.ofTransaction? tx (some item.height) <;> rfl

theorem fromItem_placeholder (item : PendingItem) (known : List String) :
    FromItem item known (placeholder item.txId) where
  transaction := rfl
  logs := by simp [placeholder]
  recognized := Recognition.sound_empty
  contract := by simp [placeholder]

theorem fromItem_assemble {tx : Transaction} {execution : Option Execution}
    (htx : tx.txId = item.txId)
    (h : assemble item tx (execution.map (Execution.bind item.txId))
      (recognize item known (execution.map (Execution.bind item.txId))) =
        .ok outcome) : FromItem item known outcome := by
  obtain ⟨contract, hcontract, hassembled⟩ := exists_of_bind_eq_ok h
  cases hassembled
  refine ⟨htx, ?_, ?_, ?_⟩
  · cases execution with
    | none => simp
    | some execution => exact fun log hlog => Execution.bind_txId hlog
  · cases execution with
    | none => exact Recognition.sound_empty
    | some execution => exact Recognition.sound_ofLogs _ _ _ _ _
  · intro created hcreated
    cases hcreated
    rw [Contract.ofTransaction?_creationTx hcontract, htx]

theorem FromItem.withSignature (h : FromItem item known outcome)
    (signature : String) :
    FromItem item known (outcome.withSignature signature) :=
  { h with
    transaction :=
      (Transaction.withSignature_txId _ signature).trans h.transaction }

theorem fromItem_derive {derived : Outcome}
    (h : derive item known response = .ok derived) :
    FromItem item known derived := by
  unfold derive at h
  split at h
  · cases h
    exact fromItem_placeholder item known
  · next tx hdecoded =>
      refine fromItem_assemble ?_ h
      rw [Transaction.withExecution_txId, Transaction.decode_txId hdecoded]

/-- Only an item that does not decode leads to a placeholder. -/
theorem eq_placeholder_of_derive (h : derive item known response = .ok outcome)
    (hplaceholder : outcome.isPlaceholder = true) :
    outcome = placeholder item.txId := by
  unfold derive at h
  split at h
  · cases h
    rfl
  · next tx hdecoded =>
      obtain ⟨contract, -, hassembled⟩ := exists_of_bind_eq_ok h
      cases hassembled
      have hnot := tx.withExecution_status (Transaction.decode_status hdecoded)
        ((Execution.decode (response.map .text)).map (Execution.bind item.txId))
      exact absurd hplaceholder (ne_true_of_eq_false hnot)

/-- Every row of an outcome carries the identifier of its item. -/
theorem Of.fromItem (h : Of item known response outcome) :
    FromItem item known outcome := by
  rcases h with rfl | ⟨derived, signature, hderived, rfl⟩
  · exact fromItem_placeholder item known
  · exact (fromItem_derive hderived).withSignature signature

/-! ## Every item leads to an outcome -/

theorem exists_assemble {tx : Transaction} (h : tx.Derivable)
    (execution : Option Execution) (found : Recognition) :
    ∃ outcome, assemble item tx execution found = .ok outcome := by
  obtain ⟨contract, hcontract⟩ := h.exists_contract (some item.height)
  unfold assemble
  rw [hcontract]
  exact ⟨_, rfl⟩

/-- The contract of a decoded transaction can be derived, so there is always an
outcome. -/
theorem exists_derive (item : PendingItem) (known : List String)
    (response : Option String) :
    ∃ derived, derive item known response = .ok derived := by
  unfold derive
  split
  · exact ⟨_, rfl⟩
  · next tx hdecoded =>
      have hderivable := Transaction.derivable_of_decode hdecoded
      exact exists_assemble (hderivable.withExecution _) _ _

/-- Only the contract of an outcome is not told by what it is put together of. -/
theorem exists_of_assemble {tx : Transaction} {execution : Option Execution}
    {found : Recognition} (h : assemble item tx execution found = .ok outcome) :
    ∃ contract, outcome =
      { transaction := tx
        logs := (execution.map (·.logs)).getD []
        tokens := found.tokens
        transfers := found.transfers
        contract := contract } := by
  obtain ⟨contract, -, hassembled⟩ := exists_of_bind_eq_ok h
  cases hassembled
  exact ⟨contract, rfl⟩

theorem transaction_of_assemble {tx : Transaction} {execution : Option Execution}
    {found : Recognition} (h : assemble item tx execution found = .ok outcome) :
    outcome.transaction = tx := by
  obtain ⟨contract, rfl⟩ := exists_of_assemble h
  rfl

/-! ## The tokens met before -/

theorem mem_addKnown {address : String} (h : address ∈ addKnown known outcome) :
    address ∈ known ∨ address ∈ outcome.tokenAddresses := by
  rcases List.mem_append.1 h with hknown | hnew
  · exact Or.inl hknown
  · exact Or.inr (List.mem_filter.1 hnew).1

theorem map_addKnown_placeholder (known : Option (List String)) (txId : String) :
    known.map (addKnown · (placeholder txId)) = known := by
  cases known with
  | none => rfl
  | some known => exact congrArg some (List.append_nil known)

/-- To take the tokens of an outcome back leaves none that was not known. -/
theorem mem_removeKnown_addKnown {address : String}
    (h : address ∈ removeKnown (addKnown known outcome) outcome) :
    address ∈ known := by
  obtain ⟨hadded, hnot⟩ := List.mem_filter.1 h
  rcases mem_addKnown hadded with hknown | hnew
  · exact hknown
  · rw [List.contains_iff_mem.2 hnew] at hnot
    cases hnot

end Outcome

end EvmIndexer
