import EvmIndexer.Proofs.Outcome.Building
import EvmIndexer.Proofs.Response.Indexes
import EvmIndexer.Proofs.Token.Emitters

/-!
# The parts of an outcome fit together

An outcome is put together of four parts that are found one after the other: the
transaction, what its execution left, what is recognized in the logs, and the
contract. They meet in few places. The execution decides the status and the gas of
the transaction, and the status decides whether there is a contract. The logs carry
the identifier of the item, and what is recognized in them carries it too. The
tokens are those that were not known, so adding them to the known ones adds each of
them once.

An answer about the signature has no part in any of this. `Coherent` therefore says
nothing of the two columns of the function.
-/

namespace EvmIndexer

/-! ## The transaction -/

namespace Transaction

theorem withSignature_status (tx : Transaction) (signature : String) :
    (tx.withSignature signature).status = tx.status := by
  unfold withSignature
  split <;> rfl

theorem withSignature_gasUsed (tx : Transaction) (signature : String) :
    (tx.withSignature signature).gasUsed = tx.gasUsed := by
  unfold withSignature
  split <;> rfl

/-- The same row up to the columns that no envelope tells: those of the execution and of
the function. -/
def SameEnvelope (tx other : Transaction) : Prop :=
  tx = { other with
    gasUsed := tx.gasUsed
    status := tx.status
    functionName := tx.functionName
    functionSignature := tx.functionSignature }

theorem sameEnvelope_enriched (tx : Transaction) (execution : Option Execution)
    (signature : String) :
    ((tx.withExecution execution).withSignature signature).SameEnvelope tx := by
  unfold SameEnvelope withSignature
  cases execution <;> split <;> rfl

theorem decode_gasUsed {raw : RawEnvelope} {txId : String} {gasUsed : Option Int}
    {tx : Transaction} (h : decode raw txId gasUsed = .ok tx) : tx.gasUsed = gasUsed := by
  obtain ⟨envelope, parsed, sender, -, rfl⟩ := exists_of_decode h
  rfl

section Execution

variable {tx : Transaction} {read : Option Execution} {txId : String}

/-- Binding the logs of a result leaves its gas and its error. -/
theorem withExecution_gasUsed :
    (tx.withExecution (read.map (Execution.bind txId))).gasUsed =
      (read.map fun execution => Int.ofNat execution.gasUsed).or tx.gasUsed := by
  cases read <;> rfl

/-- A success becomes a failure through a result that tells an error, and in no other
way. -/
theorem withExecution_failure_iff (h : tx.status = .success) :
    (tx.withExecution (read.map (Execution.bind txId))).status = .failure ↔
      ∃ execution ∈ read, execution.vmError.isSome = true := by
  cases read with
  | none => simp [withExecution, h]
  | some execution => simp [withExecution, Execution.bind, Option.isSome_iff_ne_none]

theorem withExecution_success (h : tx.status = .success)
    (hnot : (tx.withExecution (read.map (Execution.bind txId))).status ≠ .failure) :
    (tx.withExecution (read.map (Execution.bind txId))).status = .success := by
  cases read with
  | none => exact h
  | some execution =>
      simp only [Option.map_some, withExecution] at hnot ⊢
      split at hnot
      · exact absurd rfl hnot
      · next hvm => exact if_neg hvm

end Execution

end Transaction

/-! ## The contract -/

theorem Transaction.Derivable.sender_ne_empty {tx : Transaction} (h : tx.Derivable) :
    tx.sender ≠ "" := by
  obtain ⟨address, -, hsender⟩ := h.sender
  rw [hsender]
  exact Address.checksummed_ne_empty address

/-- There is a contract for exactly the successful creations, if there is a sender. -/
theorem Contract.isSome_ofTransaction?_iff {tx : Transaction} {height : Option Int}
    {contract : Option Contract} (hsender : tx.sender ≠ "")
    (h : Contract.ofTransaction? tx height = .ok contract) :
    contract.isSome = true ↔ tx.recipient = none ∧ tx.status = .success := by
  have hcreates : (tx.createsContract && tx.status = .success && tx.sender != "") = true ↔
      tx.recipient = none ∧ tx.status = .success := by
    simp [Transaction.createsContract, hsender]
  rw [← hcreates]
  unfold Contract.ofTransaction? at h
  split at h
  · next htrue =>
      rw [map_eq_pure_bind] at h
      obtain ⟨created, -, hsome⟩ := exists_of_bind_eq_ok h
      cases hsome
      exact iff_of_true rfl htrue
  · next hfalse =>
      cases h
      exact iff_of_false Bool.false_ne_true hfalse

namespace Outcome

variable {item : PendingItem} {known : List String} {response : Option String}
  {outcome : Outcome}

/-! ## The tokens and the transfers -/

theorem Built.mem_tokens_iff (h : Built item known response outcome) {token : Token} :
    token ∈ outcome.tokens ↔ ∃ address, Emits transferTopic outcome.logs address ∧
      address ∉ known.map Text.lower ∧
        token = .firstSeen item.txId (some item.height) address := by
  rw [← Recognition.mem_tokens_ofLogs, ← h.recognized]

theorem Built.firstSeen (h : Built item known response outcome) {token : Token}
    (htoken : token ∈ outcome.tokens) :
    token.firstSeenTx = some item.txId ∧ token.firstSeenHeight = some item.height := by
  obtain ⟨address, -, -, rfl⟩ := h.mem_tokens_iff.1 htoken
  exact ⟨rfl, rfl⟩

/-- No token of an outcome was known. Its address is in lower case, so if it were known
it would be known in lower case. -/
theorem Built.not_known (h : Built item known response outcome) {address : String}
    (haddress : address ∈ outcome.tokenAddresses) : address ∉ known := by
  obtain ⟨token, htoken, rfl⟩ := List.mem_map.1 haddress
  obtain ⟨emitter, ⟨log, -, -, rfl⟩, hnew, rfl⟩ := h.mem_tokens_iff.1 htoken
  intro hknown
  refine hnew (List.mem_map.2 ⟨_, hknown, ?_⟩)
  exact Text.lower_lower log.address

theorem mem_addKnown_iff {address : String} :
    address ∈ addKnown known outcome ↔ address ∈ known ∨ address ∈ outcome.tokenAddresses := by
  refine ⟨mem_addKnown, fun h => ?_⟩
  by_cases hknown : address ∈ known
  · exact List.mem_append_left _ hknown
  · have hadded := h.resolve_left hknown
    exact List.mem_append_right _ (List.mem_filter.2 ⟨hadded, by simpa using hknown⟩)

/-! ## The whole -/

/-- How the parts of the outcome of a decoded item fit together: `tx` is the
transaction as it was decoded, `known` are the tokens met before, and `read` is the
result of the execution, if the response has one. -/
structure Coherent (item : PendingItem) (known : List String) (tx : Transaction)
    (read : Option Execution) (outcome : Outcome) : Prop where
  transaction : outcome.transaction.SameEnvelope tx
  failure : outcome.transaction.status = .failure ↔
    ∃ execution ∈ read, ∃ text ∈ execution.vmError, text ≠ ""
  success : outcome.transaction.status ≠ .failure → outcome.transaction.status = .success
  gasUsed : outcome.transaction.gasUsed =
    (read.map fun execution => Int.ofNat execution.gasUsed).or item.gasUsed
  logs : outcome.logs = (read.map fun execution => (execution.bind item.txId).logs).getD []
  contract : outcome.contract.isSome = true ↔
    outcome.transaction.recipient = none ∧ outcome.transaction.status = .success
  txId : outcome.transaction.txId = item.txId
  logsOwned : ∀ log ∈ outcome.logs, log.txId = item.txId
  tokensOwned : ∀ token ∈ outcome.tokens,
    token.firstSeenTx = some item.txId ∧ token.firstSeenHeight = some item.height
  transfersOwned : ∀ transfer ∈ outcome.transfers, transfer.txId = item.txId
  contractOwned : ∀ contract ∈ outcome.contract,
    contract.creationTx = item.txId ∧ contract.creationHeight = some item.height
  viewsLog : ∀ transfer ∈ outcome.transfers,
    ∃ log ∈ outcome.logs, log.index = transfer.logIndex
  covered : ∀ transfer ∈ outcome.transfers,
    transfer.tokenAddress ∈ outcome.tokenAddresses ∨
      transfer.tokenAddress ∈ known.map Text.lower

/-- The fields of an outcome are read off what it is put together of. The status of a
decoded transaction is a success until its execution says otherwise, and an answer about
the signature changes neither the status nor the gas. -/
theorem Built.coherent (h : Built item known response outcome) {tx : Transaction}
    (hdecode : Transaction.decode (.text item.raw) item.txId item.gasUsed = .ok tx) :
    Coherent item known tx (Execution.decode (response.map .text)) outcome := by
  have hitem := h.fromItem
  have hsuccess := Transaction.decode_status hdecode
  have hderivable := Transaction.derivable_of_decode hdecode
  have htokens : ∀ token ∈ outcome.tokens,
      token.firstSeenTx = some item.txId ∧ token.firstSeenHeight = some item.height :=
    fun token htoken => h.firstSeen htoken
  cases h with
  | placeholder hrefused => cases hdecode.symm.trans hrefused
  | assembled signature hdecoded hassemble =>
      cases hdecode.symm.trans hdecoded
      obtain ⟨contract, hcontract, hassembled⟩ := exists_of_bind_eq_ok hassemble
      cases hassembled
      have hsender := ((hderivable.withExecution
        (execution? item response)).withSignature signature).sender_ne_empty
      have hstatus := (tx.withExecution (execution? item response)).withSignature_status
        signature
      have hgas := (tx.withExecution (execution? item response)).withSignature_gasUsed
        signature
      exact {
        transaction := tx.sameEnvelope_enriched _ signature
        failure := by
          rw [hstatus, execution?, Transaction.withExecution_failure_iff hsuccess]
          refine exists_congr fun execution => and_congr_right fun hread => ?_
          rw [Option.isSome_iff_exists]
          refine exists_congr fun text => (and_iff_left_of_imp fun htext => ?_).symm
          exact Execution.vmError_ne_empty_of_decode hread htext
        success := by
          rw [hstatus]
          exact Transaction.withExecution_success hsuccess
        gasUsed := by
          rw [hgas, ← Transaction.decode_gasUsed hdecode]
          exact Transaction.withExecution_gasUsed
        logs := by
          rw [execution?, Option.map_map]
          rfl
        contract := Contract.isSome_ofTransaction?_iff hsender hcontract
        txId := hitem.transaction
        logsOwned := hitem.logs
        tokensOwned := htokens
        transfersOwned := fun transfer htransfer =>
          (hitem.recognized.transfers transfer htransfer).1
        contractOwned := fun created hcreated => by
          refine ⟨hitem.contract created hcreated, ?_⟩
          cases hcreated
          obtain ⟨address, codeHash, rfl⟩ := Contract.eq_of_ofTransaction? hcontract
          rfl
        viewsLog := fun transfer htransfer =>
          (hitem.recognized.transfers transfer htransfer).2
        covered := fun transfer htransfer =>
          (hitem.recognized.covered transfer htransfer).symm }

open Work

variable {around : Surroundings} {store : Store}

/-- Whatever an item contains, whatever was recorded about it, whatever tokens were met
before and whatever is said about its signature: once the response has been read, there
is an outcome, and it is the bare placeholder or its parts fit together. The known
tokens grow by those of the outcome, none of which was among them. -/
theorem build_coherent (item : PendingItem) (known : Option (List String))
    (hread : around.faults store.journal.length (.selectResponse item.txId) = none) :
    ∃ outcome known' after,
      (build item known).run around store = (.ok (outcome, known'), after) ∧
      (∀ refusal, Transaction.decode (.text item.raw) item.txId item.gasUsed =
          .error refusal →
        outcome = ⟨.placeholder item.txId, [], [], [], none⟩) ∧
      (∀ tx, Transaction.decode (.text item.raw) item.txId item.gasUsed = .ok tx →
        Coherent item (known.getD []) tx
          (Execution.decode ((store.responses.lookup item.txId).map .text)) outcome) ∧
      (known = none → known' = none) ∧
      (∀ met, known = some met → ∃ met', known' = some met' ∧
        ∀ address, address ∈ met' ↔ address ∈ met ∨ address ∈ outcome.tokenAddresses) ∧
      ∀ address ∈ outcome.tokenAddresses, address ∉ known.getD [] := by
  rcases (ends_build_built item known).run with
    ⟨⟨outcome, known'⟩, after, hrun, hbuilt, hmap, -⟩ | ⟨_, _, -, fault, hfault, -⟩
  · have hknown : known' = known.map (addKnown · outcome) := hmap
    refine ⟨outcome, known', after, hrun, fun refusal hrefused => ?_,
      fun tx hdecode => hbuilt.coherent hdecode, fun hnone => ?_, fun met hmet => ?_,
      fun address haddress => hbuilt.not_known haddress⟩
    · cases hbuilt with
      | placeholder => rfl
      | assembled signature hdecode => cases hrefused.symm.trans hdecode
    · rw [hknown, hnone]
      rfl
    · rw [hmet] at hknown
      exact ⟨addKnown met outcome, hknown, fun address => mem_addKnown_iff⟩
  · rw [hread] at hfault
    cases hfault

/-- A creation whose execution told an error is a failure, has the gas of the execution
and leaves no contract. -/
theorem build_coherent_reverted :
    let around : Surroundings := {}
    let store : Store :=
      { responses := [(creation.txId, "12270a154d7367457468657265756d5478526573706f6e73" ++
          "65120e220872657665727465642888a401")] }
    around.faults store.journal.length (.selectResponse creation.txId) = none ∧
    ∃ outcome known' after,
      (build creation (some [])).run around store = (.ok (outcome, known'), after) ∧
      outcome.transaction.status = .failure ∧
      outcome.transaction.gasUsed = some 21000 ∧
      outcome.contract = none := by
  intro around store
  obtain ⟨tx, hdecode⟩ := exists_decode_creation
  obtain ⟨outcome, known', after, hrun, -, hcoherent, -⟩ :=
    @build_coherent around store creation (some []) rfl
  have hcoherent := hcoherent tx hdecode
  have hread : Execution.decode ((store.responses.lookup creation.txId).map .text) =
      some ⟨[], 21000, some "reverted"⟩ := by
    decide +kernel
  rw [hread] at hcoherent
  have hfailure : outcome.transaction.status = .failure :=
    hcoherent.failure.2 ⟨_, rfl, "reverted", rfl, by decide⟩
  refine ⟨rfl, outcome, known', after, hrun, hfailure, hcoherent.gasUsed, ?_⟩
  rw [← Option.not_isSome_iff_eq_none, hcoherent.contract, hfailure]
  intro hcreated
  cases hcreated.2

end Outcome

end EvmIndexer
