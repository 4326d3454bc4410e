import EvmIndexer.Proofs.Intake.Runs
import EvmIndexer.Proofs.Store.References

/-!
# References while outcomes are stored

The order in which an outcome is written makes its references good at every
statement: its logs carry the identifier of the transaction that is written
first, and its transfers are views of its logs. The token of a transfer is the
only reference that may lead out of the outcome, to a token that the batch has
met before. So a batch is sound if what it calls known has a row, and that is
what the rounds of a batch preserve: an outcome that was stored brought the rows
of its tokens, and one that was refused is not called known.
-/

namespace EvmIndexer

open Database

namespace Outcome

variable {item : PendingItem} {known : List String} {outcome : Outcome}
  {db : Database}

theorem FromItem.isDecoded_logs (h : FromItem item known outcome) :
    ∀ log ∈ outcome.logs,
      (db.insertTransactions [outcome.transaction]).isDecoded log.txId =
        true := by
  intro log hlog
  rw [h.logs log hlog, ← h.transaction]
  exact isDecoded_iff.2 (exists_key_insertAll _ _ (List.mem_singleton.2 rfl))

/-- While an outcome is stored, all references are good at every statement. -/
theorem FromItem.along_referential (h : FromItem item known outcome)
    (hdb : db.Referential) (hknown : db.HasTokens known) :
    Statement.Along Referential outcome.statements db := by
  have htransaction := hdb.insertTransactions [outcome.transaction]
  have hlogs := htransaction.insertLogs h.isDecoded_logs
  have htokens := hlogs.insertTokens outcome.tokens
  -- the only reference that may lead out of the outcome
  have hmet : ∀ address ∈ known.map Text.lower,
      (db.addLogs outcome).HasToken address := by
    intro lowered hlowered
    obtain ⟨address, haddress, rfl⟩ := List.mem_map.1 hlowered
    exact (grows_applyAll [.insertTransaction [outcome.transaction],
      .insertLog outcome.logs] db).hasToken (hknown address haddress)
  have htransfers : (db.addTransfers outcome).Referential :=
    htokens.insertTransfers (hasLog_and_hasToken_of_sound h.recognized h.logs
      (fun _ hlog => hasLog_insertLogs hlog) hmet)
  have hcontract := htransfers.insertContracts outcome.contract.toList
  exact along_statements hdb htransaction hlogs htokens htransfers hcontract
    (hcontract.retire outcome.transaction.txId)

/-- What is called known after an outcome was stored has a row. -/
theorem FromItem.hasTokens_addOutcome (h : FromItem item known outcome)
    (hknown : db.HasTokens known) {met : List String}
    (hmet : ∀ address ∈ met,
      address ∈ known ∨ address ∈ outcome.tokenAddresses) :
    (db.addOutcome outcome).HasTokens met := by
  intro address haddress
  rcases hmet address haddress with hold | hnew
  · exact (grows_addOutcome db outcome).hasToken (hknown address hold)
  · obtain ⟨token, htoken, rfl⟩ := List.mem_map.1 hnew
    rw [(h.recognized.tokens token htoken).2]
    exact exists_key_insertAll _ _ htoken

/-- Good references and rows for the known tokens are kept by every outcome. -/
theorem keeps_referential (responses : List (String × String))
    (item : PendingItem) :
    Keeps Referential (fun known db => db.Referential ∧ db.HasTokens known)
      responses item := by
  intro known db outcome hP hof
  have hfrom := hof.fromItem
  have halong := hfrom.along_referential hP.1 hP.2
  refine ⟨halong, fun met hmet => ⟨?_, hfrom.hasTokens_addOutcome hP.2 hmet⟩⟩
  rw [← applyAll_statements]
  exact halong.last

end Outcome

end EvmIndexer
