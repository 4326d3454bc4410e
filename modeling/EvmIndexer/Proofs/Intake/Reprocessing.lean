import EvmIndexer.Proofs.Intake.Settling
import EvmIndexer.Proofs.Store.References

/-!
# Processing a transaction again

A transaction that has a row may wait in the queue once more, with other bytes or
with a response that was recorded since. A poll passes such an item over: no row
that carries its identifier is added, be it the row of a token that it was the
first to mention.

A request does not. It reads the queue without a look at the rows, and processes
what it finds. The insertion of the transaction is ignored, since its key is
there, but the logs, the tokens, the transfers and the contract have keys of
their own. So the tables stay as they are exactly if the item does not decode,
or the work fails, or all that the item leads to is there already.
-/

namespace EvmIndexer

open Database

namespace Database

/-- The tables without the queue. -/
def rows (db : Database) : Database := { db with pending := [] }

/-- The rows that carry the identifier of a transaction. -/
def carrying (db : Database) (txId : String) : Database where
  transactions := db.transactions.filter (·.txId == txId)
  logs := db.logs.filter (·.txId == txId)
  tokens := db.tokens.filter (·.firstSeenTx == some txId)
  transfers := db.transfers.filter (·.txId == txId)
  contracts := db.contracts.filter (·.creationTx == txId)

/-- Whether the keys of all that an outcome adds beside the transaction are
there. -/
structure Contains (db : Database) (outcome : Outcome) : Prop where
  logs : ∀ log ∈ outcome.logs, db.HasLog (logKey log)
  tokens : ∀ token ∈ outcome.tokens, db.HasToken token.address
  transfers : ∀ transfer ∈ outcome.transfers,
    ∃ row ∈ db.transfers, transferKey row = transferKey transfer
  contract : ∀ contract ∈ outcome.contract,
    ∃ row ∈ db.contracts, row.address = contract.address

variable {db : Database} {outcome : Outcome}

/-- An outcome of another item adds no row that carries the identifier. -/
theorem carrying_addOutcome {item : PendingItem} {known : List String}
    {txId : String} (h : outcome.FromItem item known) (hne : item.txId ≠ txId) :
    (db.addOutcome outcome).carrying txId = db.carrying txId := by
  have hid : (item.txId == txId) = false := beq_false_of_ne hne
  have htransactions :
      (db.addOutcome outcome).transactions.filter (·.txId == txId) = db.transactions.filter (·.txId == txId) :=
    filter_insertAll fun tx htx => by
      rw [List.mem_singleton.1 htx, h.transaction, hid]
  have hlogs : (db.addOutcome outcome).logs.filter (·.txId == txId) =
      db.logs.filter (·.txId == txId) :=
    filter_insertAll fun log hlog => by rw [h.logs log hlog, hid]
  have htokens :
      (db.addOutcome outcome).tokens.filter (·.firstSeenTx == some txId) =
        db.tokens.filter (·.firstSeenTx == some txId) :=
    filter_insertAll fun token htoken => by
      rw [(h.recognized.tokens token htoken).1]
      exact hid
  have htransfers : (db.addOutcome outcome).transfers.filter (·.txId == txId) =
      db.transfers.filter (·.txId == txId) :=
    filter_insertAll fun transfer htransfer => by
      rw [(h.recognized.transfers transfer htransfer).1, hid]
  have hcontracts : (db.addOutcome outcome).contracts.filter
      (·.creationTx == txId) = db.contracts.filter (·.creationTx == txId) :=
    filter_insertAll fun contract hcontract => by
      rw [h.contract contract (Option.mem_toList.1 hcontract), hid]
  simp only [carrying, htransactions, hlogs, htokens, htransfers, hcontracts]

/-- The row of a transaction is not replaced. -/
theorem transactions_addOutcome
    (h : db.isDecoded outcome.transaction.txId = true) :
    (db.addOutcome outcome).transactions = db.transactions :=
  insertAll_of_forall fun tx htx => by
    rw [List.mem_singleton.1 htx]
    exact isDecoded_iff.1 h

/-- If the transaction has a row, an outcome leaves the tables alone exactly if
the keys of the rest are there. -/
theorem rows_addOutcome_iff
    (h : db.isDecoded outcome.transaction.txId = true) :
    (db.addOutcome outcome).rows = db.rows ↔ db.Contains outcome := by
  have htransactions := transactions_addOutcome h
  constructor
  · intro heq
    simp only [rows, Database.mk.injEq, true_and] at heq
    obtain ⟨-, hlogs, htokens, htransfers, hcontracts⟩ := heq
    refine ⟨insertAll_eq_iff.1 hlogs, insertAll_eq_iff.1 htokens,
      insertAll_eq_iff.1 htransfers, fun contract hcontract => ?_⟩
    exact insertAll_eq_iff.1 hcontracts contract (Option.mem_toList.2 hcontract)
  · intro hcontains
    have hlogs : (db.addOutcome outcome).logs = db.logs :=
      insertAll_of_forall hcontains.logs
    have htokens : (db.addOutcome outcome).tokens = db.tokens :=
      insertAll_of_forall hcontains.tokens
    have htransfers : (db.addOutcome outcome).transfers = db.transfers :=
      insertAll_of_forall hcontains.transfers
    have hcontracts : (db.addOutcome outcome).contracts = db.contracts :=
      insertAll_of_forall fun contract hcontract =>
        hcontains.contract contract (Option.mem_toList.1 hcontract)
    simp only [rows, htransactions, hlogs, htokens, htransfers, hcontracts]

theorem contains_placeholder (db : Database) (txId : String) :
    db.Contains (Outcome.placeholder txId) :=
  ⟨by simp [Outcome.placeholder], by simp [Outcome.placeholder],
    by simp [Outcome.placeholder], by simp [Outcome.placeholder]⟩

end Database

variable {around : Surroundings} {store : Store} {txId : String}

/-! ## Polls -/

/-- A poll adds no row that carries the identifier of a transaction that has a
row. -/
theorem carrying_poll (h : store.tables.isDecoded txId = true) (drain : Drain)
    (around : Surroundings) :
    (drain.poll around store).2.2.tables.carrying txId =
      store.tables.carrying txId := by
  have hkeeps : ∀ item ∈ store.tables.undecoded drain.size.toNat,
      Outcome.Keeps (fun _ => True)
        (fun _ db => db.carrying txId = store.tables.carrying txId)
        store.responses item := by
    intro item hitem known db outcome hsame hof
    have hne : item.txId ≠ txId := fun heq => by
      rw [← heq, isDecoded_of_mem_undecoded hitem] at h
      cases h
    refine ⟨Statement.along_of_forall (fun _ => trivial) _ _, fun _ _ => ?_⟩
    exact (carrying_addOutcome hof.fromItem hne).trans hsame
  rcases drain.poll_cases around trivial rfl hkeeps with ⟨-, -, hsame⟩ | hrolled
  · exact hsame
  · rw [hrolled.tables]

/-! ## Requests -/

/-- Whether an item was decoded for the reply. -/
def Reply.isDecoded : Reply → Bool
  | .decoded .. => true
  | _ => false

namespace Outcome

variable {item : PendingItem} {known : List String} {response : Option String}
  {outcome : Outcome}

/-- A placeholder adds nothing beside its transaction. -/
theorem Of.contains_of_isPlaceholder (h : Of item known response outcome)
    (hplaceholder : outcome.isPlaceholder = true) (db : Database) :
    db.Contains outcome := by
  rcases h with rfl | ⟨derived, signature, hderived, rfl⟩
  · exact contains_placeholder db item.txId
  · have hbase : derived.isPlaceholder = true :=
      (Transaction.withSignature_isPlaceholder _ signature).symm.trans
        hplaceholder
    obtain rfl := eq_placeholder_of_derive hderived hbase
    have hnothing := contains_placeholder db item.txId
    exact { hnothing with logs := hnothing.logs }

/-- Any other outcome adds what was derived. -/
theorem Of.contains_iff (h : Of item known response outcome)
    (hnot : outcome.isPlaceholder = false) (db : Database) :
    db.Contains outcome ↔ ∀ derived,
      derive item known response = .ok derived → db.Contains derived := by
  rcases h with rfl | ⟨derived, signature, hderived, rfl⟩
  · cases hnot
  · have hsame : db.Contains (derived.withSignature signature) ↔
        db.Contains derived :=
      ⟨fun h => { h with logs := h.logs }, fun h => { h with logs := h.logs }⟩
    rw [hsame, hderived]
    refine ⟨fun hcontains other hother => ?_, fun hall => hall derived rfl⟩
    cases hother
    exact hcontains

end Outcome

theorem Reply.isDecoded_ofHash (txId : String) (hash : Option String) :
    (Reply.ofHash txId hash).isDecoded = false := by
  cases hash <;> rfl

theorem Reply.isDecoded_ofOutcome (txId : String) (outcome : Outcome) :
    (Reply.ofOutcome txId outcome).isDecoded = !outcome.isPlaceholder := by
  unfold ofOutcome
  cases outcome.isPlaceholder <;> rfl

/-- What a request that was committed leaves of the rows, if the transaction has
one already. -/
theorem rows_answered_iff {before after : Database}
    {responses : List (String × String)} {reply : Reply}
    (h : before.isDecoded txId = true)
    (hanswered : Request.Answered txId before responses reply after) :
    after.transactions = before.transactions ∧
    (after.rows = before.rows ↔ (reply.isDecoded = true → ∀ item derived,
      before.pendingItem? txId = some item →
      Outcome.derive item [] (responses.lookup item.txId) = .ok derived →
        before.Contains derived)) := by
  cases hanswered with
  | missing _ hreply hafter =>
      rw [hafter, hreply, Reply.isDecoded_ofHash]
      exact ⟨rfl, by simp⟩
  | @found item outcome _ _ hpending hof hreply hafter =>
      -- the insertion of the transaction is ignored, all others count
      have hid : outcome.transaction.txId = txId :=
        hof.fromItem.transaction.trans (pendingItem?_txId hpending)
      have hdecoded : before.isDecoded outcome.transaction.txId = true := by
        rw [hid]
        exact h
      rw [hafter, hreply, Reply.isDecoded_ofOutcome,
        rows_addOutcome_iff hdecoded]
      refine ⟨transactions_addOutcome hdecoded, ?_⟩
      cases hplaceholder : outcome.isPlaceholder with
      | true =>
          exact iff_of_true (hof.contains_of_isPlaceholder hplaceholder _)
            fun hfalse => by cases hfalse
      | false =>
          rw [hof.contains_iff hplaceholder]
          constructor
          · intro hall _ other derived hother
            rw [hpending] at hother
            cases hother
            exact hall derived
          · exact fun hall derived => hall rfl item derived hpending

/-- Processing a transaction that has a row. A poll adds no row that carries its
identifier. A request leaves its row as it is, and leaves all the tables but the
queue as they are exactly if nothing was decoded for it or everything that the
waiting item and the response recorded now lead to is there. -/
theorem reprocessing (store : Store) (txId : String) (around : Surroundings)
    (h : store.tables.isDecoded (Text.trim txId) = true) :
    (∀ drain : Drain, (drain.poll around store).2.2.tables.carrying
        (Text.trim txId) = store.tables.carrying (Text.trim txId)) ∧
    (decodeOnDemand txId around store).2.tables.transactions =
      store.tables.transactions ∧
    ((decodeOnDemand txId around store).2.tables.rows = store.tables.rows ↔
      ((decodeOnDemand txId around store).1.isDecoded = true → ∀ item derived,
        store.tables.pendingItem? (Text.trim txId) = some item →
        Outcome.derive item [] (store.responses.lookup item.txId) = .ok derived →
          store.tables.Contains derived)) := by
  refine ⟨fun drain => carrying_poll h drain around, ?_⟩
  have hended := ended_decodeOnDemand around trivial
    (Request.keeps_true (Text.trim txId) store)
  generalize (decodeOnDemand txId around store).1 = reply at hended ⊢
  generalize (decodeOnDemand txId around store).2 = after at hended ⊢
  cases hended with
  | empty => exact ⟨rfl, by simp [Reply.isDecoded]⟩
  | committed _ hanswered => exact rows_answered_iff h hanswered
  | rolledBack hrolled =>
      rw [hrolled.tables]
      exact ⟨rfl, by simp [Reply.isDecoded]⟩

/-- The item of a placeholder waits again, with bytes that decode now and a response with a
transfer. A poll passes it over. A request answers that it was decoded and keeps the
placeholder for its row, but adds the token and the transfer. -/
theorem reprocessing_placeholder :
    let store : Store := {
      tables := {
        pending := [Outcome.creationAs "a"]
        transactions := [.placeholder "a"] }
      responses := [("a", Outcome.announcing)] }
    let around := Surroundings.refusing [] none
    store.tables.isDecoded (Text.trim "a") = true ∧
      (∀ drain : Drain, (drain.poll around store).2.2.tables.carrying (Text.trim "a") =
        store.tables.carrying (Text.trim "a")) ∧
      ∃ reply after, decodeOnDemand "a" around store = (reply, after) ∧
        reply.isDecoded = true ∧
        after.tables.transactions = store.tables.transactions ∧
        after.tables.rows ≠ store.tables.rows ∧
        after.tables.tokens.map (·.firstSeenTx) = [some "a"] ∧
        after.tables.transfers.map (·.txId) = ["a"] := by
  intro store around
  let c := Circumstances.refusing [] none store.responses
  let item := Outcome.creationAs "a"
  have hfollows : around.Follows c := Surroundings.follows_refusing store.responses
  have hdecoded : store.tables.isDecoded (Text.trim "a") = true := by decide +kernel
  have htrim : Text.trim "a" = "a" := by decide +kernel
  have hpending : store.tables.pendingItem? (Text.trim "a") = some item := by
    rw [htrim]
    rfl
  have hresponse : c.responses.lookup "a" = some Outcome.announcing :=
    List.lookup_cons_self
  obtain ⟨outcome, ha, hannounces⟩ :
      ∃ outcome, c.outcome [] item = outcome ∧ Outcome.Announces "a" outcome :=
    Circumstances.exists_announces rfl hresponse
  obtain ⟨hpolls, htransactions, hrows⟩ := reprocessing store "a" around hdecoded
  obtain ⟨after, hrun, htables, -⟩ := exists_decodeOnDemand_found (c := c) hfollows.orderly
    rfl (by rw [htrim]; decide) hpending (hfollows.judges [] item)
  rw [hrun] at htransactions hrows
  rw [ha] at hrun htables hrows
  have hreply : (Reply.ofOutcome (Text.trim "a") outcome).isDecoded = true := by
    rw [Reply.isDecoded_ofOutcome, hannounces.decoded]
    rfl
  refine ⟨hdecoded, hpolls, _, after, hrun, hreply, htransactions, fun hsame => ?_, ?_, ?_⟩
  · obtain ⟨derived, hderived⟩ := Outcome.exists_derive item [] (some Outcome.announcing)
    have hlogs := (Outcome.Built.of_derive hderived).announces.logs
    have hcontains := hrows.1 hsame hreply item derived hpending hderived
    -- what is derived has a log, and there is none in the tables
    obtain ⟨row, hrow, -⟩ := hcontains.logs (Outcome.announcement "a")
      (by rw [hlogs]; exact List.mem_singleton_self _)
    cases hrow
  · rw [htables]
    show (outcome.tokens.foldl (insertNew (·.address)) []).map _ = _
    rw [hannounces.tokens]
    rfl
  · rw [htables]
    show (outcome.transfers.foldl (insertNew transferKey) []).map _ = _
    rw [hannounces.transfers]
    rfl

end EvmIndexer
