import EvmIndexer.Proofs.Intake.Reprocessing
import EvmIndexer.Proofs.Intake.Settling

/-!
# What a reply says and what the store holds

A reply that reports success gives a hash. It is true if the transaction then has
a decoded row with that hash. After a request of a transaction that had no row it
always is: the row is the one that the reply tells of.

If there was a row, it stays, and the reply may tell of something else. Two
things can go wrong. The row may be a placeholder: a request that finds nothing
in the queue gives its hash without a look at the status, and so the request
after one that failed to decode reports success. Or an item waits although there
is a row, and decodes to another hash than the row has.
-/

namespace EvmIndexer

open Database

/-- The row of a transaction. -/
def Database.row? (db : Database) (txId : String) : Option Transaction :=
  db.transactions.find? fun tx => tx.txId == txId

/-- The hash that a reply gives. -/
def Reply.hash? : Reply → Option String
  | .alreadyDecoded _ hash | .undecodable _ hash _ | .decoded _ hash .. =>
    some hash
  | .emptyId | .notFound | .broken _ => none

/-- Whether a reply is true of tables: the transaction has a decoded row with the
hash of the reply. -/
def Reply.TrueOf (reply : Reply) (txId : String) (db : Database) : Prop :=
  ∃ row, db.row? txId = some row ∧ row.isPlaceholder = false ∧
    reply.hash? = some row.hash

/-- Whether the row that a transaction has, if it has one, is decoded and has the
hash of what waits. -/
def Database.Consistent (db : Database) (txId : String) : Prop :=
  ∀ row, db.row? txId = some row → row.isPlaceholder = false ∧
    ∀ item tx, db.pendingItem? txId = some item →
      Transaction.decode (.text item.raw) item.txId item.gasUsed = .ok tx →
        tx.hash = row.hash

namespace Database

variable {db : Database} {txId : String}

theorem decodedHash?_eq (db : Database) (txId : String) :
    db.decodedHash? txId = (db.row? txId).map (·.hash) := rfl

theorem row?_addOutcome (db : Database) {outcome : Outcome}
    (h : outcome.transaction.txId = txId) :
    (db.addOutcome outcome).row? txId =
      (db.row? txId).or (some outcome.transaction) := by
  have hfound : [outcome.transaction].find? (·.txId == txId) =
      some outcome.transaction := List.find?_cons_of_pos (by simp [h])
  rw [← hfound]
  exact find?_insertAll txId

theorem consistent_of_none (h : db.row? txId = none) : db.Consistent txId := by
  intro row hrow
  rw [h] at hrow
  cases hrow

theorem consistent_iff {row : Transaction} (h : db.row? txId = some row) :
    db.Consistent txId ↔ row.isPlaceholder = false ∧
      ∀ item tx, db.pendingItem? txId = some item →
        Transaction.decode (.text item.raw) item.txId item.gasUsed = .ok tx →
          tx.hash = row.hash := by
  unfold Consistent
  rw [h]
  exact ⟨fun hall => hall row rfl, by rintro hrow _ ⟨⟩; exact hrow⟩

theorem pendingItem?_addOutcome (db : Database) {outcome : Outcome}
    (h : outcome.transaction.txId = txId) :
    (db.addOutcome outcome).pendingItem? txId = none := by
  refine List.find?_eq_none.2 fun item hitem hid => ?_
  have hleft := (List.mem_filter.1 hitem).2
  rw [h, beq_iff_eq.1 hid] at hleft
  simp at hleft

end Database

namespace Transaction

theorem withExecution_hash (tx : Transaction) (execution : Option Execution) :
    (tx.withExecution execution).hash = tx.hash := by
  cases execution <;> rfl

theorem withSignature_hash (tx : Transaction) (signature : String) :
    (tx.withSignature signature).hash = tx.hash := by
  unfold withSignature
  split <;> rfl

end Transaction

/-- What is stored as decoded has the hash that its item decodes to. -/
theorem Outcome.Of.hash_eq {item : PendingItem} {known : List String}
    {response : Option String} {outcome : Outcome}
    (h : Of item known response outcome) (hnot : outcome.isPlaceholder = false) :
    ∃ tx, Transaction.decode (.text item.raw) item.txId item.gasUsed = .ok tx ∧
      outcome.transaction.hash = tx.hash := by
  rcases h with rfl | ⟨derived, signature, hderived, rfl⟩
  · cases hnot
  · unfold derive at hderived
    split at hderived
    · cases hderived
      rw [isPlaceholder, withSignature, Transaction.withSignature_isPlaceholder]
        at hnot
      cases hnot
    · next tx hdecoded =>
        refine ⟨tx, hdecoded, ?_⟩
        show (derived.transaction.withSignature signature).hash = tx.hash
        rw [Transaction.withSignature_hash, transaction_of_assemble hderived,
          Transaction.withExecution_hash]

namespace Reply

theorem trueOf_iff {reply : Reply} {db : Database} {txId : String}
    {row : Transaction} (h : db.row? txId = some row) :
    reply.TrueOf txId db ↔
      row.isPlaceholder = false ∧ reply.hash? = some row.hash := by
  unfold TrueOf
  rw [h]
  exact ⟨by rintro ⟨_, ⟨⟩, hrow⟩; exact hrow, fun hrow => ⟨row, rfl, hrow⟩⟩

theorem success_ofOutcome (txId : String) (outcome : Outcome) :
    (ofOutcome txId outcome).success = !outcome.isPlaceholder := by
  unfold ofOutcome
  cases outcome.isPlaceholder <;> rfl

theorem hash?_ofOutcome (txId : String) (outcome : Outcome) :
    (ofOutcome txId outcome).hash? = some outcome.transaction.hash := by
  unfold ofOutcome
  cases outcome.isPlaceholder <;> rfl

end Reply

/-! ## Requests that were committed -/

namespace Request

variable {txId : String} {before after : Database}
  {responses : List (String × String)} {reply : Reply}

/-- When a reply that reports success is true. There is a row in any case. -/
theorem trueOf_iff_of_answered
    (h : Answered txId before responses reply after)
    (hsuccess : reply.success = true) :
    (∃ row, after.row? txId = some row) ∧
      (reply.TrueOf txId after ↔ before.Consistent txId) := by
  cases h with
  | missing hpending hreply hafter =>
      rw [decodedHash?_eq] at hreply
      rw [hafter]
      cases hrow : before.row? txId with
      | none =>
          rw [hreply, hrow] at hsuccess
          cases hsuccess
      | some row =>
          rw [hrow] at hreply
          refine ⟨⟨row, rfl⟩, ?_⟩
          -- what is given is the hash of the row, so only its status matters
          rw [Reply.trueOf_iff hrow, consistent_iff hrow, hpending, hreply]
          exact and_congr_right fun _ => iff_of_true rfl
            fun _ _ hfalse => nomatch hfalse
  | @found item outcome _ _ hpending hof hreply hafter =>
      have hid : outcome.transaction.txId = txId :=
        hof.fromItem.transaction.trans (pendingItem?_txId hpending)
      have hrows := row?_addOutcome before hid
      rw [← hafter] at hrows
      rw [hreply, Reply.success_ofOutcome, Bool.not_eq_true'] at hsuccess
      obtain ⟨tx, hdecode, hhash⟩ := hof.hash_eq hsuccess
      have hgiven : reply.hash? = some tx.hash := by
        rw [hreply, Reply.hash?_ofOutcome, hhash]
      cases hrow : before.row? txId with
      | none =>
          -- the row is the one that the reply tells of
          rw [hrow, Option.none_or] at hrows
          refine ⟨⟨_, hrows⟩, ?_⟩
          rw [Reply.trueOf_iff hrows, hgiven, hhash]
          exact iff_of_true ⟨hsuccess, rfl⟩ (consistent_of_none hrow)
      | some old =>
          rw [hrow, Option.some_or] at hrows
          refine ⟨⟨old, hrows⟩, ?_⟩
          rw [Reply.trueOf_iff hrows, consistent_iff hrow, hgiven, hpending]
          refine and_congr_right fun _ => ⟨?_, fun hall => ?_⟩
          · rintro hsame _ _ ⟨⟩ hdecode'
            rw [hdecode] at hdecode'
            cases hdecode'
            exact Option.some.inj hsame
          · rw [hall item tx rfl hdecode]

/-- After a reply that nothing was decoded, nothing waits and there is a row. If
there was none before, it is the placeholder. -/
theorem undecodable_of_answered {hash : String} {status : Status}
    (h : Answered txId before responses (.undecodable txId hash status) after) :
    after.pendingItem? txId = none ∧ ∃ row, after.row? txId = some row ∧
      (before.row? txId = none → row.isPlaceholder = true) := by
  cases h with
  | missing _ hreply _ =>
      cases hhash : before.decodedHash? txId <;> rw [hhash] at hreply <;>
        cases hreply
  | @found item outcome _ _ hpending hof hreply hafter =>
      have hid : outcome.transaction.txId = txId :=
        hof.fromItem.transaction.trans (pendingItem?_txId hpending)
      have hplaceholder : outcome.isPlaceholder = true := by
        have hsuccess := Reply.success_ofOutcome txId outcome
        rw [← hreply] at hsuccess
        simpa [Reply.success] using hsuccess.symm
      have hrows := row?_addOutcome before hid
      rw [hafter]
      refine ⟨pendingItem?_addOutcome before hid, ?_⟩
      cases hrow : before.row? txId with
      | none =>
          rw [hrow, Option.none_or] at hrows
          exact ⟨_, hrows, fun _ => hplaceholder⟩
      | some old =>
          rw [hrow, Option.some_or] at hrows
          exact ⟨old, hrows, fun hnone => nomatch hnone⟩

end Request

/-! ## Requests -/

/-- When a request tells the truth. If it reports success, there is a row, and
what it says is true exactly if the row that was there before, if there was one,
is decoded and has the hash of the waiting item. If it reports that nothing was
decoded, the next request that can read reports success with the hash of the row,
though that is a placeholder unless there was a row before. -/
theorem reply_truth (txId : String) (around : Surroundings) (store : Store) :
    ((decodeOnDemand txId around store).1.success = true →
      (∃ row, (decodeOnDemand txId around store).2.tables.row?
        (Text.trim txId) = some row) ∧
      ((decodeOnDemand txId around store).1.TrueOf (Text.trim txId)
          (decodeOnDemand txId around store).2.tables ↔
        store.tables.Consistent (Text.trim txId))) ∧
    ∀ hash status, (decodeOnDemand txId around store).1 =
        .undecodable (Text.trim txId) hash status →
      ∃ row, (decodeOnDemand txId around store).2.tables.row?
          (Text.trim txId) = some row ∧
        (store.tables.row? (Text.trim txId) = none →
          row.isPlaceholder = true) ∧
        ∀ again answer, again.Orderly answer →
          (decodeOnDemand txId again (decodeOnDemand txId around store).2).1 =
            .alreadyDecoded (Text.trim txId) row.hash := by
  by_cases hid : Text.trim txId = ""
  · rw [decodeOnDemand_empty hid]
    exact ⟨(nomatch ·), fun _ _ hfalse => nomatch hfalse⟩
  have hended := ended_decodeOnDemand around trivial
    (Request.keeps_true (Text.trim txId) store)
  generalize (decodeOnDemand txId around store).1 = reply at hended ⊢
  generalize (decodeOnDemand txId around store).2 = after at hended ⊢
  cases hended with
  | empty => exact ⟨(nomatch ·), fun _ _ hfalse => nomatch hfalse⟩
  | rolledBack => exact ⟨(nomatch ·), fun _ _ hfalse => nomatch hfalse⟩
  | committed _ hanswered =>
      refine ⟨Request.trueOf_iff_of_answered hanswered, ?_⟩
      rintro hash status rfl
      obtain ⟨hpending, row, hrow, hplaceholder⟩ :=
        Request.undecodable_of_answered hanswered
      refine ⟨row, hrow, hplaceholder, fun again answer horderly => ?_⟩
      obtain ⟨last, hagain, -⟩ := exists_decodeOnDemand_missing
        (c := ⟨answer, [], fun _ => false⟩) horderly hid hpending
      rw [hagain, decodedHash?_eq, hrow]
      rfl

/-- Text that does not decode, asked for twice: the second reply reports success
and is not true. -/
theorem reply_truth_twice :
    let start : Store := { tables := { pending := [⟨"a", "", 1, none, none⟩] } }
    let around := Surroundings.refusing [] none
    let first := decodeOnDemand "a" around start
    let second := decodeOnDemand "a" around first.2
    first.1 = .undecodable "a" "decode_failed_a" .decodeFailed ∧
      second.1.success = true ∧ ¬ second.1.TrueOf "a" second.2.tables := by
  intro start around first second
  have htrim : Text.trim "a" = "a" := by decide +kernel
  have hfirst : first.1 = .undecodable "a" "decode_failed_a" .decodeFailed := by
    decide +kernel
  have hfollows : around.Follows (.refusing [] none []) :=
    Surroundings.follows_refusing []
  have htruth := (reply_truth "a" around start).2 "decode_failed_a" .decodeFailed
  have htruth' := (reply_truth "a" around first.2).1
  rw [htrim] at htruth htruth'
  obtain ⟨row, hrow, hplaceholder, hagain⟩ := htruth hfirst
  have hsuccess : second.1.success = true :=
    congrArg Reply.success (hagain around _ hfollows.orderly)
  refine ⟨hfirst, hsuccess, fun htrue => ?_⟩
  have hdecoded := ((htruth' hsuccess).2.1 htrue row hrow).1
  rw [hplaceholder rfl] at hdecoded
  cases hdecoded

end EvmIndexer
