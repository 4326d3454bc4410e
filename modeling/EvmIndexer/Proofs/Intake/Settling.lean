import EvmIndexer.Proofs.Intake.Runs
import EvmIndexer.Proofs.Outcome.Settling
import EvmIndexer.Store.FaultPlan

/-!
# Polls and requests under circumstances

Under circumstances both ways off the queue are determined. A poll processes its
batch to the end, a request its one item, and the outcomes of the items are added
to the tables in the order in which the items were taken. Tokens that are known
from earlier items of a batch leave no trace in the tables, so the outcomes are
those of items processed alone, on either way.

What the database decides about an item may depend on the rows that the item
leads to, and these on the tokens known at its turn. A batch is therefore judged
item by item, with the known tokens threaded through; `Follows` is the case in
which the identifier alone decides.
-/

namespace EvmIndexer

namespace Database

/-- The tables with outcomes added one after the other. -/
def addOutcomes (db : Database) (outcomes : List Outcome) : Database :=
  outcomes.foldl addOutcome db

theorem addOutcomes_cons (db : Database) (outcome : Outcome)
    (rest : List Outcome) :
    db.addOutcomes (outcome :: rest) = (db.addOutcome outcome).addOutcomes rest :=
  rfl

theorem addOutcomes_append (db : Database) (outcomes more : List Outcome) :
    db.addOutcomes (outcomes ++ more) = (db.addOutcomes outcomes).addOutcomes more :=
  List.foldl_append

/-- Whether every outcome inserts what it brings into a table, under a key. -/
def Inserts {α β : Type} [BEq β] (key : α → β) (table : Database → List α)
    (brought : Outcome → List α) : Prop :=
  ∀ db outcome, table (db.addOutcome outcome) =
    (brought outcome).foldl (insertNew key) (table db)

theorem Inserts.addOutcomes {α β : Type} [BEq β] {key : α → β}
    {table : Database → List α} {brought : Outcome → List α}
    (h : Inserts key table brought) (db : Database) (outcomes : List Outcome) :
    table (db.addOutcomes outcomes) =
      (outcomes.flatMap brought).foldl (insertNew key) (table db) := by
  induction outcomes generalizing db with
  | nil => rfl
  | cons outcome rest ih =>
      rw [List.flatMap_cons, List.foldl_append, ← h]
      exact ih (db.addOutcome outcome)

theorem inserts_transactions :
    Inserts (·.txId) (·.transactions) fun outcome => [outcome.transaction] :=
  fun _ _ => rfl

theorem inserts_tokens : Inserts (·.address) (·.tokens) (·.tokens) := fun _ _ => rfl

theorem inserts_transfers : Inserts transferKey (·.transfers) (·.transfers) :=
  fun _ _ => rfl

theorem mem_pending_addOutcomes {db : Database} {outcomes : List Outcome}
    {item : PendingItem} (h : item ∈ (db.addOutcomes outcomes).pending) :
    item ∈ db.pending := by
  induction outcomes generalizing db with
  | nil => exact h
  | cons outcome rest ih => exact (List.mem_filter.1 (ih h)).1

end Database

namespace Surroundings

/-- Whether the database decides as in the circumstances about all items of a
batch, each at its turn. -/
def JudgesAll (around : Surroundings) (c : Circumstances) :
    List String → List PendingItem → Prop
  | _, [] => True
  | known, item :: rest =>
    around.Judges c known item ∧
      around.JudgesAll c (c.knownAfter known item) rest

/-- The surroundings are those of the circumstances: the answers are, and
whether decoded rows are refused is decided by their transaction alone. -/
structure Follows (around : Surroundings) (c : Circumstances) : Prop where
  orderly : around.Orderly c.answer
  judges : ∀ known item, around.Judges c known item

variable {around : Surroundings} {c : Circumstances}

theorem Follows.judgesAll (h : around.Follows c) (known : List String)
    (items : List PendingItem) : around.JudgesAll c known items := by
  induction items generalizing known with
  | nil => trivial
  | cons item rest ih => exact ⟨h.judges known item, ih _⟩

end Surroundings

variable {around : Surroundings} {store : Store} {c : Circumstances}

namespace Work

open Database

/-! ## Polls -/

/-- One item of a batch. The outcome in the tables is that of the item alone,
since all tokens that are known have rows. -/
theorem yields_processNext (h : around.Orderly c.answer)
    (hresponses : store.responses = c.responses) {known : List String}
    (htokens : store.tables.HasTokens known) {item : PendingItem}
    (hjudges : around.Judges c known item) :
    (Outcome.processNext known item).Yields around store
      (c.knownAfter known item)
      (store.tables.addOutcome (c.outcome [] item)) := by
  have hprocessed := Outcome.yields_process h hresponses (some known) hjudges
  rw [← c.addOutcome_outcome htokens item]
  exact Yields.bind hprocessed fun after htables _ => Yields.pure htables

theorem yields_processAll (h : around.Orderly c.answer)
    (hresponses : store.responses = c.responses) {known : List String}
    (htokens : store.tables.HasTokens known) {items : List PendingItem}
    (hjudges : around.JudgesAll c known items) :
    (items.foldlM Outcome.processNext known).Yields around store
      (items.foldl c.knownAfter known)
      (store.tables.addOutcomes (items.map (c.outcome []))) := by
  -- that every known token has a row is the invariant of the batch
  induction items generalizing store known with
  | nil => exact Yields.pure rfl
  | cons item rest ih =>
      rw [List.foldlM_cons]
      refine Yields.bind (yields_processNext h hresponses htokens hjudges.1) ?_
      intro after htables hkept
      have hknown : after.tables.HasTokens (c.knownAfter known item) := by
        rw [htables, ← c.addOutcome_outcome htokens item]
        exact Circumstances.hasTokens_knownAfter htokens c item
      have hrest := ih (hkept.trans hresponses) hknown hjudges.2
      rw [htables] at hrest
      exact hrest

theorem yields_drain (h : around.Orderly c.answer)
    (hresponses : store.responses = c.responses) {size : Int} (hsize : 0 < size)
    (hjudges : around.JudgesAll c [] (store.tables.undecoded size.toNat)) :
    (drain size).Yields around store
      (store.tables.undecoded size.toNat).length
      (store.tables.addOutcomes
        ((store.tables.undecoded size.toNat).map (c.outcome []))) := by
  have hread : (pendingItems size).Yields around (store.enter .begin)
      (store.tables.undecoded size.toNat) store.tables := by
    unfold pendingItems
    rw [if_neg (by omega)]
    exact yields_query h rfl rfl
  rw [drain_eq]
  refine Yields.transaction (Yields.bind hread fun started htables hkept => ?_)
  have hempty : started.tables.HasTokens [] := fun _ hmem => nomatch hmem
  have hbatch := yields_processAll h (hkept.trans hresponses) hempty hjudges
  rw [htables] at hbatch
  exact Yields.bind hbatch fun after hafter _ => Yields.pure hafter

/-! ## Requests -/

variable {txId : String}

theorem yields_decodeNow_found (h : around.Orderly c.answer)
    (hresponses : store.responses = c.responses) {item : PendingItem}
    (hpending : store.tables.pendingItem? txId = some item)
    (hjudges : around.Judges c [] item) :
    (decodeNow txId).Yields around store
      (Reply.ofOutcome txId (c.outcome [] item))
      (store.tables.addOutcome (c.outcome [] item)) := by
  have hread : (pendingItem txId).Yields around (store.enter .begin) (some item)
      store.tables := by
    rw [← hpending]
    exact yields_query h rfl rfl
  refine Yields.transaction (Yields.bind hread fun started htables hkept => ?_)
  -- outside a batch no tokens are known, and none are kept
  have hprocessed := Outcome.yields_process h (hkept.trans hresponses) none
    hjudges
  rw [htables] at hprocessed
  exact Yields.bind hprocessed fun after hafter _ => Yields.pure hafter

theorem yields_decodeNow_missing (h : around.Orderly c.answer)
    (hpending : store.tables.pendingItem? txId = none) :
    (decodeNow txId).Yields around store
      (Reply.ofHash txId (store.tables.decodedHash? txId)) store.tables := by
  have hread : (pendingItem txId).Yields around (store.enter .begin) none
      store.tables := by
    rw [← hpending]
    exact yields_query h rfl rfl
  refine Yields.transaction (Yields.bind hread fun started htables _ => ?_)
  have hhash : (decodedHash txId).Yields around started
      (started.tables.decodedHash? txId) started.tables := yields_query h rfl rfl
  rw [htables] at hhash
  exact Yields.bind hhash fun after hafter _ => Yields.pure hafter

end Work

/-! ## As the caller sees it -/

/-- A poll gives the size of its batch, and commits the outcomes of the batch. -/
theorem Drain.exists_poll (h : around.Orderly c.answer)
    (hresponses : store.responses = c.responses) {drain : Drain}
    (hsize : 0 < drain.size) {batch : List PendingItem}
    (hbatch : store.tables.undecoded drain.size.toNat = batch)
    (hjudges : around.JudgesAll c [] batch) :
    ∃ after,
      drain.poll around store =
        (.ok batch.length, drain.after (.ok batch.length), after) ∧
      after.tables = store.tables.addOutcomes (batch.map (c.outcome [])) ∧
      after.responses = store.responses ∧
      store.Committed (fun _ => True) after := by
  subst hbatch
  obtain ⟨after, hrun, htables, hkept⟩ :=
    (Work.yields_drain h hresponses hsize hjudges).run
  -- a poll that gives a number was committed, whatever surrounds it
  have hends : (Work.drain drain.size).Ends around store
      (fun _ after => store.Committed (fun _ => True) after ∧
        ∃ _ : List String, True)
      (fun _ after => store.RolledBack (fun _ => True) after) :=
    Work.ends_drain (P := fun _ _ => True) trivial trivial
      fun _ _ _ _ _ _ _ =>
        ⟨Statement.along_of_forall (fun _ => trivial) _ _, fun _ _ => trivial⟩
  refine ⟨after, ?_, htables, hkept, (hends.of_run_ok hrun).1⟩
  unfold Drain.poll
  rw [hrun]

theorem Drain.poll_of_size_nonpos {drain : Drain} (hsize : drain.size ≤ 0)
    (around : Surroundings) (store : Store) :
    (drain.poll around store).2.2.tables = store.tables ∧
      (drain.poll around store).2.2.responses = store.responses := by
  have hends : (Work.drain drain.size).Ends around store (fun _ _ => False)
      (fun _ after => after.tables = store.tables ∧
        after.responses = store.responses) := by
    rw [Work.drain_eq]
    refine Work.Ends.bracket (Work.Ends.bind ?_)
    unfold Work.pendingItems
    rw [if_pos hsize]
    exact Work.Ends.throw ⟨rfl, rfl⟩
  rcases hends.run with ⟨_, _, -, hfalse⟩ | ⟨failure, after, hrun, hafter⟩
  · exact hfalse.elim
  · unfold Drain.poll
    rw [hrun]
    exact hafter

variable {txId : String}

theorem exists_decodeOnDemand_found (h : around.Orderly c.answer)
    (hresponses : store.responses = c.responses) (hid : Text.trim txId ≠ "")
    {item : PendingItem}
    (hpending : store.tables.pendingItem? (Text.trim txId) = some item)
    (hjudges : around.Judges c [] item) :
    ∃ after,
      decodeOnDemand txId around store =
        (Reply.ofOutcome (Text.trim txId) (c.outcome [] item), after) ∧
      after.tables = store.tables.addOutcome (c.outcome [] item) ∧
      after.responses = store.responses := by
  obtain ⟨after, hrun, hafter⟩ :=
    (Work.yields_decodeNow_found h hresponses hpending hjudges).run
  refine ⟨after, ?_, hafter⟩
  simp only [decodeOnDemand, if_neg hid, hrun]

theorem exists_decodeOnDemand_missing (h : around.Orderly c.answer)
    (hid : Text.trim txId ≠ "")
    (hpending : store.tables.pendingItem? (Text.trim txId) = none) :
    ∃ after,
      decodeOnDemand txId around store =
        (Reply.ofHash (Text.trim txId)
          (store.tables.decodedHash? (Text.trim txId)), after) ∧
      after.tables = store.tables ∧ after.responses = store.responses := by
  obtain ⟨after, hrun, hafter⟩ :=
    (Work.yields_decodeNow_missing h hpending).run
  refine ⟨after, ?_, hafter⟩
  simp only [decodeOnDemand, if_neg hid, hrun]

theorem decodeOnDemand_empty (hid : Text.trim txId = "") :
    decodeOnDemand txId around store = (.emptyId, store) := by
  simp only [decodeOnDemand, if_pos hid]

/-! ## Plans that only refuse -/

/-- The circumstances in which the rows of some transactions are refused, and a
selector has one answer if there is anybody to ask. -/
def Circumstances.refusing (refused : List String)
    (source : Option (String → LookupAnswer))
    (responses : List (String × String)) : Circumstances where
  answer selector := (source.map (· selector)).getD .unknown
  responses := responses
  refused := refused.contains

namespace Surroundings

/-- Surroundings in which nothing else fails. -/
def refusing (refused : List String) (source : Option (String → LookupAnswer)) :
    Surroundings where
  faults := FaultPlan.faults { refused }
  signatures := source.map fun answer _ => answer

variable {refused : List String} {source : Option (String → LookupAnswer)}

theorem firstFault?_refusing (position : Nat) (outcome : Outcome) :
    (refusing refused source).firstFault? position outcome.statements =
      if refused.contains outcome.transaction.txId && !outcome.isPlaceholder then
        some ⟨.data, false, "value out of range"⟩
      else none := by
  have hlogs : ∀ logs : List Log,
      logs.findSome? (FaultPlan.ofLog? { refused }) = none := by
    intro logs
    rw [List.findSome?_eq_none_iff]
    exact fun log _ => rfl
  have hrest : ∀ s ∈ Statement.ofRows .insertLog outcome.logs ++
      (Statement.ofRows .insertToken outcome.tokens ++
      (Statement.ofRows .insertTransfer outcome.transfers ++
      (Statement.ofRows .insertContract outcome.contract.toList ++
      [.deletePending outcome.transaction.txId]))),
      ∀ position, (refusing refused source).faults position s = none := by
    intro s hs position
    simp only [List.mem_append, List.mem_singleton] at hs
    rcases hs with hs | hs | hs | hs | rfl
    · rw [Statement.mem_ofRows hs]
      exact hlogs outcome.logs
    · rw [Statement.mem_ofRows hs]
      rfl
    · rw [Statement.mem_ofRows hs]
      rfl
    · rw [Statement.mem_ofRows hs]
      rfl
    · rfl
  rw [Outcome.statements, List.singleton_append, firstFault?,
    firstFault?_eq_none hrest, Option.or_none]
  exact List.findSome?_singleton

/-- A plan that only refuses decides by the transaction alone. -/
theorem follows_refusing (responses : List (String × String)) :
    (refusing refused source).Follows (.refusing refused source responses) where
  orderly :=
    { reads := fun position s hs => by cases s <;> first | rfl | cases hs
      placeholders := fun txId position => by
        have hyes : (Outcome.placeholder txId).isPlaceholder = true :=
          Transaction.placeholder_isPlaceholder txId
        rw [firstFault?_refusing, hyes]
        exact if_neg (by simp)
      steady := fun asked selector => by cases source <;> rfl }
  judges known item := by
    have hid := ((Circumstances.refusing refused source responses).of_expected
      known item).fromItem.transaction
    constructor
    · intro hrefused hnot position
      refine ⟨⟨.data, false, "value out of range"⟩, ?_, rfl⟩
      rw [firstFault?_refusing, hid, hnot]
      exact if_pos (Bool.and_eq_true_iff.2 ⟨hrefused, rfl⟩)
    · intro hplaceholder position
      rw [firstFault?_refusing, hid]
      refine if_neg fun hboth => ?_
      obtain ⟨hrefused, hnot⟩ := Bool.and_eq_true_iff.1 hboth
      rw [hplaceholder hrefused] at hnot
      cases hnot

end Surroundings

end EvmIndexer
