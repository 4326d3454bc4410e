import EvmIndexer.Intake.Batch
import EvmIndexer.Intake.OnDemand
import EvmIndexer.Proofs.Outcome.Processing

/-!
# The two ways off the queue

A poll processes a batch of items in one transaction, a request processes one
item in a transaction of its own. For both, what the transaction leaves in the
tables is said by outcomes of the items, one `addOutcome` after the other, and
if it fails the tables are those it found.

The batch threads the tokens met so far through its items. Its rule therefore
has an invariant of the known tokens and the tables together, and asks that an
item's outcome keeps it, whichever of the tokens before it and its own are known
afterwards.
-/

namespace EvmIndexer

variable {around : Surroundings} {store : Store} {I : Database → Prop}

/-! ## Batches -/

/-- One round of a batch: the tokens known after an item. -/
def Outcome.processNext (known : List String) (item : PendingItem) :
    Work (List String) := do
  let (_, known) ← Outcome.process item (some known)
  return known.getD []

/-- What the outcomes of an item must keep: the property of the tables all along,
and the invariant of known tokens and tables. -/
def Outcome.Keeps (I : Database → Prop) (P : List String → Database → Prop)
    (responses : List (String × String)) (item : PendingItem) : Prop :=
  ∀ known db outcome, P known db →
    Outcome.Of item known (responses.lookup item.txId) outcome →
      Statement.Along I outcome.statements db ∧
      ∀ met : List String,
        (∀ address ∈ met, address ∈ known ∨ address ∈ outcome.tokenAddresses) →
          P met (db.addOutcome outcome)

namespace Work

variable {P : List String → Database → Prop} {known : List String}

/-- A batch keeps what the outcomes of its items keep. -/
theorem ends_processAll {items : List PendingItem}
    (hitems : ∀ item ∈ items, Outcome.Keeps I P store.responses item)
    (hP : P known store.tables) :
    (items.foldlM Outcome.processNext known).Ends around store
      (fun met after => store.Extends (Entry.Inner I) after ∧ P met after.tables)
      (fun _ after => store.Extends (Entry.Inner I) after) := by
  refine Ends.foldlM
    (fun met after => store.Extends (Entry.Inner I) after ∧ P met after.tables)
    ?_ ⟨.refl store, hP⟩
  rintro item hmem met before ⟨hbefore, hmet⟩
  have hkeeps := hitems item hmem met before.tables
  rw [← hbefore.responses] at hkeeps
  refine Ends.bind ((Outcome.ends_process (I := I) fun outcome hof =>
    (hkeeps outcome hmet hof).1).mono ?_ ?_)
  · rintro ⟨outcome, met'⟩ after ⟨hafter, htables, hof, hknown⟩
    refine Ends.pure ⟨hbefore.trans hafter, ?_⟩
    rw [htables]
    exact (hkeeps outcome hmet hof).2 _ hknown
  · rintro failure after ⟨hafter, -⟩
    exact hbefore.trans hafter

theorem drain_eq (size : Int) :
    drain size = transaction (do
      let items ← pendingItems size
      let _ ← items.foldlM Outcome.processNext []
      return items.length) := rfl

/-- A poll keeps what the outcomes of the items that it takes keep. -/
theorem ends_drain {size : Int} (hI : I store.tables) (hP : P [] store.tables)
    (hitems : ∀ item ∈ store.tables.undecoded size.toNat,
      Outcome.Keeps I P store.responses item) :
    (drain size).Ends around store
      (fun _ after => store.Committed I after ∧ ∃ known, P known after.tables)
      (fun _ after => store.RolledBack I after) := by
  rw [drain_eq]
  refine ends_transaction (fun _ db => ∃ known, P known db) (Ends.bind ?_)
  unfold pendingItems
  split
  · exact Ends.throw (.refl _)
  · have hread : (store.enter .begin).Extends (Entry.Inner I)
        ((store.enter .begin).enter (.statement (.selectPending size.toNat))) :=
      (Store.Extends.refl _).enter ⟨rfl, hI⟩
    refine (ends_read fun _ => rfl).mono ?_ ?_
    · rintro items started ⟨hitems', hstarted⟩
      have hkeeps : ∀ item ∈ items,
          Outcome.Keeps I P started.responses item := by
        rw [hitems', hstarted]
        exact hitems
      have hempty : P [] started.tables := by
        rw [hstarted]
        exact hP
      rw [← hstarted] at hread
      refine Ends.bind ((ends_processAll (I := I) hkeeps hempty).mono ?_ ?_)
      · rintro met after ⟨hafter, hmet⟩
        exact Ends.pure ⟨hread.trans hafter, met, hmet⟩
      · exact fun _ after hafter => hread.trans hafter
    · rintro _ after rfl
      exact hread

end Work

/-- A poll commits tables with the invariant, or it is rolled back. -/
theorem Drain.poll_cases {P : List String → Database → Prop} (drain : Drain)
    (around : Surroundings) (hI : I store.tables) (hP : P [] store.tables)
    (hitems : ∀ item ∈ store.tables.undecoded drain.size.toNat,
      Outcome.Keeps I P store.responses item) :
    (store.Committed I (drain.poll around store).2.2 ∧
      ∃ known, P known (drain.poll around store).2.2.tables) ∨
    store.RolledBack I (drain.poll around store).2.2 := by
  unfold Drain.poll
  rcases (Work.ends_drain hI hP hitems).run with ⟨n, after, hrun, hafter⟩ |
    ⟨failure, after, hrun, hafter⟩
  · rw [hrun]
    exact Or.inl hafter
  · rw [hrun]
    exact Or.inr hafter

/-! ## Requests -/

namespace Request

/-- What a request that was committed did to tables: its reply, and the tables
that it left. -/
inductive Answered (txId : String) (before : Database)
    (responses : List (String × String)) : Reply → Database → Prop where
  /-- Nothing waits; the reply is about the row of the transaction. -/
  | missing {reply : Reply} {after : Database}
      (pending : before.pendingItem? txId = none)
      (reply_eq : reply = Reply.ofHash txId (before.decodedHash? txId))
      (after_eq : after = before) : Answered txId before responses reply after
  /-- An item waits; an outcome of it was added. -/
  | found {item : PendingItem} {outcome : Outcome} {reply : Reply}
      {after : Database} (pending : before.pendingItem? txId = some item)
      (of : Outcome.Of item [] (responses.lookup item.txId) outcome)
      (reply_eq : reply = Reply.ofOutcome txId outcome)
      (after_eq : after = before.addOutcome outcome) :
      Answered txId before responses reply after

/-- How a request ended. -/
inductive Ended (I : Database → Prop) (txId : String) (store : Store) :
    Reply → Store → Prop where
  | empty : Ended I txId store .emptyId store
  | committed {reply : Reply} {after : Store} (run : store.Committed I after)
      (answered :
        Answered txId store.tables store.responses reply after.tables) :
      Ended I txId store reply after
  | rolledBack {failure : Failure} {after : Store}
      (run : store.RolledBack I after) :
      Ended I txId store (.broken failure.message) after

/-- What the item of a transaction must keep all along. -/
def Keeps (I : Database → Prop) (txId : String) (store : Store) : Prop :=
  ∀ item, store.tables.pendingItem? txId = some item →
    ∀ outcome, Outcome.Of item [] (store.responses.lookup item.txId) outcome →
      Statement.Along I outcome.statements store.tables

theorem keeps_true (txId : String) (store : Store) :
    Keeps (fun _ => True) txId store :=
  fun _ _ outcome _ =>
    Statement.along_of_forall (fun _ => trivial) outcome.statements store.tables

end Request

namespace Work

open Request

variable {txId : String}

/-- Once the queue has been read, a request answers or adds an outcome. -/
theorem ends_replyTo (hI : I store.tables) (hitem : Request.Keeps I txId store) :
    (replyTo txId (store.tables.pendingItem? txId)).Ends around store
      (fun reply after => store.Extends (Entry.Inner I) after ∧
        Answered txId store.tables store.responses reply after.tables)
      (fun _ after => store.Extends (Entry.Inner I) after) := by
  cases hpending : store.tables.pendingItem? txId with
  | none =>
      have hread : store.Extends (Entry.Inner I)
          (store.enter (.statement (.selectDecodedHash txId))) :=
        (Store.Extends.refl store).enter ⟨rfl, hI⟩
      refine Ends.bind ((ends_read fun _ => rfl).mono ?_ ?_)
      · rintro hash after ⟨rfl, rfl⟩
        exact Ends.pure ⟨hread, .missing hpending rfl rfl⟩
      · rintro _ after rfl
        exact hread
  | some item =>
      have halong : ∀ outcome,
          Outcome.Of item ((none : Option (List String)).getD [])
            (store.responses.lookup item.txId) outcome →
            Statement.Along I outcome.statements store.tables :=
        hitem item hpending
      refine Ends.bind ((Outcome.ends_process halong).mono ?_ ?_)
      · rintro ⟨outcome, known⟩ after ⟨hafter, hadded, hof, -⟩
        exact Ends.pure ⟨hafter, .found hpending hof rfl hadded⟩
      · rintro _ after ⟨hafter, -⟩
        exact hafter

/-- A request for a transaction adds an outcome of its item, if there is one. -/
theorem ends_decodeNow (hI : I store.tables)
    (hitem : Request.Keeps I txId store) : (decodeNow txId).Ends around store
      (fun reply after => store.Committed I after ∧
        Answered txId store.tables store.responses reply after.tables)
      (fun _ after => store.RolledBack I after) := by
  refine ends_transaction (Answered txId store.tables store.responses)
    (Ends.bind ?_)
  have hread : (store.enter .begin).Extends (Entry.Inner I)
      ((store.enter .begin).enter (.statement (.selectPendingItem txId))) :=
    (Store.Extends.refl _).enter ⟨rfl, hI⟩
  refine (ends_read fun _ => rfl).mono ?_ ?_
  · rintro found started ⟨rfl, rfl⟩
    -- reading has changed neither the tables nor the responses
    have hread' : I ((store.enter .begin).enter
        (.statement (.selectPendingItem txId))).tables := hI
    have hitem' : Request.Keeps I txId ((store.enter .begin).enter
        (.statement (.selectPendingItem txId))) := hitem
    refine (ends_replyTo hread' hitem').mono ?_ ?_
    · rintro reply after ⟨hafter, hanswered⟩
      exact ⟨hread.trans hafter, hanswered⟩
    · exact fun _ after hafter => hread.trans hafter
  · rintro _ after rfl
    exact hread

end Work

/-- A request does nothing for the empty identifier, and otherwise commits or is
rolled back. -/
theorem ended_decodeOnDemand (around : Surroundings) {txId : String}
    (hI : I store.tables) (hitem : Request.Keeps I (Text.trim txId) store) :
    Request.Ended I (Text.trim txId) store (decodeOnDemand txId around store).1
      (decodeOnDemand txId around store).2 := by
  unfold decodeOnDemand
  simp only
  split
  · exact .empty
  · rcases (Work.ends_decodeNow hI hitem).run with ⟨reply, after, hrun, hafter⟩ |
      ⟨failure, after, hrun, hafter⟩
    · rw [hrun]
      exact .committed hafter.1 hafter.2
    · rw [hrun]
      exact .rolledBack hafter

end EvmIndexer
