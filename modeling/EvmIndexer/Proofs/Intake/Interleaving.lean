import EvmIndexer.Proofs.Intake.History
import EvmIndexer.Proofs.Intake.Settling

/-!
# Requests among other work

A request reads twice: the queue, and if nothing waits there, the rows. Between
the two anything may be committed by others. What others commit is always one of
two things, an item put into the queue or outcomes added to the tables, and
neither loses a transaction: it waits or it has a row, before and after. So a
transaction that the first reading misses has its row by then, keeps it, and is
found by the second.

Commits are taken as they are, with whatever outcomes, since a unit of work that
overlaps others adds its outcomes to tables which are not those that it read. A
step that is taken alone commits the same way.
-/

namespace EvmIndexer

/-! ## What others commit -/

namespace Database

/-- What a unit of work commits. -/
inductive Commit : Database → Database → Prop where
  | enqueue (db : Database) (item : PendingItem) : Commit db (db.enqueue item)
  | outcomes (db : Database) (all : List Outcome) : Commit db (db.addOutcomes all)

/-- Any number of commits. -/
def Commits : Database → Database → Prop := Relation.ReflTransGen Commit

variable {before after : Database}

theorem kept_addOutcomes (db : Database) (outcomes : List Outcome) :
    Kept db (db.addOutcomes outcomes) := by
  induction outcomes generalizing db with
  | nil => exact .refl db
  | cons outcome rest ih => exact (kept_addOutcome db outcome).trans (ih _)

theorem Commits.kept (h : Commits before after) : Kept before after := by
  induction h with
  | refl => exact .refl before
  | tail _ hcommit ih =>
      cases hcommit with
      | enqueue item => exact ih.trans (kept_enqueue _ item)
      | outcomes all => exact ih.trans (kept_addOutcomes _ all)

end Database

namespace Intake

open Database (Commit Commits)

theorem commits_poll (store : Store) (drain : Drain) (around : Surroundings) :
    Commits store.tables (drain.poll around store).2.2.tables := by
  have hitems : ∀ item ∈ store.tables.undecoded drain.size.toNat,
      Outcome.Keeps (fun _ => True)
        (fun _ db => ∃ all, db = store.tables.addOutcomes all) store.responses item := by
    rintro item - known _ outcome ⟨all, rfl⟩ -
    refine ⟨Statement.along_of_forall (fun _ => trivial) _ _, fun _ _ => ?_⟩
    exact ⟨all ++ [outcome], (Database.addOutcomes_append _ all [outcome]).symm⟩
  rcases drain.poll_cases around trivial ⟨[], rfl⟩ hitems with
    ⟨-, -, all, hall⟩ | hrolled
  · rw [hall]
    exact .single (.outcomes store.tables all)
  · rw [hrolled.tables]
    exact .refl

theorem commits_request (store : Store) (txId : String) (around : Surroundings) :
    Commits store.tables (decodeOnDemand txId around store).2.tables := by
  have hended := ended_decodeOnDemand around trivial
    (Request.keeps_true (Text.trim txId) store)
  generalize (decodeOnDemand txId around store).1 = reply at hended
  generalize (decodeOnDemand txId around store).2 = after at hended ⊢
  cases hended with
  | empty => exact .refl
  | committed _ hanswered =>
      cases hanswered with
      | missing _ _ hafter =>
          rw [hafter]
          exact .refl
      | @found _ outcome _ _ _ _ _ hafter =>
          rw [hafter]
          exact .single (.outcomes store.tables [outcome])
  | rolledBack hrolled =>
      rw [hrolled.tables]
      exact .refl

theorem commits_take (step : Step) (store : Store) :
    Commits store.tables (step.take store).tables := by
  cases step with
  | enqueue item response => exact .single (.enqueue store.tables item)
  | request txId around => exact commits_request store txId around
  | poll drain around => exact commits_poll store drain around

/-- Steps taken one after the other commit in this way. -/
theorem commits_play (steps : List Step) (store : Store) :
    Commits store.tables (play store steps).tables := by
  induction steps generalizing store with
  | nil => exact .refl
  | cons step rest ih => exact (commits_take step store).trans (ih (step.take store))

end Intake

/-! ## A request with others between its readings -/

namespace Work

variable {around : Surroundings} {store : Store}

/-- The work of a request, with others at work once the queue has been read. -/
def decodeAmong (others : Store → Store) (txId : String) : Work Reply := do
  let found ← pendingItem txId
  modify others
  replyTo txId found

theorem Ends.modify {others : Store → Store} {ok : Unit → Store → Prop}
    {bad : Failure → Store → Prop} (h : ok () (others store)) :
    (modify others : Work Unit).Ends around store ok bad := h

/-- A request that finds an item replies about an outcome; one that finds none
replies about the row that others have left. -/
theorem ends_decodeAmong (others : Store → Store) (txId : String) :
    (decodeAmong others txId).Ends around store
      (fun reply _ => match store.tables.pendingItem? txId with
        | some _ => ∃ outcome, reply = Reply.ofOutcome txId outcome
        | none => reply = Reply.ofHash txId ((others (store.enter
            (.statement (.selectPendingItem txId)))).tables.decodedHash? txId))
      (fun _ _ => True) := by
  refine Ends.bind ((ends_read fun _ => rfl).mono ?_ fun _ _ _ => trivial)
  rintro found read ⟨rfl, rfl⟩
  refine Ends.bind (Ends.modify ?_)
  show (replyTo txId (store.tables.pendingItem? txId)).Ends around _ _ _
  cases store.tables.pendingItem? txId with
  | none =>
      refine Ends.bind ((ends_read fun _ => rfl).mono ?_ fun _ _ _ => trivial)
      rintro hash last ⟨rfl, -⟩
      exact Ends.pure rfl
  | some item =>
      have halong : ∀ db outcome, Statement.Along (fun _ => True)
          (Outcome.statements outcome) db := fun db outcome =>
        Statement.along_of_forall (fun _ => trivial) outcome.statements db
      refine Ends.bind ((Outcome.ends_process fun outcome _ => halong _ outcome).mono
        ?_ fun _ _ _ => trivial)
      rintro ⟨outcome, known⟩ last -
      exact Ends.pure ⟨outcome, rfl⟩

/-- Where nothing goes wrong with reading, a request that misses the item replies about the
row that others have left. -/
theorem ends_decodeAmong_missing {answer : String → LookupAnswer} (h : around.Orderly answer)
    (others : Store → Store) {txId : String}
    (hpending : store.tables.pendingItem? txId = none) :
    (decodeAmong others txId).Ends around store
      (fun reply _ => ∃ read : Store, read.tables = store.tables ∧
        reply = Reply.ofHash txId ((others read).tables.decodedHash? txId))
      (fun _ _ => False) := by
  refine Ends.bind ((yields_query h rfl rfl).mono ?_ fun _ _ hfalse => hfalse)
  rintro found read ⟨rfl, htables, -⟩
  rw [hpending]
  refine Ends.bind (Ends.modify ?_)
  refine Ends.bind ((yields_query h rfl rfl).mono ?_ fun _ _ hfalse => hfalse)
  rintro hash last ⟨rfl, -, -⟩
  exact Ends.pure ⟨read, htables, rfl⟩

/-- A transaction ends as its work does. -/
theorem run_transaction {α : Type} (work : Work α) :
    ((transaction work).run around store).1 =
      (work.run around (store.enter .begin)).1 := by
  have hself : work.Ends around (store.enter .begin)
      (fun a _ => (work.run around (store.enter .begin)).1 = .ok a)
      (fun failure _ => (work.run around (store.enter .begin)).1 = .error failure) := by
    unfold Ends run
    cases work around (store.enter .begin) <;> rfl
  have hends : (transaction work).Ends around store
      (fun a _ => (work.run around (store.enter .begin)).1 = .ok a)
      (fun failure _ => (work.run around (store.enter .begin)).1 = .error failure) :=
    Ends.bracket (hself.mono (fun a last ha => Ends.record ha) fun _ _ h => h)
  rcases hends.run with ⟨a, after, hrun, ha⟩ | ⟨failure, after, hrun, hfailure⟩
  · rw [hrun, ha]
  · rw [hrun, hfailure]

end Work

/-- The reply to a request with others between its readings. -/
def Reply.among (others : Store → Store) (txId : String) (around : Surroundings)
    (store : Store) : Reply :=
  let txId := Text.trim txId
  if txId = "" then .emptyId
  else match (Work.decodeAmong others txId).run around (store.enter .begin) with
    | (.ok reply, _) => reply
    | (.error failure, _) => .broken failure.message

theorem Reply.ofHash_ne_broken (txId : String) (hash : Option String) (reason : String) :
    ofHash txId hash ≠ .broken reason := by
  cases hash <;> exact nofun

/-- Where nothing goes wrong with reading, it is about the row that others have left. -/
theorem Reply.exists_among_missing {answer : String → LookupAnswer} {around : Surroundings}
    (h : around.Orderly answer) (others : Store → Store) {txId : String}
    (hid : Text.trim txId ≠ "") {store : Store}
    (hpending : store.tables.pendingItem? (Text.trim txId) = none) :
    ∃ read : Store, read.tables = store.tables ∧
      Reply.among others txId around store = .ofHash (Text.trim txId)
        ((others read).tables.decodedHash? (Text.trim txId)) := by
  unfold Reply.among
  simp only [if_neg hid]
  have hends := @Work.ends_decodeAmong_missing around (store.enter .begin) _ h others _ hpending
  rcases hends.run with ⟨reply, after, hrun, read, htables, hreply⟩ | ⟨_, _, -, hfalse⟩
  · rw [hrun]
    exact ⟨read, htables, hreply⟩
  · exact hfalse.elim

/-- With nobody between its readings the reply is that of the request alone. -/
theorem Reply.among_id (txId : String) (around : Surroundings) (store : Store) :
    Reply.among id txId around store = (decodeOnDemand txId around store).1 := by
  unfold Reply.among decodeOnDemand
  by_cases hid : Text.trim txId = ""
  · simp only [if_pos hid]
  · simp only [if_neg hid]
    have hsame : ((Work.decodeNow (Text.trim txId)).run around store).1 =
        ((Work.decodeAmong id (Text.trim txId)).run around (store.enter .begin)).1 :=
      Work.run_transaction _
    generalize (Work.decodeNow (Text.trim txId)).run around store = run at hsame
    generalize (Work.decodeAmong id (Text.trim txId)).run around
      (store.enter .begin) = run' at hsame
    obtain ⟨result, after⟩ := run
    obtain ⟨result', after'⟩ := run'
    obtain rfl : result = result' := hsame
    cases result <;> rfl

namespace Database

variable {db : Database} {txId : String}

theorem exists_decodedHash? (h : db.isDecoded txId = true) :
    ∃ hash, db.decodedHash? txId = some hash := by
  unfold decodedHash?
  cases hrow : db.transactions.find? fun tx => tx.txId == txId with
  | some row => exact ⟨row.hash, rfl⟩
  | none =>
      obtain ⟨tx, htx, hid⟩ := isDecoded_iff.1 h
      exact absurd (beq_iff_eq.2 hid) (List.find?_eq_none.1 hrow tx htx)

/-- A row keeps its hash. -/
theorem Grows.decodedHash? {other : Database} (h : db.Grows other) {hash : String}
    (hhash : db.decodedHash? txId = some hash) : other.decodedHash? txId = some hash := by
  obtain ⟨row, hrow, rfl⟩ := Option.map_eq_some_iff.1 hhash
  exact Option.map_eq_some_iff.2 ⟨row, h.transactions.find?_eq_some hrow, rfl⟩

/-- What is accounted for and does not wait has a row. -/
theorem Accounts.isDecoded (h : db.Accounts txId)
    (hpending : db.pendingItem? txId = none) : db.isDecoded txId = true := by
  rcases h with ⟨item, hitem, hid⟩ | hdecoded
  · exact absurd (beq_iff_eq.2 hid) (List.find?_eq_none.1 hpending item hitem)
  · exact hdecoded

end Database

/-- A transaction that was put into the queue before a request for it began is
found, whatever others commit before the request and between its readings. If it
no longer waits when the queue is read, the request finds the hash of the row
that the second reading sees, or fails. -/
theorem Intake.found_among_others {enqueued : Database} {txId : String}
    {others : Store → Store} (around : Surroundings) (store : Store)
    (hid : Text.trim txId ≠ "") (hwaits : enqueued.Waits (Text.trim txId))
    (hbefore : enqueued.Commits store.tables)
    (hothers : ∀ read : Store, read.tables = store.tables →
      store.tables.Commits (others read).tables) :
    Reply.among others txId around store ≠ .notFound ∧
    (store.tables.pendingItem? (Text.trim txId) = none →
      (∃ read hash, read.tables = store.tables ∧
        (others read).tables.decodedHash? (Text.trim txId) = some hash ∧
        Reply.among others txId around store =
          .alreadyDecoded (Text.trim txId) hash) ∨
      ∃ reason, Reply.among others txId around store = .broken reason) := by
  unfold Reply.among
  simp only [if_neg hid]
  generalize Text.trim txId = txId at hwaits ⊢
  have haccounts := hbefore.kept.accounts txId (Or.inl hwaits)
  rcases (Work.ends_decodeAmong others txId).run with
    ⟨reply, after, hrun, hreply⟩ | ⟨failure, after, hrun, -⟩
  · rw [hrun]
    change match store.tables.pendingItem? txId with
      | some _ => _
      | none => _ at hreply
    cases hpending : store.tables.pendingItem? txId with
    | some item =>
        rw [hpending] at hreply
        obtain ⟨outcome, rfl⟩ := hreply
        refine ⟨?_, nofun⟩
        show Reply.ofOutcome txId outcome ≠ .notFound
        unfold Reply.ofOutcome
        split <;> exact nofun
    | none =>
        rw [hpending] at hreply
        -- it has its row when the queue is read, and others only add rows
        have hread := (hothers ((store.enter .begin).enter
          (.statement (.selectPendingItem txId))) rfl).kept.grows.isDecoded
          (haccounts.isDecoded hpending)
        obtain ⟨hash, hhash⟩ := Database.exists_decodedHash? hread
        rw [hhash] at hreply
        subst hreply
        exact ⟨nofun, fun _ => Or.inl ⟨(store.enter .begin).enter _, hash, rfl, hhash, rfl⟩⟩
  · rw [hrun]
    exact ⟨nofun, fun _ => Or.inr ⟨_, rfl⟩⟩

/-- A creation with a transfer is polled before it is asked for, put into the queue again
and asked for by somebody else in between. The reply is about the row that the poll left. -/
theorem Intake.found_among_others_polled :
    let item := Outcome.creationAs "a"
    let start : Store := {
      tables := { pending := [item] }, responses := [("a", Outcome.announcing)] }
    let around := Surroundings.refusing [] none
    let poll : Step := .poll { size := 1 } around
    let others := fun read => play read [.enqueue item none, .request "a" around]
    ∃ polled hash, poll.take start = polled ∧
      polled.tables.pendingItem? "a" = none ∧
      polled.tables.decodedHash? "a" = some hash ∧
      polled.tables.transfers.map (·.txId) = ["a"] ∧
      Reply.among others " a" around polled ≠ .notFound ∧
      Reply.among others " a" around polled = .alreadyDecoded "a" hash := by
  intro item start around poll others
  let c := Circumstances.refusing [] none start.responses
  have hfollows : around.Follows c := Surroundings.follows_refusing start.responses
  have hbatch : start.tables.undecoded 1 = [item] := rfl
  obtain ⟨polled, outcome, htake, htables, hannounces⟩ :=
    @Step.exists_take_poll_announcing around c hfollows start rfl 1 (by decide) "a" hbatch rfl
      List.lookup_cons_self
  have hpending : polled.tables.pending = [] := by
    rw [htables]
    show [item].filter (·.txId != outcome.transaction.txId) = []
    rw [hannounces.transaction]
    rfl
  have hmissing : polled.tables.pendingItem? "a" = none := by
    rw [Database.pendingItem?, hpending]
    rfl
  have htransactions : polled.tables.transactions = [outcome.transaction] := by
    rw [htables, Database.inserts_transactions.addOutcomes]
    rfl
  have hhash : polled.tables.decodedHash? "a" = some outcome.transaction.hash := by
    simp [Database.decodedHash?, htransactions, hannounces.transaction]
  have htransfers : polled.tables.transfers.map (·.txId) = ["a"] := by
    rw [htables, Database.inserts_transfers.addOutcomes, List.flatMap_singleton,
      hannounces.transfers]
    rfl
  have htrim : Text.trim " a" = "a" := by decide +kernel
  have hid : Text.trim " a" ≠ "" := by
    rw [htrim]
    decide
  have hwaits : start.tables.Waits (Text.trim " a") := by
    rw [htrim]
    exact ⟨item, List.mem_singleton_self item, rfl⟩
  have hcommits : start.tables.Commits polled.tables := by
    rw [← htake]
    exact commits_take poll start
  have hothers : ∀ read : Store, read.tables = polled.tables →
      polled.tables.Commits (others read).tables := by
    intro read hread
    rw [← hread]
    exact commits_play _ read
  obtain ⟨hnot, hfound⟩ := found_among_others around polled hid hwaits hcommits hothers
  refine ⟨polled, outcome.transaction.hash, htake, hmissing, hhash, htransfers, hnot, ?_⟩
  rw [htrim] at hfound
  rcases hfound hmissing with ⟨read, hash, hread, hagain, hreply⟩ | ⟨reason, hbroken⟩
  · -- what comes in between leaves the row
    have hsame := (hothers read hread).kept.grows.decodedHash? hhash
    rw [hagain] at hsame
    cases hsame
    exact hreply
  · -- nothing goes wrong with reading
    obtain ⟨read, -, hreply⟩ := Reply.exists_among_missing hfollows.orderly others hid
      (htrim.symm ▸ hmissing)
    exact absurd (hreply.symm.trans hbroken) (Reply.ofHash_ne_broken _ _ reason)

end EvmIndexer
