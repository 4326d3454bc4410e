import EvmIndexer.Proofs.Intake.Settling

/-!
# Histories of the store

Three things happen to the store: an item is put into the queue, a transaction is
asked for, a batch is polled. A history is any sequence of them. Each request and
each poll brings its own surroundings, so it may be struck by a fault at any of
its statements, be it one that refuses a row or one that ends the work.

What one step preserves is `Step.Safe`, and a history preserves what its steps
do. A row that was committed stays as it is; a transaction that was ever put into
the queue waits or has a row; and it leaves the queue only with a commit that
gives it its one row.
-/

namespace EvmIndexer

/-! ## What outcomes preserve -/

namespace Database

/-- What every change of the tables leaves of them: the derived rows, their keys,
and that a transaction is accounted for. -/
structure Kept (before after : Database) : Prop where
  grows : before.Grows after
  unique : before.UniqueTransactions → after.UniqueTransactions
  accounts : ∀ txId, before.Accounts txId → after.Accounts txId

variable {first second third : Database}

theorem Kept.refl (db : Database) : Kept db db :=
  ⟨.refl db, id, fun _ => id⟩

theorem Kept.trans (h : Kept first second) (h' : Kept second third) :
    Kept first third where
  grows := h.grows.trans h'.grows
  unique := h'.unique ∘ h.unique
  accounts txId := h'.accounts txId ∘ h.accounts txId

theorem kept_addOutcome (db : Database) (outcome : Outcome) :
    Kept db (db.addOutcome outcome) where
  grows := grows_addOutcome db outcome
  unique h := uniqueTransactions_addOutcome h outcome
  accounts _ h := h.addOutcome outcome

theorem kept_enqueue (db : Database) (item : PendingItem) :
    Kept db (db.enqueue item) := by
  have hsame : (db.enqueue item).transactions = db.transactions ∧
      Grows db (db.enqueue item) := by
    unfold enqueue
    have h := Grows.refl db
    split <;> exact ⟨rfl, { h with transactions := h.transactions }⟩
  refine ⟨hsame.2, ?_, ?_⟩
  · intro h
    rw [UniqueTransactions, hsame.1]
    exact h
  · rintro txId (hwaits | hdecoded)
    · exact Or.inl (hwaits.enqueue item)
    · exact Or.inr (hsame.2.isDecoded hdecoded)

end Database

namespace Intake

/-! ## Steps -/

/-- What happens to the store. -/
inductive Step where
  | enqueue (item : PendingItem) (response : Option String)
  | request (txId : String) (around : Surroundings)
  | poll (drain : Drain) (around : Surroundings)

/-- The store after a step. -/
def Step.take (store : Store) : Step → Store
  | .enqueue item response => store.enqueue item response
  | .request txId around => (decodeOnDemand txId around store).2
  | .poll drain around => (drain.poll around store).2.2

theorem Step.take_poll {drain drain' : Drain} {around : Surroundings} {store after : Store}
    {result : Except Failure Nat}
    (h : drain.poll around store = (result, drain', after)) :
    (Step.poll drain around).take store = after := congrArg (·.2.2) h

/-- A poll that meets a creation which announces a transfer, and nothing else. -/
theorem Step.exists_take_poll_announcing {around : Surroundings} {c : Circumstances}
    (h : around.Follows c) {store : Store} (hresponses : store.responses = c.responses)
    {size : Int} (hsize : 0 < size) {txId : String}
    (hbatch : store.tables.undecoded size.toNat = [Outcome.creationAs txId])
    (hrefused : c.refused txId = false)
    (hresponse : c.responses.lookup txId = some Outcome.announcing) :
    ∃ after outcome, (Step.poll { size } around).take store = after ∧
      after.tables = store.tables.addOutcomes [outcome] ∧
      Outcome.Announces txId outcome := by
  obtain ⟨after, hpoll, htables, -, -⟩ := @Drain.exists_poll around store c h.orderly
    hresponses { size } hsize _ hbatch (h.judgesAll [] _)
  obtain ⟨outcome, houtcome, hannounces⟩ := Circumstances.exists_announces hrefused hresponse
  rw [List.map_singleton, houtcome] at htables
  exact ⟨after, outcome, Step.take_poll hpoll, htables, hannounces⟩

/-- What a step does: it keeps the tables, every commit in it is of the tables
that it leaves, and without a commit no transaction leaves the queue. -/
structure Step.Safe (before after : Store) : Prop where
  kept : before.tables.Kept after.tables
  commits : ∀ entry ∈ before.news after,
    entry.event = .commit → entry.tables = after.tables
  leaves : ∀ txId, before.tables.Waits txId → ¬ after.tables.Waits txId →
    ⟨.commit, after.tables⟩ ∈ before.news after

theorem Step.safe_refl (store : Store) : Step.Safe store store where
  kept := .refl store.tables
  commits := by simp [Store.news]
  leaves _ hwaits hleft := absurd hwaits hleft

theorem Step.safe_of_committed {I : Database → Prop} {before after : Store}
    (h : before.Committed I after) (hkept : before.tables.Kept after.tables) :
    Step.Safe before after where
  kept := hkept
  commits _ hentry := h.commits.of_mem_news hentry
  leaves _ _ _ := h.mem_journal

theorem Step.safe_of_rolledBack {I : Database → Prop} {before after : Store}
    (h : before.RolledBack I after) : Step.Safe before after where
  kept := by
    rw [h.tables]
    exact .refl before.tables
  commits _ hentry hevent := absurd hevent (h.commits.of_mem_news hentry)
  leaves _ hwaits hleft := by
    rw [h.tables] at hleft
    exact absurd hwaits hleft

theorem Step.safe_enqueue (store : Store) (item : PendingItem)
    (response : Option String) :
    Step.Safe store (store.enqueue item response) where
  kept := Database.kept_enqueue store.tables item
  commits := by simp [Store.news, Store.enqueue]
  leaves _ hwaits hleft := absurd (hwaits.enqueue item) hleft

/-- A request that answered kept the tables. -/
theorem kept_of_answered {txId : String} {before after : Database}
    {responses : List (String × String)} {reply : Reply}
    (h : Request.Answered txId before responses reply after) :
    before.Kept after := by
  cases h with
  | missing _ _ hafter =>
      rw [hafter]
      exact .refl before
  | found _ _ _ hafter =>
      rw [hafter]
      exact Database.kept_addOutcome before _

theorem Step.safe_request (store : Store) (txId : String)
    (around : Surroundings) : Step.Safe store (decodeOnDemand txId around store).2 := by
  have hended := ended_decodeOnDemand around trivial
    (Request.keeps_true (Text.trim txId) store)
  generalize (decodeOnDemand txId around store).1 = reply at hended
  generalize (decodeOnDemand txId around store).2 = after at hended ⊢
  cases hended with
  | empty => exact Step.safe_refl store
  | committed hcommitted hanswered =>
      exact Step.safe_of_committed hcommitted (kept_of_answered hanswered)
  | rolledBack hrolled => exact Step.safe_of_rolledBack hrolled

/-- A batch keeps what outcomes keep. -/
theorem keeps_kept (db : Database) (responses : List (String × String))
    (item : PendingItem) :
    Outcome.Keeps (fun _ => True) (fun _ after => db.Kept after) responses
      item := by
  intro known before outcome hkept _
  refine ⟨Statement.along_of_forall (fun _ => trivial) _ _, fun _ _ => ?_⟩
  exact hkept.trans (Database.kept_addOutcome before outcome)

theorem Step.safe_poll (store : Store) (drain : Drain) (around : Surroundings) :
    Step.Safe store (drain.poll around store).2.2 := by
  rcases drain.poll_cases around trivial (.refl store.tables)
      (fun item _ => keeps_kept store.tables store.responses item) with
    ⟨hcommitted, -, hkept⟩ | hrolled
  · exact Step.safe_of_committed hcommitted hkept
  · exact Step.safe_of_rolledBack hrolled

theorem Step.safe (step : Step) (store : Store) :
    Step.Safe store (step.take store) := by
  cases step with
  | enqueue item response => exact Step.safe_enqueue store item response
  | request txId around => exact Step.safe_request store txId around
  | poll drain around => exact Step.safe_poll store drain around

/-! ## Histories -/

/-- The store after a history. -/
def play (store : Store) (steps : List Step) : Store :=
  steps.foldl Step.take store

/-- Whether a transaction was in the queue at the start or was put into it by a
step of a history. -/
def Enqueued (start : Store) (steps : List Step) (txId : String) : Prop :=
  start.tables.Waits txId ∨
    ∃ item response, Step.enqueue item response ∈ steps ∧ item.txId = txId

theorem kept_play (steps : List Step) (store : Store) :
    store.tables.Kept (play store steps).tables := by
  induction steps generalizing store with
  | nil => exact .refl store.tables
  | cons step rest ih =>
      exact (Step.safe step store).kept.trans (ih (step.take store))

theorem accounts_play {start : Store} {steps : List Step} {txId : String}
    (h : Enqueued start steps txId) :
    (play start steps).tables.Accounts txId := by
  rcases h with hwaits | ⟨item, response, hmem, rfl⟩
  · exact (kept_play steps start).accounts txId (Or.inl hwaits)
  · -- it waits right after the step, whatever was there before
    obtain ⟨before, after, rfl⟩ := List.append_of_mem hmem
    have hafter := kept_play after
      ((Step.enqueue item response).take (play start before))
    have hwaits : ((Step.enqueue item response).take
        (play start before)).tables.Waits item.txId :=
      Database.waits_enqueue _ item
    rw [play, List.foldl_append]
    exact hafter.accounts item.txId (Or.inl hwaits)

/-- The store is safe over whole histories. Between any two times the derived
tables only grow, every transaction that was ever put into the queue waits or has
a row, and a transaction leaves the queue only in a step with a commit, after
which it has exactly one row. Every commit of a step is of the tables that the
step leaves, so the times between the steps are all that was ever committed. -/
theorem store_safety (start : Store) (hstart : start.tables.UniqueTransactions)
    (earlier later : List Step) :
    (play start earlier).tables.Grows (play start (earlier ++ later)).tables ∧
    (∀ txId, Enqueued start earlier txId →
      (play start earlier).tables.Accounts txId) ∧
    ∀ step : Step,
      (∀ entry ∈ (play start earlier).news (step.take (play start earlier)),
        entry.event = .commit →
          entry.tables = (step.take (play start earlier)).tables) ∧
      ∀ txId, (play start earlier).tables.Waits txId →
        ¬ (step.take (play start earlier)).tables.Waits txId →
        ⟨.commit, (step.take (play start earlier)).tables⟩ ∈
            (play start earlier).news (step.take (play start earlier)) ∧
          (step.take (play start earlier)).tables.transactions.countP
            (fun tx => tx.txId == txId) = 1 := by
  refine ⟨?_, fun _ => accounts_play, fun step => ?_⟩
  · rw [play, play, List.foldl_append]
    exact (kept_play later (play start earlier)).grows
  · have hsafe := Step.safe step (play start earlier)
    have hunique := hsafe.kept.unique ((kept_play earlier start).unique hstart)
    refine ⟨hsafe.commits, fun txId hwaits hleft =>
      ⟨hsafe.leaves txId hwaits hleft, hunique.countP_eq_one ?_⟩⟩
    rcases hsafe.kept.accounts txId (Or.inl hwaits) with hstill | hdecoded
    · exact absurd hstill hleft
    · exact hdecoded

/-- A placeholder is put into the queue again beside a creation with a transfer. The poll
passes the first over, which waits on, and takes the second off, which leaves its row and
its transfer in the same commit. -/
theorem store_safety_placeholder_again :
    let start : Store := {
      tables := { transactions := [.placeholder "a"] }
      responses := ["a", "b"].map fun txId => (txId, Outcome.announcing) }
    let around := Surroundings.refusing [] none
    let earlier : List Step :=
      ["a", "b"].map fun txId => .enqueue (Outcome.creationAs txId) none
    let poll : Step := .poll { size := 2 } around
    start.tables.UniqueTransactions ∧
      (play start earlier).tables.Grows
        (play start (earlier ++ [poll, .request "a" around])).tables ∧
      Enqueued start earlier "b" ∧ (play start earlier).tables.Accounts "b" ∧
      (play start earlier).tables.Waits "b" ∧
      ∃ after, poll.take (play start earlier) = after ∧
        after.tables.Waits "a" ∧ ¬ after.tables.Waits "b" ∧
        ⟨.commit, after.tables⟩ ∈ (play start earlier).news after ∧
        after.tables.transactions.countP (fun tx => tx.txId == "b") = 1 ∧
        after.tables.transfers.map (·.txId) = ["b"] := by
  intro start around earlier poll
  let c := Circumstances.refusing [] none start.responses
  have hfollows : around.Follows c := Surroundings.follows_refusing start.responses
  have hstart : start.tables.UniqueTransactions := List.nodup_singleton "a"
  have henqueued : Enqueued start earlier "b" :=
    Or.inr ⟨Outcome.creationAs "b", none, by simp [earlier], rfl⟩
  have hwaits : (play start earlier).tables.Waits "b" :=
    Database.waits_enqueue _ (Outcome.creationAs "b")
  obtain ⟨hgrows, haccounts, hstep⟩ :=
    store_safety start hstart earlier [poll, .request "a" around]
  obtain ⟨-, hleaves⟩ := hstep poll
  -- the poll passes over what has a row
  have hbatch : (play start earlier).tables.undecoded 2 = [Outcome.creationAs "b"] := rfl
  obtain ⟨after, outcome, htake, htables, hannounces⟩ :=
    @Step.exists_take_poll_announcing around c hfollows (play start earlier) rfl 2 (by decide)
      "b" hbatch rfl (by simp [c, start, Circumstances.refusing, List.lookup_cons])
  replace htake : poll.take (play start earlier) = after := htake
  have hpending : after.tables.pending = [Outcome.creationAs "a"] := by
    have hqueue : (play start earlier).tables.pending =
        ["a", "b"].map Outcome.creationAs := rfl
    rw [htables]
    show (play start earlier).tables.pending.filter
      (·.txId != outcome.transaction.txId) = _
    rw [hqueue, hannounces.transaction]
    rfl
  have hleft : ¬ after.tables.Waits "b" := by
    rintro ⟨item, hitem, hid⟩
    rw [hpending, List.mem_singleton] at hitem
    rw [hitem] at hid
    exact absurd hid (by decide)
  rw [htake] at hleaves
  obtain ⟨hcommit, hone⟩ := hleaves "b" hwaits hleft
  refine ⟨hstart, hgrows, henqueued, haccounts "b" henqueued, hwaits, after, htake, ?_,
    hleft, hcommit, hone, ?_⟩
  · refine ⟨Outcome.creationAs "a", ?_, rfl⟩
    rw [hpending]
    exact List.mem_singleton_self _
  · rw [htables, Database.inserts_transfers.addOutcomes, List.flatMap_singleton,
      hannounces.transfers]
    rfl

end Intake

end EvmIndexer
