import EvmIndexer.Proofs.Intake.Settling
import EvmIndexer.Proofs.Repair.Phases

/-!
# Good references at every statement

A database that checks references checks them at each statement. So it is not
enough that a transaction leaves good references behind: they have to be good at
every entry of the journal, also in a transaction that will be rolled back, also
behind a savepoint that will be. `Store.Referred` says this of a run.

It holds of all that writes logs and transfers: requests, polls, and the two
phases of the repair that do. What they have in common is that a reference leads
to a row of the same outcome that was written before, or to one that the run has
met; for the tokens of a batch the second case is an invariant of its rounds.
-/

namespace EvmIndexer

open Database

/-- Whether the references are good at every entry of a run and in its end. -/
def Store.Referred (before after : Store) : Prop :=
  (∀ entry ∈ before.news after, entry.tables.Referential) ∧
    after.tables.Referential

theorem Store.Repaired.referred {before after : Store}
    (h : before.Repaired after) : before.Referred after :=
  ⟨fun _ hentry => h.extends_.of_mem_news hentry, h.referential⟩

theorem Work.Repairs.referred {α : Type} {work : Work α} {around : Surroundings}
    {store : Store} (h : work.Repairs around store) :
    store.Referred (work.run around store).2 := by
  rcases Ends.run h with ⟨a, after, hrun, hafter⟩ |
    ⟨failure, after, hrun, hafter⟩
  · rw [hrun]
    exact hafter.referred
  · rw [hrun]
    exact hafter.referred

theorem Store.Committed.referred {before after : Store}
    (h : before.Committed Referential after)
    (hbefore : before.tables.Referential) (hafter : after.tables.Referential) :
    before.Referred after :=
  ⟨fun _ hentry => (h.extends hbefore hafter).of_mem_news hentry, hafter⟩

theorem Store.RolledBack.referred {before after : Store}
    (h : before.RolledBack Referential after)
    (hbefore : before.tables.Referential) : before.Referred after := by
  refine ⟨fun _ hentry => (h.extends hbefore).of_mem_news hentry, ?_⟩
  rw [h.tables]
  exact hbefore

variable {around : Surroundings} {store : Store}

theorem referred_request (h : store.tables.Referential) (txId : String)
    (around : Surroundings) :
    store.Referred (decodeOnDemand txId around store).2 := by
  have hkeeps : Request.Keeps Referential (Text.trim txId) store :=
    fun _ _ _ hof => hof.fromItem.along_referential h fun _ hmem => by cases hmem
  have hended := ended_decodeOnDemand around h hkeeps
  generalize (decodeOnDemand txId around store).1 = reply at hended
  generalize (decodeOnDemand txId around store).2 = after at hended ⊢
  cases hended with
  | empty => exact (Store.Repaired.refl h).referred
  | committed hcommitted hanswered =>
      refine hcommitted.referred h ?_
      cases hanswered with
      | missing _ _ hafter =>
          rw [hafter]
          exact h
      | found hpending hof _ hafter =>
          rw [hafter, ← Outcome.applyAll_statements]
          exact (hkeeps _ hpending _ hof).last
  | rolledBack hrolled => exact hrolled.referred h

theorem referred_poll (h : store.tables.Referential) (drain : Drain)
    (around : Surroundings) : store.Referred (drain.poll around store).2.2 := by
  rcases drain.poll_cases around h ⟨h, fun _ hmem => by cases hmem⟩
      (fun item _ => Outcome.keeps_referential store.responses item) with
    ⟨hcommitted, known, hknown⟩ | hrolled
  · exact hcommitted.referred h hknown.1
  · exact hrolled.referred h

/-- A token that a batch passes over, because an item before brought it, has a
row by then. -/
theorem hasToken_of_processAll (h : store.tables.Referential)
    {earlier : List PendingItem} {item : PendingItem} {known : List String}
    {met : Option (List String)} {outcome : Outcome} {reached built : Store}
    (hearlier : (earlier.foldlM Outcome.processNext []).run around store =
      (.ok known, reached))
    (hbuild : (Outcome.build item (some known)).run around reached =
      (.ok (outcome, met), built)) {transfer : Transfer}
    (htransfer : transfer ∈ outcome.transfers) :
    transfer.tokenAddress ∈ outcome.tokenAddresses ∨
      reached.tables.HasToken transfer.tokenAddress := by
  have hreached : reached.tables.Referential ∧ reached.tables.HasTokens known :=
    ((Work.ends_processAll
      (fun item _ => Outcome.keeps_referential store.responses item)
      ⟨h, fun _ hmem => by cases hmem⟩).of_run_ok hearlier).2
  have hof := ((Outcome.ends_build hreached.1).of_run_ok hbuild).2.2.1
  rcases hof.fromItem.recognized.covered transfer htransfer with hmet | hown
  · obtain ⟨address, haddress, hlower⟩ := List.mem_map.1 hmet
    rw [← hlower]
    exact Or.inr (hreached.2 address haddress)
  · exact Or.inl hown

/-- References are good at every statement of all that writes logs and transfers,
whatever strikes it: requests and polls, and the phases of the repair for logs
and for transfers, if the first is given transactions of the store and the second
logs of the store. In a batch, a token whose row an item leaves out because an
item before it brought it has a row. -/
theorem referential_throughout (store : Store) (h : store.tables.Referential)
    (around : Surroundings) :
    (∀ txId, store.Referred (decodeOnDemand txId around store).2) ∧
    (∀ drain : Drain, store.Referred (drain.poll around store).2.2) ∧
    (∀ (repair : Repair) (pages : List (List Candidate.Unlogged)),
      (∀ page ∈ pages, ∀ row ∈ page, store.tables.isDecoded row.txId = true) →
      store.Referred ((repair.logs pages).run around store).2) ∧
    (∀ (repair : Repair) (rows : List Candidate.Unmoved),
      (∀ row ∈ rows, store.tables.HasLog (row.txId, row.logIndex)) →
      store.Referred ((repair.transfers rows).run around store).2) ∧
    ∀ (earlier : List PendingItem) (item : PendingItem) (known : List String)
      (met : Option (List String)) (outcome : Outcome) (reached built : Store),
      (earlier.foldlM Outcome.processNext []).run around store =
        (.ok known, reached) →
      (Outcome.build item (some known)).run around reached =
        (.ok (outcome, met), built) →
      ∀ transfer ∈ outcome.transfers,
        transfer.tokenAddress ∈ outcome.tokenAddresses ∨
          reached.tables.HasToken transfer.tokenAddress := by
  refine ⟨fun txId => referred_request h txId around,
    fun drain => referred_poll h drain around, fun repair pages hpages => ?_,
    fun repair rows hrows => ?_, ?_⟩
  · exact (Repair.repairs_logsFrom h hpages).referred
  · exact (Repair.repairs_transfers h hrows).referred
  · intro earlier item known met outcome reached built hearlier hbuild transfer
    exact hasToken_of_processAll h hearlier hbuild

/-! ## A token for three transfers -/

namespace Repair

/-- A transaction without logs whose response announces a transfer. -/
def unlogged (txId : String) : Candidate.Unlogged := ⟨txId, 1, some Outcome.announcing⟩

/-- A log that announces a transfer which is not there. -/
def unmoved (txId : String) : Candidate.Unmoved :=
  ⟨txId, 0, "0xab", (Outcome.announcement txId).topics, none, some 1⟩

/-- The event that is looked for. Its topic is a hash, and is rewritten so that it need not be
computed. -/
theorem event_default : ({} : Repair).event = transferTopic := rfl

theorem logged_unlogged (txId : String) :
    ({} : Repair).logged (unlogged txId) =
      ([Outcome.announcement txId], Outcome.announced txId) := by
  have hexecution : (unlogged txId).execution? =
      some ⟨[Outcome.announcement txId], 21000, none⟩ := by
    rw [Candidate.Unlogged.execution?, unlogged, Option.map_some, Outcome.decode_announcing]
    rfl
  have hheight : (unlogged txId).height = 1 := rfl
  have hid : (unlogged txId).txId = txId := rfl
  rw [logged, hexecution, hheight, hid, event_default]
  simp only [Outcome.ofLogs_announcement]

theorem recognizeChunk_unmoved (txId : String) :
    ({} : Repair).recognizeChunk [unmoved txId] = Outcome.announced txId := by
  have hlog : (unmoved txId).log = Outcome.announcement txId := rfl
  have hheight : (unmoved txId).height = some 1 := rfl
  have hid : (unmoved txId).txId = txId := rfl
  rw [recognizeChunk, List.foldl_cons, List.foldl_nil, addUnmoved, event_default, hlog, hheight,
    hid, List.map_nil, Outcome.ofLogs_announcement]
  rfl

end Repair

/-- Two creations announce transfers of one token. In a batch the second leaves the token
out. -/
theorem Outcome.exists_left_out {c : Circumstances} (h : around.Follows c)
    (hresponses : store.responses = c.responses) {first second : String}
    (hrefused : c.refused first = false)
    (hfirst : c.responses.lookup first = some announcing)
    (hsecond : c.responses.lookup second = some announcing) :
    ∃ known reached outcome met built,
      ([creationAs first].foldlM processNext []).run around store = (.ok known, reached) ∧
      (build (creationAs second) (some known)).run around reached =
        (.ok (outcome, met), built) ∧
      outcome.tokens = [] ∧ outcome.transfers = (announced second).transfers := by
  have hknown : c.knownAfter [] (creationAs first) = ["0xab"] := by
    obtain ⟨outcome, houtcome, hannounces⟩ := Circumstances.exists_announces hrefused hfirst
    rw [Circumstances.knownAfter_of_accepted hrefused, houtcome, addKnown, tokenAddresses,
      hannounces.tokens]
    rfl
  have hempty : store.tables.HasTokens [] := by
    intro address hmem
    cases hmem
  obtain ⟨reached, hrun, -, hkept⟩ := (@Work.yields_processAll around store c h.orderly
    hresponses [] hempty [creationAs first] (h.judgesAll [] _)).run
  rw [List.foldl_cons, List.foldl_nil, hknown] at hrun
  obtain ⟨outcome, met, built, hbuild, hbuilt⟩ := @exists_built around reached
    (creationAs second) (some ["0xab"]) (h.orderly.reads _ _ rfl)
  have hlookup : reached.responses.lookup second = some announcing := by
    rw [hkept, hresponses, hsecond]
  have hannounced : Built (creationAs second) ["0xab"] (some announcing) outcome := by
    rw [← hlookup]
    exact hbuilt
  have hfound := hannounced.recognized
  rw [hannounced.logs_announcing.2, Recognition.ofLogs_eq_without] at hfound
  have hboth := hfound.trans (congrArg _ (ofLogs_announcement second))
  exact ⟨_, reached, outcome, met, built, hrun, hbuild, congrArg Recognition.tokens hboth,
    congrArg Recognition.transfers hboth⟩

/-- Both phases write a token and a transfer for what is announced, and so does a batch; the
second item of the batch leaves the token out. -/
theorem referential_throughout_transfer :
    let store : Store := {
      tables := {
        transactions := [.placeholder "a", .placeholder "b"]
        logs := [Outcome.announcement "b"] }
      responses := ["c", "d"].map fun txId => (txId, Outcome.announcing) }
    let around := Surroundings.refusing [] none
    store.tables.Referential ∧
    (∃ logged,
      (Repair.logs {} [[Repair.unlogged "a"]]).run {} store = (.ok 1, logged) ∧
      store.Referred logged ∧
      logged.tables.logs.map (·.txId) = ["b", "a"] ∧
      logged.tables.tokens = (Outcome.announced "a").tokens ∧
      logged.tables.transfers = (Outcome.announced "a").transfers) ∧
    (∃ moved,
      (Repair.transfers {} [Repair.unmoved "b"]).run {} store = (.ok 1, moved) ∧
      store.Referred moved ∧
      moved.tables.tokens = (Outcome.announced "b").tokens ∧
      moved.tables.transfers = (Outcome.announced "b").transfers) ∧
    ∃ known reached outcome met built,
      ([Outcome.creationAs "c"].foldlM Outcome.processNext []).run around store =
        (.ok known, reached) ∧
      (Outcome.build (Outcome.creationAs "d") (some known)).run around reached =
        (.ok (outcome, met), built) ∧
      outcome.tokens = [] ∧
      outcome.transfers = (Outcome.announced "d").transfers ∧
      reached.tables.HasToken "0xab" := by
  intro store around
  have hstore : store.tables.Referential :=
    ⟨by simp [store, Outcome.announcement, isDecoded, Transaction.placeholder],
      by simp [store], by simp [store]⟩
  have hfaultless : ({} : Surroundings).Faultless := fun _ _ => rfl
  obtain ⟨-, -, hlogs, htransfers, -⟩ := referential_throughout store hstore {}
  obtain ⟨-, -, -, -, hbatch⟩ := referential_throughout store hstore around
  refine ⟨hstore, ?_, ?_, ?_⟩
  · obtain ⟨logged, hrun, htables, -⟩ :=
      (@Repair.yields_logs_singleton {} store {} hfaultless (Repair.unlogged "a")).run
    have hreferred := hlogs {} [[Repair.unlogged "a"]]
      (by simp [Repair.unlogged, store, isDecoded, Transaction.placeholder])
    rw [hrun] at hreferred
    rw [Repair.logged_unlogged] at hrun htables
    refine ⟨logged, hrun, hreferred, ?_, ?_, ?_⟩
    · rw [htables]
      rfl
    · rw [htables]
      rfl
    · rw [htables]
      rfl
  · have hchunks : chunks ({} : Repair).size [Repair.unmoved "b"] = [[Repair.unmoved "b"]] := by
      simp [chunks]
    obtain ⟨moved, hrun, htables, -⟩ :=
      (@Repair.yields_transfers {} store {} hfaultless [Repair.unmoved "b"]).run
    have hreferred := htransfers {} [Repair.unmoved "b"]
      (by simp [Repair.unmoved, Outcome.announcement, store, HasLog, logKey])
    rw [hrun] at hreferred
    simp only [hchunks, List.flatMap_singleton, Repair.recognizeChunk_unmoved] at hrun htables
    refine ⟨moved, hrun, hreferred, ?_, ?_⟩
    · rw [htables]
      rfl
    · rw [htables]
      rfl
  · obtain ⟨known, reached, outcome, met, built, hrun, hbuild, htokens, hmoved⟩ :=
      @Outcome.exists_left_out around store (.refusing [] none store.responses)
        (Surroundings.follows_refusing store.responses) rfl "c" "d" rfl
        List.lookup_cons_self
        (by simp [store, Circumstances.refusing, List.lookup_cons])
    refine ⟨known, reached, outcome, met, built, hrun, hbuild, htokens, hmoved, ?_⟩
    obtain ⟨transfer, htransfer, haddress⟩ :
        ∃ transfer ∈ outcome.transfers, transfer.tokenAddress = "0xab" := by
      rw [hmoved]
      exact ⟨_, List.mem_singleton_self _, rfl⟩
    rcases hbatch _ _ known met outcome reached built hrun hbuild transfer htransfer with
      hown | hthere
    · rw [Outcome.tokenAddresses, htokens] at hown
      cases hown
    · rw [haddress] at hthere
      exact hthere

end EvmIndexer
