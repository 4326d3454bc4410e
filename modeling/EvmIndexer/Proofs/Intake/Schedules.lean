import EvmIndexer.Proofs.Intake.Reprocessing
import EvmIndexer.Proofs.Intake.History
import EvmIndexer.Proofs.Intake.Settling

/-!
# Schedules of the same items

A schedule puts items of a given set into the queue, asks for some and polls,
until each item was processed at least once. Whatever it does, the rows in the
end are those of adding the outcomes of the items that were processed, in the
order in which they were processed and as often as they were.

So two schedules of the same items differ in the order and the number of the
outcomes alone. Transactions, logs and transfers have keys that tell the item
they come from, and an item always comes to the same rows; a lookup by key finds
the same row after both. Tokens and contracts are shared between items. Their row
is that of whichever item came first, so of these only the keys are the same.
-/

namespace EvmIndexer

open Database

/-! ## What outcomes leave, as maps -/

namespace Database

variable {db : Database}

theorem rows_addOutcome (db : Database) (outcome : Outcome) :
    (db.addOutcome outcome).rows = (db.rows.addOutcome outcome).rows := rfl

/-- The queue has no part in the other tables. -/
theorem rows_addOutcomes (db : Database) (outcomes : List Outcome) :
    (db.addOutcomes outcomes).rows = (db.rows.addOutcomes outcomes).rows := by
  induction outcomes generalizing db with
  | nil => rfl
  | cons outcome rest ih =>
      rw [addOutcomes_cons, addOutcomes_cons, ih, rows_addOutcome, ← ih]

/-- Whether the derived tables are the same for a reader: the same row for every
key of a transaction, a log or a transfer, and the same tokens and contracts. -/
structure SameByKey (db other : Database) : Prop where
  transactions : ∀ txId, db.transactions.find? (·.txId == txId) =
    other.transactions.find? (·.txId == txId)
  logs : ∀ key, db.logs.find? (logKey · == key) =
    other.logs.find? (logKey · == key)
  transfers : ∀ key, db.transfers.find? (transferKey · == key) =
    other.transfers.find? (transferKey · == key)
  tokens : ∀ address, db.HasToken address ↔ other.HasToken address
  contracts : ∀ address, (∃ contract ∈ db.contracts, contract.address = address) ↔
    ∃ contract ∈ other.contracts, contract.address = address

theorem sameByKey_rows_iff {other : Database} :
    db.rows.SameByKey other.rows ↔ db.SameByKey other :=
  ⟨fun h => { h with logs := h.logs }, fun h => { h with logs := h.logs }⟩

end Database

section Members

variable {α β : Type} {items others : List α}

/-- Two lists with the same members find the same, if at most one member has
anything to find. -/
theorem findSome?_congr {f : α → Option β} (h : ∀ a, a ∈ items ↔ a ∈ others)
    (hunique : ∀ a ∈ items, ∀ b ∈ items, f a ≠ none → f b ≠ none → a = b) :
    items.findSome? f = others.findSome? f := by
  cases hfound : items.findSome? f with
  | none =>
      have hnone := List.findSome?_eq_none_iff.1 hfound
      exact (List.findSome?_eq_none_iff.2 fun a ha => hnone a ((h a).2 ha)).symm
  | some row =>
      obtain ⟨a, ha, hrow⟩ := List.exists_of_findSome?_eq_some hfound
      cases hother : others.findSome? f with
      | none =>
          rw [List.findSome?_eq_none_iff.1 hother a ((h a).1 ha)] at hrow
          cases hrow
      | some row' =>
          obtain ⟨b, hb, hrow'⟩ := List.exists_of_findSome?_eq_some hother
          have hsame := hunique a ha b ((h b).2 hb) (by simp [hrow])
            (by simp [hrow'])
          rw [← hrow, ← hrow', hsame]

theorem exists_flatMap_congr {brought : α → List β} (h : ∀ a, a ∈ items ↔ a ∈ others)
    (p : β → Prop) :
    (∃ row ∈ items.flatMap brought, p row) ↔
      ∃ row ∈ others.flatMap brought, p row := by
  have hmem : ∀ row, row ∈ items.flatMap brought ↔ row ∈ others.flatMap brought := by
    intro row
    simp only [List.mem_flatMap, h]
  simp only [hmem]

end Members

section Inserts

variable {α β : Type} [BEq β] {key : α → β} {table : Database → List α}
  {brought : Outcome → List α}

variable [LawfulBEq β] {items others : List PendingItem} {c : Circumstances}

/-- Where the key tells the item, the row of a key is the same after outcomes of
the same items. -/
theorem Database.Inserts.find?_eq (h : Inserts key table brought)
    (owner : β → String)
    (howner : ∀ item, ∀ row ∈ brought (c.outcome [] item),
      owner (key row) = item.txId)
    (hmem : ∀ item, item ∈ items ↔ item ∈ others)
    (hids : ∀ item ∈ items, ∀ other ∈ items,
      item.txId = other.txId → item = other) (db : Database) (k : β) :
    (table (db.addOutcomes (items.map (c.outcome [])))).find? (key · == k) =
      (table (db.addOutcomes (others.map (c.outcome [])))).find? (key · == k) := by
  rw [h.addOutcomes, h.addOutcomes, find?_insertAll, find?_insertAll]
  rw [List.flatMap_map, List.flatMap_map, List.find?_flatMap, List.find?_flatMap]
  congr 1
  refine findSome?_congr hmem fun item hitem other hother hfinds hfinds' => ?_
  -- both have a row with the key, and the key tells whose it is
  have hown : ∀ item : PendingItem,
      (brought (c.outcome [] item)).find? (key · == k) ≠ none →
        owner k = item.txId := by
    intro item hsome
    obtain ⟨row, hrow⟩ := Option.ne_none_iff_exists'.1 hsome
    have hkey : key row = k := by simpa using List.find?_some hrow
    rw [← hkey]
    exact howner item row (List.mem_of_find?_eq_some hrow)
  exact hids item hitem other hother
    ((hown item hfinds).symm.trans (hown other hfinds'))

theorem Database.Inserts.exists_key_iff (h : Inserts key table brought)
    (hmem : ∀ item, item ∈ items ↔ item ∈ others) (db : Database) (k : β) :
    (∃ row ∈ table (db.addOutcomes (items.map (c.outcome []))), key row = k) ↔
      ∃ row ∈ table (db.addOutcomes (others.map (c.outcome []))),
        key row = k := by
  rw [h.addOutcomes, h.addOutcomes, exists_key_insertAll_iff,
    exists_key_insertAll_iff, List.flatMap_map, List.flatMap_map,
    exists_flatMap_congr hmem]

end Inserts

/-- Outcomes of the same items leave the same for a reader, whatever their order
and number. -/
theorem sameByKey_addOutcomes {items others : List PendingItem}
    (hmem : ∀ item, item ∈ items ↔ item ∈ others)
    (hids : ∀ item ∈ items, ∀ other ∈ items, item.txId = other.txId → item = other)
    (c : Circumstances) (db : Database) :
    (db.addOutcomes (items.map (c.outcome []))).SameByKey
      (db.addOutcomes (others.map (c.outcome []))) := by
  have hlogs : Inserts logKey (·.logs) (·.logs) := fun _ _ => rfl
  have hcontracts : Inserts (·.address) (·.contracts) (·.contract.toList) :=
    fun _ _ => rfl
  have hitem : ∀ item, (c.outcome [] item).FromItem item [] := fun item =>
    (c.of_outcome [] item).fromItem
  refine ⟨inserts_transactions.find?_eq id ?_ hmem hids db,
    hlogs.find?_eq Prod.fst ?_ hmem hids db,
    inserts_transfers.find?_eq Prod.fst ?_ hmem hids db,
    inserts_tokens.exists_key_iff hmem db, hcontracts.exists_key_iff hmem db⟩
  · intro item tx htx
    rw [List.mem_singleton.1 htx]
    exact (hitem item).transaction
  · exact fun item log hlog => (hitem item).logs log hlog
  · exact fun item transfer htransfer =>
      ((hitem item).recognized.transfers transfer htransfer).1

/-! ## Schedules -/

namespace Intake

/-- The items that a step takes off the queue. -/
def Step.taken (store : Store) : Step → List PendingItem
  | .enqueue _ _ => []
  | .request txId _ =>
    if Text.trim txId = "" then []
    else (store.tables.pendingItem? (Text.trim txId)).toList
  | .poll drain _ => store.tables.undecoded drain.size.toNat

/-- The items that are processed in a history, in order and as often as they
are. -/
def processed : Store → List Step → List PendingItem
  | _, [] => []
  | store, step :: rest => step.taken store ++ processed (step.take store) rest

/-- Whether a step keeps to the items and the circumstances: what it puts into
the queue is one of the items, as it is and with no other response, and what it
takes off is processed under the circumstances. -/
def Step.KeepsTo (c : Circumstances) (items : List PendingItem) : Step → Prop
  | .enqueue item response => item ∈ items ∧ response = none
  | .request _ around => around.Follows c
  | .poll _ around => around.Follows c

/-- A history that processes each of the items at least once, and nothing
else. -/
structure Schedule (c : Circumstances) (items : List PendingItem)
    (start : Store) (steps : List Step) : Prop where
  keeps : ∀ step ∈ steps, step.KeepsTo c items
  complete : ∀ item ∈ items, item ∈ processed start steps

variable {c : Circumstances} {items : List PendingItem} {store start : Store}

/-- An item takes the place of one with its identifier. -/
theorem mem_pending_enqueue {db : Database} {item other : PendingItem}
    (h : other ∈ (db.enqueue item).pending) :
    other = item ∨ other ∈ db.pending ∧ other.txId ≠ item.txId := by
  unfold Database.enqueue at h
  split at h
  · obtain ⟨old, hold, hother⟩ := List.mem_map.1 h
    split at hother
    · exact Or.inl hother.symm
    · next hne =>
        rw [← hother]
        exact Or.inr ⟨hold, fun heq => hne (beq_iff_eq.2 heq)⟩
  · next hnone =>
      rcases List.mem_append.1 h with hold | hnew
      · exact Or.inr ⟨hold, fun heq =>
          hnone (List.any_eq_true.2 ⟨other, hold, beq_iff_eq.2 heq⟩)⟩
      · exact Or.inl (List.mem_singleton.1 hnew)

theorem pendingItem?_enqueue (db : Database) (item : PendingItem) :
    (db.enqueue item).pendingItem? item.txId = some item := by
  obtain ⟨waiting, hwaiting, hid⟩ := Database.waits_enqueue db item
  cases hfound : (db.enqueue item).pendingItem? item.txId with
  | none => exact absurd (beq_iff_eq.2 hid) (List.find?_eq_none.1 hfound waiting hwaiting)
  | some other =>
      rcases mem_pending_enqueue (List.mem_of_find?_eq_some hfound) with rfl | ⟨-, hne⟩
      · rfl
      · exact absurd (pendingItem?_txId hfound) hne

theorem rows_enqueue (db : Database) (item : PendingItem) :
    (db.enqueue item).rows = db.rows := by
  unfold Database.enqueue
  split <;> rfl

theorem Step.mem_pending_of_mem_taken {step : Step} {item : PendingItem}
    (h : item ∈ step.taken store) : item ∈ store.tables.pending := by
  cases step with
  | enqueue other response => cases h
  | request txId around =>
      simp only [taken] at h
      split at h
      · cases h
      · exact List.mem_of_find?_eq_some (Option.mem_toList.1 h)
  | poll drain around =>
      exact (List.mem_filter.1 (List.mem_of_mem_take h)).1

/-- What a step of a schedule does to the store: it adds the outcomes of the
items that it takes, and leaves the responses and the set of items alone. -/
structure Step.Settled (c : Circumstances) (items : List PendingItem)
    (before after : Store) (taken : List PendingItem) : Prop where
  rows : after.tables.rows =
    (before.tables.addOutcomes (taken.map (c.outcome []))).rows
  responses : after.responses = before.responses
  pending : (∀ item ∈ before.tables.pending, item ∈ items) →
    ∀ item ∈ after.tables.pending, item ∈ items

theorem Step.settled_of_tables {after : Store} {taken : List PendingItem}
    (htables : after.tables =
      store.tables.addOutcomes (taken.map (c.outcome [])))
    (hresponses : after.responses = store.responses) :
    Step.Settled c items store after taken where
  rows := by rw [htables]
  responses := hresponses
  pending hall item hitem := by
    rw [htables] at hitem
    exact hall item (mem_pending_addOutcomes hitem)

theorem Step.settled_enqueue {item : PendingItem} (hitem : item ∈ items) :
    Step.Settled c items store (store.enqueue item none) [] where
  rows := rows_enqueue store.tables item
  responses := rfl
  pending hall other hother := by
    rcases mem_pending_enqueue hother with rfl | ⟨hold, -⟩
    · exact hitem
    · exact hall other hold

theorem Step.settled_request {around : Surroundings} (h : around.Follows c)
    (hresponses : store.responses = c.responses) (txId : String) :
    Step.Settled c items store (decodeOnDemand txId around store).2
      (Step.taken store (.request txId around)) := by
  by_cases hid : Text.trim txId = ""
  · rw [decodeOnDemand_empty hid, Step.taken, if_pos hid]
    exact settled_of_tables rfl rfl
  · rw [Step.taken, if_neg hid]
    cases hpending : store.tables.pendingItem? (Text.trim txId) with
    | none =>
        obtain ⟨after, hrun, htables, hkept⟩ :=
          exists_decodeOnDemand_missing h.orderly hid hpending
        rw [hrun]
        exact settled_of_tables htables hkept
    | some item =>
        obtain ⟨after, hrun, htables, hkept⟩ := exists_decodeOnDemand_found
          h.orderly hresponses hid hpending (h.judges [] item)
        rw [hrun]
        exact settled_of_tables htables hkept

theorem Step.settled_poll {around : Surroundings} (h : around.Follows c)
    (hresponses : store.responses = c.responses) (drain : Drain) :
    Step.Settled c items store (drain.poll around store).2.2
      (Step.taken store (.poll drain around)) := by
  by_cases hsize : 0 < drain.size
  · obtain ⟨after, hpoll, htables, hkept, -⟩ := Drain.exists_poll h.orderly
      hresponses hsize rfl (h.judgesAll [] _)
    rw [hpoll]
    exact settled_of_tables htables hkept
  · -- a poll without a size takes nothing and fails
    have hzero : drain.size.toNat = 0 := by omega
    obtain ⟨htables, hkept⟩ :=
      Drain.poll_of_size_nonpos (Int.not_lt.1 hsize) around store
    rw [Step.taken, hzero]
    exact settled_of_tables htables hkept

theorem Step.settled {step : Step} (h : step.KeepsTo c items)
    (hresponses : store.responses = c.responses) :
    Step.Settled c items store (step.take store) (step.taken store) := by
  cases step with
  | enqueue item response =>
      obtain ⟨hitem, rfl⟩ := h
      exact settled_enqueue hitem
  | request txId around => exact settled_request h hresponses txId
  | poll drain around => exact settled_poll h hresponses drain

/-- A history that keeps to the items leaves the rows of the items that it
processes. -/
theorem rows_play {steps : List Step} (h : ∀ step ∈ steps, step.KeepsTo c items)
    (hresponses : store.responses = c.responses)
    (hpending : ∀ item ∈ store.tables.pending, item ∈ items) :
    (play store steps).tables.rows = (store.tables.addOutcomes
        ((processed store steps).map (c.outcome []))).rows ∧
      ∀ item ∈ processed store steps, item ∈ items := by
  induction steps generalizing store with
  | nil => exact ⟨rfl, fun _ hmem => nomatch hmem⟩
  | cons step rest ih =>
      have hsettled := Step.settled (h step (by simp)) hresponses
      obtain ⟨hrows, hmem⟩ := ih (fun s hs => h s (by simp [hs]))
        (hsettled.responses.trans hresponses) (hsettled.pending hpending)
      constructor
      · show (play (step.take store) rest).tables.rows = _
        rw [hrows, processed, List.map_append, addOutcomes_append,
          rows_addOutcomes, hsettled.rows, ← rows_addOutcomes]
      · intro item hitem
        rcases List.mem_append.1 hitem with htaken | hlater
        · exact hpending item (Step.mem_pending_of_mem_taken htaken)
        · exact hmem item hlater

/-- The tokens that a history leaves are those of the items that it processes, each from
the first that brings it. -/
theorem tokens_play {steps : List Step} (h : ∀ step ∈ steps, step.KeepsTo c items)
    (hresponses : store.responses = c.responses)
    (hpending : ∀ item ∈ store.tables.pending, item ∈ items) :
    (play store steps).tables.tokens =
      (((processed store steps).map (c.outcome [])).flatMap (·.tokens)).foldl
        (insertNew (·.address)) store.tables.tokens := by
  rw [← inserts_tokens.addOutcomes]
  exact congrArg (·.tokens) (rows_play h hresponses hpending).1

/-- Any two schedules of the same items leave the same: whatever the order, by
polls of any sizes or by requests, with items processed once or again and again.
The derived tables find the same row for every key of a transaction, a log or a
transfer, and they have the same tokens and contracts. -/
theorem schedules_agree (c : Circumstances) (start : Store)
    (items : List PendingItem) (hresponses : start.responses = c.responses)
    (hids : (items.map (·.txId)).Nodup)
    (hpending : ∀ item ∈ start.tables.pending, item ∈ items)
    {steps others : List Step} (h : Schedule c items start steps)
    (h' : Schedule c items start others) :
    (play start steps).tables.SameByKey (play start others).tables := by
  obtain ⟨hrows, hmem⟩ := rows_play h.keeps hresponses hpending
  obtain ⟨hrows', hmem'⟩ := rows_play h'.keeps hresponses hpending
  have hsame : ∀ item, item ∈ processed start steps ↔
      item ∈ processed start others := fun item =>
    ⟨fun hitem => h'.complete item (hmem item hitem),
      fun hitem => h.complete item (hmem' item hitem)⟩
  have hunique : ∀ item ∈ processed start steps, ∀ other ∈ processed start steps,
      item.txId = other.txId → item = other := fun item hitem other hother =>
    List.inj_on_of_nodup_map hids (hmem item hitem) (hmem other hother)
  have hagree := sameByKey_addOutcomes hsame hunique c start.tables
  -- the queues may differ, the rows do not
  rw [← sameByKey_rows_iff] at hagree ⊢
  rw [hrows, hrows']
  exact hagree

/-- Items that are asked for right after they were put into the queue are processed as
they come. -/
theorem processed_one_by_one (store : Store) {items : List PendingItem}
    (hids : ∀ item ∈ items, item.txId ≠ "" ∧ Text.trim item.txId = item.txId)
    (around : Surroundings) :
    processed store (items.flatMap fun item =>
      [.enqueue item none, .request item.txId around]) = items := by
  induction items generalizing store with
  | nil => rfl
  | cons item rest ih =>
      obtain ⟨hid, htrim⟩ := hids item (by simp)
      have htaken : Step.taken (Step.take store (.enqueue item none))
          (.request item.txId around) = [item] := by
        simp only [Step.taken, htrim, if_neg hid]
        show ((store.tables.enqueue item).pendingItem? item.txId).toList = [item]
        rw [pendingItem?_enqueue]
        rfl
      rw [List.flatMap_cons, List.cons_append, List.cons_append, List.nil_append, processed,
        processed, htaken, ih _ fun other hother => hids other (by simp [hother])]
      rfl

/-- One poll for three creations with a transfer of the same token, against requests in
another order with one of the items put into the queue again. The database refuses the
last item. The row of the token is that of whichever item came first. -/
theorem schedules_agree_twice :
    let items := ["a", "b", "c"].map Outcome.creationAs
    let start : Store := {
      responses := ["a", "b", "c"].map fun txId => (txId, Outcome.announcing) }
    let around := Surroundings.refusing ["c"] none
    let c := Circumstances.refusing ["c"] none start.responses
    let steps : List Step :=
      items.map (.enqueue · none) ++ [.poll { size := 3 } around]
    let others : List Step := (["c", "b", "a", "b"].map Outcome.creationAs).flatMap
      fun item => [.enqueue item none, .request item.txId around]
    (items.map (·.txId)).Nodup ∧
      Schedule c items start steps ∧ Schedule c items start others ∧
      (play start steps).tables.SameByKey (play start others).tables ∧
      (play start steps).tables.tokens.map (·.firstSeenTx) = [some "a"] ∧
      (play start others).tables.tokens.map (·.firstSeenTx) = [some "b"] := by
  intro items start around c steps others
  have hids : (items.map (·.txId)).Nodup := by decide
  have hfollows : around.Follows c := Surroundings.follows_refusing start.responses
  have hprocessed : processed start steps = items := rfl
  have hprocessed' : processed start others =
      ["c", "b", "a", "b"].map Outcome.creationAs := by
    have htrimmed : ∀ txId ∈ ["c", "b", "a", "b"], txId ≠ "" ∧ Text.trim txId = txId := by
      decide +kernel
    exact processed_one_by_one start (List.forall_mem_map.2 htrimmed) around
  have hsteps : Schedule c items start steps :=
    ⟨by simp [items, steps, Step.KeepsTo, hfollows], by simp [hprocessed]⟩
  have hothers : Schedule c items start others :=
    ⟨by simp [items, others, Step.KeepsTo, hfollows], by simp [hprocessed', items]⟩
  have hresponse : ∀ txId ∈ ["a", "b"],
      c.responses.lookup txId = some Outcome.announcing := by
    simp [c, start, Circumstances.refusing, List.lookup_cons]
  obtain ⟨first, ha, hfirst⟩ :=
    Circumstances.exists_announces (c := c) (by decide) (hresponse "a" (by simp))
  obtain ⟨second, hb, hsecond⟩ :=
    Circumstances.exists_announces (c := c) (by decide) (hresponse "b" (by simp))
  have hc : c.outcome [] (Outcome.creationAs "c") = .placeholder "c" := if_pos (by decide)
  have hresponses : start.responses = c.responses := rfl
  have hnothing : ∀ item ∈ start.tables.pending, item ∈ items := by
    intro item hmem
    cases hmem
  refine ⟨hids, hsteps, hothers, schedules_agree c start items hresponses hids hnothing
    hsteps hothers, ?_, ?_⟩
  · have hbrought : (items.map (c.outcome [])).flatMap (·.tokens) =
        (Outcome.announced "a").tokens ++ (Outcome.announced "b").tokens := by
      simp [items, ha, hb, hc, hfirst.tokens, hsecond.tokens, Outcome.placeholder]
    rw [tokens_play hsteps.keeps hresponses hnothing, hprocessed, hbrought]
    rfl
  · have hbrought : ((["c", "b", "a", "b"].map Outcome.creationAs).map
        (c.outcome [])).flatMap (·.tokens) = (Outcome.announced "b").tokens ++
          ((Outcome.announced "a").tokens ++ (Outcome.announced "b").tokens) := by
      simp [ha, hb, hc, hfirst.tokens, hsecond.tokens, Outcome.placeholder]
    rw [tokens_play hothers.keeps hresponses hnothing, hprocessed', hbrought]
    rfl

end Intake

end EvmIndexer
