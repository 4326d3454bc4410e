import EvmIndexer.Proofs.Intake.Reprocessing
import EvmIndexer.Proofs.Intake.Settling

/-!
# Refused items and items that do not decode

An item whose rows the database refuses ends like an item that does not decode:
its placeholder is stored and it leaves the queue. Here this is said of whole
runs. Put texts that do not decode in the place of refused items, of all or of
some, and run the same poll or the same request: it gives the same answer and
leaves the same tables.

An item that comes to a placeholder either way makes no token known. So the items
behind it meet the same known tokens in both runs, and the database decides the
same about them.
-/

namespace EvmIndexer

open Database

/-! ## Other texts in the queue -/

/-- Whether a text decodes to no transaction. -/
def Transaction.Undecodable (text : String) : Prop :=
  ∀ txId gasUsed, ∃ refusal,
    Transaction.decode (.text text) txId gasUsed = .error refusal

/-- The item with another text, if there is one for its transaction. -/
def PendingItem.withText (texts : String → Option String)
    (item : PendingItem) : PendingItem :=
  { item with raw := (texts item.txId).getD item.raw }

namespace Database

/-- The tables with other texts in the queue. -/
def withTexts (texts : String → Option String) (db : Database) : Database :=
  { db with pending := db.pending.map (·.withText texts) }

variable {texts : String → Option String} {db : Database}

theorem undecoded_withTexts (limit : Nat) :
    (db.withTexts texts).undecoded limit =
      (db.undecoded limit).map (·.withText texts) := by
  show (List.filter _ (db.pending.map _)).take limit = _
  rw [List.filter_map, ← List.map_take]
  rfl

theorem pendingItem?_withTexts (txId : String) :
    (db.withTexts texts).pendingItem? txId =
      (db.pendingItem? txId).map (·.withText texts) := by
  show List.find? _ (db.pending.map _) = _
  rw [List.find?_map]
  rfl

theorem addOutcome_withTexts (outcome : Outcome) :
    (db.withTexts texts).addOutcome outcome =
      (db.addOutcome outcome).withTexts texts := by
  -- an item is taken off by its identifier, which another text leaves alone
  have hpending : ((db.withTexts texts).addOutcome outcome).pending =
      ((db.addOutcome outcome).withTexts texts).pending := by
    show List.filter _ (db.pending.map _) = List.map _ (List.filter _ db.pending)
    rw [List.filter_map]
    rfl
  show { (db.addOutcome outcome).withTexts texts with
    pending := ((db.withTexts texts).addOutcome outcome).pending } = _
  rw [hpending]

theorem addOutcomes_withTexts (outcomes : List Outcome) :
    (db.withTexts texts).addOutcomes outcomes =
      (db.addOutcomes outcomes).withTexts texts := by
  induction outcomes generalizing db with
  | nil => rfl
  | cons outcome rest ih =>
      rw [addOutcomes_cons, addOutcome_withTexts, ih, addOutcomes_cons]

theorem withTexts_of_forall (h : ∀ item ∈ db.pending, texts item.txId = none) :
    db.withTexts texts = db := by
  have hsame : db.pending.map (·.withText texts) = db.pending := by
    rw [List.map_congr_left (g := id) fun item hitem => ?_, List.map_id]
    simp [PendingItem.withText, h item hitem]
  rw [withTexts, hsame]

theorem not_waits_addOutcomes (c : Circumstances) {items : List PendingItem}
    {item : PendingItem} (h : item ∈ items) :
    ¬ (db.addOutcomes (items.map (c.outcome []))).Waits item.txId := by
  induction items generalizing db with
  | nil => cases h
  | cons first rest ih =>
      rcases List.mem_cons.1 h with rfl | hrest
      · rintro ⟨waiting, hwaiting, hid⟩
        rw [List.map_cons, addOutcomes_cons] at hwaiting
        have hleft := (List.mem_filter.1 (mem_pending_addOutcomes hwaiting)).2
        rw [Circumstances.outcome_txId, hid] at hleft
        simp at hleft
      · rw [List.map_cons, addOutcomes_cons]
        exact ih hrest

end Database

/-- The store with other texts in the queue. -/
def Store.withTexts (texts : String → Option String) (store : Store) : Store :=
  { store with tables := store.tables.withTexts texts }

/-- Texts that do not decode, for transactions of the items that the database
refuses. -/
structure Garbles (texts : String → Option String) (refused : String → Bool)
    (items : List PendingItem) : Prop where
  undecodable : ∀ txId, ∀ text ∈ texts txId, Transaction.Undecodable text
  refused : ∀ txId, ∀ text ∈ texts txId, refused txId = true
  among : ∀ txId, ∀ text ∈ texts txId, ∃ item ∈ items, item.txId = txId

namespace Garbles

variable {texts : String → Option String} {c : Circumstances}
  {items : List PendingItem} {around : Surroundings} {known : List String}
  {item : PendingItem}

/-- An item has kept its text, or it is refused and comes to the placeholder. -/
theorem cases (h : Garbles texts c.refused items) (known : List String)
    (item : PendingItem) :
    item.withText texts = item ∨
      c.refused item.txId = true ∧
        c.expected known (item.withText texts) = .placeholder item.txId := by
  cases htext : texts item.txId with
  | none => exact Or.inl (by simp [PendingItem.withText, htext])
  | some text =>
      refine Or.inr ⟨h.refused item.txId text htext, ?_⟩
      obtain ⟨refusal, hrefusal⟩ :=
        h.undecodable item.txId text htext item.txId item.gasUsed
      have hraw : (item.withText texts).raw = text := by
        simp [PendingItem.withText, htext]
      rw [← hraw] at hrefusal
      exact Circumstances.expected_of_undecodable hrefusal

theorem outcome_eq (h : Garbles texts c.refused items) :
    c.outcome known (item.withText texts) = c.outcome known item := by
  rcases h.cases known item with hsame | ⟨hrefused, -⟩
  · rw [hsame]
  · have hrefused' : c.refused (item.withText texts).txId = true := hrefused
    rw [Circumstances.outcome, Circumstances.outcome, if_pos hrefused,
      if_pos hrefused']
    rfl

theorem knownAfter_eq (h : Garbles texts c.refused items) :
    c.knownAfter known (item.withText texts) = c.knownAfter known item := by
  rcases h.cases known item with hsame | ⟨hrefused, -⟩
  · rw [hsame]
  · have hrefused' : c.refused (item.withText texts).txId = true := hrefused
    rw [Circumstances.knownAfter, Circumstances.knownAfter, if_pos hrefused,
      if_pos hrefused']

theorem judges (h : Garbles texts c.refused items)
    (horderly : around.Orderly c.answer) (hjudges : around.Judges c known item) :
    around.Judges c known (item.withText texts) := by
  rcases h.cases known item with hsame | ⟨-, hplaceholder⟩
  · rwa [hsame]
  · have hyes : (Outcome.placeholder item.txId).isPlaceholder = true :=
      Transaction.placeholder_isPlaceholder item.txId
    -- what is left to be taken is the placeholder, and that is never refused
    constructor
    · rw [hplaceholder, hyes]
      exact fun _ hfalse => nomatch hfalse
    · rw [hplaceholder]
      exact fun _ => horderly.placeholders item.txId

theorem judgesAll (h : Garbles texts c.refused items)
    (horderly : around.Orderly c.answer) {batch : List PendingItem}
    (hjudges : around.JudgesAll c known batch) :
    around.JudgesAll c known (batch.map (·.withText texts)) := by
  induction batch generalizing known with
  | nil => trivial
  | cons item rest ih =>
      refine ⟨h.judges horderly hjudges.1, ?_⟩
      rw [h.knownAfter_eq]
      exact ih hjudges.2

/-- The outcomes of the items leave the same tables, since no item with another
text still waits. -/
theorem addOutcomes_eq (h : Garbles texts c.refused items) (db : Database) :
    (db.withTexts texts).addOutcomes
        ((items.map (·.withText texts)).map (c.outcome [])) =
      db.addOutcomes (items.map (c.outcome [])) := by
  have hsame : (items.map (·.withText texts)).map (c.outcome []) =
      items.map (c.outcome []) := by
    rw [List.map_map]
    exact List.map_congr_left fun item _ => h.outcome_eq
  rw [hsame, addOutcomes_withTexts]
  refine withTexts_of_forall fun item hitem => ?_
  cases htext : texts item.txId with
  | none => rfl
  | some text =>
      obtain ⟨taken, htaken, hid⟩ := h.among item.txId text htext
      exact absurd ⟨item, hitem, hid.symm⟩ (not_waits_addOutcomes c htaken)

end Garbles

/-! ## What is left of a refused item -/

namespace Database

variable {db : Database} {txId : String}

/-- A placeholder is the only row that it adds, and it does not replace one. -/
theorem carrying_addOutcome_placeholder (db : Database) (txId : String) :
    (db.addOutcome (.placeholder txId)).carrying txId =
      if db.isDecoded txId then db.carrying txId
      else { db.carrying txId with transactions := [.placeholder txId] } := by
  cases hdecoded : db.isDecoded txId with
  | true =>
      have hsame : (db.addOutcome (.placeholder txId)).transactions =
          db.transactions := transactions_addOutcome hdecoded
      rw [if_pos rfl]
      unfold carrying
      rw [hsame]
      rfl
  | false =>
      have hnone : db.transactions.filter (·.txId == txId) = [] := by
        rw [List.filter_eq_nil_iff]
        intro tx htx hid
        have hany := isDecoded_iff.2 ⟨tx, htx, beq_iff_eq.1 hid⟩
        rw [hdecoded] at hany
        cases hany
      have hadded : (db.addOutcome (.placeholder txId)).transactions =
          db.transactions ++ [.placeholder txId] := by
        refine insertNew_of_not_any ?_
        show ¬ db.isDecoded txId = true
        rw [hdecoded]
        exact Bool.false_ne_true
      have hone : [Transaction.placeholder txId].filter (·.txId == txId) =
          [.placeholder txId] := by
        simp [Transaction.placeholder]
      rw [if_neg Bool.false_ne_true]
      unfold carrying
      rw [hadded, List.filter_append, hnone, hone]
      rfl

variable {c : Circumstances} {items : List PendingItem}

/-- Outcomes add no row that carries the identifier of a refused transaction that
has a row. -/
theorem carrying_addOutcomes_of_isDecoded (hrefused : c.refused txId = true)
    (h : db.isDecoded txId = true) :
    (db.addOutcomes (items.map (c.outcome []))).carrying txId =
      db.carrying txId := by
  induction items generalizing db with
  | nil => rfl
  | cons item rest ih =>
      have hstill := (grows_addOutcome db (c.outcome [] item)).isDecoded h
      refine (ih hstill).trans ?_
      by_cases hid : item.txId = txId
      · rw [← hid] at hrefused h ⊢
        rw [Circumstances.outcome, if_pos hrefused,
          carrying_addOutcome_placeholder, if_pos h]
      · exact carrying_addOutcome (c.of_outcome [] item).fromItem hid

/-- Of a refused transaction that had no row the outcomes leave the
placeholder. -/
theorem carrying_addOutcomes (hrefused : c.refused txId = true)
    (h : db.isDecoded txId = false) (hmem : ∃ item ∈ items, item.txId = txId) :
    (db.addOutcomes (items.map (c.outcome []))).carrying txId =
      { db.carrying txId with transactions := [.placeholder txId] } := by
  induction items generalizing db with
  | nil =>
      obtain ⟨item, hitem, -⟩ := hmem
      cases hitem
  | cons item rest ih =>
      by_cases hid : item.txId = txId
      · have houtcome : c.outcome [] item = .placeholder txId := by
          rw [← hid] at hrefused ⊢
          exact if_pos hrefused
        have hthere : (db.addOutcome (.placeholder txId)).isDecoded txId =
            true := isDecoded_addOutcome
        rw [List.map_cons, addOutcomes_cons, houtcome,
          carrying_addOutcomes_of_isDecoded hrefused hthere,
          carrying_addOutcome_placeholder, h, if_neg Bool.false_ne_true]
      · -- the item of the transaction is behind this one
        have hrest : ∃ item ∈ rest, item.txId = txId := by
          obtain ⟨other, hother, hid'⟩ := hmem
          rcases List.mem_cons.1 hother with rfl | hlater
          · exact absurd hid' hid
          · exact ⟨other, hlater, hid'⟩
        have hstill : (db.addOutcome (c.outcome [] item)).isDecoded txId =
            false := by
          rw [isDecoded_addOutcome_of_ne, h]
          rw [Circumstances.outcome_txId]
          exact Ne.symm hid
        have hnothing : (db.addOutcome (c.outcome [] item)).carrying txId =
            db.carrying txId :=
          carrying_addOutcome (c.of_outcome [] item).fromItem hid
        refine (ih hstill hrest).trans ?_
        rw [hnothing]

/-- The item of a transaction is off the queue, and a placeholder is the only row
that it left. -/
structure LeftPlaceholder (before after : Database) (txId : String) : Prop where
  retired : ¬ after.Waits txId
  carrying : after.carrying txId =
    { before.carrying txId with transactions := [.placeholder txId] }

theorem leftPlaceholder_addOutcomes {item : PendingItem}
    (hrefused : c.refused item.txId = true)
    (h : db.isDecoded item.txId = false) (hmem : item ∈ items) :
    db.LeftPlaceholder (db.addOutcomes (items.map (c.outcome []))) item.txId where
  retired := not_waits_addOutcomes c hmem
  carrying := carrying_addOutcomes hrefused h ⟨item, hmem, rfl⟩

end Database

/-! ## Whole runs -/

namespace Garbles

variable {around : Surroundings} {store : Store} {c : Circumstances}
  {texts : String → Option String}

/-- With the other texts a poll leaves the outcomes that it would leave without
them. -/
theorem exists_poll (h : around.Orderly c.answer)
    (hresponses : store.responses = c.responses) {drain : Drain}
    (hsize : 0 < drain.size) {batch : List PendingItem}
    (hbatch : store.tables.undecoded drain.size.toNat = batch)
    (hjudges : around.JudgesAll c [] batch)
    (hgarbles : Garbles texts c.refused batch) :
    ∃ after,
      drain.poll around (store.withTexts texts) =
        (.ok batch.length, drain.after (.ok batch.length), after) ∧
      after.tables = store.tables.addOutcomes (batch.map (c.outcome [])) := by
  have hbatch' : (store.withTexts texts).tables.undecoded drain.size.toNat =
      batch.map (·.withText texts) := by
    rw [← hbatch]
    exact undecoded_withTexts drain.size.toNat
  have hresponses' : (store.withTexts texts).responses = c.responses :=
    hresponses
  obtain ⟨after, hpoll, htables, -, -⟩ := Drain.exists_poll h hresponses' hsize
    hbatch' (hgarbles.judgesAll h hjudges)
  rw [List.length_map] at hpoll
  refine ⟨after, hpoll, ?_⟩
  rw [htables]
  exact hgarbles.addOutcomes_eq store.tables

/-- The same for a request, which is a batch of one item. -/
theorem exists_decodeOnDemand (h : around.Orderly c.answer)
    (hresponses : store.responses = c.responses) {txId : String}
    (hid : Text.trim txId ≠ "") {item : PendingItem}
    (hpending : store.tables.pendingItem? (Text.trim txId) = some item)
    (hjudges : around.Judges c [] item)
    (hgarbles : Garbles texts c.refused [item]) :
    ∃ after,
      decodeOnDemand txId around (store.withTexts texts) =
        (Reply.ofOutcome (Text.trim txId) (c.outcome [] item), after) ∧
      after.tables = store.tables.addOutcome (c.outcome [] item) := by
  have hpending' : (store.withTexts texts).tables.pendingItem?
      (Text.trim txId) = some (item.withText texts) := by
    refine (pendingItem?_withTexts (Text.trim txId)).trans ?_
    rw [hpending]
    rfl
  have hresponses' : (store.withTexts texts).responses = c.responses :=
    hresponses
  obtain ⟨after, hrun, htables, -⟩ := exists_decodeOnDemand_found h hresponses'
    hid hpending' (hgarbles.judges h hjudges)
  rw [hgarbles.outcome_eq] at hrun
  refine ⟨after, hrun, ?_⟩
  rw [htables]
  exact hgarbles.addOutcomes_eq store.tables

end Garbles

/-- A refused item is equivalent to one that does not decode. A poll whose batch
contains refused items commits and gives the size of its batch; with texts that
do not decode in the place of theirs it gives the same number and leaves the same
tables. Of each refused item its placeholder is left and nothing else. A request
for a refused item gives the same reply and leaves the same tables likewise. -/
theorem refused_as_undecodable (store : Store) (around : Surroundings)
    (answer : String → LookupAnswer) (refused : String → Bool)
    (h : around.Orderly answer) (texts : String → Option String) :
    let c : Circumstances := ⟨answer, store.responses, refused⟩
    (∀ drain : Drain, 0 < drain.size →
      let batch := store.tables.undecoded drain.size.toNat
      around.JudgesAll c [] batch → Garbles texts refused batch →
        (drain.poll around store).1 = .ok batch.length ∧
        store.Committed (fun _ => True) (drain.poll around store).2.2 ∧
        (drain.poll around (store.withTexts texts)).1 =
          (drain.poll around store).1 ∧
        (drain.poll around (store.withTexts texts)).2.2.tables =
          (drain.poll around store).2.2.tables ∧
        ∀ item ∈ batch, refused item.txId = true →
          store.tables.LeftPlaceholder (drain.poll around store).2.2.tables
            item.txId) ∧
    ∀ txId item, Text.trim txId ≠ "" →
      store.tables.pendingItem? (Text.trim txId) = some item →
      refused item.txId = true → around.Judges c [] item →
      Garbles texts refused [item] →
        (decodeOnDemand txId around (store.withTexts texts)).1 =
          (decodeOnDemand txId around store).1 ∧
        (decodeOnDemand txId around (store.withTexts texts)).2.tables =
          (decodeOnDemand txId around store).2.tables ∧
        (decodeOnDemand txId around store).2.tables =
          store.tables.addOutcome (.placeholder item.txId) ∧
        (store.tables.isDecoded item.txId = false →
          store.tables.LeftPlaceholder
            (decodeOnDemand txId around store).2.tables item.txId) := by
  intro c
  constructor
  · intro drain hsize batch hjudges hgarbles
    obtain ⟨after, hpoll, htables, -, hcommitted⟩ :=
      Drain.exists_poll (c := c) h rfl hsize rfl hjudges
    obtain ⟨after', hpoll', htables'⟩ :=
      Garbles.exists_poll (c := c) h rfl hsize rfl hjudges hgarbles
    rw [hpoll, hpoll']
    refine ⟨rfl, hcommitted, rfl, htables'.trans htables.symm, ?_⟩
    intro item hitem hrefused
    show store.tables.LeftPlaceholder after.tables item.txId
    rw [htables]
    exact leftPlaceholder_addOutcomes hrefused (isDecoded_of_mem_undecoded hitem)
      hitem
  · intro txId item hid hpending hrefused hjudges hgarbles
    obtain ⟨after, hrun, htables, -⟩ := exists_decodeOnDemand_found (c := c) h
      rfl hid hpending hjudges
    obtain ⟨after', hrun', htables'⟩ := Garbles.exists_decodeOnDemand (c := c) h
      rfl hid hpending hjudges hgarbles
    have hplaceholder : c.outcome [] item = .placeholder item.txId :=
      if_pos hrefused
    rw [hrun, hrun']
    refine ⟨rfl, htables'.trans htables.symm, ?_, fun hundecoded => ?_⟩
    · rw [← hplaceholder]
      exact htables
    · have hone : after.tables =
          store.tables.addOutcomes ([item].map (c.outcome [])) := htables
      show store.tables.LeftPlaceholder after.tables item.txId
      rw [hone]
      exact leftPlaceholder_addOutcomes hrefused hundecoded
        (List.mem_singleton.2 rfl)

/-- A transfer of tokens that is refused, beside text that is not even of the
alphabet of an encoding. -/
theorem refused_as_undecodable_transfer :
    let raw := "AvixgiMpA4Q7msoAhLLQXgCC6mCUERERERERERERERERERERERERERERGAuESpBZy7A" ++
      "AAAAAAAAAAAAAAAAAAAAAAAAAAAAAAAAAAAAAAAACwsAAAAAAAAAAAAAAAAAAAAAAAAAAAAAAA" ++
      "AAAAAAAAAAAAAAB9MCAoLpbsZvazwm+kLPlm4I1ozBAmW7TLnw/o0zO1SjBjIEYoCBvZH9CsFC9b" ++
      "N43sZFzhmsa56RaQ1/vUuczPSiHaUSN"
    let item : PendingItem := ⟨"tx-transfer", raw, 1000, none, none⟩
    let store : Store := { tables := { pending := [item] } }
    let around := Surroundings.refusing ["tx-transfer"] none
    let texts := fun txId => if txId = "tx-transfer" then some "@@" else none
    let drain : Drain := { size := 1 }
    Garbles texts ["tx-transfer"].contains [item] ∧
      (drain.poll around (store.withTexts texts)).2.2.tables =
        (drain.poll around store).2.2.tables ∧
      (decodeOnDemand "tx-transfer" around (store.withTexts texts)).1 =
        (decodeOnDemand "tx-transfer" around store).1 := by
  intro raw item store around texts drain
  have hfollows : around.Follows
      ⟨fun _ => .unknown, store.responses, ["tx-transfer"].contains⟩ :=
    Surroundings.follows_refusing []
  have hitem : item.txId = "tx-transfer" := rfl
  have htexts : ∀ txId, ∀ text ∈ texts txId, txId = "tx-transfer" ∧ text = "@@" := by
    intro txId text htext
    simp only [texts, Option.mem_def] at htext
    split at htext
    · next hid => exact ⟨hid, (Option.some.inj htext).symm⟩
    · cases htext
  have hgarbles : Garbles texts ["tx-transfer"].contains [item] := by
    refine ⟨fun txId text htext => ?_, fun txId text htext => ?_,
      fun txId text htext => ?_⟩
    · rw [(htexts txId text htext).2]
      exact fun _ _ => ⟨_, rfl⟩
    · rw [(htexts txId text htext).1]
      exact List.contains_iff_mem.2 (List.mem_singleton.2 rfl)
    · exact ⟨item, List.mem_singleton.2 rfl,
        hitem.trans (htexts txId text htext).1.symm⟩
  have hboth := refused_as_undecodable store around (fun _ => .unknown)
    ["tx-transfer"].contains hfollows.orderly texts
  have htrim : Text.trim "tx-transfer" = "tx-transfer" := by decide +kernel
  have hid : Text.trim "tx-transfer" ≠ "" := by decide +kernel
  have hpending : store.tables.pendingItem? (Text.trim "tx-transfer") =
      some item := by
    rw [htrim]
    rfl
  have hpoll := hboth.1 drain (by decide) (hfollows.judgesAll [] _) hgarbles
  have hrefused : ["tx-transfer"].contains item.txId = true :=
    List.contains_iff_mem.2 (List.mem_singleton.2 hitem)
  have hrequest := hboth.2 "tx-transfer" item hid hpending hrefused
    (hfollows.judges [] item) hgarbles
  exact ⟨hgarbles, hpoll.2.2.2.1, hrequest.1⟩

end EvmIndexer
