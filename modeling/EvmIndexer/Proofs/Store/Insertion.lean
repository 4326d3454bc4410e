import EvmIndexer.Store.Statement
import Mathlib.Data.List.Nodup

/-!
# Tables only grow

An insertion appends the rows whose keys are new and touches nothing else, so a
derived table is a beginning of what it becomes: every row stays, in its place
and as it was. The facts here are about lists and their keys; they are used for
the five derived tables alike, and `Database.Grows` puts the five together.

The queue is the table that shrinks. What survives there is that an item is
accounted for: it waits, or its transaction has a row.
-/

namespace EvmIndexer

/-! ## Inserting rows -/

section Insert

variable {α β : Type} [BEq β] {key : α → β} {row : α} {rows old : List α}

theorem insertNew_of_any (h : old.any (fun r => key r == key row) = true) :
    Database.insertNew key old row = old := if_pos h

theorem insertNew_of_not_any (h : ¬ old.any (fun r => key r == key row) = true) :
    Database.insertNew key old row = old ++ [row] := if_neg h

theorem prefix_insertNew : old <+: Database.insertNew key old row := by
  by_cases h : old.any (fun r => key r == key row) = true
  · exact ⟨[], by rw [insertNew_of_any h, List.append_nil]⟩
  · exact ⟨[row], by rw [insertNew_of_not_any h]⟩

theorem prefix_insertAll : old <+: rows.foldl (Database.insertNew key) old := by
  induction rows generalizing old with
  | nil => exact List.prefix_refl old
  | cons row rest ih => exact prefix_insertNew.trans ih

theorem mem_insertNew {r : α} (h : r ∈ Database.insertNew key old row) :
    r ∈ old ∨ r = row := by
  by_cases hany : old.any (fun r => key r == key row) = true
  · rw [insertNew_of_any hany] at h
    exact Or.inl h
  · rw [insertNew_of_not_any hany] at h
    simpa using h

/-- A row of the table was there or was inserted. -/
theorem mem_insertAll {r : α}
    (h : r ∈ rows.foldl (Database.insertNew key) old) : r ∈ old ∨ r ∈ rows := by
  induction rows generalizing old with
  | nil => exact Or.inl h
  | cons row rest ih =>
      rcases ih h with hbefore | hrest
      · rcases mem_insertNew hbefore with hold | hrow
        · exact Or.inl hold
        · exact Or.inr (by simp [hrow])
      · exact Or.inr (by simp [hrest])

theorem filter_insertNew {p : α → Bool} (h : p row = false) :
    (Database.insertNew key old row).filter p = old.filter p := by
  by_cases hany : old.any (fun r => key r == key row) = true
  · rw [insertNew_of_any hany]
  · rw [insertNew_of_not_any hany, List.filter_append]
    simp [h]

/-- Inserted rows that a filter drops are not seen behind it. -/
theorem filter_insertAll {p : α → Bool} (h : ∀ row ∈ rows, p row = false) :
    (rows.foldl (Database.insertNew key) old).filter p = old.filter p := by
  induction rows generalizing old with
  | nil => rfl
  | cons row rest ih =>
      rw [List.foldl_cons, ih fun r hr => h r (by simp [hr])]
      exact filter_insertNew (h row (by simp))

variable [LawfulBEq β]

theorem exists_key_insertNew (key : α → β) (old : List α) (row : α) :
    ∃ r ∈ Database.insertNew key old row, key r = key row := by
  by_cases h : old.any (fun r => key r == key row) = true
  · rw [insertNew_of_any h]
    simpa using h
  · rw [insertNew_of_not_any h]
    exact ⟨row, by simp, rfl⟩

/-- The key of a row that was inserted is in the table afterwards. -/
theorem exists_key_insertAll (key : α → β) (old : List α) (h : row ∈ rows) :
    ∃ r ∈ rows.foldl (Database.insertNew key) old, key r = key row := by
  induction rows generalizing old with
  | nil => cases h
  | cons first rest ih =>
      rcases List.mem_cons.1 h with rfl | hrest
      · obtain ⟨r, hr, hkey⟩ := exists_key_insertNew key old row
        have hprefix : Database.insertNew key old row <+: rest.foldl
            (Database.insertNew key) (Database.insertNew key old row) :=
          prefix_insertAll
        exact ⟨r, hprefix.subset hr, hkey⟩
      · exact ih (Database.insertNew key old first) hrest

theorem nodup_insertNew (h : (old.map key).Nodup) :
    ((Database.insertNew key old row).map key).Nodup := by
  by_cases hany : old.any (fun r => key r == key row) = true
  · rw [insertNew_of_any hany]
    exact h
  · rw [insertNew_of_not_any hany, List.map_append, List.nodup_append]
    refine ⟨h, by simp, ?_⟩
    simpa using hany

/-- Keys stay distinct. -/
theorem nodup_insertAll (h : (old.map key).Nodup) :
    ((rows.foldl (Database.insertNew key) old).map key).Nodup := by
  induction rows generalizing old with
  | nil => exact h
  | cons row rest ih => exact ih (nodup_insertNew h)

/-- Rows whose keys are all there leave the table alone. -/
theorem insertAll_of_forall (h : ∀ row ∈ rows, ∃ r ∈ old, key r = key row) :
    rows.foldl (Database.insertNew key) old = old := by
  induction rows with
  | nil => rfl
  | cons row rest ih =>
      have hany : old.any (fun r => key r == key row) = true := by
        simpa using h row (by simp)
      rw [List.foldl_cons, insertNew_of_any hany]
      exact ih fun r hr => h r (by simp [hr])

/-- Rows of a table that are inserted into another one might have been inserted there
right away. -/
theorem insertAll_insertAll (rows new old : List α) :
    (rows.foldl (Database.insertNew key) new).foldl (Database.insertNew key) old =
      rows.foldl (Database.insertNew key) (new.foldl (Database.insertNew key) old) := by
  induction rows generalizing new with
  | nil => rfl
  | cons row rest ih =>
      rw [List.foldl_cons, List.foldl_cons, ih]
      congr 1
      by_cases hany : new.any (fun r => key r == key row) = true
      · obtain ⟨r, hr, hkey⟩ := List.any_eq_true.1 hany
        obtain ⟨r', hr', hkey'⟩ := exists_key_insertAll key old hr
        have hthere : (new.foldl (Database.insertNew key) old).any
            (fun r => key r == key row) = true := by
          refine List.any_eq_true.2 ⟨r', hr', ?_⟩
          rw [hkey']
          exact hkey
        rw [insertNew_of_any hany, insertNew_of_any hthere]
      · rw [insertNew_of_not_any hany, List.foldl_append]
        rfl

/-- Rows whose keys are there may be left out. -/
theorem insertAll_filter {p : α → Bool}
    (h : ∀ row ∈ rows, p row = false → ∃ r ∈ old, key r = key row) :
    (rows.filter p).foldl (Database.insertNew key) old =
      rows.foldl (Database.insertNew key) old := by
  induction rows generalizing old with
  | nil => rfl
  | cons row rest ih =>
      have hrest : ∀ r ∈ rest, p r = false →
          ∃ r' ∈ Database.insertNew key old row, key r' = key r := by
        intro r hr hp
        obtain ⟨r', hr', hkey⟩ := h r (by simp [hr]) hp
        exact ⟨r', prefix_insertNew.subset hr', hkey⟩
      cases hp : p row with
      | true =>
          rw [List.filter_cons_of_pos hp, List.foldl_cons, List.foldl_cons]
          exact ih hrest
      | false =>
          have hany : old.any (fun r => key r == key row) = true := by
            simpa using h row (by simp) hp
          rw [insertNew_of_any hany] at hrest
          rw [List.filter_cons_of_neg (by simp [hp]), List.foldl_cons,
            insertNew_of_any hany]
          exact ih hrest

/-- Rows of which no two share a key, and none has one that is there, are appended
as they are. -/
theorem insertAll_of_fresh (hnodup : (rows.map key).Nodup)
    (hfresh : ∀ row ∈ rows, ∀ r ∈ old, key r ≠ key row) :
    rows.foldl (Database.insertNew key) old = old ++ rows := by
  induction rows generalizing old with
  | nil => rw [List.foldl_nil, List.append_nil]
  | cons row rest ih =>
      have hany : ¬ old.any (fun r => key r == key row) = true := by
        simpa using hfresh row (by simp)
      rw [List.map_cons, List.nodup_cons] at hnodup
      have hrest : ∀ later ∈ rest, ∀ r ∈ old ++ [row], key r ≠ key later := by
        intro later hlater r hr
        rcases List.mem_append.1 hr with hold | hnew
        · exact hfresh later (by simp [hlater]) r hold
        · rw [List.mem_singleton.1 hnew]
          intro heq
          exact hnodup.1 (List.mem_map.2 ⟨later, hlater, heq.symm⟩)
      rw [List.foldl_cons, insertNew_of_not_any hany, ih hnodup.2 hrest,
        List.append_assoc, List.singleton_append]

/-- If the key of a row says whose it is, the rows of an owner who had none are the
ones that were inserted. -/
theorem filter_insertAll_of_owner {γ : Type} [DecidableEq γ] {owner : α → γ}
    {id : γ} (hkey : ∀ r r', key r = key r' → owner r = owner r')
    (hold : ∀ r ∈ old, owner r ≠ id) (hrows : ∀ row ∈ rows, owner row = id)
    (hnodup : (rows.map key).Nodup) :
    (rows.foldl (Database.insertNew key) old).filter (owner · == id) = rows := by
  have hfresh : ∀ row ∈ rows, ∀ r ∈ old, key r ≠ key row := by
    intro row hrow r hr heq
    exact hold r hr ((hkey r row heq).trans (hrows row hrow))
  have hnone : old.filter (owner · == id) = [] := by
    rw [List.filter_eq_nil_iff]
    simpa using hold
  have hall : rows.filter (owner · == id) = rows := by
    rw [List.filter_eq_self]
    simpa using hrows
  rw [insertAll_of_fresh hnodup hfresh, List.filter_append, hnone, hall,
    List.nil_append]

/-- A table that is left alone has the keys of all the rows. -/
theorem insertAll_eq_iff :
    rows.foldl (Database.insertNew key) old = old ↔
      ∀ row ∈ rows, ∃ r ∈ old, key r = key row := by
  refine ⟨fun heq row hrow => ?_, insertAll_of_forall⟩
  have hkey := exists_key_insertAll key old hrow
  rwa [heq] at hkey

/-- The keys of a table are those that it had and those of the rows. -/
theorem exists_key_insertAll_iff {k : β} :
    (∃ r ∈ rows.foldl (Database.insertNew key) old, key r = k) ↔
      (∃ r ∈ old, key r = k) ∨ ∃ r ∈ rows, key r = k := by
  constructor
  · rintro ⟨r, hr, hkey⟩
    rcases mem_insertAll hr with hold | hnew
    · exact Or.inl ⟨r, hold, hkey⟩
    · exact Or.inr ⟨r, hnew, hkey⟩
  · rintro (⟨r, hr, hkey⟩ | ⟨r, hr, rfl⟩)
    · exact ⟨r, prefix_insertAll.subset hr, hkey⟩
    · exact exists_key_insertAll key old hr

theorem find?_insertNew (k : β) :
    (Database.insertNew key old row).find? (key · == k) =
      (old.find? (key · == k)).or (if key row == k then some row else none) := by
  by_cases hany : old.any (fun r => key r == key row) = true
  · rw [insertNew_of_any hany]
    split
    · next hk =>
        -- the row that is left alone is found
        have hfound : (old.find? (key · == k)).isSome = true := by
          rw [List.find?_isSome]
          simpa [beq_iff_eq.1 hk] using hany
        obtain ⟨r, hr⟩ := Option.isSome_iff_exists.1 hfound
        rw [hr, Option.some_or]
    · rw [Option.or_none]
  · rw [insertNew_of_not_any hany, List.find?_append, List.find?_singleton]

/-- The row of a key is the one that was there, or the first that was
inserted. -/
theorem find?_insertAll (k : β) :
    (rows.foldl (Database.insertNew key) old).find? (key · == k) =
      (old.find? (key · == k)).or (rows.find? (key · == k)) := by
  induction rows generalizing old with
  | nil => rw [List.foldl_nil, List.find?_nil, Option.or_none]
  | cons row rest ih =>
      rw [List.foldl_cons, ih, find?_insertNew, Option.or_assoc,
        List.find?_cons]
      congr 1
      cases key row == k <;> rfl

end Insert

/-! ## Statements and the derived tables -/

namespace Database

/-- Every derived table of `before` is a beginning of that of `after`. -/
structure Grows (before after : Database) : Prop where
  transactions : before.transactions <+: after.transactions
  logs : before.logs <+: after.logs
  tokens : before.tokens <+: after.tokens
  transfers : before.transfers <+: after.transfers
  contracts : before.contracts <+: after.contracts

theorem Grows.refl (db : Database) : Grows db db :=
  ⟨List.prefix_rfl, List.prefix_rfl, List.prefix_rfl, List.prefix_rfl,
    List.prefix_rfl⟩

theorem Grows.trans {first second third : Database} (h : Grows first second)
    (h' : Grows second third) : Grows first third where
  transactions := h.transactions.trans h'.transactions
  logs := h.logs.trans h'.logs
  tokens := h.tokens.trans h'.tokens
  transfers := h.transfers.trans h'.transfers
  contracts := h.contracts.trans h'.contracts

/-- A statement adds to the derived tables, if it does anything to them. -/
theorem grows_apply (s : Statement) (db : Database) : Grows db (s.apply db) := by
  have h := Grows.refl db
  cases s with
  | insertTransaction rows => exact { h with transactions := prefix_insertAll }
  | insertLog rows => exact { h with logs := prefix_insertAll }
  | insertToken rows => exact { h with tokens := prefix_insertAll }
  | insertTransfer rows => exact { h with transfers := prefix_insertAll }
  | insertContract rows => exact { h with contracts := prefix_insertAll }
  | deletePending txId => exact { h with transactions := h.transactions }
  | _ => exact h

/-- No two transaction rows share an identifier: the primary key of the table. -/
def UniqueTransactions (db : Database) : Prop :=
  (db.transactions.map (·.txId)).Nodup

theorem isDecoded_iff {db : Database} {txId : String} :
    db.isDecoded txId = true ↔ ∃ tx ∈ db.transactions, tx.txId = txId := by
  simp [isDecoded]

theorem Grows.isDecoded {before after : Database} (h : Grows before after)
    {txId : String} (hdecoded : before.isDecoded txId = true) :
    after.isDecoded txId = true := by
  obtain ⟨tx, htx, hid⟩ := isDecoded_iff.1 hdecoded
  exact isDecoded_iff.2 ⟨tx, h.transactions.subset htx, hid⟩

/-- A transaction that has a row has exactly one. -/
theorem UniqueTransactions.countP_eq_one {db : Database}
    (h : db.UniqueTransactions) {txId : String}
    (hdecoded : db.isDecoded txId = true) :
    db.transactions.countP (fun tx => tx.txId == txId) = 1 := by
  obtain ⟨tx, htx, hid⟩ := isDecoded_iff.1 hdecoded
  have hcount : (db.transactions.map (·.txId)).count txId = 1 :=
    List.nodup_iff_count_eq_one.1 h txId (List.mem_map.2 ⟨tx, htx, hid⟩)
  rwa [List.count, List.countP_map] at hcount

/-! ## The queue -/

/-- Whether an item of a transaction waits. -/
def Waits (db : Database) (txId : String) : Prop :=
  ∃ item ∈ db.pending, item.txId = txId

/-- Whether a transaction is accounted for: it waits or it has a row. -/
def Accounts (db : Database) (txId : String) : Prop :=
  db.Waits txId ∨ db.isDecoded txId = true

/-- An item that a poll takes is of a transaction without a row. -/
theorem isDecoded_of_mem_undecoded {db : Database} {limit : Nat}
    {item : PendingItem} (h : item ∈ db.undecoded limit) :
    db.isDecoded item.txId = false := by
  have hfiltered := (List.mem_filter.1 (List.mem_of_mem_take h)).2
  simpa using hfiltered

theorem pendingItem?_txId {db : Database} {txId : String}
    {item : PendingItem} (h : db.pendingItem? txId = some item) : item.txId = txId := by
  have hfound := List.find?_some h
  simpa using hfound

theorem waits_retire {db : Database} {txId other : String}
    (h : db.Waits txId) (hne : txId ≠ other) : (db.retire other).Waits txId := by
  obtain ⟨item, hitem, hid⟩ := h
  exact ⟨item, by simp [retire, hitem, hid, hne], hid⟩

theorem waits_enqueue (db : Database) (item : PendingItem) :
    (db.enqueue item).Waits item.txId := by
  unfold enqueue
  split
  · next hany =>
      obtain ⟨old, hold, hid⟩ := List.any_eq_true.1 hany
      exact ⟨item, by simpa using ⟨old, hold, by simp [beq_iff_eq.1 hid]⟩, rfl⟩
  · exact ⟨item, by simp, rfl⟩

/-- Putting an item into the queue takes no transaction out of it. -/
theorem Waits.enqueue {db : Database} {txId : String} (h : db.Waits txId)
    (item : PendingItem) : (db.enqueue item).Waits txId := by
  by_cases heq : item.txId = txId
  · rw [← heq]
    exact waits_enqueue db item
  · obtain ⟨old, hold, hid⟩ := h
    refine ⟨old, ?_, hid⟩
    unfold Database.enqueue
    split
    · exact List.mem_map.2 ⟨old, hold, if_neg (by simp [hid, Ne.symm heq])⟩
    · simp [hold]

end Database

end EvmIndexer
