import EvmIndexer.Proofs.Store.Insertion

/-!
# Tables by key

Whoever reads a table asks for the rows of a key, and the order of the table is
no concern of theirs. So two tables are the same for a reader if they have the
same rows under every key.

What an insertion leaves under a key is decided by two things, the rows that are
there and the first of the new rows with that key. The order of the new rows, and
how often each of them is inserted, matters only where two of them share a key
and differ.
-/

namespace EvmIndexer

section Keyed

variable {α β : Type} [BEq β] {key : α → β} {rows others old : List α}

/-- The rows of a table under a key. -/
def rowsAt (key : α → β) (rows : List α) (k : β) : List α :=
  rows.filter (key · == k)

/-- Two tables have the same rows under every key. -/
def SameRows (key : α → β) (rows others : List α) : Prop :=
  ∀ k, rowsAt key rows k = rowsAt key others k

/-- A table without the rows that have the key of one of the given rows. -/
def dropKeys (key : α → β) (dropped rows : List α) : List α :=
  rows.filter fun row => !dropped.any fun d => key d == key row

variable [LawfulBEq β]

theorem rowsAt_eq_nil_iff {k : β} :
    rowsAt key rows k = [] ↔ ∀ row ∈ rows, key row ≠ k := by
  simp [rowsAt, List.filter_eq_nil_iff]

/-- Dropping the keys of rows that were inserted where no row had their keys leaves
what was there before. -/
theorem dropKeys_insertAll (hfresh : ∀ row ∈ rows, ∀ r ∈ old, key r ≠ key row) :
    dropKeys key rows (rows.foldl (Database.insertNew key) old) = old := by
  have hdropped : ∀ row ∈ rows, (!rows.any fun d => key d == key row) = false := by
    intro row hrow
    simpa using ⟨row, hrow, rfl⟩
  have hkept : ∀ r ∈ old, (!rows.any fun d => key d == key r) = true := by
    intro r hr
    simpa using fun row hrow heq => hfresh row hrow r hr heq.symm
  rw [dropKeys, filter_insertAll hdropped, List.filter_eq_self.2 hkept]

/-- Under a key that had no rows there is the first of those inserted. -/
theorem rowsAt_insertAll (k : β) :
    rowsAt key (rows.foldl (Database.insertNew key) old) k =
      if rowsAt key old k = [] then (rows.find? (key · == k)).toList
      else rowsAt key old k := by
  induction rows generalizing old with
  | nil =>
      rw [List.foldl_nil]
      split
      · next h => rw [h]; rfl
      · rfl
  | cons row rest ih =>
      rw [List.foldl_cons, ih]
      by_cases hany : old.any (fun r => key r == key row) = true
      · rw [insertNew_of_any hany]
        split
        · next h =>
            have hrow : key row ≠ k := by
              obtain ⟨r, hr, heq⟩ := List.any_eq_true.1 hany
              rw [← beq_iff_eq.1 heq]
              exact rowsAt_eq_nil_iff.1 h r hr
            rw [List.find?_cons_of_neg (by simpa using hrow)]
        · rfl
      · have hsplit : rowsAt key (old ++ [row]) k =
            rowsAt key old k ++ rowsAt key [row] k := List.filter_append ..
        rw [insertNew_of_not_any hany, hsplit]
        by_cases hrow : key row = k
        · have hold : rowsAt key old k = [] := by
            rw [rowsAt_eq_nil_iff, ← hrow]
            simpa using hany
          have hnew : rowsAt key [row] k = [row] := by simp [rowsAt, hrow]
          rw [hold, hnew, List.find?_cons_of_pos (by simpa using hrow)]
          rfl
        · have hnew : rowsAt key [row] k = [] := by simp [rowsAt, hrow]
          rw [hnew, List.append_nil, List.find?_cons_of_neg (by simpa using hrow)]

/-- Lists of rows with the same members find the same, if no two of them share a
key. -/
theorem find?_congr_of_mem (hmem : ∀ r, r ∈ rows ↔ r ∈ others)
    (hkey : ∀ r ∈ rows, ∀ r' ∈ rows, key r = key r' → r = r') (k : β) :
    rows.find? (key · == k) = others.find? (key · == k) := by
  cases hfound : rows.find? (key · == k) with
  | none =>
      have hnone := List.find?_eq_none.1 hfound
      exact (List.find?_eq_none.2 fun r hr => hnone r ((hmem r).2 hr)).symm
  | some row =>
      have hrow := List.mem_of_find?_eq_some hfound
      have hrowKey : key row = k := by simpa using List.find?_some hfound
      cases hother : others.find? (key · == k) with
      | none =>
          have hnone := List.find?_eq_none.1 hother row ((hmem row).1 hrow)
          exact absurd (beq_iff_eq.2 hrowKey) hnone
      | some row' =>
          have hrow' := (hmem row').2 (List.mem_of_find?_eq_some hother)
          have hrowKey' : key row' = k := by simpa using List.find?_some hother
          rw [hkey row hrow row' hrow' (hrowKey.trans hrowKey'.symm)]

/-- Neither the order of new rows matters nor how often each is inserted. -/
theorem sameRows_insertAll (hmem : ∀ r, r ∈ rows ↔ r ∈ others)
    (hkey : ∀ r ∈ rows, ∀ r' ∈ rows, key r = key r' → r = r') :
    SameRows key (rows.foldl (Database.insertNew key) old)
      (others.foldl (Database.insertNew key) old) := by
  intro k
  rw [rowsAt_insertAll, rowsAt_insertAll, find?_congr_of_mem hmem hkey]

end Keyed

end EvmIndexer
