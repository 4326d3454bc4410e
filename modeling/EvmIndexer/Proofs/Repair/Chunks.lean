import EvmIndexer.Proofs.Repair.Phases
import EvmIndexer.Proofs.Store.Events

/-!
# What a phase sends chunk by chunk

A phase cuts its candidates into chunks and writes each chunk in a transaction of its
own. What it sends is told by the candidates alone: put together, the batches that it
sends are the rows of the candidates in their order, whatever the size at which they
were cut. The size only says how many of them are sent at once.

Where every candidate gives a row, no chunk is without rows. Of the tokens that the
search finds incomplete only those are sent of which something is known, so there a
chunk may be left out, and then its transaction is.

All of this is about runs in which no statement strikes a fault. Such a run is known
with its value and its events, and `Performs` says which.
-/

namespace EvmIndexer

/-- The events of a transaction of statements that was committed. -/
def Event.transaction (statements : List Statement) : List Event :=
  .begin :: statements.map .statement ++ [.commit]

/-! ## Runs that are known with their events -/

namespace Work

section Performs

variable {α β : Type} {around : Surroundings} {store : Store}

/-- The run ends with a value, and enters the given events into the journal. -/
def Performs (work : Work α) (around : Surroundings) (store : Store) (a : α)
    (events : List Event) : Prop :=
  work.Ends around store (fun b after => b = a ∧ store.Adds after events)
    (fun _ _ => False)

theorem Performs.pure {a : α} : (pure a : Work α).Performs around store a [] :=
  Ends.pure ⟨rfl, .refl store⟩

theorem Performs.bind {work : Work β} {next : β → Work α} {b : β} {a : α}
    {events more : List Event} (h : work.Performs around store b events)
    (hnext : ∀ after, (next b).Performs around after a more) :
    (work >>= next).Performs around store a (events ++ more) := by
  refine Ends.bind (Ends.mono h ?_ fun _ _ hfalse => hfalse.elim)
  intro b' after hended
  obtain ⟨rfl, hadds⟩ := hended
  refine Ends.mono (hnext after) ?_ fun _ _ hfalse => hfalse
  intro a' last hlast
  exact ⟨hlast.1, hadds.trans hlast.2⟩

/-- A last step that enters nothing. -/
theorem Performs.map {work : Work β} {next : β → Work α} {b : β} {a : α}
    {events : List Event} (h : work.Performs around store b events)
    (hnext : next b = Pure.pure a) : (work >>= next).Performs around store a events := by
  have hall := h.bind fun after => (hnext ▸ Performs.pure : (next b).Performs around after a [])
  rwa [List.append_nil] at hall

theorem Performs.mapM {work : β → Work α} {rounds : List β} (value : β → α)
    (events : β → List Event)
    (hwork : ∀ b ∈ rounds, ∀ after, (work b).Performs around after (value b) (events b)) :
    (rounds.mapM work).Performs around store (rounds.map value) (rounds.flatMap events) := by
  induction rounds generalizing store with
  | nil => exact Performs.pure
  | cons b rest ih =>
      rw [List.mapM_cons, List.map_cons, List.flatMap_cons]
      refine (hwork b List.mem_cons_self store).bind fun after => ?_
      have hrest := @ih after fun b' hb' => hwork b' (List.mem_cons_of_mem b hb')
      exact hrest.map rfl

theorem Performs.run {work : Work α} {a : α} {events : List Event}
    (h : work.Performs around store a events) :
    ∃ after, work.run around store = (.ok a, after) ∧ store.Adds after events := by
  rcases Ends.run h with ⟨_, after, hrun, rfl, hadds⟩ | ⟨_, _, -, hfalse⟩
  · exact ⟨after, hrun, hadds⟩
  · exact hfalse.elim

variable (h : around.Faultless)

include h

theorem performs_send (s : Statement) :
    (send s).Performs around store () [.statement s] := by
  refine Ends.send_accepted (h _ s) ⟨rfl, ?_⟩
  exact ((Store.Adds.refl store).withTables _).enter (.statement s)

theorem performs_transaction (statements : List Statement) :
    (transaction (sendAll statements)).Performs around store ()
      (Event.transaction statements) := by
  have hnone : around.firstFault? (store.journal.length + 1) statements = none :=
    Surroundings.firstFault?_eq_none (fun s _ position => h position s) _
  refine (ends_transaction_events statements).mono ?_ ?_
  · intro _ after hended
    exact ⟨rfl, hended.2.2⟩
  · intro _ after hended
    obtain ⟨fault, _, hfault, -⟩ := hended
    rw [hnone] at hfault
    cases hfault

theorem performs_batch {γ : Type} (statement : List γ → Statement) (batch : List γ) :
    (do
      transaction (send (statement batch))
      return batch.length : Work Nat).Performs around store batch.length
        (Event.transaction [statement batch]) := by
  have hsent := @performs_transaction around store h [statement batch]
  rw [sendAll_singleton] at hsent
  exact hsent.map rfl

end Performs

end Work

/-! ## Chunks -/

/-- A chunk is not empty and no longer than the size. -/
theorem length_chunk {α : Type} {size : Nat} (hsize : 0 < size) {rows chunk : List α}
    (h : chunk ∈ chunks size rows) : chunk ≠ [] ∧ chunk.length ≤ size := by
  induction rows using chunks.induct size with
  | case1 =>
      rw [chunks] at h
      cases h
  | case2 a rest ih =>
      rw [chunks] at h
      rcases List.mem_cons.1 h with rfl | hlater
      · refine ⟨List.cons_ne_nil _ _, ?_⟩
        rw [List.length_cons, List.length_take]
        omega
      · exact ih hlater

namespace Store

/-- Between two stores a question was sent, and then rows of one kind were: batch after
batch, each in a transaction of its own and with at least one row and at most so many. -/
def Wrote {γ : Type} (before after : Store) (question : Statement)
    (statement : List γ → Statement) (size : Nat) (rows : List γ) : Prop :=
  ∃ batches : List (List γ), batches.flatten = rows ∧
    (∀ batch ∈ batches, batch ≠ [] ∧ batch.length ≤ size) ∧
    before.Adds after (.statement question ::
      batches.flatMap fun batch => Event.transaction [statement batch])

end Store

namespace Repair

open Work

variable {around : Surroundings} {store : Store} {repair : Repair}

/-- A phase sends its question and works on its chunks. Each of them gives a batch, and
a batch that is not skipped is written in a transaction. -/
theorem run_phase {α β : Type} (h : around.Faultless) (question : Statement)
    {rows : List α} {work : List α → Work Nat} (batch : List α → β) (count : β → Nat)
    (skips : β → Bool) (statements : β → List Statement)
    (hwork : ∀ chunk ∈ chunks repair.size rows, ∀ after, (work chunk).Performs around after
      (count (batch chunk))
      (if skips (batch chunk) then [] else Event.transaction (statements (batch chunk)))) :
    ∃ after, (do
        send question
        repair.inChunks rows work : Work Nat).run around store =
          (.ok (total ((chunks repair.size rows).map fun chunk => count (batch chunk))),
            after) ∧
      store.Adds after (.statement question ::
        (((chunks repair.size rows).map batch).filter fun b => !skips b).flatMap fun b =>
          Event.transaction (statements b)) := by
  have hevents : ∀ pieces : List (List α), (pieces.flatMap fun chunk =>
      if skips (batch chunk) then [] else Event.transaction (statements (batch chunk))) =
        ((pieces.map batch).filter fun b => !skips b).flatMap fun b =>
          Event.transaction (statements b) := by
    intro pieces
    induction pieces with
    | nil => rfl
    | cons chunk rest ih =>
        rw [List.flatMap_cons, ih, List.map_cons, List.filter_cons]
        cases skips (batch chunk) <;> simp
  have hchunks : ∀ after, (repair.inChunks rows work).Performs around after
      (total ((chunks repair.size rows).map fun chunk => count (batch chunk)))
      ((((chunks repair.size rows).map batch).filter fun b => !skips b).flatMap fun b =>
        Event.transaction (statements b)) := by
    intro after
    rw [← hevents]
    exact (Performs.mapM (fun chunk => count (batch chunk)) _ hwork).map rfl
  exact ((performs_send h question).bind hchunks).run

/-! ## Rows of one kind -/

/-- The rows that the chunks give are written in their order. -/
theorem run_rows {α β : Type} (h : around.Faultless) (hsize : 0 < repair.size)
    (question : Statement) (statement : List β → Statement) {rows : List α}
    {work : List α → Work Nat} {batch : List α → List β} {written : List β}
    (hwritten : (chunks repair.size rows).flatMap batch = written)
    (hbatch : ∀ chunk, (batch chunk).length ≤ chunk.length)
    (hwork : ∀ chunk ∈ chunks repair.size rows, ∀ after, (work chunk).Performs around after
      (batch chunk).length
      (if (batch chunk).isEmpty then [] else Event.transaction [statement (batch chunk)])) :
    ∃ after, (do
        send question
        repair.inChunks rows work : Work Nat).run around store =
          (.ok written.length, after) ∧
      store.Wrote after question statement repair.size written := by
  obtain ⟨after, hrun, hadds⟩ := @run_phase around store repair _ _ h question _ _ batch
    List.length List.isEmpty (fun b => [statement b]) hwork
  rw [total_map_length, hwritten] at hrun
  refine ⟨after, hrun, _, ?_, fun b hb => ?_, hadds⟩
  · rw [List.flatten_filter_not_isEmpty, ← List.flatMap_def, hwritten]
  · obtain ⟨hmem, hnonempty⟩ := List.mem_filter.1 hb
    obtain ⟨chunk, hchunk, rfl⟩ := List.mem_map.1 hmem
    refine ⟨?_, Nat.le_trans (hbatch chunk) (length_chunk hsize hchunk).2⟩
    simpa using hnonempty

/-- So they are, if every candidate gives one. -/
theorem run_rows_map {α β : Type} (h : around.Faultless) (hsize : 0 < repair.size)
    (question : Statement) (statement : List β → Statement) {rows : List α}
    {work : List α → Work Nat} (row : α → β)
    (hwork : ∀ chunk ∈ chunks repair.size rows, ∀ after, (work chunk).Performs around after
      (chunk.map row).length (Event.transaction [statement (chunk.map row)])) :
    ∃ after, (do
        send question
        repair.inChunks rows work : Work Nat).run around store = (.ok rows.length, after) ∧
      store.Wrote after question statement repair.size (rows.map row) := by
  have hlength : ∀ chunk : List α, (chunk.map row).length = chunk.length :=
    fun chunk => List.length_map row
  rw [← hlength rows]
  refine run_rows h hsize question statement (flatMap_chunks_map repair.size row rows)
    (fun chunk => Nat.le_of_eq (hlength chunk)) fun chunk hchunk after => ?_
  have hnonempty : ¬ (chunk.map row).isEmpty = true := by
    simpa using (length_chunk hsize hchunk).1
  rw [if_neg hnonempty]
  exact hwork chunk hchunk after

theorem run_contracts (h : around.Faultless) (hsize : 0 < repair.size)
    {rows : List Candidate.Creation} {contract : Candidate.Creation → Contract}
    (hrows : ∀ row ∈ rows, row.contract = .ok (contract row)) :
    ∃ after, (repair.contracts rows).run around store = (.ok rows.length, after) ∧
      store.Wrote after .selectMissingContracts .insertContract repair.size
        (rows.map contract) := by
  refine run_rows_map h hsize _ _ contract fun chunk hchunk after => ?_
  have hcontracts : contractRows chunk = pure (chunk.map contract) := by
    rw [contractRows, mapM_contract fun row hrow => hrows row (mem_of_mem_chunk hchunk hrow)]
  rw [hcontracts, pure_bind]
  exact performs_batch h .insertContract _

theorem run_tokens (h : around.Faultless) (hsize : 0 < repair.size)
    (rows : List Candidate.Emitter) :
    ∃ after, (repair.tokens rows).run around store = (.ok rows.length, after) ∧
      store.Wrote after (.selectMissingTokens repair.event) .upsertToken repair.size
        (rows.map fun row => row.token (repair.known row.address)) :=
  run_rows_map h hsize _ _ _ fun _ _ _ => performs_batch h .upsertToken _

theorem flatMap_knownRows (repair : Repair) (addresses : List String) :
    (chunks repair.size addresses).flatMap repair.knownRows =
      repair.knownRows addresses := by
  have hcut : ∀ pieces : List (List String),
      pieces.flatMap repair.knownRows = repair.knownRows pieces.flatten := by
    intro pieces
    induction pieces with
    | nil => rfl
    | cons piece rest ih =>
        rw [List.flatMap_cons, ih, List.flatten_cons, knownRows, knownRows, knownRows,
          List.map_append, List.filter_append]
  rw [hcut, flatten_chunks]

theorem length_knownRows_le (repair : Repair) (addresses : List String) :
    (repair.knownRows addresses).length ≤ addresses.length := by
  have hle := List.length_filter_le (fun known : String × Metadata => known.2.isSome)
    (addresses.map fun address => (address, repair.known address))
  rwa [List.length_map] at hle

theorem run_metadataOf (h : around.Faultless) (hsize : 0 < repair.size)
    {source : MetadataSource} (hsource : repair.metadata = some source)
    (addresses : List String) :
    ∃ after, (repair.metadataOf addresses).run around store =
        (.ok (repair.knownRows addresses).length, after) ∧
      store.Wrote after .selectMissingMetadata .fillMetadata repair.size
        (repair.knownRows addresses) := by
  unfold metadataOf
  rw [hsource]
  refine run_rows h hsize _ _ (flatMap_knownRows repair addresses)
    (length_knownRows_le repair) fun chunk _ after => ?_
  show Performs (if _ then _ else _) _ _ _ _
  split
  · next hempty =>
      rw [List.isEmpty_iff.1 hempty]
      exact Performs.pure
  · exact performs_batch h .fillMetadata _

end Repair

end EvmIndexer
