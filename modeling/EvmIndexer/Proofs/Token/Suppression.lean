import EvmIndexer.Proofs.Token.Recognition

/-!
# What the tokens met before do to recognition

Handing in the tokens met before takes rows out of what recognition finds and
changes nothing else: the transfers are the same, and of the tokens exactly the
known ones are missing. So a batch, which hands in what it has met, finds item
by item what would be found without, less the rows that an earlier item has
brought.

The two recognitions are followed log by log side by side. What they have met
differs all along, namely by the tokens that were handed in, and
`SuppressedBy` says that it never differs by more.
-/

namespace EvmIndexer.Recognition

variable {event txId : String} {height : Option Int}

/-- What was found, without the tokens at the given addresses. -/
def without (addresses : List String) (found : Recognition) : Recognition :=
  { found with
    tokens := found.tokens.filter fun token => !addresses.contains token.address }

/-- `part` is what `full` would be, had the addresses been met before. -/
structure SuppressedBy (addresses : List String)
    (part full : List String × Recognition) : Prop where
  met : ∀ address, address ∈ part.1 ↔ address ∈ full.1 ∨ address ∈ addresses
  found : part.2 = full.2.without addresses

theorem SuppressedBy.addLog {addresses : List String}
    {part full : List String × Recognition} (h : SuppressedBy addresses part full)
    (log : Log) :
    SuppressedBy addresses (Recognition.addLog event txId height part log)
      (Recognition.addLog event txId height full log) := by
  obtain ⟨met, found⟩ := full
  obtain ⟨met', found'⟩ := part
  obtain ⟨hmet, rfl⟩ := h
  simp only at hmet
  unfold Recognition.addLog
  split
  · exact ⟨hmet, rfl⟩
  · next announced hannounced =>
      by_cases hold : Text.lower log.address ∈ met
      · -- met by both
        have hpart := (hmet _).2 (Or.inl hold)
        simp only [List.contains_iff_mem.2 hold, List.contains_iff_mem.2 hpart,
          if_true]
        exact ⟨hmet, rfl⟩
      · have hnew : met.contains (Text.lower log.address) = false := by
          simpa using hold
        by_cases hknown : Text.lower log.address ∈ addresses
        · -- only the one to which it was handed in passes it over
          have hpart := (hmet _).2 (Or.inr hknown)
          simp only [hnew, List.contains_iff_mem.2 hpart, if_true]
          refine ⟨fun address => ?_, ?_⟩
          · show address ∈ met' ↔ address ∈ Text.lower log.address :: met ∨ _
            rw [hmet, List.mem_cons]
            constructor
            · rintro (hmet | hknown)
              · exact Or.inl (Or.inr hmet)
              · exact Or.inr hknown
            · rintro ((rfl | hmet) | hknown)
              · exact Or.inr hknown
              · exact Or.inl hmet
              · exact Or.inr hknown
          · simp [without, List.filter_append, hknown]
        · have hpart : met'.contains (Text.lower log.address) = false := by
            rw [← Bool.not_eq_true, List.contains_iff_mem, hmet]
            exact fun hmem => hmem.elim hold hknown
          simp only [hnew, hpart, Bool.false_eq_true, if_false]
          refine ⟨fun address => ?_, ?_⟩
          · show address ∈ Text.lower log.address :: met' ↔
              address ∈ Text.lower log.address :: met ∨ _
            rw [List.mem_cons, List.mem_cons, hmet, or_assoc]
          · simp [without, List.filter_append, hknown]

/-- Recognition that is handed in known tokens leaves out these and nothing
else. -/
theorem ofLogs_eq_without (event txId : String) (height : Option Int)
    (known : List String) (logs : List Log) :
    ofLogs event txId height known logs =
      (ofLogs event txId height [] logs).without (known.map Text.lower) := by
  have hfolded : ∀ part full, SuppressedBy (known.map Text.lower) part full →
      SuppressedBy (known.map Text.lower)
        (logs.foldl (addLog event txId height) part)
        (logs.foldl (addLog event txId height) full) := by
    induction logs with
    | nil => exact fun _ _ h => h
    | cons log rest ih => exact fun _ _ h => ih _ _ (h.addLog log)
  exact (hfolded _ _ ⟨by simp, rfl⟩).found

end EvmIndexer.Recognition
