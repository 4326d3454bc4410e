import EvmIndexer.Proofs.Outcome.Building

/-!
# Processing an item

Building an outcome ends with an outcome of the item and leaves the tables
alone; processing an item adds such an outcome to them, or leaves them alone when
it fails. Both have one property of tables as a parameter that is to hold at
every entry of the journal, and the hypothesis about it quantifies over every
outcome of the item. Since the placeholder is one, the hypothesis covers the
second attempt after a refusal.
-/

namespace EvmIndexer.Outcome

open Work

variable {around : Surroundings} {store : Store} {I : Database → Prop}
  {item : PendingItem}

/-- Building gives an outcome of the item. -/
theorem ends_build {known : Option (List String)} (hI : I store.tables) :
    (build item known).Ends around store
      (fun result after => store.Extends (Entry.Inner I) after ∧
        after.tables = store.tables ∧
        Of item (known.getD []) (store.responses.lookup item.txId) result.1 ∧
        result.2 = known.map (addKnown · result.1))
      (fun _ after => store.Extends (Entry.Inner I) after ∧
        after.tables = store.tables) := by
  have hread : store.Extends (Entry.Inner I)
      (store.enter (.statement (.selectResponse item.txId))) :=
    (Store.Extends.refl store).enter ⟨rfl, hI⟩
  refine (ends_build_built item known).mono ?_ ?_
  · rintro result after ⟨hbuilt, hknown, hconsulted⟩
    cases hconsulted with
    | nobody => exact ⟨.refl store, rfl, hbuilt.of, hknown⟩
    | read asked => exact ⟨⟨rfl, hread.journal⟩, rfl, hbuilt.of, hknown⟩
  · rintro _ _ ⟨fault, -, -, rfl⟩
    exact ⟨hread, rfl⟩

/-- Processing adds an outcome of the item to the tables, or leaves them as they
were. Known afterwards are tokens that were known before and those of the
outcome. -/
theorem ends_process {known : Option (List String)}
    (hI : ∀ outcome,
      Of item (known.getD []) (store.responses.lookup item.txId) outcome →
        Statement.Along I outcome.statements store.tables) :
    (process item known).Ends around store
      (fun result after => store.Extends (Entry.Inner I) after ∧
        after.tables = store.tables.addOutcome result.1 ∧
        Of item (known.getD []) (store.responses.lookup item.txId) result.1 ∧
        ∀ address ∈ result.2.getD [],
          address ∈ known.getD [] ∨ address ∈ result.1.tokenAddresses)
      (fun _ after => store.Extends (Entry.Inner I) after ∧
        after.tables = store.tables) := by
  have hstart : I store.tables := (hI _ (Or.inl rfl)).head
  refine Ends.bind ((ends_build hstart).mono ?_ fun _ _ hbad => hbad)
  rintro ⟨outcome, met⟩ built ⟨hbuilt, htables, hof, hmet⟩
  obtain rfl : met = known.map (addKnown · outcome) := hmet
  have hsave : Statement.Along I outcome.statements built.tables := by
    rw [htables]
    exact hI outcome hof
  refine Ends.tryCatch (Ends.bind ((ends_save hsave).mono ?_ ?_))
  · rintro _ saved ⟨hsaved, hadded⟩
    refine Ends.pure ⟨hbuilt.trans hsaved, by rw [hadded, htables], hof, ?_⟩
    cases known with
    | none => simp
    | some known => exact fun address hmet => mem_addKnown hmet
  · rintro failure saved ⟨hsaved, hkept⟩
    have hkept' : saved.tables = store.tables := hkept.trans htables
    split
    · -- the placeholder is an outcome of the item as well
      have hagain : Statement.Along I (placeholder item.txId).statements
          saved.tables := by
        rw [hkept']
        exact hI _ (Or.inl rfl)
      refine Ends.bind ((ends_save hagain).mono ?_ ?_)
      · rintro _ after ⟨hafter, hadded⟩
        refine Ends.pure ⟨(hbuilt.trans hsaved).trans hafter,
          by rw [hadded, hkept'], Or.inl rfl, ?_⟩
        cases known with
        | none => simp
        | some known =>
            exact fun address hmet => Or.inl (mem_removeKnown_addKnown hmet)
      · rintro _ after ⟨hafter, hsame⟩
        exact ⟨(hbuilt.trans hsaved).trans hafter, hsame.trans hkept'⟩
    · exact Ends.throw ⟨hbuilt.trans hsaved, hkept'⟩

end EvmIndexer.Outcome
