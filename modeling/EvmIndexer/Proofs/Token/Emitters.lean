import EvmIndexer.Proofs.Token.Recognition

/-!
# The tokens that recognition finds

Recognition passes over an emitter that it has met, so which tokens it finds in a
list of logs depends on their order. Their rows do not: the row of a token is told
by its address and by the transaction, and there is one for the emitter of every
log that announces a transfer, unless it was met before.
-/

namespace EvmIndexer

/-- The row of a token whose first transfer is in a transaction. -/
def Token.firstSeen (txId : String) (height : Option Int) (address : String) : Token where
  address := address
  firstSeenTx := some txId
  firstSeenHeight := height

/-- Whether the token of an emitter is needed for one of the logs. -/
def Emits (event : String) (logs : List Log) (address : String) : Prop :=
  ∃ log ∈ logs, (log.announcement? event).isSome = true ∧ Text.lower log.address = address

namespace Recognition

variable {event txId : String} {height : Option Int} {known : List String}
  {logs : List Log} {token : Token}

theorem emits_cons {log : Log} {address : String} :
    Emits event (log :: logs) address ↔
      ((log.announcement? event).isSome = true ∧ Text.lower log.address = address) ∨
        Emits event logs address := by
  simp [Emits]

theorem mem_tokens_foldl {seen : List String} {found : Recognition} :
    token ∈ (logs.foldl (addLog event txId height) (seen, found)).2.tokens ↔
      token ∈ found.tokens ∨ ∃ address, Emits event logs address ∧ address ∉ seen ∧
        token = .firstSeen txId height address := by
  induction logs generalizing seen found with
  | nil => simp [Emits]
  | cons log rest ih =>
      rw [List.foldl_cons, addLog]
      simp only [emits_cons]
      cases hannounced : log.announcement? event with
      | none => simp [ih]
      | some announced =>
          simp only [Option.isSome_some, true_and]
          split
          · next hseen =>
              -- an emitter that was met is not found again
              have hmem : Text.lower log.address ∈ seen := List.contains_iff_mem.1 hseen
              rw [ih]
              refine or_congr_right (exists_congr fun address => ?_)
              constructor
              · rintro ⟨hemits, hrest⟩
                exact ⟨Or.inr hemits, hrest⟩
              · rintro ⟨rfl | hemits, hnew, htoken⟩
                · exact absurd hmem hnew
                · exact ⟨hemits, hnew, htoken⟩
          · next hseen =>
              have hmem : Text.lower log.address ∉ seen :=
                fun h => hseen (List.contains_iff_mem.2 h)
              rw [ih, List.mem_append, List.mem_singleton, or_assoc]
              refine or_congr_right ?_
              constructor
              · rintro (rfl | ⟨address, hemits, hnew, htoken⟩)
                · exact ⟨_, Or.inl rfl, hmem, rfl⟩
                · exact ⟨address, Or.inr hemits,
                    fun h => hnew (List.mem_cons_of_mem _ h), htoken⟩
              · rintro ⟨address, rfl | hemits, hnew, htoken⟩
                · exact Or.inl htoken
                · by_cases heq : address = Text.lower log.address
                  · subst heq
                    exact Or.inl htoken
                  · refine Or.inr ⟨address, hemits, fun h => ?_, htoken⟩
                    exact (List.mem_cons.1 h).elim heq hnew

theorem mem_tokens_ofLogs :
    token ∈ (ofLogs event txId height known logs).tokens ↔
      ∃ address, Emits event logs address ∧ address ∉ known.map Text.lower ∧
        token = .firstSeen txId height address := by
  rw [ofLogs, mem_tokens_foldl]
  simp

end Recognition

end EvmIndexer
