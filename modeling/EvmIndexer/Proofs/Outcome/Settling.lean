import EvmIndexer.Proofs.Outcome.Building
import EvmIndexer.Proofs.Outcome.References
import EvmIndexer.Proofs.Token.Suppression

/-!
# What an item comes to

An item comes to rows under circumstances: the answers about selectors, the
responses that the ledger recorded, and the transactions that the database
refuses. They lead every item to one outcome, and what is stored of it is that
outcome, or the placeholder if it is refused. The main statement is that
processing an item does just this, and that it always gets there.

Two facts make the tokens met before invisible in the tables. They only take
rows out of the outcome that have a row already, so adding the outcome with or
without them is the same. And after a refusal exactly the tokens that the item
had added are taken back, so the items after it meet what they would have met
without it.
-/

namespace EvmIndexer

/-- What is learned about the signature of a transaction; empty if nothing is. -/
def Transaction.learned (tx : Transaction) (answer : String → LookupAnswer) :
    String :=
  match tx.unresolved? with
  | none => ""
  | some selector =>
    match answer selector with
    | .signature text => text
    | .unknown | .failed => ""

/-- What decides, beside an item, what the item comes to. -/
structure Circumstances where
  answer : String → LookupAnswer
  responses : List (String × String)
  /-- Whether the database refuses the decoded rows of a transaction. -/
  refused : String → Bool

namespace Circumstances

open Outcome

/-- The outcome that an item leads to, if `known` are the tokens met before. -/
def expected (c : Circumstances) (known : List String) (item : PendingItem) :
    Outcome :=
  match derive item known (c.responses.lookup item.txId) with
  | .ok derived => derived.withSignature (derived.transaction.learned c.answer)
  | .error _ => placeholder item.txId

/-- What is stored of it. -/
def outcome (c : Circumstances) (known : List String) (item : PendingItem) :
    Outcome :=
  if c.refused item.txId then placeholder item.txId else c.expected known item

/-- The tokens known after the item. -/
def knownAfter (c : Circumstances) (known : List String) (item : PendingItem) :
    List String :=
  if c.refused item.txId then known else addKnown known (c.expected known item)

end Circumstances

/-- Whether the database decides about an item as in the circumstances. Of a
refused transaction it refuses the decoded rows; a placeholder it takes in any
case. -/
structure Surroundings.Judges (around : Surroundings) (c : Circumstances)
    (known : List String) (item : PendingItem) : Prop where
  refuses : c.refused item.txId = true →
    (c.expected known item).isPlaceholder = false →
      around.Refuses (c.expected known item)
  accepts : (c.refused item.txId = true →
    (c.expected known item).isPlaceholder = true) →
      around.Accepts (c.expected known item)

namespace Outcome

variable {item : PendingItem} {known : List String} {response : Option String}
  {outcome : Outcome}

/-! ## Known tokens -/

/-- The outcome without the rows of known tokens. -/
def without (outcome : Outcome) (known : List String) : Outcome :=
  { outcome with
    tokens := outcome.tokens.filter fun token =>
      !(known.map Text.lower).contains token.address }

theorem recognize_eq_without (item : PendingItem) (known : List String)
    (execution : Option Execution) :
    recognize item known execution =
      (recognize item [] execution).without (known.map Text.lower) := by
  cases execution with
  | none => rfl
  | some execution => exact Recognition.ofLogs_eq_without _ _ _ _ _

theorem derive_eq_without (item : PendingItem) (known : List String)
    (response : Option String) :
    derive item known response =
      (derive item [] response).map (·.without known) := by
  unfold derive
  split
  · rfl
  · simp only
    rw [recognize_eq_without]
    unfold assemble
    cases Contract.ofTransaction? _ (some item.height) <;> rfl

/-- A row that is left out because its token has one is not missed. -/
theorem addOutcome_without {db : Database} (h : db.HasTokens known)
    (outcome : Outcome) :
    db.addOutcome (outcome.without known) = db.addOutcome outcome := by
  have htokens : (db.addLogs outcome).insertTokens
      (outcome.without known).tokens =
        (db.addLogs outcome).insertTokens outcome.tokens := by
    have hsame : (outcome.without known).tokens.foldl
        (Database.insertNew (·.address)) (db.addLogs outcome).tokens =
          outcome.tokens.foldl (Database.insertNew (·.address))
            (db.addLogs outcome).tokens := by
      refine insertAll_filter fun token _ hleft => ?_
      have hmem : token.address ∈ known.map Text.lower := by simpa using hleft
      obtain ⟨address, haddress, hlower⟩ := List.mem_map.1 hmem
      rw [← hlower]
      exact h address haddress
    rw [Database.insertTokens, hsame]
    rfl
  show ((((db.addLogs outcome).insertTokens
    (outcome.without known).tokens).insertTransfers _).insertContracts _).retire
      _ = _
  rw [htokens]
  rfl

end Outcome

/-! ## The outcome of an item -/

namespace Circumstances

open Outcome

variable {c : Circumstances} {known : List String} {item : PendingItem}

theorem expected_of_derive {derived : Outcome}
    (h : derive item known (c.responses.lookup item.txId) = .ok derived) :
    c.expected known item =
      derived.withSignature (derived.transaction.learned c.answer) := by
  unfold expected
  rw [h]

theorem expected_of_undecodable {refusal : Envelope.Refusal}
    (h : Transaction.decode (.text item.raw) item.txId item.gasUsed =
      .error refusal) : c.expected known item = placeholder item.txId := by
  have hderive : derive item known (c.responses.lookup item.txId) =
      .ok (placeholder item.txId) := by
    unfold derive
    rw [h]
  rw [expected_of_derive hderive]
  rfl

/-- What is expected can be built. -/
theorem built_expected (c : Circumstances) (known : List String)
    (item : PendingItem) :
    Built item known (c.responses.lookup item.txId) (c.expected known item) := by
  cases hdecode : Transaction.decode (.text item.raw) item.txId item.gasUsed with
  | error refusal =>
      rw [expected_of_undecodable hdecode]
      exact .placeholder hdecode
  | ok tx =>
      obtain ⟨derived, hderived⟩ := exists_derive item known
        (c.responses.lookup item.txId)
      rw [expected_of_derive hderived]
      rw [derive_of_decoded hdecode] at hderived
      refine .assembled (derived.transaction.learned c.answer) hdecode ?_
      rw [assemble_withSignature, hderived]
      rfl

theorem of_expected (c : Circumstances) (known : List String)
    (item : PendingItem) :
    Of item known (c.responses.lookup item.txId) (c.expected known item) :=
  (c.built_expected known item).of

theorem knownAfter_of_accepted (h : c.refused item.txId = false) :
    c.knownAfter known item = addKnown known (c.outcome known item) := by
  simp [knownAfter, outcome, h]

/-- The creation whose response announces a transfer has it, if it is not refused. -/
theorem exists_announces {txId : String} (hrefused : c.refused txId = false)
    (hresponse : c.responses.lookup txId = some announcing) :
    ∃ outcome, c.outcome [] (creationAs txId) = outcome ∧ Announces txId outcome := by
  have haccepted : ¬ c.refused (creationAs txId).txId = true := by
    show ¬ c.refused txId = true
    rw [hrefused]
    exact Bool.false_ne_true
  have hbuilt : Built (creationAs txId) [] (some announcing)
      (c.expected [] (creationAs txId)) := by
    rw [← hresponse]
    exact c.built_expected [] (creationAs txId)
  exact ⟨_, if_neg haccepted, hbuilt.announces⟩

theorem of_outcome (c : Circumstances) (known : List String)
    (item : PendingItem) :
    Of item known (c.responses.lookup item.txId) (c.outcome known item) := by
  unfold outcome
  split
  · exact Or.inl rfl
  · exact c.of_expected known item

theorem outcome_txId :
    (c.outcome known item).transaction.txId = item.txId :=
  (c.of_outcome known item).fromItem.transaction

theorem eq_placeholder_of_expected
    (h : (c.expected known item).isPlaceholder = true) :
    c.expected known item = placeholder item.txId := by
  obtain ⟨derived, hderived⟩ := exists_derive item known
    (c.responses.lookup item.txId)
  rw [expected_of_derive hderived] at h ⊢
  have hbase : derived.isPlaceholder = true :=
    (Transaction.withSignature_isPlaceholder _ _).symm.trans h
  rw [eq_placeholder_of_derive hderived hbase]
  rfl

/-- Known tokens take their rows out of the outcome and change nothing else. -/
theorem expected_eq_without (c : Circumstances) (known : List String)
    (item : PendingItem) :
    c.expected known item = (c.expected [] item).without known := by
  obtain ⟨derived, hderived⟩ := exists_derive item []
    (c.responses.lookup item.txId)
  have hknown : derive item known (c.responses.lookup item.txId) =
      .ok (derived.without known) := by
    rw [derive_eq_without, hderived]
    rfl
  rw [expected_of_derive hknown, expected_of_derive hderived]
  rfl

/-- In the tables nothing is seen of the tokens met before. -/
theorem addOutcome_outcome {db : Database} (h : db.HasTokens known)
    (c : Circumstances) (item : PendingItem) :
    db.addOutcome (c.outcome known item) = db.addOutcome (c.outcome [] item) := by
  unfold outcome
  split
  · rfl
  · rw [expected_eq_without, addOutcome_without h]

/-- What a refused outcome had added to the known tokens is taken back. -/
theorem removeKnown_addKnown_expected (c : Circumstances) (known : List String)
    (item : PendingItem) :
    removeKnown (addKnown known (c.expected known item))
      (c.expected known item) = known := by
  have hnew : ∀ address ∈ (c.expected known item).tokenAddresses,
      address ∉ known := by
    intro address haddress hmet
    obtain ⟨token, htoken, rfl⟩ := List.mem_map.1 haddress
    have hlower :=
      ((c.of_expected known item).fromItem.recognized.tokens token htoken).2
    have hmem : token.address ∈ known.map Text.lower :=
      List.mem_map.2 ⟨token.address, hmet, hlower⟩
    rw [expected_eq_without] at htoken
    have hleft := (List.mem_filter.1 htoken).2
    rw [List.contains_iff_mem.2 hmem] at hleft
    cases hleft
  generalize c.expected known item = outcome at hnew ⊢
  have hold : known.filter
      (fun address => !outcome.tokenAddresses.contains address) = known := by
    rw [List.filter_eq_self]
    intro address hmet
    have hnot : address ∉ outcome.tokenAddresses := fun hmem =>
      hnew address hmem hmet
    simpa using hnot
  have hadded : (outcome.tokenAddresses.filter
      fun address => !known.contains address).filter
        (fun address => !outcome.tokenAddresses.contains address) = [] := by
    rw [List.filter_eq_nil_iff]
    intro address hmem
    simpa using (List.mem_filter.1 hmem).1
  rw [removeKnown, addKnown, List.filter_append, hold, hadded, List.append_nil]

theorem mem_knownAfter {address : String}
    (h : address ∈ c.knownAfter known item) :
    address ∈ known ∨ address ∈ (c.outcome known item).tokenAddresses := by
  unfold knownAfter at h
  unfold outcome
  split at h
  · exact Or.inl h
  · next haccepted =>
      rw [if_neg haccepted]
      exact mem_addKnown h

theorem hasTokens_knownAfter {db : Database} (h : db.HasTokens known)
    (c : Circumstances) (item : PendingItem) :
    (db.addOutcome (c.outcome known item)).HasTokens
      (c.knownAfter known item) :=
  (c.of_outcome known item).fromItem.hasTokens_addOutcome h
    fun _ hmem => mem_knownAfter hmem

end Circumstances

/-! ## Processing -/

namespace Outcome

open Work

variable {around : Surroundings} {store : Store} {c : Circumstances}

theorem yields_enrich (h : around.Orderly c.answer) (tx : Transaction) :
    (enrich tx).Yields around store
      (tx.withSignature (tx.learned c.answer)) store.tables := by
  unfold enrich Transaction.learned
  cases tx.unresolved? with
  | none =>
      simp only
      rw [tx.withSignature_empty]
      exact Yields.pure rfl
  | some selector =>
      refine Yields.bind (yields_askSignature h selector) fun after htables _ => ?_
      simp only
      cases c.answer selector with
      | signature text => exact Yields.pure htables
      | unknown | failed =>
          simp only
          rw [tx.withSignature_empty]
          exact Yields.pure htables

theorem yields_build (h : around.Orderly c.answer)
    (hresponses : store.responses = c.responses) (item : PendingItem)
    (known : Option (List String)) :
    (build item known).Yields around store
      (c.expected (known.getD []) item,
        known.map (addKnown · (c.expected (known.getD []) item)))
      store.tables := by
  unfold build
  split
  · next refusal hundecodable =>
      rw [Circumstances.expected_of_undecodable hundecodable]
      rw [map_addKnown_placeholder]
      exact Yields.pure rfl
  · next tx hdecoded =>
      obtain ⟨derived, hderived⟩ := exists_derive item (known.getD [])
        (c.responses.lookup item.txId)
      rw [Circumstances.expected_of_derive hderived]
      unfold derive at hderived
      rw [hdecoded] at hderived
      simp only at hderived
      refine Yields.bind (yields_query h rfl rfl) fun read htables _ => ?_
      refine Yields.bind (yields_enrich h _) fun enriched htables' _ => ?_
      rw [assemble_withSignature, hresponses, hderived,
        transaction_of_assemble hderived]
      exact Yields.pure (htables'.trans htables)

theorem yields_process_refused (h : around.Orderly c.answer)
    (hresponses : store.responses = c.responses) {known : Option (List String)}
    (hrefuses : around.Refuses (c.expected (known.getD []) item)) :
    (process item known).Yields around store
      (placeholder item.txId, known)
      (store.tables.addOutcome (placeholder item.txId)) := by
  have hback : (known.map (addKnown · (c.expected (known.getD []) item))).map
      (removeKnown · (c.expected (known.getD []) item)) = known := by
    cases known with
    | none => rfl
    | some known =>
        exact congrArg some (c.removeKnown_addKnown_expected known item)
  refine Yields.bind (yields_build h hresponses item known)
    fun built htables _ => ?_
  refine Ends.tryCatch (Ends.bind (Ends.mono (ends_save_refused hrefuses)
    (fun _ _ hfalse => hfalse.elim) ?_))
  rintro _ saved ⟨⟨reason, rfl⟩, hsaved, hkept⟩
  have hagain : (save (placeholder item.txId)).Yields around saved ()
      (store.tables.addOutcome (placeholder item.txId)) := by
    rw [← htables, ← hsaved]
    exact yields_save (h.placeholders item.txId)
  refine Ends.bind (Ends.mono hagain ?_ fun _ _ hfalse => hfalse)
  rintro _ after ⟨-, hadded, hkept'⟩
  refine Ends.pure ⟨?_, hadded, hkept'.trans hkept⟩
  rw [hback]

theorem yields_process_accepted (h : around.Orderly c.answer)
    (hresponses : store.responses = c.responses) {known : Option (List String)}
    (haccepts : around.Accepts (c.expected (known.getD []) item)) :
    (process item known).Yields around store
      (c.expected (known.getD []) item,
        known.map (addKnown · (c.expected (known.getD []) item)))
      (store.tables.addOutcome (c.expected (known.getD []) item)) := by
  refine Yields.bind (yields_build h hresponses item known)
    fun built htables _ => ?_
  have hsaved : (save (c.expected (known.getD []) item)).Yields around built ()
      (store.tables.addOutcome (c.expected (known.getD []) item)) := by
    rw [← htables]
    exact yields_save haccepts
  refine Ends.tryCatch (Ends.mono (Yields.bind hsaved fun after hadded _ =>
    Yields.pure hadded) (fun _ _ hok => hok) fun _ _ hfalse => hfalse.elim)

/-- Processing an item stores what the item comes to. -/
theorem yields_process (h : around.Orderly c.answer)
    (hresponses : store.responses = c.responses) (known : Option (List String))
    (hjudges : around.Judges c (known.getD []) item) :
    (process item known).Yields around store
      (c.outcome (known.getD []) item, known.map (c.knownAfter · item))
      (store.tables.addOutcome (c.outcome (known.getD []) item)) := by
  have hafter : known.map (c.knownAfter · item) =
      if c.refused item.txId then known
      else known.map (addKnown · (c.expected (known.getD []) item)) := by
    unfold Circumstances.knownAfter
    cases known <;> split <;> rfl
  rw [hafter]
  unfold Circumstances.outcome
  cases hrefused : c.refused item.txId with
  | false =>
      refine yields_process_accepted h hresponses (hjudges.accepts ?_)
      rw [hrefused]
      exact fun hfalse => nomatch hfalse
  | true =>
      cases hplaceholder : (c.expected (known.getD []) item).isPlaceholder with
      | false =>
          exact yields_process_refused h hresponses
            (hjudges.refuses hrefused hplaceholder)
      | true =>
          -- what does not decode is stored as a placeholder anyway
          have heq := Circumstances.eq_placeholder_of_expected hplaceholder
          have hstored := yields_process_accepted h hresponses
            (hjudges.accepts fun _ => hplaceholder)
          rw [heq, map_addKnown_placeholder] at hstored
          exact hstored

end Outcome

end EvmIndexer
