import EvmIndexer.Outcome.Processing
import EvmIndexer.Proofs.Outcome.Derivation
import EvmIndexer.Proofs.Response.RoundTrip
import EvmIndexer.Proofs.Response.TextForms
import EvmIndexer.Proofs.Store.Verdict

/-!
# Every item has an outcome

Nothing that an item contains keeps it from an outcome, and neither does anything
that was recorded about it or is said about its signature. An item that does not
decode has the placeholder. All that could go wrong with one that decodes is its
contract, and the decoder writes the sender, the nonce and the data in forms that
the derivation of contracts reads. The topics are not of the decoder's making;
one that holds no address makes a log that announces nothing, and recognition
passes it over.

`Built` says which outcomes an item can have, after what the work does. It keeps
the placeholder and the decoded transaction apart, which `Of` does not. The text
of building is walked over once, in `ends_build_built`; what else is said about a
run of it follows from there.
-/

namespace EvmIndexer

namespace Outcome

/-- The result of an item's execution, if one can be read from the recorded
response. -/
def execution? (item : PendingItem) (response : Option String) :
    Option Execution :=
  (Execution.decode (response.map .text)).map (Execution.bind item.txId)

/-- What can be built for an item, if `known` are the tokens met before. -/
inductive Built (item : PendingItem) (known : List String)
    (response : Option String) : Outcome → Prop
  | placeholder {refusal : Envelope.Refusal}
      (hdecode : Transaction.decode (.text item.raw) item.txId item.gasUsed =
        .error refusal) :
      Built item known response (.placeholder item.txId)
  | assembled {tx : Transaction} {outcome : Outcome} (signature : String)
      (hdecode : Transaction.decode (.text item.raw) item.txId item.gasUsed =
        .ok tx)
      (hassemble : assemble item
        ((tx.withExecution (execution? item response)).withSignature signature)
        (execution? item response)
        (recognize item known (execution? item response)) = .ok outcome) :
      Built item known response outcome

variable {item : PendingItem} {known : List String} {response : Option String}
  {outcome : Outcome}

theorem derive_of_decoded {tx : Transaction}
    (h : Transaction.decode (.text item.raw) item.txId item.gasUsed = .ok tx) :
    derive item known response =
      assemble item (tx.withExecution (execution? item response))
        (execution? item response)
        (recognize item known (execution? item response)) := by
  unfold derive
  rw [h]
  rfl

theorem Built.of_derive (h : derive item known response = .ok outcome) :
    Built item known response outcome := by
  cases hdecode : Transaction.decode (.text item.raw) item.txId item.gasUsed with
  | error refusal =>
      rw [derive, hdecode] at h
      cases h
      exact .placeholder hdecode
  | ok tx =>
      rw [derive_of_decoded hdecode] at h
      refine .assembled "" hdecode ?_
      rw [Transaction.withSignature_empty]
      exact h

theorem Built.of (h : Built item known response outcome) :
    Of item known response outcome := by
  cases h with
  | placeholder => exact Or.inl rfl
  | assembled signature hdecode hassemble =>
      rw [assemble_withSignature] at hassemble
      obtain ⟨derived, hderived⟩ := exists_derive item known response
      have hsame := hderived
      rw [derive_of_decoded hdecode] at hsame
      rw [hsame] at hassemble
      cases hassemble
      exact Or.inr ⟨derived, signature, hderived, rfl⟩

theorem Built.fromItem (h : Built item known response outcome) :
    FromItem item known outcome := h.of.fromItem

/-- The logs and the transfers are of one response, or there are none. -/
theorem Built.logs_cases (h : Built item known response outcome) :
    (outcome.logs = [] ∧ outcome.transfers = []) ∨
    ∃ read, Execution.decode (response.map .text) = some read ∧
      outcome.logs = (read.bind item.txId).logs ∧
      outcome.transfers = (Recognition.ofLogs transferTopic item.txId
        (some item.height) known (read.bind item.txId).logs).transfers := by
  cases h with
  | placeholder => exact Or.inl ⟨rfl, rfl⟩
  | assembled signature hdecode hassemble =>
      obtain ⟨contract, rfl⟩ := exists_of_assemble hassemble
      cases hexecution : execution? item response with
      | none => exact Or.inl ⟨rfl, rfl⟩
      | some execution =>
          obtain ⟨read, hread, rfl⟩ := Option.map_eq_some_iff.1 hexecution
          exact Or.inr ⟨read, hread, rfl, rfl⟩

/-- The logs of an item that decodes are those of its execution. -/
theorem Built.logs_eq (h : Built item known response outcome)
    (hdecoded : outcome.isPlaceholder = false) :
    outcome.logs = ((execution? item response).map (·.logs)).getD [] := by
  cases h with
  | placeholder => cases hdecoded
  | assembled signature hdecode hassemble =>
      obtain ⟨contract, rfl⟩ := exists_of_assemble hassemble
      rfl

/-- The tokens and the transfers of an outcome are recognized in its logs. -/
theorem Built.recognized (h : Built item known response outcome) :
    Recognition.mk outcome.tokens outcome.transfers =
      .ofLogs transferTopic item.txId (some item.height) known outcome.logs := by
  cases h with
  | placeholder => rfl
  | assembled signature hdecode hassemble =>
      obtain ⟨contract, rfl⟩ := exists_of_assemble hassemble
      cases execution? item response <;> rfl

/-- The placeholder is built for exactly the items that do not decode. -/
theorem Built.isPlaceholder_iff (h : Built item known response outcome) :
    outcome.isPlaceholder = true ↔
      ∃ refusal, Transaction.decode (.text item.raw) item.txId item.gasUsed =
        .error refusal := by
  cases h with
  | placeholder hdecode =>
      exact ⟨fun _ => ⟨_, hdecode⟩, fun _ => rfl⟩
  | assembled signature hdecode hassemble =>
      rw [isPlaceholder, transaction_of_assemble hassemble,
        Transaction.withSignature_isPlaceholder,
        Transaction.withExecution_status (Transaction.decode_status hdecode),
        hdecode]
      simp

theorem Built.isPlaceholder_eq_false (h : Built item known response outcome)
    {tx : Transaction}
    (hdecode : Transaction.decode (.text item.raw) item.txId item.gasUsed =
      .ok tx) : outcome.isPlaceholder = false := by
  rw [Bool.eq_false_iff, ne_eq, h.isPlaceholder_iff, hdecode]
  exact fun ⟨_, hrefused⟩ => nomatch hrefused

open Work

variable {around : Surroundings} {store : Store}

/-- What building an outcome leaves of a store: if the item decodes, the response
was read, and then somebody may have been asked. -/
inductive Consulted (around : Surroundings) (txId : String) (before : Store) :
    Store → Prop
  | nobody : Consulted around txId before before
  | read (asked : List String)
      (haccepted : around.faults before.journal.length (.selectResponse txId) =
        none) :
      Consulted around txId before
        { before.enter (.statement (.selectResponse txId)) with asked := asked }

/-- An answer about the signature changes nothing but the transaction. -/
theorem ends_enrich {bad : Failure → Store → Prop} (tx : Transaction) :
    (enrich tx).Ends around store
      (fun enriched after => (∃ signature, enriched = tx.withSignature signature) ∧
        ∃ asked, after = { store with asked := asked }) bad := by
  have hsame : ∃ signature, tx = tx.withSignature signature :=
    ⟨"", tx.withSignature_empty.symm⟩
  unfold enrich
  split
  · exact Ends.pure ⟨hsame, store.asked, rfl⟩
  · refine Ends.bind (ends_askSignature.mono (fun answer after hasked => ?_)
      fun _ _ hbad => hbad)
    cases answer with
    | signature text => exact Ends.pure ⟨⟨text, rfl⟩, hasked⟩
    | unknown => exact Ends.pure ⟨hsame, hasked⟩
    | failed => exact Ends.pure ⟨hsame, hasked⟩

/-- Building gives an outcome, or fails where the response is read. -/
theorem ends_build_built (item : PendingItem) (known : Option (List String)) :
    (build item known).Ends around store
      (fun result after => Built item (known.getD [])
        (store.responses.lookup item.txId) result.1 ∧
        result.2 = known.map (addKnown · result.1) ∧
        Consulted around item.txId store after)
      (fun failure after => ∃ fault,
        around.faults store.journal.length (.selectResponse item.txId) =
          some fault ∧
        failure = .database fault ∧
        after = store.enter (.statement (.selectResponse item.txId))) := by
  unfold build
  split
  · next refusal hdecode =>
      refine Ends.pure ⟨.placeholder hdecode, ?_, .nobody⟩
      exact (map_addKnown_placeholder known item.txId).symm
  · next tx hdecode =>
      refine Ends.bind ((ends_query rfl).mono ?_ fun _ _ hstruck => hstruck)
      rintro _ read ⟨haccepted, rfl, rfl⟩
      refine Ends.bind ((ends_enrich _).mono ?_
        fun _ _ (hfalse : False) => hfalse.elim)
      rintro _ _ ⟨⟨signature, rfl⟩, asked, rfl⟩
      split
      · next fault hfault =>
          -- the contract of a decoded transaction can be derived
          have hderivable := (Transaction.derivable_of_decode
            hdecode).withExecution (execution? item
              (store.responses.lookup item.txId))
          obtain ⟨outcome, hassemble⟩ :=
            exists_assemble (hderivable.withSignature signature) _ _
          cases hfault.symm.trans hassemble
      · next outcome hassemble =>
          exact Ends.pure
            ⟨.assembled signature hdecode hassemble, rfl, .read asked haccepted⟩

theorem exists_built (item : PendingItem) (known : Option (List String))
    (hread : around.faults store.journal.length (.selectResponse item.txId) =
      none) :
    ∃ outcome known' after,
      (build item known).run around store = (.ok (outcome, known'), after) ∧
      Built item (known.getD []) (store.responses.lookup item.txId) outcome := by
  rcases (ends_build_built item known).run with
    ⟨⟨outcome, known'⟩, after, hrun, hbuilt, -⟩ | ⟨_, _, -, fault, hfault, -⟩
  · exact ⟨outcome, known', after, hrun, hbuilt⟩
  · rw [hread] at hfault
    cases hfault

/-- Whatever an item contains, whatever was recorded about it, whatever tokens
were met before and whatever is said about its signature: once the response has
been read, there is an outcome, the placeholder if the item does not decode and
no placeholder otherwise. Of a decoded transaction the address of its contract
and the hash of its code can be derived, and a log with a topic that holds no
address where one is expected is passed over. -/
theorem builds_any_item (item : PendingItem) (known : Option (List String))
    (hread : around.faults store.journal.length (.selectResponse item.txId) =
      none) :
    (∃ outcome known' after,
      (build item known).run around store = (.ok (outcome, known'), after) ∧
      (outcome.isPlaceholder = true ↔
        ∃ refusal, Transaction.decode (.text item.raw) item.txId item.gasUsed =
          .error refusal)) ∧
    (∀ (raw : RawEnvelope) (txId : String) (gasUsed : Option Int)
      (tx : Transaction), Transaction.decode raw txId gasUsed = .ok tx →
        (∃ address, Contract.derive tx.sender tx.nonce = .ok address) ∧
        ∃ hash, Contract.codeHash? tx.data = .ok hash) ∧
    ∀ (event txId : String) (height : Option Int) (met : List String)
      (before after : List Log) (log : Log) (topic : String),
      topic ∈ (log.topics.drop 1).take 2 → Topic.toAddress? topic = none →
        Recognition.ofLogs event txId height met (before ++ log :: after) =
          Recognition.ofLogs event txId height met (before ++ after) := by
  refine ⟨?_, fun raw txId gasUsed tx hdecode => ?_, ?_⟩
  · obtain ⟨outcome, known', after, hrun, hbuilt⟩ := exists_built item known hread
    exact ⟨outcome, known', after, hrun, hbuilt.isPlaceholder_iff⟩
  · have hderivable := Transaction.derivable_of_decode hdecode
    exact ⟨hderivable.exists_address, hderivable.exists_codeHash⟩
  · intro event txId height met before after log topic htopic hnone
    exact Recognition.ofLogs_skip (Log.announcement?_eq_none htopic hnone) txId
      height met before after

/-- A creation without code. -/
def creation : PendingItem :=
  ⟨"creation", "0x01cb01808080808080c0800101", 1, none, none⟩

theorem exists_decode_creation :
    ∃ tx, Transaction.decode (.text creation.raw) creation.txId
      creation.gasUsed = .ok tx := by
  refine exists_of_isSome_toOption ?_
  simp only [Transaction.decode, Transaction.ofEnvelope, Envelope.Parsed.sender?,
    keccak256_eq]
  decide +kernel

/-- It has an outcome that is no placeholder, though the response that was
recorded is not even hexadecimal and nobody answers. -/
theorem builds_any_item_creation :
    let around : Surroundings := { signatures := some fun _ _ => .failed }
    let store : Store := { responses := [(creation.txId, "0xzz")] }
    around.faults store.journal.length (.selectResponse creation.txId) = none ∧
    (∃ outcome known' after,
      (build creation (some [])).run around store =
        (.ok (outcome, known'), after) ∧
      outcome.isPlaceholder = false) ∧
    ∃ tx address, Transaction.decode (.text creation.raw) creation.txId
      creation.gasUsed = .ok tx ∧
      Contract.derive tx.sender tx.nonce = .ok address := by
  intro around store
  obtain ⟨tx, hdecode⟩ := exists_decode_creation
  obtain ⟨⟨outcome, known', after, hrun, hplaceholder⟩, hderives, -⟩ :=
    @builds_any_item around store creation (some []) rfl
  obtain ⟨⟨address, haddress⟩, -⟩ := hderives _ _ _ tx hdecode
  refine ⟨rfl, ⟨outcome, known', after, hrun, ?_⟩, tx, address, hdecode, haddress⟩
  rw [Bool.eq_false_iff, ne_eq, hplaceholder, hdecode]
  exact fun ⟨_, hrefused⟩ => nomatch hrefused

/-! ## A creation with a transfer

An item that decodes, with a response whose only log announces a transfer. Its outcome is
known without running anything but the decoders, whoever is asked and whatever the item
is called, so that runs of the indexer can be told from it. -/

/-- The creation under another identifier. -/
def creationAs (txId : String) : PendingItem := { creation with txId }

theorem exists_decode_creationAs (txId : String) :
    ∃ tx, Transaction.decode (.text (creationAs txId).raw) (creationAs txId).txId
      (creationAs txId).gasUsed = .ok tx := by
  obtain ⟨tx, hdecode⟩ := exists_decode_creation
  exact ⟨_, Transaction.decode_as hdecode txId creation.gasUsed⟩

/-- A log that announces a transfer, from nobody to nobody. -/
def announcement (txId : String) : Log :=
  let word := String.ofList (List.replicate 64 '0')
  ⟨txId, 0, "0xab", [transferTopic, word, word], "0x"⟩

/-- A response with this log and nothing else. -/
def announcing : String :=
  Bytes.Hex.marked (Response.answering (announcement "").topics)

theorem decode_announcing :
    Execution.decode (some (.text announcing)) = some ⟨[announcement ""], 21000, none⟩ := by
  have hbytes : Execution.ofBytes? (Response.answering (announcement "").topics) =
      some ⟨[announcement ""], 21000, none⟩ := by
    simp only [announcement, transferTopic_eq]
    decide +kernel
  rw [Execution.decode, Option.bind_eq_bind, Option.bind_some, announcing,
    RawResponse.bytes?_marked, Option.bind_eq_bind, Option.bind_some, hbytes]

/-- What is recognized in the log of a transaction. -/
def announced (txId : String) : Recognition :=
  let nobody := String.ofList ('0' :: 'x' :: List.replicate 40 '0')
  ⟨[{ address := "0xab", firstSeenTx := some txId, firstSeenHeight := some 1 }],
    [⟨txId, 0, "0xab", nobody, nobody, "0x"⟩]⟩

theorem ofLogs_announcement (txId : String) :
    Recognition.ofLogs transferTopic txId (some 1) [] [announcement txId] =
      announced txId := by
  -- who is named does not depend on the transaction
  have hannounced : (announcement txId).announcement? transferTopic =
      (announcement "").announcement? transferTopic := rfl
  have hnobody : (announcement "").announcement? transferTopic =
      some ⟨String.ofList ('0' :: 'x' :: List.replicate 40 '0'),
        String.ofList ('0' :: 'x' :: List.replicate 40 '0'), "0x"⟩ := by
    simp only [announcement, transferTopic_eq]
    decide +kernel
  have hlower : Text.lower (announcement txId).address = "0xab" := by
    show Text.lower "0xab" = "0xab"
    decide +kernel
  rw [Recognition.ofLogs, List.map_nil, List.foldl_cons, List.foldl_nil, Recognition.addLog,
    hannounced, hnobody]
  simp only [hlower]
  rfl

/-- Whether an outcome is one of the creation under an identifier, with the log, the token
and the transfer. -/
structure Announces (txId : String) (outcome : Outcome) : Prop where
  transaction : outcome.transaction.txId = txId
  decoded : outcome.isPlaceholder = false
  logs : outcome.logs = [announcement txId]
  tokens : outcome.tokens = (announced txId).tokens
  transfers : outcome.transfers = (announced txId).transfers

theorem Built.logs_announcing {txId : String}
    (h : Built (creationAs txId) known (some announcing) outcome) :
    outcome.isPlaceholder = false ∧ outcome.logs = [announcement txId] := by
  obtain ⟨tx, hdecode⟩ := exists_decode_creationAs txId
  have hdecoded := h.isPlaceholder_eq_false hdecode
  refine ⟨hdecoded, ?_⟩
  rw [h.logs_eq hdecoded, execution?, Option.map_some, decode_announcing]
  rfl

theorem Built.announces {txId : String}
    (h : Built (creationAs txId) [] (some announcing) outcome) :
    Announces txId outcome := by
  obtain ⟨hdecoded, hlogs⟩ := h.logs_announcing
  have hfound := h.recognized
  rw [hlogs] at hfound
  have hboth := hfound.trans (ofLogs_announcement txId)
  exact ⟨h.fromItem.transaction, hdecoded, hlogs, congrArg Recognition.tokens hboth,
    congrArg Recognition.transfers hboth⟩

end Outcome

end EvmIndexer
