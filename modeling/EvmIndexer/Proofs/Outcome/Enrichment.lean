import EvmIndexer.Proofs.Outcome.Settling

/-!
# What an answer about a signature changes

A transaction is named twice. Decoding looks the selector up in the table of
well-known signatures; the selector is there the first four bytes of the data, written
out. What is left unnamed is asked about, and the selector is then the first ten
characters of the data as it is stored, in lower case. The two are the same text, and
they are there for the same data, since four bytes are eight digits behind the mark.

The answer goes into two columns of the transaction and nowhere else. So the runs with
and without somebody to ask are compared by the same derived outcome: `run_build_eq`
tells both by it.
-/

namespace EvmIndexer

/-! ## The selector in the data -/

namespace Bytes.Hex

theorem isLower_digitChar {n : Nat} (h : n < 16) : Text.IsLower (Nat.digitChar n) := by
  have hplace : (Nat.digitChar n).toNat < 0x41 ∨ 0x5a < (Nat.digitChar n).toNat := by
    interval_cases n <;> decide
  exact Text.isLower_of_ascii (toNat_digitChar_lt h) hplace

theorem lower_marked (bs : Bytes) : Text.lower (marked bs) = marked bs := by
  have hlower : ∀ c ∈ '0' :: 'x' :: write bs, Text.IsLower c := by
    intro c hc
    rcases List.mem_cons.1 hc with rfl | hc
    · exact Text.isLower_of_ascii (by decide) (by decide)
    rcases List.mem_cons.1 hc with rfl | hc
    · exact Text.isLower_of_ascii (by decide) (by decide)
    · obtain ⟨n, hn, rfl⟩ := exists_of_mem_write hc
      exact isLower_digitChar hn
  rw [Text.lower, toList_marked, Text.lowerFrom_of_isLower hlower]
  rfl

end Bytes.Hex

namespace Signature

/-- The selector in the data of a call, if the data has the four bytes. -/
def selectorIn? (content : Bytes) : Option String :=
  if 4 ≤ content.length then some (Bytes.Hex.marked (content.take 4)) else none

end Signature

/-- What the transaction in an envelope calls with. -/
def RawEnvelope.Calls (raw : RawEnvelope) (content : Bytes) : Prop :=
  ∃ envelope parsed, raw.bytes? = .ok envelope ∧
    Envelope.parse envelope = .ok parsed ∧ parsed.data = content

theorem RawEnvelope.Calls.eq {raw : RawEnvelope} {content other : Bytes}
    (h : raw.Calls content) (hother : raw.Calls other) : content = other := by
  obtain ⟨envelope, parsed, henvelope, hparsed, rfl⟩ := h
  obtain ⟨envelope', parsed', henvelope', hparsed', rfl⟩ := hother
  cases henvelope.symm.trans henvelope'
  cases hparsed.symm.trans hparsed'
  rfl

namespace Transaction

/-- The function of a transaction as decoding leaves it: whatever the table has for the
selector, and else the bare selector. -/
structure Unasked (content : Bytes) (tx : Transaction) : Prop where
  data : tx.data = some (Bytes.Hex.marked content)
  functionName : tx.functionName =
    ((Signature.selectorIn? content).bind Signature.ofSelector?).map Signature.name
  functionSignature : tx.functionSignature =
    ((Signature.selectorIn? content).bind Signature.ofSelector?).or
      (Signature.selectorIn? content)

/-- How the function of a transaction comes about: its name and its signature, and the
selectors that are asked about for them. -/
inductive Enriched (answer : String → LookupAnswer) (content : Bytes) :
    Option String → Option String → List String → Prop
  | short (hshort : content.length < 4) : Enriched answer content none none []
  | wellKnown {text : String} (hlong : 4 ≤ content.length)
      (hknown : Signature.ofSelector? (Bytes.Hex.marked (content.take 4)) = some text) :
      Enriched answer content (some (Signature.name text)) (some text) []
  | told {text : String} (hlong : 4 ≤ content.length)
      (hnew : Signature.ofSelector? (Bytes.Hex.marked (content.take 4)) = none)
      (hanswer : answer (Bytes.Hex.marked (content.take 4)) = .signature text)
      (htext : text ≠ "") :
      Enriched answer content (some (Signature.name text)) (some text)
        [Bytes.Hex.marked (content.take 4)]
  | untold (hlong : 4 ≤ content.length)
      (hnew : Signature.ofSelector? (Bytes.Hex.marked (content.take 4)) = none)
      (hanswer : ∀ text, answer (Bytes.Hex.marked (content.take 4)) = .signature text →
        text = "") :
      Enriched answer content none (some (Bytes.Hex.marked (content.take 4)))
        [Bytes.Hex.marked (content.take 4)]

theorem exists_unasked_of_decode {raw : RawEnvelope} {txId : String}
    {gasUsed : Option Int} {tx : Transaction} (h : decode raw txId gasUsed = .ok tx) :
    ∃ content, raw.Calls content ∧ tx.Unasked content := by
  obtain ⟨envelope, henvelope, hdecoded⟩ := exists_of_bind_eq_ok h
  obtain ⟨parsed, hparsed, hchecked⟩ := exists_of_bind_eq_ok hdecoded
  obtain ⟨_, -, hsender⟩ := exists_of_bind_eq_ok hchecked
  split at hsender
  · cases hsender
    refine ⟨parsed.data, ⟨envelope, parsed, henvelope, hparsed, rfl⟩, rfl, rfl, ?_⟩
    simp only [ofParsed, Signature.selectorIn?, Option.orElse_eq_orElse, Option.orElse_eq_or]
  · cases hsender

variable {tx : Transaction} {content : Bytes}

theorem Unasked.withExecution (h : tx.Unasked content) (execution : Option Execution) :
    (tx.withExecution execution).Unasked content := by
  cases execution <;> exact ⟨h.data, h.functionName, h.functionSignature⟩

/-- The selector in the stored data is that in the data of the call. -/
theorem selector?_of_data (h : tx.data = some (Bytes.Hex.marked content)) :
    tx.selector? = Signature.selectorIn? content := by
  have hlength : 10 ≤ (Bytes.Hex.marked content).length ↔ 4 ≤ content.length := by
    rw [Bytes.Hex.length_marked]
    omega
  simp only [selector?, h, Signature.selectorIn?, hlength, Bytes.Hex.take_marked 4,
    Bytes.Hex.lower_marked]

theorem withSignature_data (tx : Transaction) (signature : String) :
    (tx.withSignature signature).data = tx.data := by
  unfold withSignature
  split <;> rfl

theorem learned_of_resolved (h : tx.unresolved? = none) (answer : String → LookupAnswer) :
    tx.learned answer = "" := by
  rw [learned, h]

/-- Of an answer only a text that is not empty is learned. -/
theorem learned_cases {selector : String} (h : tx.unresolved? = some selector)
    (answer : String → LookupAnswer) :
    (answer selector = .signature (tx.learned answer) ∧ tx.learned answer ≠ "") ∨
      (tx.learned answer = "" ∧ ∀ text, answer selector = .signature text → text = "") := by
  simp only [learned, h]
  cases hanswer : answer selector with
  | signature text =>
      by_cases htext : text = ""
      · refine Or.inr ⟨htext, fun other hother => ?_⟩
        cases hother
        exact htext
      · exact Or.inl ⟨rfl, htext⟩
  | unknown =>
      refine Or.inr ⟨rfl, fun text hother => ?_⟩
      cases hother
  | failed =>
      refine Or.inr ⟨rfl, fun text hother => ?_⟩
      cases hother

/-- What is asked about is the selector of which the table has nothing. -/
theorem Unasked.enriched (h : tx.Unasked content) (answer : String → LookupAnswer) :
    Enriched answer content (tx.withSignature (tx.learned answer)).functionName
      (tx.withSignature (tx.learned answer)).functionSignature tx.unresolved?.toList := by
  have hname := h.functionName
  have hsignature := h.functionSignature
  rw [Signature.selectorIn?] at hname hsignature
  by_cases hlong : 4 ≤ content.length
  · rw [if_pos hlong, Option.bind_some] at hname hsignature
    cases hknown : Signature.ofSelector? (Bytes.Hex.marked (content.take 4)) with
    | some text =>
        rw [hknown] at hname hsignature
        have hresolved : tx.unresolved? = none := by
          simp [unresolved?, hname]
        rw [learned_of_resolved hresolved, hresolved, withSignature_empty, hname, hsignature]
        exact .wellKnown hlong hknown
    | none =>
        rw [hknown] at hname hsignature
        have hunresolved : tx.unresolved? = some (Bytes.Hex.marked (content.take 4)) := by
          simp [unresolved?, hname, selector?_of_data h.data, Signature.selectorIn?, hlong]
        rw [hunresolved]
        rcases learned_cases hunresolved answer with ⟨hanswer, htext⟩ | ⟨hnothing, hempty⟩
        · rw [withSignature, if_neg htext]
          exact .told hlong hknown hanswer htext
        · rw [hnothing, withSignature_empty, hname, hsignature]
          exact .untold hlong hknown hempty
  · rw [if_neg hlong] at hname hsignature
    have hresolved : tx.unresolved? = none := by
      simp [unresolved?, selector?_of_data h.data, Signature.selectorIn?, hlong]
    rw [learned_of_resolved hresolved, hresolved, withSignature_empty, hname, hsignature]
    exact .short (Nat.lt_of_not_le hlong)

theorem learned_of_nobody {around : Surroundings} (h : around.signatures = none)
    (tx : Transaction) (asked : List String) : tx.learned (around.reply asked) = "" := by
  have hreply : around.reply asked = fun _ => .unknown := by
    unfold Surroundings.reply
    rw [h]
  rw [learned, hreply]
  split <;> rfl

end Transaction

/-! ## The runs -/

namespace Work

variable {around : Surroundings} {store : Store}

/-- What is asked about a transaction, if there is anybody to ask. -/
def questions (around : Surroundings) (tx : Transaction) : List String :=
  if around.signatures.isSome then tx.unresolved?.toList else []

theorem ends_askSignature_eq (selector : String) :
    (askSignature selector).Ends around store
      (fun answer after => answer = around.reply store.asked selector ∧
        after = { store with asked :=
          store.asked ++ if around.signatures.isSome then [selector] else [] })
      (fun _ _ => False) := by
  unfold Ends askSignature Surroundings.reply
  cases around.signatures with
  | none => exact ⟨rfl, by simp⟩
  | some source => exact ⟨rfl, rfl⟩

end Work

namespace Outcome

open Work

variable {around : Surroundings} {store : Store} {item : PendingItem}

/-- Enriching takes in what is learned, and leaves no trace but its question. -/
theorem ends_enrich_eq (tx : Transaction) :
    (enrich tx).Ends around store
      (fun enriched after =>
        enriched = tx.withSignature (tx.learned (around.reply store.asked)) ∧
        after = { store with asked := store.asked ++ questions around tx })
      (fun _ _ => False) := by
  unfold enrich questions
  cases hunresolved : tx.unresolved? with
  | none =>
      rw [Transaction.learned_of_resolved hunresolved, Transaction.withSignature_empty]
      exact Ends.pure ⟨rfl, by simp⟩
  | some selector =>
      refine Ends.bind ((ends_askSignature_eq selector).mono ?_ fun _ _ hfalse => hfalse)
      intro answer after hended
      obtain ⟨hanswer, hasked⟩ := hended
      rw [Transaction.learned, hunresolved, hasked]
      simp only [← hanswer, Option.toList_some]
      have hsame := tx.withSignature_empty
      cases answer with
      | signature text => exact Ends.pure ⟨rfl, rfl⟩
      | unknown => exact Ends.pure ⟨hsame.symm, rfl⟩
      | failed => exact Ends.pure ⟨hsame.symm, rfl⟩

theorem unresolved?_placeholder (txId : String) :
    (Transaction.placeholder txId).unresolved? = none := rfl

/-- The store after the outcome of an item was built, up to what was asked. -/
def readFor (item : PendingItem) (store : Store) : Store :=
  match Transaction.decode (.text item.raw) item.txId item.gasUsed with
  | .error _ => store
  | .ok _ => store.enter (.statement (.selectResponse item.txId))

/-- Once the response was read, building gives what the item leads to, with what is
learned about the signature. -/
theorem ends_build_eq (known : Option (List String))
    (hread : around.faults store.journal.length (.selectResponse item.txId) = none)
    {derived : Outcome}
    (hderived : derive item (known.getD []) (store.responses.lookup item.txId) =
      .ok derived) :
    (build item known).Ends around store
      (fun result after =>
        result = (derived.withSignature
          (derived.transaction.learned (around.reply store.asked)),
          known.map (addKnown · derived)) ∧
        after = { readFor item store with
          asked := store.asked ++ questions around derived.transaction })
      (fun _ _ => False) := by
  unfold build readFor
  cases hdecode : Transaction.decode (.text item.raw) item.txId item.gasUsed with
  | error refusal =>
      rw [derive, hdecode] at hderived
      cases hderived
      refine Ends.pure ⟨?_, ?_⟩
      · rw [map_addKnown_placeholder]
        rfl
      · simp [questions, placeholder, unresolved?_placeholder]
  | ok tx =>
      rw [derive_of_decoded hdecode] at hderived
      have htransaction := transaction_of_assemble hderived
      refine Ends.bind ((ends_query rfl).mono ?_ ?_)
      · intro recorded after hended
        obtain ⟨-, hrecorded, hafter⟩ := hended
        have hresponse : recorded = store.responses.lookup item.txId := by
          rw [hrecorded, hafter]
          rfl
        rw [hresponse, hafter]
        refine Ends.bind ((ends_enrich_eq _).mono ?_ fun _ _ hfalse => hfalse)
        intro enriched last hended
        obtain ⟨henriched, hlast⟩ := hended
        rw [henriched, hlast, htransaction]
        have hassemble (signature : String) := (assemble_withSignature
          (tx.withExecution (execution? item (store.responses.lookup item.txId)))
          _ _ signature).trans (congrArg (·.map (·.withSignature signature)) hderived)
        simp only
        split
        · next fault hfault => cases hfault.symm.trans (hassemble _)
        · next outcome hbuilt =>
            cases hbuilt.symm.trans (hassemble _)
            exact Ends.pure ⟨rfl, rfl⟩
      · intro failure after hended
        obtain ⟨fault, hstruck, -⟩ := hended
        rw [hread] at hstruck
        cases hstruck

theorem readFor_asked (item : PendingItem) (store : Store) :
    (readFor item store).asked = store.asked := by
  unfold readFor
  split <;> rfl

theorem withSignature_empty (outcome : Outcome) : outcome.withSignature "" = outcome := by
  rw [withSignature, Transaction.withSignature_empty]

theorem run_build_eq (known : Option (List String))
    (hread : around.faults store.journal.length (.selectResponse item.txId) = none)
    {derived : Outcome}
    (hderived : derive item (known.getD []) (store.responses.lookup item.txId) =
      .ok derived) :
    (build item known).run around store =
      (.ok (derived.withSignature
          (derived.transaction.learned (around.reply store.asked)),
        known.map (addKnown · derived)),
      { readFor item store with
        asked := store.asked ++ questions around derived.transaction }) := by
  rcases (ends_build_eq known hread hderived).run with
    ⟨_, _, hrun, hresult, hafter⟩ | ⟨_, _, -, hfalse⟩
  · rw [hrun, hresult, hafter]
  · exact hfalse.elim

theorem run_build_plain (hnobody : around.signatures = none) (known : Option (List String))
    (hread : around.faults store.journal.length (.selectResponse item.txId) = none)
    {derived : Outcome}
    (hderived : derive item (known.getD []) (store.responses.lookup item.txId) =
      .ok derived) :
    (build item known).run around store =
      (.ok (derived, known.map (addKnown · derived)), readFor item store) := by
  have hnothing : questions around derived.transaction = [] := by
    rw [questions, hnobody]
    rfl
  rw [run_build_eq known hread hderived, Transaction.learned_of_nobody hnobody,
    withSignature_empty, hnothing, List.append_nil, ← readFor_asked item]

/-- The outcome with another name and another signature of the function. -/
def withFunction (outcome : Outcome) (name signature : Option String) : Outcome :=
  { outcome with
    transaction :=
      { outcome.transaction with functionName := name, functionSignature := signature } }

theorem withSignature_eq_withFunction (outcome : Outcome) (signature : String) :
    outcome.withSignature signature = outcome.withFunction
      (outcome.withSignature signature).transaction.functionName
      (outcome.withSignature signature).transaction.functionSignature := by
  unfold withSignature withFunction Transaction.withSignature
  split <;> rfl

/-- With an answer, the function of what a decoded item leads to comes about as it should. -/
theorem exists_enriched {tx : Transaction} {known : List String} {response : Option String}
    {derived : Outcome}
    (hdecode : Transaction.decode (.text item.raw) item.txId item.gasUsed = .ok tx)
    (hderived : derive item known response = .ok derived) (answer : String → LookupAnswer) :
    let outcome := derived.withSignature (derived.transaction.learned answer)
    ∃ content, (RawEnvelope.text item.raw).Calls content ∧
      outcome.transaction.data = some (Bytes.Hex.marked content) ∧
      Transaction.Enriched answer content outcome.transaction.functionName
        outcome.transaction.functionSignature derived.transaction.unresolved?.toList := by
  obtain ⟨content, hcalls, hunasked⟩ := Transaction.exists_unasked_of_decode hdecode
  rw [derive_of_decoded hdecode] at hderived
  have hkept := hunasked.withExecution (execution? item response)
  rw [← transaction_of_assemble hderived] at hkept
  refine ⟨content, hcalls, ?_, hkept.enriched answer⟩
  exact (Transaction.withSignature_data _ _).trans hkept.data

/-- Whoever is asked about a signature has a say in the two columns of the function and
in nothing else of an outcome, and is asked at most once, about a selector that nothing
is known of. -/
theorem enrichment_confined (source : SignatureSource) (item : PendingItem)
    (known : Option (List String))
    (hread : around.faults store.journal.length (.selectResponse item.txId) = none) :
    ∃ outcome plain known' asked after,
      (build item known).run { around with signatures := some source } store =
        (.ok (outcome, known'), { after with asked := store.asked ++ asked }) ∧
      (build item known).run { around with signatures := none } store =
        (.ok (plain, known'), after) ∧
      after.asked = store.asked ∧
      outcome = plain.withFunction outcome.transaction.functionName
        outcome.transaction.functionSignature ∧
      (∀ refusal, Transaction.decode (.text item.raw) item.txId item.gasUsed =
        .error refusal → asked = []) ∧
      ∀ tx, Transaction.decode (.text item.raw) item.txId item.gasUsed = .ok tx →
        ∃ content, (RawEnvelope.text item.raw).Calls content ∧
          outcome.transaction.data = some (Bytes.Hex.marked content) ∧
          Transaction.Enriched (source store.asked) content
            outcome.transaction.functionName outcome.transaction.functionSignature
            asked := by
  obtain ⟨derived, hderived⟩ := exists_derive item (known.getD [])
    (store.responses.lookup item.txId)
  let asking : Surroundings := { around with signatures := some source }
  let silent : Surroundings := { around with signatures := none }
  have hasked := @run_build_eq asking store item known hread derived hderived
  have hplain := @run_build_plain silent store item rfl known hread derived hderived
  refine ⟨_, derived, _, derived.transaction.unresolved?.toList, readFor item store, hasked,
    hplain, readFor_asked item store, derived.withSignature_eq_withFunction _,
    fun refusal hrefused => ?_, fun tx hdecode => ?_⟩
  · rw [derive, hrefused] at hderived
    cases hderived
    rfl
  · exact exists_enriched hdecode hderived (source store.asked)

/-- A creation whose code is the selector of no function that is well known. -/
def poke : PendingItem := ⟨"poke", "0x01cf01808080808084deadbeefc0800101", 1, none, none⟩

theorem calls_poke : (RawEnvelope.text poke.raw).Calls [0xde, 0xad, 0xbe, 0xef] := by
  let envelope : Bytes := [1, 0xcf, 1, 128, 128, 128, 128, 128, 0x84, 0xde, 0xad, 0xbe,
    0xef, 192, 128, 1, 1]
  have henvelope : (RawEnvelope.text poke.raw).bytes? = .ok envelope := by
    decide +kernel
  have hdata : (Envelope.parse envelope).toOption.map (·.data) =
      some [0xde, 0xad, 0xbe, 0xef] := by decide +kernel
  cases hparsed : Envelope.parse envelope with
  | error refusal =>
      rw [hparsed] at hdata
      cases hdata
  | ok parsed =>
      rw [hparsed] at hdata
      exact ⟨envelope, parsed, henvelope, hparsed, Option.some.inj hdata⟩

theorem exists_decode_poke :
    ∃ tx, Transaction.decode (.text poke.raw) poke.txId poke.gasUsed = .ok tx := by
  refine exists_of_isSome_toOption ?_
  simp only [Transaction.decode, Transaction.ofEnvelope, Envelope.Parsed.sender?,
    keccak256_eq]
  decide +kernel

/-- Somebody is asked about it, and the answer is taken. -/
theorem enrichment_confined_poke :
    let around : Surroundings := {}
    let store : Store := {}
    let source : SignatureSource := fun _ _ => .signature "poke(uint256)"
    around.faults store.journal.length (.selectResponse poke.txId) = none ∧
    ∃ outcome plain known' after silent,
      (build poke none).run { around with signatures := some source } store =
        (.ok (outcome, known'), after) ∧
      (build poke none).run { around with signatures := none } store =
        (.ok (plain, known'), silent) ∧
      after.asked = ["0xdeadbeef"] ∧ silent.asked = [] ∧
      outcome = plain.withFunction (some "poke") (some "poke(uint256)") := by
  intro around store source
  have hselector : Bytes.Hex.marked (List.take 4 [0xde, 0xad, 0xbe, 0xef]) = "0xdeadbeef" := by
    decide +kernel
  have hnew : Signature.ofSelector? "0xdeadbeef" = none := by
    simp only [Signature.ofSelector?, Signature.table, Signature.selector, keccak256_eq]
    decide +kernel
  have hname : Signature.name "poke(uint256)" = "poke" := by decide +kernel
  obtain ⟨tx, hdecode⟩ := exists_decode_poke
  obtain ⟨outcome, plain, known', asked, after, hrun, hplain, hnobody, hconfined, -,
    hdecoded⟩ := @enrichment_confined around store source poke none rfl
  obtain ⟨content, hcalls, -, henriched⟩ := hdecoded tx hdecode
  rw [hcalls.eq calls_poke] at henriched
  have htold : outcome.transaction.functionName = some "poke" ∧
      outcome.transaction.functionSignature = some "poke(uint256)" ∧
      asked = ["0xdeadbeef"] := by
    generalize outcome.transaction.functionName = name,
      outcome.transaction.functionSignature = signature at henriched
    cases henriched with
    | short hshort => exact absurd hshort (by decide)
    | wellKnown _ hknown =>
        rw [hselector, hnew] at hknown
        cases hknown
    | told _ _ hanswer _ =>
        cases hanswer
        rw [hselector, hname]
        exact ⟨rfl, rfl, rfl⟩
    | untold _ _ hanswer => exact absurd (hanswer _ rfl) (by decide)
  obtain ⟨hfunction, hsignature, hasked⟩ := htold
  rw [hfunction, hsignature] at hconfined
  refine ⟨rfl, outcome, plain, known', _, after, hrun, hplain, ?_, hnobody, hconfined⟩
  rw [hasked]
  rfl

end Outcome

end EvmIndexer
