import EvmIndexer.Proofs.Outcome.Enrichment
import EvmIndexer.Proofs.Signature.Transparency
import EvmIndexer.Proofs.Text.Trim

/-!
# What an answer about a signature brings into a row

A signature service may reply with any document, and its reply to a selector may be
another one each time. What a lookup answers is then still a text without blanks around
it, or nothing; and the same text is answered out of the cache, since entries are made
out of replies alone.

A text column takes every character except the zero character. Neither the shape that a
document must have nor the trimming keeps that character out, for it is no blank: it is
in an answer exactly if the service put it into the text that it named. The well-known
signatures and the bare selectors have none, so this is also the one way by which it gets
into the columns of the function.
-/

namespace EvmIndexer

namespace SignatureClient

/-- The text that a document names as the first signature, as it stands there. -/
def named? (document : Json.Value) : Option String := do
  let results ← document.member? "results"
  let first ← results.first?
  (← first.member? "text_signature").text?

/-- A reply that names a text as a signature. -/
def Names (reply : ServiceReply) (content : String) : Prop :=
  ∃ document, Tells reply document ∧ named? document = some content

/-- At some time the service names a text with a zero character for a selector. -/
def NamesZero (service : SignatureService) (key : String) : Prop :=
  ∃ asked content, Names (service asked key) content ∧ '\x00' ∈ content.toList

/-- What a lookup of a selector can answer: a text that the service names, trimmed. -/
structure Sourced (service : SignatureService) (key text : String) : Prop where
  nonempty : text ≠ ""
  named : ∃ asked content, Names (service asked key) content ∧ Text.trim content = text

variable {service : SignatureService} {client : SignatureClient}
  {selector key text : String}

/-! ## Texts -/

theorem firstSignature?_eq_some_iff {document : Json.Value} :
    firstSignature? document = some text ↔
      text ≠ "" ∧ ∃ content, named? document = some content ∧ Text.trim content = text := by
  have hnamed : firstSignature? document = (named? document).bind fun content =>
      if Text.trim content = "" then none else some (Text.trim content) := by
    simp only [firstSignature?, named?, Option.bind_eq_bind, Option.bind_assoc]
  rw [hnamed, Option.bind_eq_some_iff]
  constructor
  · intro hfound
    obtain ⟨content, hcontent, htext⟩ := hfound
    split at htext
    · cases htext
    · next hnonempty =>
        cases htext
        exact ⟨hnonempty, content, hcontent, rfl⟩
  · intro hfound
    obtain ⟨hnonempty, content, hcontent, htext⟩ := hfound
    rw [← htext] at hnonempty ⊢
    exact ⟨content, hcontent, if_neg hnonempty⟩

theorem Sourced.of_told? {asked : List String}
    (h : told? (service asked key) = some (some text)) : Sourced service key text := by
  obtain ⟨document, hdocument, hsignature⟩ := Option.map_eq_some_iff.1 h
  obtain ⟨hnonempty, content, hcontent, htext⟩ := firstSignature?_eq_some_iff.1 hsignature
  exact ⟨hnonempty, asked, content, ⟨document, tells_iff.2 hdocument, hcontent⟩, htext⟩

theorem Sourced.trim_eq (h : Sourced service key text) : Text.trim text = text := by
  obtain ⟨asked, content, -, htext⟩ := h.named
  rw [← htext, Text.trim_trim]

/-- The zero character is no blank, so it is trimmed neither off nor in. -/
theorem zero_mem_trim_iff (content : String) :
    '\x00' ∈ (Text.trim content).toList ↔ '\x00' ∈ content.toList := by
  rw [Text.trim, String.toList_ofList]
  exact Text.mem_trimBy_iff (by decide)

theorem Sourced.namesZero (h : Sourced service key text) (hzero : '\x00' ∈ text.toList) :
    NamesZero service key := by
  obtain ⟨asked, content, hnames, htext⟩ := h.named
  rw [← htext, zero_mem_trim_iff] at hzero
  exact ⟨asked, content, hnames, hzero⟩

/-! ## The cache -/

/-- Every signature in the cache was named by the service for its selector. -/
def KeepsSourced (service : SignatureService) (client : SignatureClient) : Prop :=
  ∀ entry ∈ client.cache.entries, ∀ text, entry.2 = some text →
    Sourced service entry.1 text

/-- How a lookup answers out of a cache whose texts were named. -/
def AnswersSourced (service : SignatureService) (key : String) (answer : LookupAnswer) :
    Prop :=
  (∀ text, answer = .signature text → Sourced service key text) ∧
    (answer = .failed → ∃ asked, service asked key = .breakdown)

theorem answersSourced_unknown : AnswersSourced service key .unknown := by
  constructor
  · intro text htext
    cases htext
  · intro hfailed
    cases hfailed

theorem answersSourced_answerOf {signature : Option String}
    (h : ∀ text, signature = some text → Sourced service key text) :
    AnswersSourced service key (answerOf signature) := by
  cases signature with
  | none => exact answersSourced_unknown
  | some text =>
      constructor
      · intro other hother
        cases hother
        exact h text rfl
      · intro hfailed
        cases hfailed

theorem answersSourced_answerTo (asked : List String) :
    AnswersSourced service key (answerTo (service asked key)) := by
  rw [answerTo]
  split
  · next hbreakdown =>
      constructor
      · intro text htext
        cases htext
      · intro hfailed
        exact ⟨asked, hbreakdown⟩
  · refine answersSourced_answerOf fun text htext => ?_
    exact Sourced.of_told? (Option.join_eq_some_iff.1 htext)

/-- A lookup moves entries, drops some, or makes one out of the reply. -/
theorem KeepsSourced.lookup (h : KeepsSourced service client) (selector : String) :
    AnswersSourced service (Text.lower selector) (client.lookup service selector).1 ∧
      KeepsSourced service (client.lookup service selector).2 := by
  cases hselector : isSelector (Text.lower selector) with
  | false =>
      rw [lookup_of_not_isSelector hselector]
      exact ⟨answersSourced_unknown, h⟩
  | true =>
      by_cases hkey : Text.lower selector ∈ client.cache.keys
      · obtain ⟨signature, hfound⟩ := SignatureCache.exists_lookup hkey
        have hentry : (Text.lower selector, signature) ∈ client.cache.entries := by
          obtain ⟨before, after, hentries, -⟩ := List.lookup_eq_some_iff.1 hfound
          rw [hentries]
          exact List.mem_append_right _ List.mem_cons_self
        rw [lookup_of_found hselector hfound, SignatureCache.get_of_lookup hfound]
        refine ⟨answersSourced_answerOf (h _ hentry), fun entry hmem => ?_⟩
        rcases List.mem_append.1 hmem with hold | hnew
        · exact h entry (List.mem_of_mem_filter hold)
        · rw [List.mem_singleton.1 hnew]
          exact h _ hentry
      · rw [lookup_of_missing hselector hkey]
        refine ⟨answersSourced_answerTo client.requests, ?_⟩
        cases htold : told? (service client.requests (Text.lower selector)) with
        | none => exact h
        | some signature =>
            intro entry hmem text htext
            rcases SignatureCache.mem_entries_put hmem with rfl | hold
            · exact Sourced.of_told? (htold.trans (congrArg some htext))
            · exact h entry hold text htext

theorem keepsSourced_lookupAll (h : KeepsSourced service client)
    (selectors : List String) :
    KeepsSourced service (client.lookupAll service selectors) := by
  induction selectors generalizing client with
  | nil => exact h
  | cons selector rest ih => exact ih (h.lookup selector).2

/-- Whatever was looked up before, and whatever the service replies. -/
theorem answersSourced_answerAfter (service : SignatureService) (capacity : Nat)
    (before : List String) (selector : String) :
    AnswersSourced service (Text.lower selector)
      (answerAfter service { cache := { capacity } } before selector) := by
  have hnew : KeepsSourced service { cache := { capacity } } := by
    intro entry hentry
    cases hentry
  exact ((keepsSourced_lookupAll hnew before).lookup selector).1

end SignatureClient

/-! ## The columns of the function -/

theorem Signature.zero_mem_of_name {signature : String}
    (h : '\x00' ∈ (Signature.name signature).toList) : '\x00' ∈ signature.toList := by
  rw [Signature.name, String.toList_ofList] at h
  exact (List.takeWhile_prefix _).subset h

theorem Signature.zero_not_mem_of_ofSelector? {selector text : String}
    (h : Signature.ofSelector? selector = some text) : '\x00' ∉ text.toList := by
  have hclean : ∀ signature ∈ Signature.wellKnown, '\x00' ∉ signature.toList := by
    decide
  obtain ⟨before, after, htable, -⟩ := List.lookup_eq_some_iff.1 h
  have hentry : (selector, text) ∈ Signature.table := by
    rw [htable]
    exact List.mem_append_right _ List.mem_cons_self
  obtain ⟨signature, hmem, hpair⟩ := List.mem_map.1 hentry
  cases hpair
  exact hclean text hmem

theorem Bytes.Hex.zero_not_mem_marked (bs : Bytes) : '\x00' ∉ (marked bs).toList := by
  rw [toList_marked]
  intro h
  rcases List.mem_cons.1 h with hzero | h
  · exact absurd hzero (by decide)
  rcases List.mem_cons.1 h with hzero | h
  · exact absurd hzero (by decide)
  · obtain ⟨n, hn, hdigit⟩ := exists_of_mem_write h
    revert hdigit
    interval_cases n <;> decide

/-- A zero in one of the two columns came with the answer about the selector. -/
theorem Transaction.Enriched.answered_of_zero {answer : String → LookupAnswer}
    {content : Bytes} {name signature : Option String} {asked : List String}
    (h : Enriched answer content name signature asked) {text : String}
    (htext : signature = some text ∨ name = some text) (hzero : '\x00' ∈ text.toList) :
    ∃ selector told, Signature.selectorIn? content = some selector ∧
      Text.lower selector = selector ∧ answer selector = .signature told ∧
      '\x00' ∈ told.toList := by
  have hfull {whole : String} (heither : some whole = some text ∨
      some (Signature.name whole) = some text) : '\x00' ∈ whole.toList := by
    rcases heither with hwhole | hname
    · cases hwhole
      exact hzero
    · cases hname
      exact Signature.zero_mem_of_name hzero
  cases h with
  | short => rcases htext with htext | htext <;> cases htext
  | wellKnown hlong hknown =>
      exact absurd (hfull htext) (Signature.zero_not_mem_of_ofSelector? hknown)
  | told hlong hnew hanswer hnonempty =>
      exact ⟨_, _, if_pos hlong, Bytes.Hex.lower_marked _, hanswer, hfull htext⟩
  | untold hlong hnew hanswer =>
      rcases htext with htext | htext
      · cases htext
        exact absurd hzero (Bytes.Hex.zero_not_mem_marked _)
      · cases htext

namespace SignatureClient

/-- What a lookup answers is nothing, unless the service broke down, or a text that is
not empty, has no blanks around it and has a zero character exactly if the text that the
service named has one. The columns of the function have no other zero characters.

This is about characters. A number set aside for pairs is none and is replaced when a
document is read, so nothing is said about a text that would keep it. -/
theorem signatures_storable (service : SignatureService) (capacity : Nat) :
    (∀ before selector,
      match answerAfter service { cache := { capacity } } before selector with
      | .signature text => text ≠ "" ∧ Text.trim text = text ∧
          ∃ asked content, Names (service asked (Text.lower selector)) content ∧
            Text.trim content = text ∧ ('\x00' ∈ text.toList ↔ '\x00' ∈ content.toList)
      | .unknown => True
      | .failed => ∃ asked, service asked (Text.lower selector) = .breakdown) ∧
    ∀ (around : Surroundings) (store : Store) (item : PendingItem)
      (known : Option (List String)),
      around.signatures = some (answerAfter service { cache := { capacity } }) →
      around.faults store.journal.length (.selectResponse item.txId) = none →
      ∃ outcome known' after,
        (Outcome.build item known).run around store = (.ok (outcome, known'), after) ∧
        ∀ text, outcome.transaction.functionSignature = some text ∨
            outcome.transaction.functionName = some text →
          '\x00' ∈ text.toList →
          ∃ selector, outcome.transaction.selector? = some selector ∧
            NamesZero service selector := by
  constructor
  · intro before selector
    obtain ⟨hsourced, hfailed⟩ :=
      answersSourced_answerAfter service capacity before selector
    cases hanswer : answerAfter service { cache := { capacity } } before selector with
    | signature text =>
        have htext := hsourced text hanswer
        obtain ⟨asked, content, hnames, htrim⟩ := htext.named
        refine ⟨htext.nonempty, htext.trim_eq, asked, content, hnames, htrim, ?_⟩
        rw [← htrim]
        exact zero_mem_trim_iff content
    | unknown => trivial
    | failed => exact hfailed hanswer
  · intro around store item known hsource hread
    obtain ⟨derived, hderived⟩ := Outcome.exists_derive item (known.getD [])
      (store.responses.lookup item.txId)
    refine ⟨_, _, _, Outcome.run_build_eq known hread hderived, fun text htext hzero => ?_⟩
    cases hdecode : Transaction.decode (.text item.raw) item.txId item.gasUsed with
    | error refusal =>
        rw [Outcome.derive, hdecode] at hderived
        cases hderived
        rcases htext with htext | htext <;> cases htext
    | ok tx =>
        obtain ⟨content, -, hdata, henriched⟩ :=
          Outcome.exists_enriched hdecode hderived (around.reply store.asked)
        obtain ⟨selector, told, hselector, hlower, htold, hnul⟩ :=
          henriched.answered_of_zero htext hzero
        rw [Surroundings.reply, hsource] at htold
        have hsourced :=
          (answersSourced_answerAfter service capacity store.asked selector).1 told htold
        rw [hlower] at hsourced
        exact ⟨selector, (Transaction.selector?_of_data hdata).trans hselector,
          hsourced.namesZero hnul⟩

theorem names_iff {reply : ServiceReply} {content : String} :
    Names reply content ↔ (document? reply).bind named? = some content := by
  rw [Names, Option.bind_eq_some_iff]
  exact exists_congr fun document => and_congr_left fun _ => tells_iff

/-- A service that names one signature, and no zero in it. -/
theorem signatures_storable_knowsOne :
    let client : SignatureClient := { cache := { capacity := 1 } }
    let around : Surroundings :=
      { signatures := some (answerAfter (unchanging knowsOne) client) }
    let store : Store := {}
    around.signatures = some (answerAfter (unchanging knowsOne) client) ∧
    around.faults store.journal.length (.selectResponse Outcome.creation.txId) = none ∧
    answerAfter (unchanging knowsOne) client ["0xCAE9CA51"] "0xcae9ca51" =
      .signature "f(uint256)" ∧
    Text.trim "f(uint256)" = "f(uint256)" ∧
    ∃ outcome known' after,
      (Outcome.build Outcome.creation none).run around store =
        (.ok (outcome, known'), after) ∧
      ∀ text, outcome.transaction.functionSignature = some text → '\x00' ∉ text.toList := by
  intro client around store
  obtain ⟨hanswers, hcolumns⟩ := signatures_storable (unchanging knowsOne) 1
  have hanswer : answerAfter (unchanging knowsOne) client ["0xCAE9CA51"] "0xcae9ca51" =
      .signature "f(uint256)" := by
    decide +kernel
  have hnamed := hanswers ["0xCAE9CA51"] "0xcae9ca51"
  rw [hanswer] at hnamed
  obtain ⟨outcome, known', after, hrun, hzero⟩ :=
    hcolumns around store Outcome.creation none rfl rfl
  refine ⟨rfl, rfl, hanswer, hnamed.2.1, outcome, known', after, hrun,
    fun text htext hnul => ?_⟩
  obtain ⟨selector, -, asked, content, hnames, hcontent⟩ := hzero text (Or.inl htext) hnul
  rw [names_iff, unchanging, knowsOne] at hnames
  split at hnames
  · have htold : (document? (knowsOne "0xcae9ca51")).bind named? = some " f(uint256) " := by
      decide +kernel
    cases hnames.symm.trans htold
    exact absurd hcontent (by decide)
  · cases hnames

/-- A service that names a zero for every selector. -/
def tellsZero : SignatureService := fun _ _ =>
  .response 200 (Bytes.ofText
    "\x7b\"results\": [\x7b\"text_signature\": \"\\u0000\"\x7d]\x7d")

/-- The zero is answered, and it is kept. -/
theorem zero_of_tellsZero :
    lookup tellsZero "0xdeadbeef" { cache := { capacity := 8 } } =
      (.signature "\x00",
        { cache := { capacity := 8, entries := [("0xdeadbeef", some "\x00")] }
          requests := ["0xdeadbeef"] }) := by
  decide +kernel

end SignatureClient

end EvmIndexer
