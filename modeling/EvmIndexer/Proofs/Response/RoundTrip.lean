import EvmIndexer.Proofs.Bytes.Text
import EvmIndexer.Proofs.Protobuf.Spelling
import EvmIndexer.Proofs.Response.Indexes
import Mathlib.Data.List.Forall2

/-!
# Reading undoes the writing of a response

The messages stand here with all their fields, also those that are passed over
when they are read, and with the numbers of the fields as the ledger writes them.
A field that holds its default is not written, a list is written element by
element. Between the records of its fields a message may hold any others, as long
as the schema has no field of that number with a payload of that kind; that is
what `Schema.WrittenWith` says, at each of the four levels of nesting.

Reading is one pass over the records. What is in no schema is passed over, so the
pass is the one over the fields alone, and there every field leaves its value in
its place.
-/

namespace EvmIndexer.Response

open Protobuf

/-! ## Fields -/

/-- The fields of a message: the number of each and the kind of its payload. -/
abbrev Schema := List (Nat × Nat)

namespace Schema

def has (schema : Schema) (record : Record) : Bool :=
  schema.contains (record.number, record.payload.kind)

/-- Whether bytes hold the given fields in their order, and beside them only
records that are no fields of the schema. -/
def WrittenWith (schema : Schema) (fields : List Record) (bs : Bytes) : Prop :=
  ∃ records, Spells records bs ∧ records.filter schema.has = fields

end Schema

def bytesField (number : Nat) (content : Bytes) : List Record :=
  if content = [] then [] else [⟨number, .bytes content⟩]

def textField (number : Nat) (text : String) : List Record :=
  bytesField number (Bytes.ofText text)

def numberField (number n : Nat) : List Record :=
  if n = 0 then [] else [⟨number, .varint n⟩]

def listField (number : Nat) (contents : List Bytes) : List Record :=
  contents.map fun content => ⟨number, .bytes content⟩

/-! ## Messages with all their fields -/

structure SentLog where
  address : String
  topics : List String
  data : Bytes
  blockNumber : UInt64
  txHash : String
  txIndex : UInt64
  blockHash : String
  index : UInt64
  removed : Bool

def SentLog.schema : Schema :=
  [(1, 2), (2, 2), (3, 2), (4, 0), (5, 2), (6, 0), (7, 2), (8, 0), (9, 0)]

def SentLog.fields (log : SentLog) : List Record :=
  textField 1 log.address ++ (listField 2 (log.topics.map Bytes.ofText) ++
    (bytesField 3 log.data ++ (numberField 4 log.blockNumber.toNat ++
    (textField 5 log.txHash ++ (numberField 6 log.txIndex.toNat ++
    (textField 7 log.blockHash ++ (numberField 8 log.index.toNat ++
    (numberField 9 log.removed.toNat ++ []))))))))

def SentLog.WrittenAs (log : SentLog) (bs : Bytes) : Prop :=
  schema.WrittenWith log.fields bs

structure SentExecution where
  hash : String
  logs : List SentLog
  returned : Bytes
  vmError : String
  gasUsed : UInt64

namespace SentExecution

def schema : Schema := [(1, 2), (2, 2), (3, 2), (4, 2), (5, 0)]

/-- The fields, if the logs are written as the given contents. -/
def fields (sent : SentExecution) (contents : List Bytes) : List Record :=
  textField 1 sent.hash ++ (listField 2 contents ++
    (bytesField 3 sent.returned ++ (textField 4 sent.vmError ++
    (numberField 5 sent.gasUsed.toNat ++ []))))

def WrittenAs (sent : SentExecution) (bs : Bytes) : Prop :=
  ∃ contents, List.Forall₂ SentLog.WrittenAs sent.logs contents ∧
    schema.WrittenWith (sent.fields contents) bs

/-- Whether the indexes in the logs tell them apart and fit their column. -/
def HasUsableIndexes (sent : SentExecution) : Prop :=
  (sent.logs.map (·.index)).Nodup ∧
    ∀ log ∈ sent.logs, log.index.toNat ≤ 0x7fffffff

instance (sent : SentExecution) : Decidable sent.HasUsableIndexes :=
  inferInstanceAs (Decidable (_ ∧ _))

end SentExecution

def Wrapped.schema : Schema := [(1, 2), (2, 2)]

def Wrapped.fields (wrapped : Wrapped) : List Record :=
  textField 1 wrapped.typeUrl ++ (bytesField 2 wrapped.value ++ [])

def Wrapped.WrittenAs (wrapped : Wrapped) (bs : Bytes) : Prop :=
  schema.WrittenWith wrapped.fields bs

/-- The ledger's answer. The data are those of an older form of it. -/
structure SentAnswer where
  data : List Bytes
  responses : List Wrapped

namespace SentAnswer

def schema : Schema := [(1, 2), (2, 2)]

/-- The fields, if the responses are written as the given contents. -/
def fields (answer : SentAnswer) (contents : List Bytes) : List Record :=
  listField 1 answer.data ++ (listField 2 contents ++ [])

def WrittenAs (answer : SentAnswer) (bs : Bytes) : Prop :=
  ∃ contents, List.Forall₂ Wrapped.WrittenAs answer.responses contents ∧
    schema.WrittenWith (answer.fields contents) bs

end SentAnswer

/-- An answer with one log, which has the given topics. -/
def answering (topics : List String) : Bytes :=
  let log : SentLog := ⟨"0xAB", topics, [], 0, "", 0, "", 0, false⟩
  let sent : SentExecution := ⟨"", [log], [], "", 21000⟩
  let wrapped : Wrapped := ⟨Execution.typeName, writeAll (sent.fields [writeAll log.fields])⟩
  writeAll (SentAnswer.fields ⟨[], [wrapped]⟩ [writeAll wrapped.fields])

/-! ## One pass over the records -/

section Pass

variable {σ β : Type} {step : σ → Record → Option σ} {number : Nat} {s : σ}

theorem foldlM_eq_filter {schema : Schema}
    (hskip : ∀ s r, schema.has r = false → step s r = some s)
    (records : List Record) (s : σ) :
    records.foldlM step s = (records.filter schema.has).foldlM step s := by
  induction records generalizing s with
  | nil => rfl
  | cons r rest ih =>
      cases hr : schema.has r with
      | true =>
          rw [List.filter_cons_of_pos hr, List.foldlM_cons, List.foldlM_cons]
          exact congrArg (step s r).bind (funext fun s' => ih s')
      | false =>
          rw [List.filter_cons_of_neg (by simp [hr]), List.foldlM_cons, hskip s r hr]
          exact ih s

/-- What a message is read as is what its fields are read as. -/
theorem Schema.WrittenWith.foldlM_records {schema : Schema}
    {fields : List Record} {bs : Bytes} (h : schema.WrittenWith fields bs)
    (hskip : ∀ s r, schema.has r = false → step s r = some s) (s : σ) :
    (do (← records? bs).foldlM step s) = fields.foldlM step s := by
  obtain ⟨records, hspells, rfl⟩ := h
  rw [hspells.records?, ← foldlM_eq_filter hskip]
  rfl

/-! A field leads from one state to the next. If it holds its default there is no
record of it, so the two states have to be the same then. -/

theorem foldlM_bytesField {content : Bytes} (s' : σ)
    (hstep : step s ⟨number, .bytes content⟩ = some s')
    (hdefault : content = [] → s = s') (rest : List Record) :
    (bytesField number content ++ rest).foldlM step s = rest.foldlM step s' := by
  unfold bytesField
  split
  · next h => rw [hdefault h, List.nil_append]
  · rw [List.singleton_append, List.foldlM_cons, hstep]
    rfl

theorem foldlM_textField {text : String} (s' : σ)
    (hstep : step s ⟨number, .bytes (Bytes.ofText text)⟩ = some s')
    (hdefault : text = "" → s = s') (rest : List Record) :
    (textField number text ++ rest).foldlM step s = rest.foldlM step s' :=
  foldlM_bytesField s' hstep (fun h => hdefault (Bytes.eq_empty_of_ofText h)) rest

theorem foldlM_numberField {n : Nat} (s' : σ)
    (hstep : step s ⟨number, .varint n⟩ = some s')
    (hdefault : n = 0 → s = s') (rest : List Record) :
    (numberField number n ++ rest).foldlM step s = rest.foldlM step s' := by
  unfold numberField
  split
  · next h => rw [hdefault h, List.nil_append]
  · rw [List.singleton_append, List.foldlM_cons, hstep]
    rfl

/-- A list grows by an element with each of its records; `reached` is the state
when so much of the list is there. -/
theorem foldlM_listField {R : β → Bytes → Prop} (reached : List β → σ)
    (hstep : ∀ done b content, R b content →
      step (reached done) ⟨number, .bytes content⟩ = some (reached (done ++ [b])))
    {elements : List β} {contents : List Bytes}
    (h : List.Forall₂ R elements contents) (rest : List Record) :
    (listField number contents ++ rest).foldlM step (reached []) =
      rest.foldlM step (reached elements) := by
  have hfrom : ∀ done, (listField number contents ++ rest).foldlM step
      (reached done) = rest.foldlM step (reached (done ++ elements)) := by
    induction h with
    | nil =>
        intro done
        rw [List.append_nil]
        rfl
    | @cons b content elements contents hb _ ih =>
        intro done
        have hrest := ih (done ++ [b])
        rw [List.append_assoc] at hrest
        rw [listField, List.map_cons, List.cons_append, List.foldlM_cons,
          hstep done b content hb]
        exact hrest
  exact hfrom []

end Pass

/-! ## The four messages -/

/-- What is kept of a log. -/
def SentLog.message (log : SentLog) : LogMessage :=
  ⟨log.address, log.topics, log.data, log.index.toNat⟩

theorem LogMessage.addRecord_of_not_has {log : LogMessage} {record : Record}
    (h : SentLog.schema.has record = false) :
    log.addRecord record = some log := by
  unfold addRecord
  split
  iterate 6
    next hnumber hpayload =>
      rw [Schema.has, hnumber, hpayload] at h
      cases h
  rfl

theorem ExecutionMessage.addRecord_of_not_has {message : ExecutionMessage}
    {record : Record} (h : SentExecution.schema.has record = false) :
    message.addRecord record = some message := by
  unfold addRecord
  split
  iterate 4
    next hnumber hpayload =>
      rw [Schema.has, hnumber, hpayload] at h
      cases h
  rfl

theorem Wrapped.addRecord_of_not_has {wrapped : Wrapped} {record : Record}
    (h : schema.has record = false) :
    wrapped.addRecord record = some wrapped := by
  unfold addRecord
  split
  iterate 2
    next hnumber hpayload =>
      rw [Schema.has, hnumber, hpayload] at h
      cases h
  rfl

theorem addResponse_of_not_has {responses : List Wrapped} {record : Record}
    (h : SentAnswer.schema.has record = false) :
    addResponse responses record = some responses := by
  unfold addResponse
  split
  next hnumber hpayload =>
    rw [Schema.has, hnumber, hpayload] at h
    cases h
  rfl

/-- A text field is read as the text that was written. -/
theorem bind_toText?_ofText {β : Type} (s : String) (next : String → Option β) :
    (Bytes.ofText s).toText?.bind next = next s := by
  rw [Bytes.toText?_ofText, Option.bind_some]

theorem map_toText?_ofText {β : Type} (s : String) (b : β) :
    ((Bytes.ofText s).toText?.map fun _ => b) = some b := by
  rw [Bytes.toText?_ofText, Option.map_some]

theorem SentLog.WrittenAs.read {log : SentLog} {bs : Bytes}
    (h : log.WrittenAs bs) : LogMessage.read bs = some log.message := by
  have htopics : List.Forall₂ (fun topic content => content = Bytes.ofText topic)
      log.topics (log.topics.map Bytes.ofText) :=
    List.forall₂_map_right_iff.2 (List.forall₂_same.2 fun _ _ => rfl)
  refine (h.foldlM_records (fun _ _ => LogMessage.addRecord_of_not_has) {}).trans ?_
  refine (foldlM_textField ⟨log.address, [], [], 0⟩ (bind_toText?_ofText _ _)
    (fun hdefault => by rw [hdefault]) _).trans ?_
  refine (foldlM_listField (fun topics => LogMessage.mk log.address topics [] 0) ?_
    htopics _).trans ?_
  · rintro done topic _ rfl
    exact bind_toText?_ofText topic _
  refine (foldlM_bytesField ⟨log.address, log.topics, log.data, 0⟩ rfl
    (fun hdefault => by rw [hdefault]) _).trans ?_
  -- the block, the transaction and its place in the block are passed over
  refine (foldlM_numberField _ rfl (fun _ => rfl) _).trans ?_
  refine (foldlM_textField _ (map_toText?_ofText _ _) (fun _ => rfl) _).trans ?_
  refine (foldlM_numberField _ rfl (fun _ => rfl) _).trans ?_
  refine (foldlM_textField _ (map_toText?_ofText _ _) (fun _ => rfl) _).trans ?_
  refine (foldlM_numberField log.message rfl
    (fun hdefault => by rw [message, hdefault]) _).trans ?_
  exact foldlM_numberField _ rfl (fun _ => rfl) _

theorem SentExecution.WrittenAs.read {sent : SentExecution} {bs : Bytes}
    (h : sent.WrittenAs bs) :
    ExecutionMessage.read bs =
      some ⟨sent.logs.map SentLog.message, sent.vmError, sent.gasUsed.toNat⟩ := by
  obtain ⟨contents, hlogs, hfields⟩ := h
  refine (hfields.foldlM_records
    (fun _ _ => ExecutionMessage.addRecord_of_not_has) {}).trans ?_
  refine (foldlM_textField _ (map_toText?_ofText _ _) (fun _ => rfl) _).trans ?_
  refine (foldlM_listField
    (fun logs => ExecutionMessage.mk (logs.map SentLog.message) "" 0) ?_
    hlogs _).trans ?_
  · intro done log content hlog
    show (LogMessage.read content).bind _ = _
    rw [hlog.read, List.map_append]
    rfl
  refine (foldlM_bytesField _ rfl (fun _ => rfl) _).trans ?_
  refine (foldlM_textField ⟨sent.logs.map SentLog.message, sent.vmError, 0⟩
    (bind_toText?_ofText _ _) (fun hdefault => by rw [hdefault]) _).trans ?_
  exact foldlM_numberField (ExecutionMessage.mk (sent.logs.map SentLog.message)
    sent.vmError sent.gasUsed.toNat) rfl (fun hdefault => by rw [hdefault]) _

theorem Wrapped.WrittenAs.read {wrapped : Wrapped} {bs : Bytes}
    (h : wrapped.WrittenAs bs) : Wrapped.read bs = some wrapped := by
  refine (h.foldlM_records (fun _ _ => Wrapped.addRecord_of_not_has) {}).trans ?_
  refine (foldlM_textField ⟨wrapped.typeUrl, []⟩ (bind_toText?_ofText _ _)
    (fun hdefault => by rw [hdefault]) _).trans ?_
  exact foldlM_bytesField wrapped rfl
    (fun hdefault => by rw [← hdefault]) _

theorem SentAnswer.WrittenAs.read {answer : SentAnswer} {bs : Bytes}
    (h : answer.WrittenAs bs) : readResponses bs = some answer.responses := by
  obtain ⟨contents, hresponses, hfields⟩ := h
  have hdata : List.Forall₂ Eq answer.data answer.data :=
    List.forall₂_same.2 fun _ _ => rfl
  refine (hfields.foldlM_records
    (fun _ _ => addResponse_of_not_has) []).trans ?_
  refine (foldlM_listField (fun _ => []) (fun _ _ _ _ => rfl) hdata _).trans ?_
  refine (foldlM_listField id ?_ hresponses _).trans rfl
  intro done wrapped content hwrapped
  show (Wrapped.read content).bind _ = _
  rw [hwrapped.read]
  rfl

/-! ## The result -/

/-- What is stored of a log, not yet bound to a transaction. -/
def SentLog.stored (log : SentLog) (index : Nat) : Log where
  txId := ""
  index := index
  address := Text.lower log.address
  topics := log.topics.map Text.lower
  data := Bytes.Hex.marked log.data

theorem hasUsableIndexes_iff (sent : SentExecution) :
    (((sent.logs.map SentLog.message).map (·.index)).Nodup ∧
      ∀ i ∈ (sent.logs.map SentLog.message).map (·.index),
        i ≤ Execution.maxIndex) ↔ sent.HasUsableIndexes := by
  have hindexes : (sent.logs.map SentLog.message).map (·.index) =
      (sent.logs.map (·.index)).map UInt64.toNat := by
    rw [List.map_map, List.map_map]
    rfl
  have hinjective : Function.Injective UInt64.toNat := fun _ _ => UInt64.toNat_inj.1
  rw [hindexes, List.nodup_map_iff hinjective]
  refine and_congr_right fun _ => ?_
  rw [List.forall_mem_map, List.forall_mem_map]
  rfl

theorem zipWith_storedLog_message (sent : SentExecution) :
    List.zipWith Execution.storedLog
        (Execution.logIndexes (sent.logs.map SentLog.message))
        (sent.logs.map SentLog.message) =
      sent.logs.mapIdx fun i log =>
        log.stored (if sent.HasUsableIndexes then log.index.toNat else i) := by
  rw [Execution.zipWith_storedLog]
  simp only [hasUsableIndexes_iff]
  refine List.ext_getElem (by simp) fun i hi hi' => ?_
  rw [List.getElem_mapIdx, List.getElem_mapIdx, List.getElem_map]
  rfl

/-- The result of an execution is read back from the ledger's answer, whatever
other records stand between the fields. -/
theorem decode_written {raw : RawResponse} {bs : Bytes} {answer : SentAnswer}
    {first : Wrapped} {others : List Wrapped} {sent : SentExecution}
    (hraw : raw.bytes? = some bs) (hanswer : answer.WrittenAs bs)
    (hresponses : answer.responses = first :: others)
    (htype : Execution.typeName.toList <:+ first.typeUrl.toList)
    (hsent : sent.WrittenAs first.value)
    (hgas : sent.gasUsed.toNat < 0x8000000000000000) :
    Execution.decode (some raw) = some {
      logs := sent.logs.mapIdx fun i log =>
        log.stored (if sent.HasUsableIndexes then log.index.toNat else i)
      gasUsed := sent.gasUsed.toNat
      vmError := if sent.vmError = "" then none else some sent.vmError } := by
  have hfits : ¬ Execution.maxGas < sent.gasUsed.toNat := by
    rw [Execution.maxGas]
    omega
  rw [Execution.decode]
  simp only [Option.bind_eq_bind, Option.bind_some, hraw, Execution.ofBytes?,
    hanswer.read, hresponses, List.head?_cons]
  rw [if_pos (List.isSuffixOf_iff_suffix.2 htype), hsent.read, Option.bind_some,
    Execution.ofMessage?, if_neg hfits, zipWith_storedLog_message]

/-- Two logs with one index, each behind a group and a record of another kind,
are read with their places for indexes. -/
theorem decode_written_twins :
    let log : SentLog := ⟨"0xAB", ["0xDD"], [1], 5, "0xF0", 0, "", 7, false⟩
    let sent : SentExecution := ⟨"0xF0", [log, log], [], "out of gas", 21000⟩
    let logBytes := writeVarint (8 * 9 + 3) ++
      (writeAll [⟨1, .fixed32 [0, 0, 0, 0]⟩] ++ (writeVarint (8 * 9 + 4) ++
        writeAll (⟨8, .bytes [7]⟩ :: log.fields)))
    let sentBytes := writeAll (sent.fields [logBytes, logBytes] ++ [⟨6, .varint 1⟩])
    let wrapped : Wrapped := ⟨"/vm.MsgEthereumTxResponse", sentBytes⟩
    let answer : SentAnswer := ⟨[[0]], [wrapped]⟩
    let bs := writeAll (answer.fields [writeAll wrapped.fields])
    sent.WrittenAs sentBytes ∧ answer.WrittenAs bs ∧
      Execution.decode (some (.bytes bs)) = some {
        logs := [⟨"", 0, "0xab", ["0xdd"], "0x01"⟩,
          ⟨"", 1, "0xab", ["0xdd"], "0x01"⟩]
        gasUsed := 21000
        vmError := some "out of gas" } := by
  intro log sent logBytes sentBytes wrapped answer bs
  have hlog : log.WrittenAs logBytes :=
    ⟨_, .group (spellsTag_writeVarint (by decide) (by decide) (by decide))
      (spells_writeAll (by decide))
      (spellsTag_writeVarint (by decide) (by decide) (by decide))
      (spells_writeAll (by decide +kernel)), by decide +kernel⟩
  have hsent : sent.WrittenAs sentBytes :=
    ⟨[logBytes, logBytes], .cons hlog (.cons hlog .nil), _,
      spells_writeAll (by decide +kernel), by decide +kernel⟩
  have hwrapped : wrapped.WrittenAs (writeAll wrapped.fields) :=
    ⟨_, spells_writeAll (by decide +kernel), by decide +kernel⟩
  have hanswer : answer.WrittenAs bs :=
    ⟨[writeAll wrapped.fields], .cons hwrapped .nil, _,
      spells_writeAll (by decide +kernel), by decide +kernel⟩
  refine ⟨hsent, hanswer, ?_⟩
  rw [decode_written rfl hanswer rfl (by decide +kernel) hsent (by decide)]
  decide +kernel

end EvmIndexer.Response
