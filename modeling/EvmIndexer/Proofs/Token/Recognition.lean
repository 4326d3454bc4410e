import EvmIndexer.Proofs.Hash.Rows
import EvmIndexer.Proofs.Text.LowerCase
import EvmIndexer.Token.Recognition
import Mathlib.Data.List.Basic

/-!
# What recognition finds

A transfer that is recognized is a view of one of the logs, and its token is
either among the tokens that are found or one that the caller has met. That is
what makes the transfer's two references good once the logs and the tokens are
stored, and it needs the emitters to be compared in one spelling: the caller's
addresses are lowered on the way in, those of the logs on the way out.
-/

namespace EvmIndexer

/-- The topic of the event, once for all that evaluate it. -/
theorem transferTopic_eq : transferTopic =
    "0xddf252ad1be2c89b69c2b068fc378daa952ba7f163c4a11628f55a4df523b3ef" := by
  rw [transferTopic, keccak256_eq]
  decide +kernel

/-- The transfer that a log announces, as a view of the log. -/
def Log.transfer? (event : String) (log : Log) : Option Transfer :=
  (log.announcement? event).map fun announced => {
    txId := log.txId
    logIndex := log.index
    tokenAddress := Text.lower log.address
    sender := announced.sender
    recipient := announced.recipient
    value := announced.value }

/-- The same, told to be in some transaction. -/
def Log.transferIn? (event txId : String) (log : Log) : Option Transfer :=
  (log.transfer? event).map fun transfer => { transfer with txId }

/-- A log announces nothing if one of the two topics that are to hold addresses
holds none. -/
theorem Log.announcement?_eq_none {event : String} {log : Log} {topic : String}
    (htopic : topic ∈ (log.topics.drop 1).take 2)
    (h : Topic.toAddress? topic = none) : log.announcement? event = none := by
  unfold Log.announcement?
  split
  · next first second third rest htopics =>
      have hmem : topic = second ∨ topic = third := by
        simpa [htopics] using htopic
      split
      · rcases hmem with rfl | rfl
        · rw [h]
          rfl
        · rw [h]
          cases Topic.toAddress? second <;> rfl
      · rfl
  · rfl

namespace Recognition

variable {event txId : String} {height : Option Int} {known : List String}
  {logs : List Log}

/-- What holds of the tokens and transfers found in the logs of a transaction, if
`known` are the emitters met before. -/
structure Sound (txId : String) (known : List String) (logs : List Log)
    (found : Recognition) : Prop where
  tokens : ∀ token ∈ found.tokens,
    token.firstSeenTx = some txId ∧ Text.lower token.address = token.address
  transfers : ∀ transfer ∈ found.transfers,
    transfer.txId = txId ∧ ∃ log ∈ logs, log.index = transfer.logIndex
  covered : ∀ transfer ∈ found.transfers,
    transfer.tokenAddress ∈ known ∨
      transfer.tokenAddress ∈ found.tokens.map (·.address)

/-- Every emitter met by now is a known one or one of a token that was found. -/
def Seen (known : List String) (state : List String × Recognition) : Prop :=
  ∀ address ∈ state.1,
    address ∈ known ∨ address ∈ state.2.tokens.map (·.address)

theorem sound_empty : Sound txId known logs {} :=
  ⟨by simp, by simp, by simp⟩

theorem Sound.addToken {found : Recognition} (h : Sound txId known logs found)
    {token : Token} (hfirst : token.firstSeenTx = some txId)
    (hlower : Text.lower token.address = token.address) :
    Sound txId known logs ⟨found.tokens ++ [token], found.transfers⟩ := by
  refine ⟨fun other hother => ?_, h.transfers, fun transfer htransfer => ?_⟩
  · rcases List.mem_append.1 hother with hold | hnew
    · exact h.tokens other hold
    · rw [List.mem_singleton.1 hnew]
      exact ⟨hfirst, hlower⟩
  · rcases h.covered transfer htransfer with hknown | hfound
    · exact Or.inl hknown
    · refine Or.inr ?_
      simp only [List.map_append, List.mem_append, hfound, true_or]

theorem Sound.addTransfer {found : Recognition} (h : Sound txId known logs found)
    {transfer : Transfer}
    (hlog : transfer.txId = txId ∧ ∃ log ∈ logs, log.index = transfer.logIndex)
    (htoken : transfer.tokenAddress ∈ known ∨
      transfer.tokenAddress ∈ found.tokens.map (·.address)) :
    Sound txId known logs ⟨found.tokens, found.transfers ++ [transfer]⟩ := by
  refine ⟨h.tokens, fun other hother => ?_, fun other hother => ?_⟩
  · rcases List.mem_append.1 hother with hold | hnew
    · exact h.transfers other hold
    · rw [List.mem_singleton.1 hnew]
      exact hlog
  · rcases List.mem_append.1 hother with hold | hnew
    · exact h.covered other hold
    · rw [List.mem_singleton.1 hnew]
      exact htoken

theorem sound_addLog (event : String) (height : Option Int)
    {state : List String × Recognition} {log : Log} (hlog : log ∈ logs)
    (hseen : Seen known state) (h : Sound txId known logs state.2) :
    Seen known (addLog event txId height state log) ∧
      Sound txId known logs (addLog event txId height state log).2 := by
  obtain ⟨seen, found⟩ := state
  unfold addLog
  split
  · exact ⟨hseen, h⟩
  · simp only
    split
    · next hmet =>
        refine ⟨hseen, h.addTransfer ⟨rfl, log, hlog, rfl⟩ ?_⟩
        exact hseen _ (List.contains_iff_mem.1 hmet)
    · refine ⟨fun address haddress => ?_, (h.addToken ?_ ?_).addTransfer ?_ ?_⟩
      · rcases List.mem_cons.1 haddress with rfl | hbefore
        · exact Or.inr (by simp)
        · rcases hseen address hbefore with hknown | hfound
          · exact Or.inl hknown
          · refine Or.inr ?_
            simp only [List.map_append, List.mem_append, hfound, true_or]
      · rfl
      · exact Text.lower_lower log.address
      · exact ⟨rfl, log, hlog, rfl⟩
      · exact Or.inr (by simp)

/-- Recognition is sound for the logs that it is given. -/
theorem sound_ofLogs (event txId : String) (height : Option Int)
    (known : List String) (logs : List Log) :
    Sound txId (known.map Text.lower) logs
      (ofLogs event txId height known logs) := by
  have hstart : Seen (known.map Text.lower) (known.map Text.lower, {}) ∧
      Sound txId (known.map Text.lower) logs {} :=
    ⟨fun _ hknown => Or.inl hknown, sound_empty⟩
  have hfolded := List.foldlRecOn logs (addLog event txId height)
    (motive := fun state => Seen (known.map Text.lower) state ∧
      Sound txId (known.map Text.lower) logs state.2) hstart
    fun _ h _ hlog => sound_addLog event height hlog h.1 h.2
  exact hfolded.2

/-! ## The transfers -/

theorem transfers_addLog (event txId : String) (height : Option Int)
    (state : List String × Recognition) (log : Log) :
    (addLog event txId height state log).2.transfers =
      state.2.transfers ++ (log.transferIn? event txId).toList := by
  unfold addLog Log.transferIn? Log.transfer?
  cases log.announcement? event with
  | none => exact (List.append_nil _).symm
  | some announced =>
      simp only [Option.map_some]
      split <;> rfl

/-- The transfers that are recognized are those of the logs that announce one, in
the order of the logs. -/
theorem transfers_ofLogs_eq (event txId : String) (height : Option Int)
    (known : List String) (logs : List Log) :
    (ofLogs event txId height known logs).transfers =
      logs.filterMap (Log.transferIn? event txId) := by
  have hfolded : ∀ state : List String × Recognition,
      (logs.foldl (addLog event txId height) state).2.transfers =
        state.2.transfers ++ logs.filterMap (Log.transferIn? event txId) := by
    induction logs with
    | nil => exact fun state => (List.append_nil _).symm
    | cons log rest ih =>
        intro state
        rw [List.foldl_cons, ih, transfers_addLog event txId height state log,
          List.append_assoc, List.filterMap_cons]
        cases log.transferIn? event txId <;> rfl
  exact hfolded _

theorem transfers_ofLogs (event : String) (height : Option Int)
    (known : List String) (hlogs : ∀ log ∈ logs, log.txId = txId) :
    (ofLogs event txId height known logs).transfers =
      logs.filterMap (Log.transfer? event) := by
  rw [transfers_ofLogs_eq]
  refine List.filterMap_congr fun log hlog => ?_
  rw [Log.transferIn?, ← hlogs log hlog, Log.transfer?]
  cases log.announcement? event <;> rfl

theorem ofLogs_skip {log : Log} (h : log.announcement? event = none)
    (txId : String) (height : Option Int) (known : List String)
    (before after : List Log) :
    ofLogs event txId height known (before ++ log :: after) =
      ofLogs event txId height known (before ++ after) := by
  have hskip : ∀ state, addLog event txId height state log = state := by
    intro state
    rw [addLog, h]
  rw [ofLogs, ofLogs, List.foldl_append, List.foldl_append, List.foldl_cons,
    hskip]

end Recognition

end EvmIndexer
