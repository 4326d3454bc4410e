import EvmIndexer.Address
import EvmIndexer.Proofs.Bytes.Hex
import EvmIndexer.Proofs.Repair.Candidates
import EvmIndexer.Proofs.Response.RoundTrip

/-!
# The addresses of transfers

The parties of a transfer come from two topics, and topics are text. What is looked at
is the number of characters behind the mark: 64 make a word, and the last forty of
them are the address. Lowering, which might lengthen a text, comes before, so what is
counted is what is kept: every address is the mark and forty characters that do not
change when they are lowered again.

They are digits if those of the topic are. A topic that is a word of 32 bytes gives
the address in the last twenty of them. Text of the same length that is no word is
taken for one; any other text leaves its log without a transfer.
-/

namespace EvmIndexer

open Bytes

/-! ## Addresses in lower case -/

namespace Address

/-- The form of the keys: `0x` and forty digits in lower case. -/
def IsText (text : String) : Prop :=
  ∃ digits, text = String.ofList ('0' :: 'x' :: digits) ∧ digits.length = 2 * size ∧
    ∀ c ∈ digits, Hex.isLowerDigit c = true

theorem isText_marked {address : Bytes} (h : address.length = size) :
    IsText (Hex.marked address) := by
  refine ⟨Hex.write address, rfl, by rw [Hex.length_write, h], fun c hc => ?_⟩
  obtain ⟨n, hn, rfl⟩ := Hex.exists_of_mem_write hc
  exact Hex.isLowerDigit_digitChar hn

/-- A character in lower case is a digit in lower case if it is one at all. -/
theorem isSome_digit?_iff {c : Char} (h : Text.IsLower c) :
    (Hex.digit? c).isSome = true ↔ Hex.isLowerDigit c = true := by
  have hcapital : ¬ ('A' ≤ c ∧ c ≤ 'F') := by
    rintro ⟨hlow, hhigh⟩
    have hlow : 65 ≤ c.toNat := hlow
    have hhigh : c.toNat ≤ 70 := hhigh
    have hall : ∀ m < 71, 65 ≤ m →
        Text.lowerAt [] (Char.ofNat m) [] ≠ [Char.ofNat m] := by decide
    have hc := hall c.toNat (by omega) hlow
    rw [Char.ofNat_toNat] at hc
    exact hc (h [] [])
  by_cases hdecimal : '0' ≤ c ∧ c ≤ '9'
  · simp [Hex.digit?, Hex.isLowerDigit, hdecimal]
  · by_cases hletter : 'a' ≤ c ∧ c ≤ 'f'
    · simp [Hex.digit?, Hex.isLowerDigit, hdecimal, hletter]
    · simp [Hex.digit?, Hex.isLowerDigit, hdecimal, hletter, hcapital]

theorem isText_iff_of_isLower {cs : List Char} (hlength : cs.length = 2 * size)
    (hlower : ∀ c ∈ cs, Text.IsLower c) :
    IsText (String.ofList ('0' :: 'x' :: cs)) ↔
      ∀ c ∈ cs, (Hex.digit? c).isSome = true := by
  constructor
  · rintro ⟨digits, hdigits, -, hall⟩ c hc
    obtain rfl : cs = digits := by simpa [String.ofList_inj] using hdigits
    exact (isSome_digit?_iff (hlower c hc)).2 (hall c hc)
  · exact fun hall => ⟨cs, rfl, hlength, fun c hc =>
      (isSome_digit?_iff (hlower c hc)).1 (hall c hc)⟩

end Address

/-! ## What a topic gives -/

namespace Topic

/-- The text of a topic, behind the mark. -/
def digits (topic : String) : List Char := Hex.dropMark topic.toList

def bytes? (topic : String) : Option Bytes := Hex.read (digits topic)

def IsWord (topic : String) : Prop :=
  ∃ word, bytes? topic = some word ∧ word.length = 32

/-- A text of the length of a word that is none. -/
def IsGarbled (topic : String) : Prop :=
  (digits topic).length = wordSize ∧ bytes? topic = none

instance (topic : String) : Decidable (IsGarbled topic) :=
  inferInstanceAs (Decidable (_ ∧ _))

/-- What of a word is kept. -/
def lastDigits (topic : String) : List Char := (digits topic).drop (wordSize - 40)

/-- The address that a topic gives, whatever its text is. -/
structure Gives (topic address : String) : Prop where
  length : (digits topic).length = wordSize
  text : address = String.ofList ('0' :: 'x' :: lastDigits topic)
  isText_iff : Address.IsText address ↔
    ∀ c ∈ lastDigits topic, (Hex.digit? c).isSome = true
  bytes : ∀ word, bytes? topic = some word → address = Hex.marked (word.drop 12)

theorem length_digits {topic : String} {word : Bytes} (h : bytes? topic = some word) :
    (digits topic).length = 2 * word.length := by
  rw [← Hex.length_write, ← Hex.spells_of_read h, List.length_map]

theorem isWord_of_not_isGarbled {topic : String}
    (hlength : (digits topic).length = wordSize) (h : ¬ IsGarbled topic) :
    IsWord topic := by
  cases hread : bytes? topic with
  | none => exact absurd ⟨hlength, hread⟩ h
  | some word =>
      have hword := length_digits hread
      rw [hlength, wordSize] at hword
      exact ⟨word, hread, by omega⟩

theorem toAddress?_of_length {topic : String} (h : (digits topic).length = wordSize) :
    toAddress? topic = some ("0x" ++ Text.lower (String.ofList (lastDigits topic))) :=
  if_pos h

/-- The last forty digits of a word are those of its last twenty bytes. -/
theorem lower_lastDigits {topic : String} {word : Bytes} (h : bytes? topic = some word) :
    Text.lower (String.ofList (lastDigits topic)) =
      String.ofList (Hex.write (word.drop 12)) := by
  have hspelt := Hex.spells_of_read h
  have hascii : ∀ c ∈ lastDigits topic, c.toNat < 0x80 := by
    intro c hc
    have hvisible := Text.toNat_of_isVisible (hspelt.isVisible (List.mem_of_mem_drop hc))
    omega
  rw [Text.lower, String.toList_ofList, Text.lowerFrom_of_ascii hascii, lastDigits,
    List.map_drop, hspelt, Hex.write_drop]
  rfl

/-- What is kept of a topic in lower case is in lower case. -/
theorem isLower_of_mem_lastDigits {topic : String} (h : Text.lower topic = topic)
    {c : Char} (hc : c ∈ lastDigits topic) : Text.IsLower c := by
  have htopic : ∀ d ∈ topic.toList, Text.IsLower d := by
    intro d hd
    rw [← h, Text.lower, String.toList_ofList] at hd
    exact Text.isLower_of_mem_lowerFrom hd
  have hdigits : c ∈ digits topic := List.mem_of_mem_drop hc
  unfold digits Hex.dropMark at hdigits
  split at hdigits
  · exact htopic c (List.mem_of_mem_drop hdigits)
  · exact htopic c hdigits

theorem append_mark (cs : List Char) :
    "0x" ++ String.ofList cs = String.ofList ('0' :: 'x' :: cs) := by
  rw [← String.ofList_toList (s := "0x"), ← String.ofList_append]
  rfl

theorem gives_of_toAddress? {topic address : String} (hlower : Text.lower topic = topic)
    (h : toAddress? topic = some address) : Gives topic address := by
  have hlength : (digits topic).length = wordSize := by
    by_contra hother
    rw [show toAddress? topic = none from if_neg hother] at h
    cases h
  rw [toAddress?_of_length hlength, Option.some.injEq] at h
  have hkept : ∀ c ∈ lastDigits topic, Text.IsLower c :=
    fun c hc => isLower_of_mem_lastDigits hlower hc
  have htext : address = String.ofList ('0' :: 'x' :: lastDigits topic) := by
    rw [← h, Text.lower, String.toList_ofList, Text.lowerFrom_of_isLower hkept,
      append_mark]
  have hforty : (lastDigits topic).length = 2 * Address.size := by
    rw [lastDigits, List.length_drop, hlength]
    rfl
  refine ⟨hlength, htext, ?_, fun word hword => ?_⟩
  · rw [htext]
    exact Address.isText_iff_of_isLower hforty hkept
  · rw [← h, lower_lastDigits hword, append_mark]
    rfl

/-- A topic that gives an address is a word, and the address one of twenty bytes,
unless the topic is garbled. -/
theorem Gives.isText {topic address : String} (h : Gives topic address)
    (hgarbled : ¬ IsGarbled topic) : IsWord topic ∧ Address.IsText address := by
  obtain ⟨word, hword, hlength⟩ := isWord_of_not_isGarbled h.length hgarbled
  refine ⟨⟨word, hword, hlength⟩, ?_⟩
  rw [h.bytes word hword]
  exact Address.isText_marked (by rw [List.length_drop, hlength]; rfl)

end Topic

/-! ## What a log gives -/

/-- The two topics that are to hold addresses. -/
def Log.addressTopics (log : Log) : List String := (log.topics.drop 1).take 2

/-- A log that announces a transfer has both topics, and the parties come from them. -/
theorem Log.exists_of_announcement? {event : String} {log : Log} {announced : Announcement}
    (h : log.announcement? event = some announced) :
    ∃ second third, log.addressTopics = [second, third] ∧
      Topic.toAddress? second = some announced.sender ∧
      Topic.toAddress? third = some announced.recipient := by
  unfold Log.announcement? at h
  split at h
  · next first second third rest htopics =>
      split at h
      · simp only [Option.bind_eq_bind, Option.bind_eq_some_iff] at h
        obtain ⟨sender, hsender, recipient, hrecipient, hannounced⟩ := h
        cases hannounced
        exact ⟨second, third, by simp [addressTopics, htopics], hsender, hrecipient⟩
      · cases h
  · cases h

/-- The parties of the transfer that a log announces, if its topics are in lower case. -/
theorem Log.Lowered.gives {event : String} {log : Log} {announced : Announcement}
    (hlowered : log.Lowered) (h : log.announcement? event = some announced) :
    ∃ second third, log.addressTopics = [second, third] ∧
      Topic.Gives second announced.sender ∧ Topic.Gives third announced.recipient := by
  obtain ⟨second, third, htopics, hsender, hrecipient⟩ := Log.exists_of_announcement? h
  have hlower : ∀ topic ∈ log.addressTopics, Text.lower topic = topic := fun topic htopic =>
    hlowered.topics topic (List.mem_of_mem_drop (List.mem_of_mem_take htopic))
  exact ⟨second, third, htopics,
    Topic.gives_of_toAddress? (hlower second (by simp [htopics])) hsender,
    Topic.gives_of_toAddress? (hlower third (by simp [htopics])) hrecipient⟩

namespace Recognition

/-- The addresses of the transfers in a response. Every transfer is that of a log with
two topics for addresses, and its parties are the mark and the last forty characters
of these, whatever the topics are; so each is an address if and only if these
characters are digits, and a topic that is a word gives the address in its last twenty
bytes. A log is recognized only if both topics are words of 32 bytes or one is garbled:
as long as a word without being one. With no garbled topic both parties are addresses. -/
theorem addresses_of_transfers {raw : Option RawResponse} {execution : Execution}
    (hdecode : Execution.decode raw = some execution) (event txId : String)
    (height : Option Int) (known : List String) :
    let logs := (execution.bind txId).logs
    (∀ transfer ∈ (ofLogs event txId height known logs).transfers, ∃ log ∈ logs,
      log.transferIn? event txId = some transfer ∧
      ∃ second third, log.addressTopics = [second, third] ∧
        Topic.Gives second transfer.sender ∧ Topic.Gives third transfer.recipient ∧
        (¬ Topic.IsGarbled second → Address.IsText transfer.sender) ∧
        (¬ Topic.IsGarbled third → Address.IsText transfer.recipient)) ∧
    ∀ log ∈ logs, (∀ topic ∈ log.addressTopics, ¬ Topic.IsGarbled topic) →
      ¬ (log.addressTopics.length = 2 ∧ ∀ topic ∈ log.addressTopics, Topic.IsWord topic) →
      log.announcement? event = none := by
  intro logs
  have hlowered := Execution.lowered_bind hdecode txId
  constructor
  · intro transfer htransfer
    rw [transfers_ofLogs_eq] at htransfer
    obtain ⟨log, hlog, hannounces⟩ := List.mem_filterMap.1 htransfer
    refine ⟨log, hlog, hannounces, ?_⟩
    rw [Log.transferIn?, Log.transfer?, Option.map_map, Option.map_eq_some_iff] at hannounces
    obtain ⟨announced, hannounced, rfl⟩ := hannounces
    obtain ⟨second, third, htopics, hsender, hrecipient⟩ :=
      (hlowered log hlog).gives hannounced
    exact ⟨second, third, htopics, hsender, hrecipient,
      fun hnot => (hsender.isText hnot).2, fun hnot => (hrecipient.isText hnot).2⟩
  · intro log hlog hgarbled hwords
    cases hannounced : log.announcement? event with
    | none => rfl
    | some announced =>
        obtain ⟨second, third, htopics, hsender, hrecipient⟩ :=
          (hlowered log hlog).gives hannounced
        rw [htopics] at hgarbled
        refine absurd ⟨by rw [htopics]; rfl, ?_⟩ hwords
        rw [htopics]
        simp only [List.forall_mem_cons, List.not_mem_nil, false_imp_iff, implies_true,
          and_true] at hgarbled ⊢
        exact ⟨(hsender.isText hgarbled.1).1, (hrecipient.isText hgarbled.2).1⟩

end Recognition

namespace Recognition

/-- A word with capitals behind a mark with a capital, and one without a mark. -/
theorem addresses_of_transfers_capitals :
    let second := "0X000000000000000000000000ABCDEFABCDEFABCDEFABCDEFABCDEFABCDEFABCD"
    let third := "0000000000000000000000001111111111111111111111111111111111111111"
    ∃ execution transfer,
      Execution.decode (some (.bytes (Response.answering [transferTopic, second, third]))) =
        some execution ∧
      (ofLogs transferTopic "tx" none [] (execution.bind "tx").logs).transfers =
        [transfer] ∧
      transfer.sender = "0xabcdefabcdefabcdefabcdefabcdefabcdefabcd" ∧
      Address.IsText transfer.sender ∧ Address.IsText transfer.recipient := by
  intro second third
  let topics := [transferTopic, Text.lower second, third]
  let execution : Execution := ⟨[⟨"", 0, "0xab", topics, "0x"⟩], 21000, none⟩
  have hdecode : Execution.decode (some (.bytes
      (Response.answering [transferTopic, second, third]))) = some execution := by
    simp only [execution, topics, transferTopic_eq]
    decide +kernel
  have hgarbled : ∀ log ∈ (execution.bind "tx").logs, ∀ topic ∈ log.addressTopics,
      ¬ Topic.IsGarbled topic := by
    simp only [execution, topics, transferTopic_eq]
    decide +kernel
  obtain ⟨htransfers, -⟩ :=
    addresses_of_transfers hdecode transferTopic "tx" none []
  let transfer : Transfer := ⟨"tx", 0, "0xab", "0xabcdefabcdefabcdefabcdefabcdefabcdefabcd",
    "0x1111111111111111111111111111111111111111", "0x"⟩
  have hfound : (ofLogs transferTopic "tx" none [] (execution.bind "tx").logs).transfers =
      [transfer] := by
    simp only [execution, topics, transferTopic_eq]
    decide +kernel
  obtain ⟨log, hlog, -, first, last, htopics, -, -, hsender, hrecipient⟩ :=
    htransfers transfer (by rw [hfound]; exact List.mem_singleton_self _)
  refine ⟨execution, transfer, hdecode, hfound, rfl, hsender ?_, hrecipient ?_⟩
  · exact hgarbled log hlog _ (by rw [htopics]; simp)
  · exact hgarbled log hlog _ (by rw [htopics]; simp)

/-- Letters that are no digits are taken for an address: 64 of them are as long as a
word. -/
theorem sender_of_garbled :
    let garbled := String.ofList ('0' :: 'x' :: List.replicate 64 'z')
    let word := String.ofList (List.replicate 64 '0')
    ∃ execution transfer,
      Execution.decode (some (.bytes (Response.answering [transferTopic, garbled, word]))) =
        some execution ∧
      transfer ∈ (ofLogs transferTopic "tx" none [] (execution.bind "tx").logs).transfers ∧
      transfer.sender = String.ofList ('0' :: 'x' :: List.replicate 40 'z') ∧
      ¬ Address.IsText transfer.sender := by
  intro garbled word
  let execution : Execution :=
    ⟨[⟨"", 0, "0xab", [transferTopic, garbled, word], "0x"⟩], 21000, none⟩
  let transfer : Transfer := ⟨"tx", 0, "0xab",
    String.ofList ('0' :: 'x' :: List.replicate 40 'z'),
    String.ofList ('0' :: 'x' :: List.replicate 40 '0'), "0x"⟩
  have hdecode : Execution.decode (some (.bytes
      (Response.answering [transferTopic, garbled, word]))) = some execution := by
    simp only [execution, transferTopic_eq]
    decide +kernel
  have hfound : transfer ∈
      (ofLogs transferTopic "tx" none [] (execution.bind "tx").logs).transfers := by
    simp only [execution, transferTopic_eq]
    decide +kernel
  refine ⟨execution, transfer, hdecode, hfound, rfl, ?_⟩
  rintro ⟨digits, hdigits, -, hall⟩
  obtain ⟨-, hmarked⟩ := List.cons.inj (String.ofList_inj.1 hdigits)
  obtain ⟨-, hletters⟩ := List.cons.inj hmarked
  exact absurd (hall 'z' (by rw [← hletters]; simp)) (by decide)

end Recognition

end EvmIndexer
