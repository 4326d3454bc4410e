import EvmIndexer.Proofs.Outcome.Building
import EvmIndexer.Proofs.Response.Indexes
import EvmIndexer.Proofs.Transaction.Spelling

/-!
# What is built fits its columns

The numbers of an outcome come from three places, and each has a guard of its
own. Those of the envelope are as large as the envelope makes them, and so is the
chain that a recovery number names; parsing checks the three that are stored in
eight bytes, the chain after it has been computed. The gas of the execution is
checked when the response is read, and the indexes of its logs are replaced by
the places of the logs if one of them is too large. The gas that the ledger
reports is nobody's to check: it is the item's, and stays where it is if the
response says nothing.
-/

namespace EvmIndexer

/-! A count in a column of eight bytes or of four. -/

def IsBigint (n : Int) : Prop := 0 ≤ n ∧ n ≤ 2 ^ 63 - 1

def IsInteger (n : Int) : Prop := 0 ≤ n ∧ n ≤ 2 ^ 31 - 1

/-- Whether the numbers of a transaction fit their columns. Fees and the value are
not among them: their columns take numbers of any size. -/
structure Transaction.FitsColumns (tx : Transaction) : Prop where
  nonce : IsBigint tx.nonce
  gasLimit : IsBigint tx.gasLimit
  chainId : ∀ n ∈ tx.chainId, IsBigint n
  gasUsed : ∀ n ∈ tx.gasUsed, IsBigint n
  type : 0 ≤ tx.type ∧ tx.type ≤ 4
  status : tx.status.code ∈ [-1, 0, 1]

theorem Status.code_mem (status : Status) : status.code ∈ [-1, 0, 1] := by
  cases status <;> decide

/-! ## The envelope -/

namespace Envelope

theorem forM_eq_ok {α : Type} {check : α → Except Refusal Unit} {as : List α}
    (h : as.forM check = .ok ()) {a : α} (ha : a ∈ as) : check a = .ok () := by
  induction as with
  | nil => cases ha
  | cons first rest ih =>
      obtain ⟨_, hfirst, hrest⟩ := exists_of_bind_eq_ok h
      rcases List.mem_cons.1 ha with rfl | hmem
      · exact hfirst
      · exact ih hrest hmem

theorem Parsed.le_of_checkRange {parsed : Parsed}
    (h : parsed.checkRange = .ok ()) {field : Field}
    (hfield : field ∈ boundedFields) {n : Nat}
    (hn : parsed.number? field = some n) : n ≤ maxBigint := by
  have hchecked := forM_eq_ok h hfield
  rw [hn] at hchecked
  simp only at hchecked
  split at hchecked
  · cases hchecked
  · next hle => exact Nat.not_lt.1 hle

theorem Parsed.isBigint_number {parsed : Parsed}
    (h : parsed.checkRange = .ok ()) {field : Field}
    (hfield : field ∈ boundedFields) {n : Int}
    (hn : n ∈ (parsed.number? field).map Int.ofNat) : IsBigint n := by
  obtain ⟨k, hk, rfl⟩ := Option.mem_map.1 hn
  have hle := Parsed.le_of_checkRange h hfield hk
  unfold maxBigint at hle
  show 0 ≤ (k : Int) ∧ (k : Int) ≤ 2 ^ 63 - 1
  omega

end Envelope

theorem isBigint_zero : IsBigint 0 := ⟨Int.le_refl 0, by decide⟩

theorem isBigint_getD {n : Option Int} (h : ∀ k ∈ n, IsBigint k) :
    IsBigint (n.getD 0) := by
  cases n with
  | none => exact isBigint_zero
  | some k => exact h k rfl

namespace Transaction

theorem fitsColumns_placeholder (txId : String) :
    (placeholder txId).FitsColumns where
  nonce := isBigint_zero
  gasLimit := isBigint_zero
  chainId := by simp [placeholder]
  gasUsed := by simp [placeholder]
  type := ⟨Int.le_refl 0, Int.zero_le_ofNat 4⟩
  status := Status.code_mem _

theorem fitsColumns_of_decode {raw : RawEnvelope} {txId : String}
    {gasUsed : Option Int} {tx : Transaction}
    (hgas : ∀ n ∈ gasUsed, IsBigint n) (h : decode raw txId gasUsed = .ok tx) :
    tx.FitsColumns := by
  obtain ⟨envelope, -, hdecoded⟩ := exists_of_bind_eq_ok h
  obtain ⟨parsed, sender, hparsed, hrange, -, rfl⟩ :=
    ofEnvelope_eq_ok_iff.1 hdecoded
  have hnumber : ∀ field ∈ Envelope.Parsed.boundedFields,
      ∀ n ∈ (parsed.number? field).map Int.ofNat, IsBigint n :=
    fun field hfield n hn => Envelope.Parsed.isBigint_number hrange hfield hn
  have htype := (Envelope.eq_bytes_of_parse hparsed).1
  exact {
    nonce := isBigint_getD (hnumber .nonce (by decide))
    gasLimit := isBigint_getD (hnumber .gasLimit (by decide))
    chainId := hnumber .chainId (by decide)
    gasUsed := hgas
    type := ⟨Int.natCast_nonneg _, Int.ofNat_le.2 htype⟩
    status := Status.code_mem _ }

theorem FitsColumns.withExecution {tx : Transaction} (h : tx.FitsColumns)
    {execution : Option Execution}
    (hgas : ∀ e ∈ execution, e.gasUsed ≤ Execution.maxGas) :
    (tx.withExecution execution).FitsColumns := by
  cases execution with
  | none => exact h
  | some execution =>
      have hle := hgas execution rfl
      unfold Execution.maxGas at hle
      refine { h with gasUsed := ?_, status := Status.code_mem _ }
      rintro _ ⟨⟩
      unfold IsBigint
      omega

theorem FitsColumns.withSignature {tx : Transaction} (h : tx.FitsColumns)
    (signature : String) : (tx.withSignature signature).FitsColumns := by
  unfold Transaction.withSignature
  split
  · exact h
  · exact { h with }

end Transaction

/-! ## The outcome -/

namespace Outcome

variable {item : PendingItem} {known : List String} {response : Option String}
  {outcome : Outcome}

theorem Built.fitsColumns (h : Built item known response outcome)
    (hgas : ∀ n ∈ item.gasUsed, IsBigint n) :
    outcome.transaction.FitsColumns := by
  cases h with
  | placeholder => exact Transaction.fitsColumns_placeholder item.txId
  | assembled signature hdecode hassemble =>
      rw [transaction_of_assemble hassemble]
      have hdecoded := Transaction.fitsColumns_of_decode hgas hdecode
      refine (hdecoded.withExecution fun execution hexecution => ?_).withSignature
        signature
      obtain ⟨read, hread, rfl⟩ := Option.map_eq_some_iff.1 hexecution
      have hle := Execution.gasUsed_le_of_decode hread
      exact hle

theorem Built.isInteger_index (h : Built item known response outcome)
    (hlength : ∀ read, Execution.decode (response.map .text) = some read →
      read.logs.length < 2 ^ 31) {log : Log} (hlog : log ∈ outcome.logs) :
    IsInteger log.index := by
  rcases h.logs_cases with ⟨hnone, -⟩ | ⟨read, hread, hlogs, -⟩
  · rw [hnone] at hlog
    cases hlog
  · rw [hlogs] at hlog
    obtain ⟨unbound, hunbound, rfl⟩ := List.mem_map.1 hlog
    have hcount : read.logs.length ≤ Execution.maxIndex + 1 :=
      Nat.le_of_lt (hlength read hread)
    have hbounds := Execution.index_of_decode hread hcount hunbound
    unfold Execution.maxIndex at hbounds
    show 0 ≤ unbound.index ∧ unbound.index ≤ 2 ^ 31 - 1
    omega

open Work

variable {around : Surroundings} {store : Store}

/-- Whatever the envelope and the response are: if the gas that the ledger
reports fits its column, so does every number of the outcome. -/
theorem build_fits_columns (item : PendingItem) (known : Option (List String))
    (hgas : ∀ n ∈ item.gasUsed, 0 ≤ n ∧ n ≤ 2 ^ 63 - 1)
    (hread : around.faults store.journal.length (.selectResponse item.txId) =
      none) :
    ∃ outcome known' after,
      (build item known).run around store = (.ok (outcome, known'), after) ∧
      outcome.transaction.FitsColumns ∧
      ((∀ read, Execution.decode
          ((store.responses.lookup item.txId).map .text) = some read →
            read.logs.length < 2 ^ 31) →
        (∀ log ∈ outcome.logs, IsInteger log.index) ∧
        ∀ transfer ∈ outcome.transfers, IsInteger transfer.logIndex) := by
  obtain ⟨outcome, known', after, hrun, hbuilt⟩ := exists_built item known hread
  refine ⟨outcome, known', after, hrun, hbuilt.fitsColumns hgas,
    fun hlength => ⟨fun log => hbuilt.isInteger_index hlength, ?_⟩⟩
  intro transfer htransfer
  obtain ⟨-, log, hlog, hindex⟩ :=
    hbuilt.fromItem.recognized.transfers transfer htransfer
  rw [← hindex]
  exact hbuilt.isInteger_index hlength hlog

/-- A creation whose gas, in the ledger and in the response, and whose only log's
index are the greatest that fit. -/
theorem build_fits_columns_greatest :
    let item : PendingItem := { creation with gasUsed := some (2 ^ 63 - 1) }
    let response := "122b0a154d7367457468657265756d5478526573706f6e73651212120640" ++
      "ffffffff0728ffffffffffffffff7f"
    let store : Store := { responses := [(item.txId, response)] }
    (∀ n ∈ item.gasUsed, 0 ≤ n ∧ n ≤ 2 ^ 63 - 1) ∧
    (∃ read, Execution.decode (some (.text response)) = some read ∧
      read.gasUsed = 2 ^ 63 - 1 ∧ read.logs.map (·.index) = [2 ^ 31 - 1]) ∧
    ∃ outcome known' after,
      (build item none).run {} store = (.ok (outcome, known'), after) ∧
      outcome.transaction.FitsColumns ∧
      ∀ log ∈ outcome.logs, IsInteger log.index := by
  intro item response store
  have hgas : ∀ n ∈ item.gasUsed, 0 ≤ n ∧ n ≤ 2 ^ 63 - 1 := by
    rintro _ ⟨⟩
    decide
  have hlogs : (Execution.decode (some (.text response))).map
      (fun read => (read.gasUsed, read.logs.map (·.index))) =
        some (2 ^ 63 - 1, [2 ^ 31 - 1]) := by decide +kernel
  obtain ⟨read, hread, hpair⟩ := Option.map_eq_some_iff.1 hlogs
  obtain ⟨hused, hindexes⟩ := Prod.mk.inj hpair
  obtain ⟨outcome, known', after, hrun, hfits, hindex⟩ :=
    @build_fits_columns {} store item none hgas rfl
  refine ⟨hgas, ⟨read, hread, hused, hindexes⟩, outcome, known', after, hrun, hfits,
    (hindex fun other hother => ?_).1⟩
  have hlookup : (store.responses.lookup item.txId).map RawResponse.text =
      some (.text response) := rfl
  rw [hlookup, hread] at hother
  cases hother
  have hcount := congrArg List.length hindexes
  rw [List.length_map] at hcount
  rw [hcount]
  decide

end Outcome

end EvmIndexer
