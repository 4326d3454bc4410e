import EvmIndexer.Proofs.Repair.Chunks
import EvmIndexer.Proofs.Token.Splitting

/-!
# The size of chunks makes no difference

For rows of one kind there is nothing to it, since the rows of a chunk are those of its
candidates one by one. The transfers have tokens beside them. A chunk begins without
any tokens, so its transaction has the token of every transfer in it, and a token that
earlier chunks brought comes again. A chunk takes the first token of an address and
leaves the others out, and so does the table. Therefore the tables in the end are those
that the tokens of all candidates leave, one after the other.

A creation that no contract can be derived of ends its phase, and then the size does
make a difference: what earlier chunks have written stays.
-/

namespace EvmIndexer

/-- Between two stores a question was sent, and then transfers were: in transactions with
at least one transfer and at most so many, and with tokens in front of them that the
addresses of these transfers are among. -/
def Store.WroteTransfers (before after : Store) (question : Statement) (size : Nat)
    (transfers : List Transfer) : Prop :=
  ∃ batches : List Recognition, batches.flatMap (·.transfers) = transfers ∧
    (∀ batch ∈ batches, batch.transfers ≠ [] ∧ batch.transfers.length ≤ size ∧
      ∀ transfer ∈ batch.transfers, transfer.tokenAddress ∈ batch.tokenAddresses) ∧
    before.Adds after (.statement question :: batches.flatMap fun batch =>
      Event.transaction [.insertToken batch.tokens, .insertTransfer batch.transfers])

namespace Repair

open Work Database

variable {around : Surroundings} {store : Store} {repair : Repair}

/-! ## Transfers and their tokens -/

/-- The token of the emitter, if the log announces a transfer. -/
def tokenOf? (repair : Repair) (row : Candidate.Unmoved) : Option Token :=
  (Recognition.emitter? repair.event row.log).map (.firstSeen row.txId row.height)

/-- The transfer that the log announces. -/
def transferOf? (repair : Repair) (row : Candidate.Unmoved) : Option Transfer :=
  row.log.transfer? repair.event

/-- A row adds its token to those of the chunk as it would be added to a table. -/
theorem tokens_addUnmoved {found : Recognition} (row : Candidate.Unmoved)
    (hlower : found.tokenAddresses.map Text.lower = found.tokenAddresses) :
    (repair.addUnmoved found row).tokens =
      (repair.tokenOf? row).toList.foldl (insertNew (·.address)) found.tokens := by
  have hmore : (repair.addUnmoved found row).tokens = found.tokens ++
      (([row.log].filterMap (Recognition.emitter? repair.event)).removeAll
        found.tokenAddresses).eraseDups.map (.firstSeen row.txId row.height) := by
    show found.tokens ++ (Recognition.ofLogs repair.event row.txId row.height
      found.tokenAddresses [row.log]).tokens = _
    rw [Recognition.tokens_ofLogs, Recognition.emitters_ofLogs, hlower]
  rw [hmore, tokenOf?, List.filterMap_cons, List.filterMap_nil]
  cases Recognition.emitter? repair.event row.log with
  | none => exact List.append_nil _
  | some address =>
      show _ = insertNew (·.address) found.tokens (.firstSeen row.txId row.height address)
      by_cases hmet : address ∈ found.tokenAddresses
      · have hany : found.tokens.any (fun token => token.address == address) = true := by
          obtain ⟨token, htoken, haddress⟩ := List.mem_map.1 hmet
          exact List.any_eq_true.2 ⟨token, htoken, beq_iff_eq.2 haddress⟩
        rw [insertNew_of_any hany]
        simp [List.removeAll, hmet]
      · have hnew : ¬ found.tokens.any (fun token => token.address == address) = true := by
          intro hany
          obtain ⟨token, htoken, haddress⟩ := List.any_eq_true.1 hany
          exact hmet (List.mem_map.2 ⟨token, htoken, beq_iff_eq.1 haddress⟩)
        rw [insertNew_of_not_any hnew]
        simp [List.removeAll, hmet, List.eraseDups_cons]

/-- The tokens of a chunk are those of its rows, the first of every address. -/
theorem tokens_recognizeChunk (repair : Repair) (chunk : List Candidate.Unmoved) :
    (repair.recognizeChunk chunk).tokens =
      (chunk.filterMap repair.tokenOf?).foldl (insertNew (·.address)) [] := by
  have hfolded : ∀ found : Recognition,
      found.tokenAddresses.map Text.lower = found.tokenAddresses →
      (chunk.foldl repair.addUnmoved found).tokens =
        (chunk.filterMap repair.tokenOf?).foldl (insertNew (·.address)) found.tokens := by
    induction chunk with
    | nil => exact fun _ _ => rfl
    | cons row rest ih =>
        intro found hlower
        have hadded := @tokens_addUnmoved repair found row hlower
        rw [List.foldl_cons, ih, hadded, List.filterMap_cons]
        · cases repair.tokenOf? row <;> rfl
        · show ((found.tokens ++ _).map (·.address)).map Text.lower = (found.tokens ++ _).map _
          rw [List.map_append, List.map_append]
          exact congrArg₂ (· ++ ·) hlower (Recognition.map_lower_tokenAddresses _ _ _ _ _)
  exact hfolded {} rfl

/-- The table of the tokens is told by the rows, however they are cut into chunks. -/
theorem insertTokens_chunks (rows : List Candidate.Unmoved) (db : Database) :
    db.insertTokens ((chunks repair.size rows).flatMap fun chunk =>
      (repair.recognizeChunk chunk).tokens) =
        db.insertTokens (rows.filterMap repair.tokenOf?) := by
  have hcut : ∀ (pieces : List (List Candidate.Unmoved)) (old : List Token),
      (pieces.flatMap fun piece => (repair.recognizeChunk piece).tokens).foldl
          (insertNew (·.address)) old =
        (pieces.flatMap fun piece => piece.filterMap repair.tokenOf?).foldl
          (insertNew (·.address)) old := by
    intro pieces
    induction pieces with
    | nil => exact fun _ => rfl
    | cons piece rest ih =>
        intro old
        rw [List.flatMap_cons, List.flatMap_cons, List.foldl_append, List.foldl_append, ih,
          tokens_recognizeChunk, insertAll_insertAll]
        rfl
  rw [insertTokens, insertTokens, hcut, flatMap_chunks_filterMap]

theorem performs_transferChunk (h : around.Faultless) (chunk : List Candidate.Unmoved) :
    (repair.transferChunk chunk).Performs around store
      (repair.recognizeChunk chunk).transfers.length
      (if (repair.recognizeChunk chunk).transfers.isEmpty then [] else
        Event.transaction [.insertToken (repair.recognizeChunk chunk).tokens,
          .insertTransfer (repair.recognizeChunk chunk).transfers]) := by
  unfold transferChunk
  show Performs (if _ then _ else _) _ _ _ _
  split
  · next hempty =>
      rw [List.isEmpty_iff.1 hempty]
      exact Performs.pure
  · have hsent := @performs_transaction around store h
      [.insertToken (repair.recognizeChunk chunk).tokens,
        .insertTransfer (repair.recognizeChunk chunk).transfers]
    rw [sendAll_pair] at hsent
    exact hsent.map rfl

theorem run_transfers (h : around.Faultless) (hsize : 0 < repair.size)
    (rows : List Candidate.Unmoved) :
    ∃ after, (repair.transfers rows).run around store =
        (.ok (rows.filterMap repair.transferOf?).length, after) ∧
      after.tables = store.tables.insertFound
        ⟨rows.filterMap repair.tokenOf?, rows.filterMap repair.transferOf?⟩ ∧
      store.WroteTransfers after (.selectMissingTransfers repair.event repair.transferLimit)
        repair.size (rows.filterMap repair.transferOf?) := by
  have htransfers := transfers_chunks repair rows
  obtain ⟨after, hrun, hadds⟩ := @run_phase around store repair _ _ h
    (.selectMissingTransfers repair.event repair.transferLimit) rows _ repair.recognizeChunk
    (·.transfers.length) (·.transfers.isEmpty)
    (fun found => [.insertToken found.tokens, .insertTransfer found.transfers])
    fun chunk _ _ => performs_transferChunk h chunk
  rw [total_map_length fun chunk => (repair.recognizeChunk chunk).transfers, htransfers] at hrun
  refine ⟨after, hrun, ?_, _, ?_, fun batch hbatch => ?_, hadds⟩
  · have htables := ((yields_transfers h rows).of_run_ok hrun).2.1
    rw [htables, insertFound, insertFound, htransfers, insertTokens_chunks]
    rfl
  · have hskipped : ∀ batches : List Recognition,
        (batches.filter fun batch => !batch.transfers.isEmpty).flatMap (·.transfers) =
          batches.flatMap (·.transfers) := by
      intro batches
      induction batches with
      | nil => rfl
      | cons batch rest ih =>
          rw [List.filter_cons, List.flatMap_cons, ← ih]
          cases hbatch : batch.transfers with
          | nil => rfl
          | cons transfer more => exact congrArg (· ++ _) hbatch
    rw [hskipped, List.flatMap_map]
    exact htransfers
  · obtain ⟨hmem, hnonempty⟩ := List.mem_filter.1 hbatch
    obtain ⟨chunk, hchunk, rfl⟩ := List.mem_map.1 hmem
    have hlength : (repair.recognizeChunk chunk).transfers.length ≤ chunk.length := by
      rw [transfers_recognizeChunk]
      exact List.length_filterMap_le _ _
    refine ⟨by simpa using hnonempty, Nat.le_trans hlength (length_chunk hsize hchunk).2, ?_⟩
    exact (moved_recognizeChunk repair chunk).covered

/-! ## Creations that a contract can be derived of -/

/-- Whether a contract can be derived of a creation: the nonce is one, the creator is an
address, and the code, if there is any, is hexadecimal text. -/
structure Derivable (row : Candidate.Creation) : Prop where
  nonce : 0 ≤ row.nonce
  creator : (Address.ofText? row.creator).isSome = true
  code : ∀ code ∈ row.code, ∃ content, Contract.codeBytes code = .ok content

theorem exists_codeHash?_iff {code : Option String} :
    (∃ hash, Contract.codeHash? code = .ok hash) ↔
      ∀ text ∈ code, ∃ content, Contract.codeBytes text = .ok content := by
  unfold Contract.codeHash?
  split
  · simp
  · exact iff_of_true ⟨none, rfl⟩ (by rintro _ ⟨⟩; exact ⟨[], rfl⟩)
  · exact iff_of_true ⟨none, rfl⟩ (by rintro _ ⟨⟩; exact ⟨[], rfl⟩)
  · exact iff_of_true ⟨none, rfl⟩ (by rintro _ ⟨⟩; exact ⟨[], rfl⟩)
  · next text _ _ _ =>
      constructor
      · rintro ⟨hash, hhash⟩ _ ⟨⟩
        obtain ⟨content, hcontent, -⟩ := exists_of_bind_eq_ok hhash
        exact ⟨content, hcontent⟩
      · intro hread
        obtain ⟨content, hcontent⟩ := hread text rfl
        rw [hcontent]
        exact ⟨_, rfl⟩

theorem exists_contract_iff {row : Candidate.Creation} :
    (∃ contract, row.contract = .ok contract) ↔ Derivable row := by
  constructor
  · rintro ⟨contract, hcontract⟩
    obtain ⟨address, haddress, hrest⟩ := exists_of_bind_eq_ok hcontract
    obtain ⟨hash, hhash, -⟩ := exists_of_bind_eq_ok hrest
    unfold Contract.derive at haddress
    split at haddress
    · cases haddress
    · next hnonce =>
        split at haddress
        · next creator hcreator =>
            exact ⟨Int.not_lt.1 hnonce, by rw [hcreator]; rfl,
              exists_codeHash?_iff.1 ⟨hash, hhash⟩⟩
        · cases haddress
  · intro hrow
    obtain ⟨creator, hcreator⟩ := Option.isSome_iff_exists.1 hrow.creator
    obtain ⟨hash, hhash⟩ := exists_codeHash?_iff.2 hrow.code
    rw [Candidate.Creation.contract, Contract.ofCreation, Contract.derive,
      if_neg (Int.not_lt.2 hrow.nonce), hcreator, hhash]
    exact ⟨_, rfl⟩

/-! ## All sizes -/

/-- Whatever the size of the chunks, a phase that meets no fault sends the same rows in
the same order and ends with the same count. Contracts and tokens: one for each
candidate, the tokens with what is known of them, which is nothing where asking failed.
What is known of tokens: one for each address of which something is known. Transfers:
those that the candidates announce; the tables in the end are the same, and every
transfer has its token in its own transaction. -/
theorem size_invisible (repair : Repair) (around : Surroundings) (store : Store)
    (size : Nat) (h : around.Faultless) (hsize : 0 < size) :
    let cut : Repair := { repair with size := size }
    (∀ rows : List Candidate.Creation, (∀ row ∈ rows, Derivable row) →
      ∃ contracts after, rows.map Candidate.Creation.contract = contracts.map .ok ∧
        (cut.contracts rows).run around store = (.ok rows.length, after) ∧
        store.Wrote after .selectMissingContracts .insertContract size contracts) ∧
    (∀ rows : List Candidate.Emitter,
      ∃ after, (cut.tokens rows).run around store = (.ok rows.length, after) ∧
        store.Wrote after (.selectMissingTokens repair.event) .upsertToken size
          (rows.map fun row => row.token (repair.known row.address))) ∧
    (∀ source addresses, repair.metadata = some source →
      ∃ after, (cut.metadataOf addresses).run around store =
          (.ok (repair.knownRows addresses).length, after) ∧
        store.Wrote after .selectMissingMetadata .fillMetadata size
          (repair.knownRows addresses)) ∧
    ∀ rows : List Candidate.Unmoved,
      ∃ after, (cut.transfers rows).run around store =
          (.ok (rows.filterMap repair.transferOf?).length, after) ∧
        after.tables = store.tables.insertFound
          ⟨rows.filterMap repair.tokenOf?, rows.filterMap repair.transferOf?⟩ ∧
        store.WroteTransfers after
          (.selectMissingTransfers repair.event repair.transferLimit) size
          (rows.filterMap repair.transferOf?) := by
  intro cut
  refine ⟨fun rows hrows => ?_, fun rows => ?_, fun source addresses hsource => ?_,
    fun rows => ?_⟩
  · have hcontract : ∀ row ∈ rows, ∃ contract, row.contract = .ok contract :=
      fun row hrow => exists_contract_iff.2 (hrows row hrow)
    have : Nonempty Contract := ⟨⟨"", "", "", none, none⟩⟩
    choose! contract hderived using hcontract
    obtain ⟨after, hrun, hwrote⟩ := @run_contracts around store cut h hsize rows contract hderived
    refine ⟨rows.map contract, after, ?_, hrun, hwrote⟩
    rw [List.map_map]
    exact List.map_congr_left hderived
  · exact @run_tokens around store cut h hsize rows
  · exact @run_metadataOf around store cut h hsize source hsource addresses
  · exact @run_transfers around store cut h hsize rows

/-- A log of a token at one address that announces a transfer. -/
def announced (txId : String) : Candidate.Unmoved :=
  let word := String.ofList (List.replicate 64 '0')
  ⟨txId, 0, "0xAB", ["0xDD", word, word], none, none⟩

/-- A creation with some code. -/
def creationWith (txId code : String) : Candidate.Creation :=
  ⟨txId, "0x6AC7ea33f8831ea9dcc53393aaa88b25a785dbf0", 0, some code, none⟩

/-- Two transfers of one token and two creations, each in a chunk of its own. -/
theorem size_invisible_one :
    let repair : Repair := { size := 1, event := "0xdd" }
    (∃ contracts after, contracts.length = 2 ∧
      (repair.contracts [creationWith "first" "0x6080", creationWith "second" "0x"]).run
        {} {} = (.ok 2, after) ∧
      Store.Wrote {} after .selectMissingContracts .insertContract 1 contracts) ∧
    ∃ after, (repair.transfers [announced "first", announced "second"]).run {} {} =
        (.ok 2, after) ∧
      after.tables.tokens.map (·.firstSeenTx) = [some "first"] ∧
      after.tables.transfers.map (·.txId) = ["first", "second"] := by
  intro repair
  obtain ⟨hcontracts, -, -, htransfers⟩ :=
    size_invisible repair {} {} 1 (fun _ _ => rfl) (by decide)
  constructor
  · have hcreator : (Address.ofText? (creationWith "" "").creator).isSome = true := by
      decide +kernel
    have hcode : ∀ text content, Contract.codeBytes text = .ok content →
        ∀ txId, Derivable (creationWith txId text) := by
      intro text content hread txId
      refine ⟨Int.le_refl 0, hcreator, ?_⟩
      rintro _ ⟨⟩
      exact ⟨content, hread⟩
    obtain ⟨contracts, after, hcreated, hrun, hwrote⟩ :=
      hcontracts [creationWith "first" "0x6080", creationWith "second" "0x"] (by
        intro row hrow
        simp only [List.mem_cons, List.not_mem_nil, or_false] at hrow
        rcases hrow with rfl | rfl
        · exact hcode "0x6080" [0x60, 0x80] rfl _
        · exact hcode "0x" [] rfl _)
    have hlength := congrArg List.length hcreated
    rw [List.length_map, List.length_map] at hlength
    exact ⟨contracts, after, hlength.symm, hrun, hwrote⟩
  · obtain ⟨after, hrun, htables, -⟩ := htransfers [announced "first", announced "second"]
    have hcount : ([announced "first", announced "second"].filterMap
        repair.transferOf?).length = 2 := by decide +kernel
    rw [hcount] at hrun
    refine ⟨after, hrun, ?_, ?_⟩
    · rw [htables]
      decide +kernel
    · rw [htables]
      decide +kernel

/-- A creation whose code is no hexadecimal text ends the phase, and what is left behind
shows the size: the creation before it has been written or not. -/
theorem size_visible_unreadable :
    let rows := [creationWith "first" "0x6080", creationWith "second" "0xzz"]
    (∀ row ∈ rows, 0 ≤ row.nonce ∧ (Address.ofText? row.creator).isSome = true) ∧
    ((Repair.contracts { size := 1 } rows).run {} {}).1 = .error (.contract .badDigits) ∧
    ((Repair.contracts { size := 2 } rows).run {} {}).1 = .error (.contract .badDigits) ∧
    ((Repair.contracts { size := 1 } rows).run {} {}).2.tables.contracts.length = 1 ∧
    ((Repair.contracts { size := 2 } rows).run {} {}).2.tables.contracts.length = 0 := by
  intro rows
  have hone : chunks 1 rows =
      [[creationWith "first" "0x6080"], [creationWith "second" "0xzz"]] := by
    simp [rows, chunks]
  have htwo : chunks 2 rows = [rows] := by simp [rows, chunks]
  unfold contracts inChunks
  rw [hone, htwo]
  decide +kernel

end Repair

end EvmIndexer
