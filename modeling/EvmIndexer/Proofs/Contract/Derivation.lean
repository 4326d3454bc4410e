import EvmIndexer.Outcome.Basic
import EvmIndexer.Proofs.Bytes.Hex

/-!
# The contract of a decoded transaction can be derived

Deriving a contract may fail, on a creator that is no address or on code that is
no hexadecimal text. Neither is possible for a transaction that was decoded: its
sender is twenty bytes out of a hash, written with a checksum, and its data was
written by the decoder. So a failure to derive a contract never stands between a
decoded transaction and its rows.
-/

namespace EvmIndexer

/-! ## The creator -/

theorem length_keccak256 (message : Bytes) : (keccak256 message).length = 32 :=
  rfl

namespace Address

theorem length_ofPublicKey (key : Nat × Nat) :
    (ofPublicKey key).length = size := by
  rw [ofPublicKey, List.length_drop, length_keccak256]
  rfl

theorem checksummed_ne_empty (address : Bytes) : checksummed address ≠ "" := by
  intro hempty
  have hlist := congrArg String.toList hempty
  rw [checksummed, String.toList_ofList] at hlist
  cases hlist

theorem map_digit?_zipWith {digits : List Char} {marks : List Nat}
    (hdigits : ∀ c ∈ digits, ∃ n, n < 16 ∧ c = Nat.digitChar n)
    (hmarks : digits.length ≤ marks.length) :
    (List.zipWith (fun c m => if 8 ≤ m then c.toUpper else c) digits marks).map
      Bytes.Hex.digit? = digits.map Bytes.Hex.digit? := by
  induction digits generalizing marks with
  | nil => rfl
  | cons c rest ih =>
      cases marks with
      | nil => simp at hmarks
      | cons m marks =>
          obtain ⟨n, hn, rfl⟩ := hdigits c (by simp)
          have hrest := ih (fun d hd => hdigits d (by simp [hd]))
            (Nat.le_of_succ_le_succ hmarks)
          rw [List.zipWith_cons_cons, List.map_cons, List.map_cons, hrest]
          split
          · rw [Bytes.Hex.digit?_toUpper_digitChar hn,
              Bytes.Hex.digit?_digitChar hn]
          · rfl

theorem map_digit?_checksumDigits {address : Bytes}
    (h : address.length = size) :
    (checksumDigits address).map Bytes.Hex.digit? =
      (Bytes.Hex.write address).map Bytes.Hex.digit? := by
  refine map_digit?_zipWith (fun c hc => Bytes.Hex.exists_of_mem_write hc) ?_
  rw [Bytes.Hex.length_write, h]
  simp [List.length_flatMap, List.map_const', length_keccak256, size]

/-- The checksum is in the case of the letters alone. -/
theorem spells_checksumDigits {address : Bytes} (h : address.length = size) :
    Bytes.Hex.Spells (checksumDigits address) address := by
  apply Bytes.Hex.spells_of_read
  rw [Bytes.Hex.read_congr (map_digit?_checksumDigits h), Bytes.Hex.read_write]

/-- An address is read from its digits in any case, with a mark or without. -/
theorem ofText?_of_spells {mark digits : List Char} {address : Bytes}
    (hmark : mark ∈ Bytes.Hex.marks) (hdigits : Bytes.Hex.Spells digits address)
    (h : address.length = size) :
    ofText? (String.ofList (mark ++ digits)) = some address := by
  have hlength : digits.length = 2 * size := by rw [hdigits.length_eq, h]
  have hdropped := hdigits.apart.dropMark_eq hmark
  simp only [ofText?, String.toList_ofList, hdropped, hlength, if_true]
  exact hdigits.read_eq

/-- An address that was written with its checksum is read back. -/
theorem ofText?_checksummed {address : Bytes} (h : address.length = size) :
    ofText? (checksummed address) = some address :=
  @ofText?_of_spells ['0', 'x'] _ _ (by decide) (spells_checksumDigits h) h

end Address

/-! ## The code -/

namespace Contract

theorem codeBytes_marked (content : Bytes) :
    codeBytes (Bytes.Hex.marked content) = .ok content := by
  have htext : (Bytes.Hex.marked content).toList =
      '0' :: 'x' :: Bytes.Hex.write content := String.toList_ofList
  have hascii : ('0' :: 'x' :: Bytes.Hex.write content).any
      (fun c => 128 ≤ c.toNat) = false := by
    rw [List.any_eq_false]
    intro c hc
    rcases List.mem_cons.1 hc with rfl | hc
    · decide
    · rcases List.mem_cons.1 hc with rfl | hc
      · decide
      · obtain ⟨n, hn, rfl⟩ := Bytes.Hex.exists_of_mem_write hc
        have := Bytes.Hex.toNat_digitChar_lt hn
        simp only [decide_eq_true_eq]
        omega
  have hread : Bytes.Hex.readPadded ('0' :: 'x' :: Bytes.Hex.write content) =
      some content := by
    have heven : ¬ ('0' :: 'x' :: Bytes.Hex.write content).length % 2 = 1 := by
      rw [List.length_cons, List.length_cons, Bytes.Hex.length_write]
      omega
    rw [Bytes.Hex.readPadded, if_neg heven]
    exact Bytes.Hex.read_write content
  unfold codeBytes
  rw [htext, hascii, hread]
  rfl

/-- The code is hashed as the bytes that were written, if there are any. -/
theorem codeHash?_marked (content : Bytes) :
    codeHash? (some (Bytes.Hex.marked content)) =
      .ok (if content = [] then none else some (Bytes.Hex.marked (keccak256 content))) := by
  by_cases hempty : content = []
  · subst hempty
    rfl
  · have hlength := Bytes.Hex.length_marked content
    have hpos := List.length_pos_iff.2 hempty
    have hlong : ∀ text : String, text.length ≤ 2 → Bytes.Hex.marked content ≠ text := by
      rintro text htext rfl
      omega
    rw [if_neg hempty]
    unfold codeHash?
    split
    · next heq => cases heq
    · next heq => exact absurd (Option.some.inj heq) (hlong "" (by decide))
    · next heq => exact absurd (Option.some.inj heq) (hlong "0x" (by decide))
    · next heq => exact absurd (Option.some.inj heq) (hlong "0X" (by decide))
    · next code _ _ _ heq =>
        obtain rfl := Option.some.inj heq
        rw [codeBytes_marked]
        rfl

end Contract

/-! ## Decoded transactions -/

/-- The parts of a transaction that its contract is derived from are as the
decoder writes them. -/
structure Transaction.Derivable (tx : Transaction) : Prop where
  nonce : 0 ≤ tx.nonce
  sender : ∃ address : Bytes,
    address.length = Address.size ∧ tx.sender = Address.checksummed address
  data : ∃ content, tx.data = some (Bytes.Hex.marked content)

theorem Envelope.Parsed.length_of_sender? {parsed : Parsed} {sender : Bytes}
    (h : parsed.sender? = some sender) : sender.length = Address.size := by
  simp only [sender?, Option.bind_eq_bind, Option.bind_eq_some_iff,
    Option.pure_def, Option.some.injEq] at h
  obtain ⟨_, -, _, -, _, -, key, -, rfl⟩ := h
  exact Address.length_ofPublicKey key

theorem Transaction.derivable_ofParsed {txId : String} {gasUsed : Option Int}
    {envelope : Bytes} {parsed : Envelope.Parsed} {sender : Bytes}
    (h : parsed.sender? = some sender) :
    (ofParsed txId gasUsed envelope parsed sender).Derivable where
  nonce := by
    show 0 ≤ ((parsed.number? .nonce).map Int.ofNat).getD 0
    cases parsed.number? .nonce with
    | none => exact Int.le_refl 0
    | some n => exact Int.natCast_nonneg n
  sender := ⟨sender, Envelope.Parsed.length_of_sender? h, rfl⟩
  data := ⟨parsed.data, rfl⟩

theorem Transaction.Derivable.withExecution {tx : Transaction}
    (h : tx.Derivable) (execution : Option Execution) :
    (tx.withExecution execution).Derivable := by
  cases execution with
  | none => exact h
  | some execution => exact ⟨h.nonce, h.sender, h.data⟩

theorem Transaction.Derivable.withSignature {tx : Transaction}
    (h : tx.Derivable) (signature : String) :
    (tx.withSignature signature).Derivable := by
  unfold Transaction.withSignature
  split
  · exact h
  · exact ⟨h.nonce, h.sender, h.data⟩

/-- The creator can be read back and the nonce is one. -/
theorem Transaction.Derivable.exists_address {tx : Transaction}
    (h : tx.Derivable) :
    ∃ address, Contract.derive tx.sender tx.nonce = .ok address := by
  obtain ⟨address, hlength, hsender⟩ := h.sender
  rw [Contract.derive, if_neg (Int.not_lt.2 h.nonce), hsender,
    Address.ofText?_checksummed hlength]
  exact ⟨_, rfl⟩

theorem Transaction.Derivable.exists_codeHash {tx : Transaction}
    (h : tx.Derivable) : ∃ hash, Contract.codeHash? tx.data = .ok hash := by
  obtain ⟨content, hdata⟩ := h.data
  rw [hdata, Contract.codeHash?_marked]
  exact ⟨_, rfl⟩

theorem Transaction.Derivable.exists_contract {tx : Transaction}
    (h : tx.Derivable) (height : Option Int) :
    ∃ contract, Contract.ofTransaction? tx height = .ok contract := by
  obtain ⟨address, haddress⟩ := h.exists_address
  obtain ⟨hash, hhash⟩ := h.exists_codeHash
  unfold Contract.ofTransaction? Contract.ofCreation
  split
  · rw [haddress, hhash]
    exact ⟨_, rfl⟩
  · exact ⟨none, rfl⟩

end EvmIndexer
