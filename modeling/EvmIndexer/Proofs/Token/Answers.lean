import EvmIndexer.Proofs.Bytes.Number
import EvmIndexer.Proofs.Rlp.RoundTrip
import EvmIndexer.Proofs.Token.Metadata

/-!
# Answers that are read back

A contract that answers in one of the two forms is understood: what it says of its
name and symbol is what is known afterwards, less the zeros and the blanks around. The
first form takes one round of calls. For the second the first round has to come to
nothing, and it does for any word whatever: text of any length would have to begin
inside the word that tells where it begins.

Writing is the other side of `Abi.readText`, `Abi.readFixed` and `Abi.readNumber`. A
length has to fit its word, so a text of `2 ^ 256` bytes or more has no such form.
-/

namespace EvmIndexer

namespace Abi

/-! ## Writing -/

def writeNumber (n : Nat) : Bytes := Bytes.ofNatFixed wordSize n

/-- The bytes, filled up with zeros to so many. -/
def fillUp (size : Nat) (bs : Bytes) : Bytes :=
  bs ++ List.replicate (size - bs.length) 0

/-- A text in the form of any length. -/
def writeText (s : String) : Bytes :=
  writeNumber wordSize ++ (writeNumber (Bytes.ofText s).length ++
    fillUp (roundUp (Bytes.ofText s).length) (Bytes.ofText s))

/-- A text of at most 32 bytes in the form of one word. -/
def writeFixed (s : String) : Bytes := fillUp wordSize (Bytes.ofText s)

theorem le_roundUp (n : Nat) : n ≤ roundUp n := by
  unfold roundUp wordSize
  omega

theorem length_writeNumber (n : Nat) : (writeNumber n).length = wordSize :=
  Bytes.length_ofNatFixed wordSize n

theorem length_fillUp {size : Nat} {bs : Bytes} (h : bs.length ≤ size) :
    (fillUp size bs).length = size := by
  rw [fillUp, List.length_append, List.length_replicate]
  omega

/-! ## Reading what was written -/

theorem readWord_append {word : Bytes} (h : word.length = wordSize) (rest : Bytes) :
    readWord (word ++ rest) = some (Bytes.toNat word, rest) := by
  rw [readWord, ← h, Rlp.splitAt?_append]
  rfl

theorem readWord_writeNumber {n : Nat} (h : n < 2 ^ 256) (rest : Bytes) :
    readWord (writeNumber n ++ rest) = some (n, rest) := by
  have hfits : n < 256 ^ wordSize := h
  rw [readWord_append (length_writeNumber n), writeNumber, Bytes.toNat_ofNatFixed hfits]

theorem readNumber_writeNumber {n : Nat} (h : n < 2 ^ 256) :
    readNumber (writeNumber n) = some n := by
  have hword := readWord_writeNumber h []
  rw [List.append_nil] at hword
  rw [readNumber, hword]
  rfl

theorem readByte_writeNumber {n : Nat} (h : n < 2 ^ 256) :
    readByte (writeNumber n) = if n ≤ 255 then some n else none := by
  have hword := readWord_writeNumber h []
  rw [List.append_nil] at hword
  rw [readByte, hword]
  rfl

/-- Text of any length is read back. -/
theorem readText_writeText {s : String} (h : (Bytes.ofText s).length < 2 ^ 256) :
    readText (writeText s) = some s := by
  have hlength : (fillUp (roundUp (Bytes.ofText s).length) (Bytes.ofText s)).length =
      roundUp (Bytes.ofText s).length := length_fillUp (le_roundUp _)
  have hsplit := Rlp.splitAt?_append
    (fillUp (roundUp (Bytes.ofText s).length) (Bytes.ofText s)) []
  rw [hlength, List.append_nil] at hsplit
  have hbegins : ¬ (wordSize < wordSize ∨ (writeText s).length ≤ wordSize) := by
    rw [writeText, List.length_append, List.length_append, length_writeNumber,
      length_writeNumber]
    simp only [wordSize]
    omega
  have hdrop : (writeText s).drop wordSize = writeNumber (Bytes.ofText s).length ++
      fillUp (roundUp (Bytes.ofText s).length) (Bytes.ofText s) :=
    List.drop_left' (length_writeNumber _)
  have hoffset : readWord (writeText s) = some (wordSize, _) :=
    readWord_writeNumber (by decide) _
  rw [readText, hoffset]
  simp only [Option.bind_eq_bind, Option.bind_some]
  rw [if_neg hbegins, hdrop, readWord_writeNumber h, Option.bind_some, hsplit,
    Option.bind_some]
  simp only [fillUp, List.drop_left, List.take_left, List.all_replicate, beq_self_eq_true,
    ite_self]
  rw [if_pos (by simp), Bytes.toText?_ofText]

/-- No word is read as text of any length. -/
theorem readText_eq_none {answer : Bytes} (h : answer.length ≤ wordSize) :
    readText answer = none := by
  rw [readText]
  cases readWord answer with
  | none => rfl
  | some read =>
      simp only [Option.bind_eq_bind, Option.bind_some]
      exact if_pos (by omega)

theorem readFixed_writeFixed {s : String} (h : (Bytes.ofText s).length ≤ wordSize) :
    readFixed (writeFixed s) = some (writeFixed s) := by
  have hsplit := Rlp.splitAt?_append (writeFixed s) []
  rw [writeFixed, length_fillUp h, List.append_nil] at hsplit
  rw [readFixed, writeFixed, hsplit]
  rfl

/-- The zeros that fill up a word are dropped again, and only they: a text without
zeros is spelt without zero bytes. -/
theorem dropZeros_writeFixed {s : String} (h : '\x00' ∉ s.toList) :
    ((writeFixed s).reverse.dropWhile (· == 0)).reverse = Bytes.ofText s := by
  have hzeros : ∀ b ∈ List.replicate (wordSize - (Bytes.ofText s).length) (0 : UInt8),
      (b == 0) = true := fun b hb => by rw [List.eq_of_mem_replicate hb]; rfl
  have hkept : (Bytes.ofText s).reverse.dropWhile (· == 0) = (Bytes.ofText s).reverse := by
    refine List.dropWhile_eq_self_iff.2 fun hpos hzero => h ?_
    have hmem := List.getElem_mem hpos
    rw [beq_iff_eq.1 hzero, List.mem_reverse] at hmem
    exact Bytes.zero_mem_of_mem_ofText hmem
  rw [writeFixed, fillUp, List.reverse_append, List.reverse_replicate,
    List.dropWhile_append_of_pos hzeros, hkept, List.reverse_reverse]

end Abi

namespace Metadata

/-! ## What is kept of a text -/

/-- A text without its zeros, and then without the blanks around it. -/
def cleaned (s : String) : String :=
  Text.trim (String.ofList (s.toList.filter (· != '\x00')))

theorem cleaned_of_zero_not_mem {s : String} (h : '\x00' ∉ s.toList) :
    cleaned s = Text.trim s := by
  have hkept : s.toList.filter (· != '\x00') = s.toList :=
    List.filter_eq_self.2 fun c hc => bne_iff_ne.2 fun heq => h (heq ▸ hc)
  rw [cleaned, hkept, String.ofList_toList]

theorem normalizeText_text {s : String} (h : cleaned s ≠ "") :
    normalizeText (.text s) = some (cleaned s) := by
  rw [normalizeText]
  exact nonEmpty_eq_some_iff.2 ⟨rfl, h⟩

theorem normalizeText_writeFixed {s : String} (hzero : '\x00' ∉ s.toList)
    (h : cleaned s ≠ "") : normalizeText (.bytes (Abi.writeFixed s)) = some (cleaned s) := by
  rw [cleaned_of_zero_not_mem hzero] at h ⊢
  rw [normalizeText, Abi.dropZeros_writeFixed hzero, Bytes.toText?_ofText,
    Option.bind_eq_bind, Option.bind_some]
  exact nonEmpty_eq_some_iff.2 ⟨rfl, h⟩

/-! ## Contracts that answer in one of the forms -/

/-- The answer to the first call for a property. -/
def AnswersFirst (node : Node) (property : Property) (answer : Bytes) : Prop :=
  ∀ calls, property ∉ calls → node calls property = some answer

/-- The answer to every call for a property. -/
def AnswersAlways (node : Node) (property : Property) (answer : Bytes) : Prop :=
  ∀ calls, node calls property = some answer

section Calls

variable {node : Node} {property : Property} {calls : List Property} {s : String}

theorem askText_writeText (hlength : (Bytes.ofText s).length < 2 ^ 256)
    (h : cleaned s ≠ "") (hanswer : node calls property = some (Abi.writeText s)) :
    (askText node property calls).1 = some (cleaned s) := by
  show ((((node calls property).bind Abi.readText).map Value.text).bind normalizeText) = _
  rw [hanswer, Option.bind_some, Abi.readText_writeText hlength, Option.map_some,
    Option.bind_some, normalizeText_text h]

theorem askText_word {word : Bytes} (hword : word.length = Abi.wordSize)
    (hanswer : node calls property = some word) :
    (askText node property calls).1 = none := by
  show ((((node calls property).bind Abi.readText).map Value.text).bind normalizeText) = _
  rw [hanswer, Option.bind_some, Abi.readText_eq_none hword.le]
  rfl

theorem askFixedText_writeFixed (hzero : '\x00' ∉ s.toList)
    (hlength : (Bytes.ofText s).length ≤ Abi.wordSize) (h : cleaned s ≠ "")
    (hanswer : node calls property = some (Abi.writeFixed s)) :
    askFixedText node property calls = (some (cleaned s), calls ++ [property]) := by
  refine Prod.ext ?_ rfl
  show ((((node calls property).bind Abi.readFixed).map Value.bytes).bind normalizeText) = _
  rw [hanswer, Option.bind_some, Abi.readFixed_writeFixed hlength, Option.map_some,
    Option.bind_some, normalizeText_writeFixed hzero h]

theorem askDecimals_writeNumber {read : Bytes → Option Nat} {d : Nat} (hd : d ≤ 255)
    (hread : read (Abi.writeNumber d) = some d)
    (hanswer : node calls .decimals = some (Abi.writeNumber d)) :
    (askDecimals node read calls).1 = some (d : Int) := by
  show ((((node calls .decimals).bind read).map fun n : Nat => Value.number n).bind
    normalizeDecimals) = _
  rw [hanswer, Option.bind_some, hread]
  exact if_pos ⟨by omega, by omega⟩

theorem askDecimals_tooLarge {read : Bytes → Option Nat} {d : Nat} (hd : 255 < d)
    (hread : ∀ n, read (Abi.writeNumber d) = some n → n = d)
    (hanswer : node calls .decimals = some (Abi.writeNumber d)) :
    (askDecimals node read calls).1 = none := by
  show ((((node calls .decimals).bind read).map fun n : Nat => Value.number n).bind
    normalizeDecimals) = _
  rw [hanswer, Option.bind_some]
  cases hnumber : read (Abi.writeNumber d) with
  | none => rfl
  | some n =>
      rw [hread n hnumber]
      exact if_neg (by omega)

end Calls

/-! ## What is known afterwards -/

/-- The metadata of a contract that answers in one of the forms. A contract that tells
its name and symbol as texts of any length, and decimals of one byte, is understood in
three calls. One that tells its name and symbol in a word each is not understood at
first, whatever the words, and is understood when it is asked again. Decimals that
are no byte stay unknown. -/
theorem tokens_understood (node : Node) {address : String} {bytes : Bytes}
    (haddress : Address.ofText? address = some bytes) :
    (∀ symbol name d, cleaned symbol ≠ "" → cleaned name ≠ "" → d ≤ 255 →
      (Bytes.ofText symbol).length < 2 ^ 256 → (Bytes.ofText name).length < 2 ^ 256 →
      AnswersFirst node .symbol (Abi.writeText symbol) →
      AnswersFirst node .name (Abi.writeText name) →
      AnswersFirst node .decimals (Abi.writeNumber d) →
        fetch? node address = some
          ({ name := some (cleaned name), symbol := some (cleaned symbol),
             decimals := some (d : Int) }, [.symbol, .name, .decimals])) ∧
    (∀ symbol name, cleaned symbol ≠ "" → cleaned name ≠ "" →
      '\x00' ∉ symbol.toList → '\x00' ∉ name.toList →
      (Bytes.ofText symbol).length ≤ Abi.wordSize →
      (Bytes.ofText name).length ≤ Abi.wordSize →
      AnswersAlways node .symbol (Abi.writeFixed symbol) →
      AnswersAlways node .name (Abi.writeFixed name) →
        Abi.readText (Abi.writeFixed symbol) = none ∧
        Abi.readText (Abi.writeFixed name) = none ∧
        ∃ metadata calls, fetch? node address = some (metadata, calls) ∧
          metadata.symbol = some (cleaned symbol) ∧ metadata.name = some (cleaned name)) ∧
    ∀ d, 255 < d → d < 2 ^ 256 → AnswersAlways node .decimals (Abi.writeNumber d) →
      ∃ metadata calls, fetch? node address = some (metadata, calls) ∧
        metadata.decimals = none := by
  have hresult : fetch? node address = some (askAll node []) := by
    rw [fetch?, haddress]
    rfl
  rw [askAll_eq] at hresult
  refine ⟨?_, ?_, ?_⟩
  · intro symbol name d hsymbol hname hd hlength hlength' hasked hasked' hdecimals
    have hfirst : symbolOf node = (some (cleaned symbol), firstRound) := by
      rw [symbolOf, askText_writeText hlength hsymbol (hasked [] (by decide))]
      rfl
    have hsecond : nameOf node = (some (cleaned name), firstRound) := by
      rw [nameOf, askText_writeText hlength' hname (hasked' [.symbol] (by decide)), hfirst]
      rfl
    have hread : Abi.readByte (Abi.writeNumber d) = some d := by
      rw [Abi.readByte_writeNumber (by omega), if_pos hd]
    have hthird : decimalsOf node = (some (d : Int), firstRound) := by
      rw [decimalsOf, askDecimals_writeNumber hd hread
        (hdecimals [.symbol, .name] (by decide)), hsecond]
      rfl
    rw [hresult, hfirst, hsecond, hthird]
    rfl
  · intro symbol name hsymbol hname hzero hzero' hlength hlength' hasked hasked'
    have hword := Abi.length_fillUp hlength
    have hword' := Abi.length_fillUp hlength'
    have hfirst : (symbolOf node).1 = some (cleaned symbol) := by
      rw [symbolOf, askText_word hword (hasked [])]
      show (askFixedText node .symbol firstRound).1 = _
      rw [askFixedText_writeFixed hzero hlength hsymbol (hasked firstRound)]
    have hsecond : (nameOf node).1 = some (cleaned name) := by
      rw [nameOf, askText_word hword' (hasked' [.symbol])]
      show (askFixedText node .name (symbolOf node).2).1 = _
      rw [askFixedText_writeFixed hzero' hlength' hname (hasked' _)]
    exact ⟨Abi.readText_eq_none hword.le, Abi.readText_eq_none hword'.le, _, _, hresult,
      hfirst, hsecond⟩
  · intro d hd hlength hdecimals
    have hbyte : ∀ n, Abi.readByte (Abi.writeNumber d) = some n → n = d := by
      intro n hn
      rw [Abi.readByte_writeNumber hlength, if_neg (by omega)] at hn
      cases hn
    have hnumber : ∀ n, Abi.readNumber (Abi.writeNumber d) = some n → n = d := by
      intro n hn
      rw [Abi.readNumber_writeNumber hlength] at hn
      cases hn
      rfl
    refine ⟨_, _, hresult, ?_⟩
    show (decimalsOf node).1 = none
    rw [decimalsOf, askDecimals_tooLarge hd hbyte (hdecimals _)]
    exact askDecimals_tooLarge hd hnumber (hdecimals _)

/-- A contract that answers once, with texts of any length. -/
def answersOnce : Node := fun calls property =>
  if property ∈ calls then none
  else match property with
    | .symbol => some (Abi.writeText " U\x00SDC ")
    | .name => some (Abi.writeText "USD Coin")
    | .decimals => some (Abi.writeNumber 6)

/-- A contract that answers with words, the last of which is no byte. -/
def answersInWords : Node := fun _ property =>
  match property with
  | .symbol => some (Abi.writeFixed "MKR")
  | .name => some (Abi.writeFixed "Maker")
  | .decimals => some (Abi.writeNumber 256)

theorem tokens_understood_both :
    fetch? answersOnce "0x1111111111111111111111111111111111111111" = some
        ({ name := some "USD Coin", symbol := some "USDC", decimals := some 6 },
          [.symbol, .name, .decimals]) ∧
      ∃ metadata calls,
        fetch? answersInWords "0x1111111111111111111111111111111111111111" =
            some (metadata, calls) ∧
          metadata.symbol = some "MKR" ∧ metadata.name = some "Maker" ∧
          metadata.decimals = none := by
  have haddress : Address.ofText? "0x1111111111111111111111111111111111111111"
      = some (List.replicate 20 0x11) := by decide
  have hasked : ∀ property answer, answersOnce [] property = some answer →
      AnswersFirst answersOnce property answer := by
    intro property answer hanswer calls hnew
    rw [← hanswer]
    unfold answersOnce
    rw [if_neg hnew, if_neg List.not_mem_nil]
  have hsymbol : cleaned " U\x00SDC " = "USDC" := by decide +kernel
  have hname : cleaned "USD Coin" = "USD Coin" := by decide +kernel
  have hearly : cleaned "MKR" = "MKR" := by decide +kernel
  have hearly' : cleaned "Maker" = "Maker" := by decide +kernel
  have hfirst := (tokens_understood answersOnce haddress).1 " U\x00SDC " "USD Coin" 6
    (by rw [hsymbol]; decide) (by rw [hname]; decide) (by decide) (by decide +kernel)
    (by decide +kernel) (hasked _ _ rfl) (hasked _ _ rfl) (hasked _ _ rfl)
  obtain ⟨-, hwords, hnumber⟩ := tokens_understood answersInWords haddress
  obtain ⟨-, -, metadata, calls, hresult, hknown⟩ := hwords "MKR" "Maker"
    (by rw [hearly]; decide) (by rw [hearly']; decide) (by decide) (by decide)
    (by decide +kernel) (by decide +kernel) (fun _ => rfl) (fun _ => rfl)
  obtain ⟨_, _, hsame, hdecimals⟩ := hnumber 256 (by decide) (by decide) fun _ => rfl
  rw [hresult] at hsame
  cases hsame
  rw [hsymbol, hname] at hfirst
  rw [hearly, hearly'] at hknown
  exact ⟨hfirst, metadata, calls, hresult, hknown.1, hknown.2, hdecimals⟩

end Metadata

end EvmIndexer
