import EvmIndexer.Proofs.Bytes.Hex
import EvmIndexer.Response.Execution

/-!
# The forms of an answer as text

An answer that is recorded as text is its digits under several layers. The digits may
be of either case, with blanks between the bytes; a mark may stand in front of them,
quotes around the mark and the digits, and blanks around the quotes. The layers come
off one after the other, from the outside. Each time what is left has to begin and end
with a character that the next trimming leaves alone, and it does: the ends are quotes
under the blanks, and digits or letters of the mark under the quotes. Only without a
mark does it matter that the digits do not look as if they had one.

So all the forms are read as the same bytes, those of an empty answer too, and the
result is the one that these bytes have.
-/

namespace EvmIndexer

open Bytes

namespace RawResponse

/-- Whether a character can be neither trimmed as a blank nor as a quote. -/
def staysUnderQuotes (c : Char) : Bool := Text.isVisible c && c != '"'

theorem staysUnderQuotes_of_digit? {c : Char} (h : (Hex.digit? c).isSome = true) :
    staysUnderQuotes c = true := by
  obtain ⟨n, hn⟩ := Option.isSome_iff_exists.1 h
  have hquote : c ≠ '"' := by
    rintro rfl
    cases hn
  rw [staysUnderQuotes, Hex.isVisible_of_digit? hn, Bool.true_and, bne_iff_ne]
  exact hquote

section Layers

variable {before mark digits after : List Char} {payload : Bytes}

theorem hasEnds_markedDigits (hmark : mark ∈ Hex.marks)
    (hdigits : Hex.SpellsApart digits payload) :
    Text.HasEnds staysUnderQuotes (mark ++ digits) := by
  apply Text.HasEnds.append
  · have hall : ∀ m ∈ Hex.marks, m.all staysUnderQuotes = true := by decide
    exact Text.hasEnds_of_all (List.all_eq_true.1 (hall mark hmark))
  · exact hdigits.hasEnds.imp fun c hc => staysUnderQuotes_of_digit? hc

theorem bytes?_layers (opening closing : Nat)
    (hbefore : ∀ c ∈ before, Text.isBlank c = true)
    (hafter : ∀ c ∈ after, Text.isBlank c = true)
    (hmark : mark ∈ Hex.marks)
    (hdigits : Hex.SpellsApart digits payload) :
    (text (String.ofList (before ++ (List.replicate opening '"' ++ (mark ++ digits) ++
      List.replicate closing '"') ++ after))).bytes? = some payload := by
  have hquote : ∀ n, ∀ c ∈ List.replicate n '"', c = '"' := fun n c hc =>
    List.eq_of_mem_replicate hc
  have hinner := hasEnds_markedDigits hmark hdigits
  have hquoted : Text.HasEnds Text.isVisible (List.replicate opening '"' ++
      (mark ++ digits) ++ List.replicate closing '"') := by
    have hquotes : ∀ n, Text.HasEnds Text.isVisible (List.replicate n '"') := by
      intro n
      apply Text.hasEnds_of_all
      intro c hc
      rw [hquote n c hc]
      rfl
    refine ((hquotes opening).append (hinner.imp fun c hc => ?_)).append (hquotes closing)
    exact (Bool.and_eq_true_iff.1 hc).1
  have hnoQuote : ∀ c, staysUnderQuotes c = true → (c == '"') = false := by
    intro c hc
    have hne := (Bool.and_eq_true_iff.1 hc).2
    rwa [bne, Bool.not_eq_true'] at hne
  rw [bytes?, String.toList_ofList, Text.trimBy_around hbefore _ hafter,
    hquoted.trimBy_eq fun c hc => Text.isBlank_of_isVisible hc,
    Text.trimBy_around (fun c hc => by rw [hquote opening c hc]; rfl) _
      (fun c hc => by rw [hquote closing c hc]; rfl),
    hinner.trimBy_eq hnoQuote]
  show Hex.readSpaced (Hex.dropMark (mark ++ digits)) = some payload
  rw [hdigits.dropMark_eq hmark, hdigits.read_eq]

end Layers

/-- The digits of an answer, behind their mark, are read as the answer. -/
theorem bytes?_marked (bs : Bytes) : (text (Hex.marked bs)).bytes? = some bs := by
  have hdigits : Hex.SpellsApart (Hex.write bs) bs := (Hex.spells_of_read (Hex.read_write bs)).apart
  have hlayers := @bytes?_layers [] ['0', 'x'] _ [] _ 0 0 (by simp) (by simp) (by decide)
    hdigits
  rwa [List.replicate_zero, List.nil_append, List.append_nil, List.nil_append, List.append_nil]
    at hlayers

end RawResponse

namespace Execution

/-- However an answer is written as text, its result is that of its bytes. -/
theorem decode_textLayers {before mark digits after : List Char} {payload : Bytes}
    (opening closing : Nat)
    (hbefore : ∀ c ∈ before, Text.isBlank c = true)
    (hafter : ∀ c ∈ after, Text.isBlank c = true)
    (hmark : mark ∈ Hex.marks)
    (hdigits : Hex.SpellsApart digits payload) :
    decode (some (.text (String.ofList (before ++ (List.replicate opening '"' ++
      (mark ++ digits) ++ List.replicate closing '"') ++ after)))) =
    decode (some (.bytes payload)) := by
  have htext := RawResponse.bytes?_layers opening closing hbefore hafter hmark hdigits
  simp only [decode, Option.bind_eq_bind, Option.bind_some, htext]
  rfl

/-- The answer to a transaction that used 99 units of gas and left nothing else. -/
def plainAnswer : Bytes :=
  [0x12, 0x1b, 0x0a, 0x15] ++ Bytes.ofText typeName ++ [0x12, 0x02, 0x28, 0x63]

/-- It stands in three quotes with an ideographic space in front and a line end behind,
its first two bytes apart. -/
theorem decode_textLayers_plainAnswer :
    decode (some (.text
      "\u3000\"0X12 \t1B0a154d7367457468657265756D5478526573706f6e736512022863\"\"\n")) =
    some { logs := [], gasUsed := 99, vmError := none } := by
  have hfirst : Hex.Spells ['1', '2'] [0x12] := by
    unfold Hex.Spells
    decide
  have hrest : Hex.Spells
      "1B0a154d7367457468657265756D5478526573706f6e736512022863".toList
      (plainAnswer.drop 1) := by
    unfold Hex.Spells
    decide +kernel
  have hdigits : Hex.SpellsApart ('1' :: '2' :: ([' ', '\t'] ++
      "1B0a154d7367457468657265756D5478526573706f6e736512022863".toList)) plainAnswer :=
    .more hfirst (List.all_eq_true.1 rfl) (by decide +kernel) hrest.apart
  have hsame := @decode_textLayers ['\u3000'] ['0', 'X'] _ ['\n'] _ 1 2
    (List.all_eq_true.1 rfl) (List.all_eq_true.1 rfl) (by decide) hdigits
  have hresult : decode (some (.bytes plainAnswer)) =
      some { logs := [], gasUsed := 99, vmError := none } := by
    decide +kernel
  rw [← hresult, ← hsame]
  congr 3

end Execution

end EvmIndexer
