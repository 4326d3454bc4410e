import EvmIndexer.Proofs.Bytes.Text
import EvmIndexer.Proofs.Text.Trim
import EvmIndexer.Token.Metadata

/-!
# What is kept of the answers of a token

Anyone may deploy a contract, so its answers are any bytes at all, and other ones
at every call. Asking it ends all the same: with decimals of one byte, and with a
name and a symbol that are unknown or have no blank at either end.

A text column takes every character except the zero character. The text of the
first round loses all its zeros. A word of the second round loses those at its
end only, so a zero stays when a byte other than zero follows it somewhere. This
is the one way by which a zero gets into a name or a symbol, and no rare one: an
empty text is no name, so the token is asked again, and the same answer read as a
word is thirty-one zeros before the place where the text begins.
-/

namespace EvmIndexer.Metadata

/-! ## Text without blanks at its ends -/

/-- A text that begins and ends with a character that is no blank. -/
structure IsTrimmed (text : String) : Prop where
  nonempty : text ≠ ""
  first : ∀ c ∈ text.toList.head?, Text.isBlank c = false
  last : ∀ c ∈ text.toList.getLast?, Text.isBlank c = false

theorem nonEmpty_eq_some_iff {s text : String} :
    nonEmpty s = some text ↔ Text.trim s = text ∧ text ≠ "" := by
  rw [nonEmpty]
  by_cases h : Text.trim s = ""
  next =>
    rw [if_pos h]
    constructor
    · intro hnone
      cases hnone
    · rintro ⟨rfl, hne⟩
      exact absurd h hne
  next =>
    rw [if_neg h, Option.some.injEq]
    constructor
    · rintro rfl
      exact ⟨rfl, h⟩
    · exact And.left

theorem toList_of_nonEmpty {s text : String} (h : nonEmpty s = some text) :
    text.toList = Text.trimBy Text.isBlank s.toList := by
  rw [← (nonEmpty_eq_some_iff.1 h).1, Text.trim, String.toList_ofList]

theorem isTrimmed_of_nonEmpty {s text : String} (h : nonEmpty s = some text) :
    IsTrimmed text where
  nonempty := (nonEmpty_eq_some_iff.1 h).2
  first c hc := by
    rw [toList_of_nonEmpty h] at hc
    exact Text.head?_trimBy hc
  last c hc := by
    rw [toList_of_nonEmpty h] at hc
    exact Text.getLast?_trimBy hc

theorem mem_of_nonEmpty {s text : String} (h : nonEmpty s = some text) {c : Char}
    (hc : c ∈ text.toList) : c ∈ s.toList := by
  rw [toList_of_nonEmpty h] at hc
  exact Text.mem_of_mem_trimBy hc

/-! ## Zeros -/

/-- A zero byte with another byte than zero somewhere after it. -/
def ZeroWithin (word : Bytes) : Prop :=
  ∃ b, b ≠ 0 ∧ List.Sublist [0, b] word

/-- The zeros at the end are dropped up to a byte that is none, so a zero that
is left stands before it. -/
theorem zeroWithin_of_mem_rdropWhile {word : Bytes}
    (h : 0 ∈ word.rdropWhile (· == 0)) : ZeroWithin word := by
  have hne : word.rdropWhile (· == 0) ≠ [] := List.ne_nil_of_mem h
  have hlast := List.rdropWhile_last_not (· == 0) word hne
  rw [beq_iff_eq] at hlast
  have hsplit := List.dropLast_append_getLast hne
  rw [← hsplit, List.mem_append, List.mem_singleton] at h
  obtain hbefore | hend := h
  · have hwithin := (List.singleton_sublist.2 hbefore).append
      (List.Sublist.refl [(word.rdropWhile (· == 0)).getLast hne])
    rw [hsplit] at hwithin
    exact ⟨_, hlast, hwithin.trans (List.rdropWhile_prefix (· == 0) word).sublist⟩
  · exact absurd hend.symm hlast

theorem isTrimmed_of_normalizeText {value : Value} {text : String}
    (h : normalizeText value = some text) : IsTrimmed text := by
  cases value with
  | text content =>
      rw [normalizeText] at h
      exact isTrimmed_of_nonEmpty h
  | bytes content =>
      rw [normalizeText] at h
      obtain ⟨s, -, hs⟩ := Option.bind_eq_some_iff.1 h
      exact isTrimmed_of_nonEmpty hs
  | number n => cases h
  | other => cases h

theorem zero_not_mem_of_normalizeText_text {content text : String}
    (h : normalizeText (.text content) = some text) : '\x00' ∉ text.toList := by
  intro hzero
  rw [normalizeText] at h
  have hkept := mem_of_nonEmpty h hzero
  rw [String.toList_ofList] at hkept
  exact absurd (List.mem_filter.1 hkept).2 (by decide)

theorem zeroWithin_of_normalizeText_bytes {word : Bytes} {text : String}
    (h : normalizeText (.bytes word) = some text) (hzero : '\x00' ∈ text.toList) :
    ZeroWithin word := by
  rw [normalizeText] at h
  obtain ⟨s, hs, htext⟩ := Option.bind_eq_some_iff.1 h
  apply zeroWithin_of_mem_rdropWhile
  exact Bytes.zero_mem_of_toText? hs (mem_of_nonEmpty htext hzero)

theorem normalizeDecimals_range {value : Value} {n : Int}
    (h : normalizeDecimals value = some n) : 0 ≤ n ∧ n ≤ 255 := by
  cases value with
  | number m =>
      obtain ⟨hrange, hm⟩ := Option.ite_none_right_eq_some.1 h
      cases hm
      exact hrange
  | text content => cases h
  | bytes content => cases h
  | other => cases h

/-! ## The calls -/

section Calls

variable {node : Node} {property : Property} {calls : List Property}

/-- One of the calls asked for a property again, and its answer begins with a
word that has a zero within. -/
def ZeroAnswered (node : Node) (property : Property) (calls : List Property) : Prop :=
  ∃ earlier answer word, earlier ++ [property] <+: calls ∧ property ∈ earlier ∧
    node earlier property = some answer ∧ Abi.readFixed answer = some word ∧
    ZeroWithin word

/-- What holds of a text that a token tells in some calls. -/
structure Told (node : Node) (property : Property) (calls : List Property)
    (text : String) : Prop where
  trimmed : IsTrimmed text
  zero : '\x00' ∈ text.toList → ZeroAnswered node property calls

theorem Told.later {text : String} {later : List Property} (hcalls : calls <+: later)
    (h : Told node property calls text) : Told node property later text where
  trimmed := h.trimmed
  zero hzero := by
    obtain ⟨earlier, answer, word, hprefix, hrest⟩ := h.zero hzero
    exact ⟨earlier, answer, word, hprefix.trans hcalls, hrest⟩

theorem told_of_askText {text : String}
    (h : (askText node property calls).1 = some text) :
    Told node property (askText node property calls).2 text := by
  obtain ⟨value, hvalue, htext⟩ := Option.bind_eq_some_iff.1 h
  obtain ⟨content, -, rfl⟩ := Option.map_eq_some_iff.1 hvalue
  refine ⟨isTrimmed_of_normalizeText htext, ?_⟩
  intro hzero
  exact absurd hzero (zero_not_mem_of_normalizeText_text htext)

theorem told_of_askFixedText {text : String} (hagain : property ∈ calls)
    (h : (askFixedText node property calls).1 = some text) :
    Told node property (askFixedText node property calls).2 text := by
  obtain ⟨value, hvalue, htext⟩ := Option.bind_eq_some_iff.1 h
  obtain ⟨word, hword, rfl⟩ := Option.map_eq_some_iff.1 hvalue
  obtain ⟨answer, hanswer, hread⟩ := Option.bind_eq_some_iff.1 hword
  refine ⟨isTrimmed_of_normalizeText htext, ?_⟩
  intro hzero
  exact ⟨calls, answer, word, List.prefix_rfl, hagain, hanswer, hread,
    zeroWithin_of_normalizeText_bytes htext hzero⟩

theorem askDecimals_range {read : Bytes → Option Nat} {n : Int}
    (h : (askDecimals node read calls).1 = some n) : 0 ≤ n ∧ n ≤ 255 := by
  obtain ⟨value, -, hn⟩ := Option.bind_eq_some_iff.1 h
  exact normalizeDecimals_range hn

theorem prefix_orAsk {α : Type} (known : Option α)
    {ask : StateM (List Property) (Option α)} (hask : calls <+: (ask calls).2) :
    calls <+: (orAsk known ask calls).2 := by
  cases known with
  | some a => exact List.prefix_rfl
  | none => exact hask

theorem told_of_orAsk {known : Option String} {text : String}
    (hknown : ∀ text, known = some text → Told node property calls text)
    (hagain : property ∈ calls)
    (h : (orAsk known (askFixedText node property) calls).1 = some text) :
    Told node property (orAsk known (askFixedText node property) calls).2 text := by
  cases known with
  | some a => exact hknown text h
  | none => exact told_of_askFixedText hagain h

theorem orAsk_decimals_range {known : Option Int} {read : Bytes → Option Nat} {n : Int}
    (hknown : ∀ n, known = some n → 0 ≤ n ∧ n ≤ 255)
    (h : (orAsk known (askDecimals node read) calls).1 = some n) : 0 ≤ n ∧ n ≤ 255 := by
  cases known with
  | some m => exact hknown n h
  | none => exact askDecimals_range h

end Calls

/-! ## The two rounds -/

section Rounds

variable (node : Node)

/-- The calls that are made in any case. -/
def firstRound : List Property := [.symbol, .name, .decimals]

/-- The symbol and the calls made when it is settled; the name and the decimals
are settled after it. -/
def symbolOf : Option String × List Property :=
  orAsk (askText node .symbol []).1 (askFixedText node .symbol) firstRound

def nameOf : Option String × List Property :=
  orAsk (askText node .name [.symbol]).1 (askFixedText node .name) (symbolOf node).2

def decimalsOf : Option Int × List Property :=
  orAsk (askDecimals node Abi.readByte [.symbol, .name]).1
    (askDecimals node Abi.readNumber) (nameOf node).2

theorem askAll_eq : askAll node [] =
    ({ name := (nameOf node).1, symbol := (symbolOf node).1,
       decimals := (decimalsOf node).1 }, (decimalsOf node).2) :=
  rfl

theorem prefix_firstRound : firstRound <+: (symbolOf node).2 :=
  prefix_orAsk _ (List.prefix_append firstRound [.symbol])

theorem prefix_symbolOf : (symbolOf node).2 <+: (nameOf node).2 :=
  prefix_orAsk _ (List.prefix_append (symbolOf node).2 [.name])

theorem prefix_nameOf : (nameOf node).2 <+: (decimalsOf node).2 :=
  prefix_orAsk _ (List.prefix_append (nameOf node).2 [.decimals])

theorem symbolOf_told {text : String} (h : (symbolOf node).1 = some text) :
    Told node .symbol (symbolOf node).2 text := by
  refine told_of_orAsk ?_ (by decide) h
  intro first hfirst
  have hasked : [Property.symbol] <+: firstRound := by decide
  exact (told_of_askText hfirst).later hasked

theorem nameOf_told {text : String} (h : (nameOf node).1 = some text) :
    Told node .name (nameOf node).2 text := by
  refine told_of_orAsk ?_ ((prefix_firstRound node).subset (by decide)) h
  intro first hfirst
  have hasked : [Property.symbol, .name] <+: firstRound := by decide
  exact (told_of_askText hfirst).later (hasked.trans (prefix_firstRound node))

theorem decimalsOf_range {n : Int} (h : (decimalsOf node).1 = some n) :
    0 ≤ n ∧ n ≤ 255 :=
  orAsk_decimals_range (fun _ hfirst => askDecimals_range hfirst) h

end Rounds

/-- Asking for the metadata of a token always gives a result, and what it gives
can be stored, except that a zero within the word that the contract answers when
it is asked again may stay within the name or symbol. -/
theorem answers_storable (node : Node) {address : String} {bytes : Bytes}
    (haddress : Address.ofText? address = some bytes) :
    ∃ metadata calls, fetch? node address = some (metadata, calls) ∧
      (∀ text, metadata.symbol = some text → Told node .symbol calls text) ∧
      (∀ text, metadata.name = some text → Told node .name calls text) ∧
      ∀ n, metadata.decimals = some n → 0 ≤ n ∧ n ≤ 255 := by
  have hresult : fetch? node address = some (askAll node []) := by
    rw [fetch?, haddress]
    rfl
  rw [askAll_eq] at hresult
  refine ⟨_, _, hresult, ?_, ?_, ?_⟩
  · intro text htext
    have hlater := (prefix_symbolOf node).trans (prefix_nameOf node)
    exact (symbolOf_told node htext).later hlater
  · intro text htext
    exact (nameOf_told node htext).later (prefix_nameOf node)
  · intro n hn
    exact decimalsOf_range node hn

/-- A contract whose functions answer with an empty text, and its decimals with
eighteen. -/
def tellsNothing : Node := fun _ property =>
  match property with
  | .decimals => some (Bytes.ofNatFixed 32 18)
  | _ => some (Bytes.ofNatFixed 32 32 ++ Bytes.ofNatFixed 32 0)

theorem answers_storable_empty :
    Address.ofText? "0x1111111111111111111111111111111111111111"
        = some (List.replicate 20 0x11) ∧
      ∃ metadata calls,
        fetch? tellsNothing "0x1111111111111111111111111111111111111111"
          = some (metadata, calls) ∧
        (∀ text, metadata.symbol = some text → Told tellsNothing .symbol calls text) ∧
        (∀ text, metadata.name = some text → Told tellsNothing .name calls text) ∧
        ∀ n, metadata.decimals = some n → 0 ≤ n ∧ n ≤ 255 := by
  have haddress : Address.ofText? "0x1111111111111111111111111111111111111111"
      = some (List.replicate 20 0x11) := by decide
  exact ⟨haddress, answers_storable tellsNothing haddress⟩

/-- The name and symbol of such a contract are known, and all zeros. -/
theorem zeros_of_tellsNothing :
    (fetch? tellsNothing "0x1111111111111111111111111111111111111111").map (·.1) =
      some {
        name := String.ofList (List.replicate 31 '\x00')
        symbol := String.ofList (List.replicate 31 '\x00')
        decimals := some 18 } := by
  decide

end EvmIndexer.Metadata
