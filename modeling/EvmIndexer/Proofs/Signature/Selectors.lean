import EvmIndexer.Proofs.Bytes.Hex
import EvmIndexer.Proofs.Signature.Transparency

/-!
# Which texts are asked about

A selector is `0x` and eight lower-case hexadecimal digits. A looked-up text is lowered
first and asked about only if it has that form then, so that the service and the cache
see well-formed selectors alone. The form is checked on what the whole character
database makes of a text; but no other character is lowered to one of a selector, so
what passes was a selector in either case.

The check has one gap, since it lets a line end behind the digits pass. `Selector` is the
form that is meant, `SelectorLine` is that form with a line end behind it, and what is
asked about and kept has one of the two.

What holds of every text that is asked about or kept is an invariant of the client:
a lookup adds its own text or none.
-/

namespace EvmIndexer.SignatureClient

/-- The form of a selector: a mark and eight digits. -/
def Selector (text : String) : Prop :=
  ∃ digits : List Char, digits.length = 8 ∧
    (∀ d ∈ digits, d ∈ "0123456789abcdef".toList) ∧ text.toList = '0' :: 'x' :: digits

/-- A selector with a line end behind it. -/
def SelectorLine (text : String) : Prop :=
  ∃ selector, Selector selector ∧ text = selector ++ "\n"

variable {service : SignatureService} {client : SignatureClient}
  {selector text : String}

/-! ## The form of what is asked about -/

theorem isSelector_of_toList {digits ending : List Char} (hlength : digits.length = 8)
    (hdigits : ∀ d ∈ digits, d ∈ "0123456789abcdef".toList)
    (hending : ending = [] ∨ ending = ['\n'])
    (htext : text.toList = '0' :: 'x' :: (digits ++ ending)) : isSelector text = true := by
  have htake : (digits ++ ending).take 8 = digits := by
    rw [← hlength, List.take_left]
  have hdrop : (digits ++ ending).drop 8 = ending := by
    rw [← hlength, List.drop_left]
  have hall : digits.all Bytes.Hex.isLowerDigit = true := by
    rw [List.all_eq_true]
    intro d hd
    exact Bytes.Hex.isLowerDigit_iff.2 (hdigits d hd)
  have hend : (ending == [] || ending == ['\n']) = true := by
    rcases hending with rfl | rfl
    · rfl
    · rfl
  rw [isSelector, htext]
  show (((digits ++ ending).take 8).length == 8 && ((digits ++ ending).take 8).all
    Bytes.Hex.isLowerDigit && ((digits ++ ending).drop 8 == [] ||
      (digits ++ ending).drop 8 == ['\n'])) = true
  rw [htake, hdrop, hlength, hall, hend]
  rfl

/-- The check accepts the form, with or without a line end, and nothing else. -/
theorem isSelector_iff : isSelector text = true ↔ Selector text ∨ SelectorLine text := by
  constructor
  · intro h
    unfold isSelector at h
    split at h
    · next cs htext =>
        simp only [Bool.and_eq_true, beq_iff_eq, Bool.or_eq_true, List.all_eq_true] at h
        obtain ⟨⟨hlength, hdigits⟩, hend⟩ := h
        have hmeant : ∀ d ∈ cs.take 8, d ∈ "0123456789abcdef".toList := by
          intro d hd
          exact Bytes.Hex.isLowerDigit_iff.1 (hdigits d hd)
        have hcut : cs.take 8 ++ cs.drop 8 = cs := List.take_append_drop 8 cs
        rcases hend with hnone | hline
        · left
          rw [hnone, List.append_nil] at hcut
          exact ⟨cs.take 8, hlength, hmeant, by rw [htext, hcut]⟩
        · right
          rw [hline] at hcut
          refine ⟨String.ofList ('0' :: 'x' :: cs.take 8),
            ⟨cs.take 8, hlength, hmeant, String.toList_ofList⟩, ?_⟩
          rw [← String.toList_inj, String.toList_append, String.toList_ofList, htext]
          show '0' :: 'x' :: cs = '0' :: 'x' :: (cs.take 8 ++ ['\n'])
          rw [hcut]
    · cases h
  · intro h
    rcases h with ⟨digits, hlength, hdigits, htext⟩ |
      ⟨selector, ⟨digits, hlength, hdigits, hselector⟩, rfl⟩
    · exact isSelector_of_toList hlength hdigits (Or.inl rfl)
        (by rw [List.append_nil, htext])
    · refine isSelector_of_toList hlength hdigits (Or.inr rfl) ?_
      rw [String.toList_append, hselector]
      rfl

/-- What is accepted was lowered letter by letter, whatever else can be lowered. -/
theorem toList_lower_of_isSelector (h : isSelector (Text.lower text) = true) :
    (Text.lower text).toList = text.toList.map Char.toLower := by
  have hdigit : ∀ d ∈ "0123456789abcdef".toList, d.toNat < 0x6b ∨ d = 'x' := by
    intro d hd
    have hall : ("0123456789abcdef".toList.all fun d => d.toNat < 0x6b) = true := by decide
    exact Or.inl (of_decide_eq_true (List.all_eq_true.1 hall d hd))
  have hselector : ∀ {plain : String}, Selector plain →
      ∀ d ∈ plain.toList, d.toNat < 0x6b ∨ d = 'x' := by
    intro plain hplain d hd
    obtain ⟨digits, -, hdigits, htext⟩ := hplain
    rw [htext] at hd
    rcases List.mem_cons.1 hd with rfl | hd
    · decide
    · rcases List.mem_cons.1 hd with rfl | hd
      · decide
      · exact hdigit d (hdigits d hd)
  apply Text.toList_lower_of_plain
  rcases isSelector_iff.1 h with hplain | ⟨plain, hplain, hline⟩
  · exact hselector hplain
  · intro d hd
    rw [hline, String.toList_append, List.mem_append] at hd
    rcases hd with hd | hd
    · exact hselector hplain d hd
    · rw [List.mem_singleton.1 hd]
      decide

/-! ## What a client has to do with -/

/-- All that a client has asked about or keeps an entry for. -/
def Handles (client : SignatureClient) (text : String) : Prop :=
  text ∈ client.requests ∨ text ∈ client.cache.keys

theorem mem_keys_put {cache : SignatureCache} {key : String} {signature : Option String}
    (h : key ∈ (cache.put selector signature).keys) :
    key = Text.lower selector ∨ key ∈ cache.keys := by
  obtain ⟨entry, hentry, rfl⟩ := List.mem_map.1 h
  rcases SignatureCache.mem_entries_put hentry with rfl | hold
  · exact Or.inl rfl
  · exact Or.inr (List.mem_map_of_mem hold)

/-- A lookup handles one text more, its own, and only if it is accepted. -/
theorem handles_lookup (h : (client.lookup service selector).2.Handles text) :
    client.Handles text ∨
      (text = Text.lower selector ∧ isSelector (Text.lower selector) = true) := by
  cases hselector : isSelector (Text.lower selector) with
  | false =>
      rw [lookup_of_not_isSelector hselector] at h
      exact Or.inl h
  | true =>
      by_cases hkey : Text.lower selector ∈ client.cache.keys
      · obtain ⟨signature, hfound⟩ := SignatureCache.exists_lookup hkey
        rw [lookup_of_found hselector hfound, SignatureCache.get_of_lookup hfound] at h
        rcases h with hasked | hkept
        · exact Or.inl (Or.inl hasked)
        · obtain ⟨entry, hentry, rfl⟩ := List.mem_map.1 hkept
          rcases List.mem_append.1 hentry with hold | hnew
          · exact Or.inl (Or.inr (List.mem_map_of_mem (List.mem_of_mem_filter hold)))
          · rw [List.mem_singleton.1 hnew]
            exact Or.inr ⟨rfl, rfl⟩
      · rw [lookup_of_missing hselector hkey] at h
        rcases h with hasked | hkept
        · rcases List.mem_append.1 hasked with hold | hnew
          · exact Or.inl (Or.inl hold)
          · exact Or.inr ⟨List.mem_singleton.1 hnew, rfl⟩
        · cases htold : told? (service client.requests (Text.lower selector)) with
          | none =>
              rw [htold] at hkept
              exact Or.inl (Or.inr hkept)
          | some signature =>
              rw [htold] at hkept
              rcases mem_keys_put hkept with hnew | hold
              · exact Or.inr ⟨hnew, rfl⟩
              · exact Or.inl (Or.inr hold)

/-- After any lookups, what is handled was looked up and accepted. -/
theorem handles_lookupAll {texts : List String}
    (h : (client.lookupAll service texts).Handles text) :
    client.Handles text ∨
      ∃ lookedUp ∈ texts, text = Text.lower lookedUp ∧ isSelector text = true := by
  induction texts generalizing client with
  | nil => exact Or.inl h
  | cons first rest ih =>
      rcases ih h with hfirst | ⟨lookedUp, hmem, htext⟩
      · rcases handles_lookup hfirst with hold | ⟨rfl, haccepted⟩
        · exact Or.inl hold
        · exact Or.inr ⟨first, List.mem_cons_self, rfl, haccepted⟩
      · exact Or.inr ⟨lookedUp, List.mem_cons_of_mem _ hmem, htext⟩

/-- A lookup asks about its own text or about none. -/
theorem requests_lookup (service : SignatureService) (client : SignatureClient)
    (selector : String) :
    (client.lookup service selector).2.requests = client.requests ∨
      (client.lookup service selector).2.requests =
        client.requests ++ [Text.lower selector] := by
  cases hselector : isSelector (Text.lower selector) with
  | false =>
      rw [lookup_of_not_isSelector hselector]
      exact Or.inl rfl
  | true =>
      by_cases hkey : Text.lower selector ∈ client.cache.keys
      · obtain ⟨signature, hfound⟩ := SignatureCache.exists_lookup hkey
        rw [lookup_of_found hselector hfound]
        exact Or.inl rfl
      · rw [lookup_of_missing hselector hkey]
        exact Or.inr rfl

/-- Whatever was looked up and whatever the service replied, each text that was asked
about or is kept is a selector, or a selector with a line end behind it; it is the lower
form of a text that was looked up, and that text differed from it in the case of letters
alone. A lookup asks about its own text or about none. If that is neither of the two
forms, the lookup gives nothing, and the client stays as it is. -/
theorem asked_selectors (service : SignatureService) (capacity : Nat)
    (texts : List String) (selector : String) :
    let client := lookupAll service texts { cache := { capacity } }
    (∀ text, client.Handles text → (Selector text ∨ SelectorLine text) ∧
      ∃ lookedUp ∈ texts, text = Text.lower lookedUp ∧
        text.toList = lookedUp.toList.map Char.toLower) ∧
    ((client.lookup service selector).2.requests = client.requests ∨
      (client.lookup service selector).2.requests =
        client.requests ++ [Text.lower selector]) ∧
    (¬ Selector (Text.lower selector) → ¬ SelectorLine (Text.lower selector) →
      client.lookup service selector = (.unknown, client)) := by
  intro client
  refine ⟨fun text htext => ?_, requests_lookup service client selector, fun hbare hline => ?_⟩
  · rcases handles_lookupAll htext with hnew | ⟨lookedUp, hmem, rfl, haccepted⟩
    · rcases hnew with hasked | hkept
      · cases hasked
      · cases hkept
    · exact ⟨isSelector_iff.1 haccepted, lookedUp, hmem, rfl,
        toList_lower_of_isSelector haccepted⟩
  · apply lookup_of_not_isSelector
    rw [← Bool.not_eq_true, isSelector_iff]
    exact not_or.2 ⟨hbare, hline⟩

/-- Of three texts the first two are asked about, one of them with its line end. -/
theorem asked_selectors_three :
    let texts := ["0xCAE9CA51", "0xDEADBEEF\n", "cae9ca51"]
    let client := lookupAll (unchanging knowsOne) texts { cache := { capacity := 2 } }
    client.requests = ["0xcae9ca51", "0xdeadbeef\n"] ∧
    (∀ text, client.Handles text → Selector text ∨ SelectorLine text) ∧
    ¬ Selector (Text.lower "0xdeadbeef0") ∧ ¬ SelectorLine (Text.lower "0xdeadbeef0") ∧
    client.lookup (unchanging knowsOne) "0xdeadbeef0" = (.unknown, client) := by
  intro texts client
  obtain ⟨hhandled, -, hrefused⟩ :=
    asked_selectors (unchanging knowsOne) 2 texts "0xdeadbeef0"
  have hnone : ¬ isSelector (Text.lower "0xdeadbeef0") = true := by decide +kernel
  rw [isSelector_iff, not_or] at hnone
  exact ⟨by decide +kernel, fun text htext => (hhandled text htext).1, hnone.1, hnone.2,
    hrefused hnone.1 hnone.2⟩

/-- A line end passes the check, so every service is asked about it. -/
theorem asked_with_line_end (service : SignatureService) (capacity : Nat) :
    ((SignatureClient.mk { capacity } []).lookup service "0xdeadbeef\n").2.requests =
      ["0xdeadbeef\n"] ∧ ¬ Selector "0xdeadbeef\n" := by
  have hlower : Text.lower "0xdeadbeef\n" = "0xdeadbeef\n" := by decide +kernel
  have haccepted : isSelector (Text.lower "0xdeadbeef\n") = true := by decide +kernel
  constructor
  · rw [lookup_of_missing haccepted List.not_mem_nil, hlower]
    rfl
  · intro hselector
    obtain ⟨digits, hlength, -, htext⟩ := hselector
    have hlong := congrArg List.length htext
    rw [List.length_cons, List.length_cons, hlength] at hlong
    exact absurd hlong (by decide)

end EvmIndexer.SignatureClient
