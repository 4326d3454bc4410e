import EvmIndexer.Proofs.Envelope.Canonical
import EvmIndexer.Proofs.Rlp.Canonical

/-!
# How an envelope can be spelled

The bytes of an envelope spell a type and a list of items, and the type and the
items determine the bytes. So an envelope could be spelled in two ways only if
two lists of items say the same. For a field they cannot: once the sender has
been recovered from an envelope, all of its fields have been read strictly, and
then the value of a field determines its item.

The three numbers of the signature are the exception. They are read strictly too,
but where a field has to be a byte string, a number of the signature may be a
list without members and counts as zero. The second and the third are not zero in
any signature that has a sender. The first one may be, and so it has two
spellings.
-/

namespace EvmIndexer.Envelope

open Rlp (Item)

/-! ## Bytes and items -/

/-- The bytes of an envelope of a type with the given items. -/
def spell (type : Nat) (items : List Item) : Bytes :=
  if type = 0 then (Item.list items).encode
  else UInt8.ofNat type :: (Item.list items).encode

/-- The bytes of an envelope that was parsed. -/
def Parsed.bytes (parsed : Parsed) : Bytes := spell parsed.type parsed.items

/-- The chain that the first item of a legacy signature names, as a slot of its
own. -/
def chainSlots (type : Nat) (first : Item) :
    Except Refusal (List (Field × FieldValue)) :=
  if type = 0 then do
    let v ← recoveryNumber first
    let chain := (chainOfRecovery? v).map fun n => (Field.chainId, .number n)
    return chain.toList
  else return []

/-- What the items of an envelope of a type are parsed to. -/
def ofItems (type : Nat) (items : List Item) : Except Refusal Parsed := do
  let layout := (typedLayout? type).getD legacyLayout
  let fields ← readFields layout items
  let chain ← chainSlots type (items.getD layout.length (.list []))
  return ⟨type, fields ++ chain, items⟩

theorem type_le_of_typedLayout? {type : Nat} {layout : List Field}
    (h : typedLayout? type = some layout) : type ≠ 0 ∧ type ≤ 4 := by
  unfold typedLayout? at h
  split at h
  · omega
  · omega
  · omega
  · omega
  · cases h

theorem exists_typedLayout? {type : Nat} (hpos : type ≠ 0) (hle : type ≤ 4) :
    ∃ layout, typedLayout? type = some layout := by
  have hcases : type = 1 ∨ type = 2 ∨ type = 3 ∨ type = 4 := by omega
  rcases hcases with rfl | rfl | rfl | rfl <;> exact ⟨_, rfl⟩

theorem parseLegacy_eq (envelope : Bytes) :
    parseLegacy envelope = (do ofItems 0 (← readPayload envelope)) := by
  unfold parseLegacy
  cases readPayload envelope with
  | error refusal => rfl
  | ok items =>
      rw [ok_bind, ok_bind]
      show _ = (do
        let fields ← readFields legacyLayout items
        let chain ← chainSlots 0 (items.getD legacyLayout.length (.list []))
        return Parsed.mk 0 (fields ++ chain) items)
      cases readFields legacyLayout items with
      | error refusal => rfl
      | ok fields =>
          rw [ok_bind, ok_bind, chainSlots, if_pos rfl]
          cases recoveryNumber (items.getD legacyLayout.length (.list [])) <;> rfl

theorem parseTyped_eq {type : Nat} {layout : List Field}
    (h : typedLayout? type = some layout) (payload : Bytes) :
    parseTyped type payload = (do ofItems type (← readPayload payload)) := by
  have hpos := (type_le_of_typedLayout? h).1
  unfold parseTyped
  rw [h]
  cases readPayload payload with
  | error refusal => rfl
  | ok items =>
      simp only [ok_bind, ofItems, h, Option.getD_some, chainSlots, if_neg hpos]
      cases readFields layout items with
      | error refusal => rfl
      | ok fields =>
          rw [ok_bind, ok_bind]
          show _ = Except.ok (Parsed.mk type (fields ++ []) items)
          rw [List.append_nil]
          rfl

theorem readPayload_eq_ok {payload : Bytes} {items : List Item}
    (h : readPayload payload = .ok items) :
    payload = (Item.list items).encode ∧
      (Rlp.encodeAll items).length < Rlp.maxPayload := by
  unfold readPayload at h
  split at h
  · cases h
  · cases h
  · next hdecode =>
      cases h
      exact Rlp.decode_eq_some_iff.1 hdecode

theorem ofItems_eq_ok {type : Nat} {items : List Item} {parsed : Parsed}
    (h : ofItems type items = .ok parsed) :
    parsed.type = type ∧ parsed.items = items := by
  obtain ⟨fields, -, h⟩ := exists_of_bind_eq_ok h
  obtain ⟨chain, -, h⟩ := exists_of_bind_eq_ok h
  cases h
  exact ⟨rfl, rfl⟩

/-- An envelope that is parsed is the one that spells its type and its items. -/
theorem eq_bytes_of_parse {envelope : Bytes} {parsed : Parsed}
    (h : parse envelope = .ok parsed) :
    parsed.type ≤ 4 ∧ envelope = parsed.bytes ∧
      (Rlp.encodeAll parsed.items).length < Rlp.maxPayload ∧
      ofItems parsed.type parsed.items = .ok parsed := by
  have hread : ∀ type payload, (do ofItems type (← readPayload payload)) =
      .ok parsed → parsed.type = type ∧
        payload = (Item.list parsed.items).encode ∧
        (Rlp.encodeAll parsed.items).length < Rlp.maxPayload ∧
        ofItems parsed.type parsed.items = .ok parsed := by
    intro type payload h
    obtain ⟨items, hpayload, h⟩ := exists_of_bind_eq_ok h
    obtain ⟨rfl, rfl⟩ := ofItems_eq_ok h
    obtain ⟨hbytes, hsize⟩ := readPayload_eq_ok hpayload
    exact ⟨rfl, hbytes, hsize, h⟩
  unfold parse at h
  split at h
  · cases h
  · next first payload =>
      split at h
      · next hlow =>
          cases hlayout : typedLayout? first.toNat with
          | none =>
              unfold parseTyped at h
              rw [hlayout] at h
              cases h
          | some layout =>
              rw [parseTyped_eq hlayout] at h
              obtain ⟨htype, rfl, hsize, hitems⟩ := hread _ _ h
              have hbound := type_le_of_typedLayout? hlayout
              refine ⟨by omega, ?_, hsize, hitems⟩
              rw [Parsed.bytes, spell, if_neg (by omega), htype, UInt8.ofNat_toNat]
      · split at h
        · cases h
        · rw [parseLegacy_eq] at h
          obtain ⟨htype, hbytes, hsize, hitems⟩ := hread _ _ h
          refine ⟨by omega, ?_, hsize, hitems⟩
          rw [Parsed.bytes, spell, if_pos htype]
          exact hbytes

/-- An envelope is parsed to what its items are parsed to. -/
theorem parse_spell {type : Nat} (htype : type ≤ 4) {items : List Item}
    (hsize : (Rlp.encodeAll items).length < Rlp.maxPayload) :
    parse (spell type items) = ofItems type items := by
  unfold spell
  split
  · next hzero =>
      obtain ⟨first, digits, hhead, hlow, -, -⟩ :=
        Rlp.readPayload_head (by omega : 192 + 63 < 256) hsize []
      have hcons : (Item.list items).encode =
          first :: (digits ++ Rlp.encodeAll items) := by
        rw [Item.encode, hhead, List.cons_append]
      rw [hcons, parse, if_neg (by omega), if_neg (by omega), ← hcons,
        parseLegacy_eq, Signed.readPayload_encode hsize, ok_bind, hzero]
  · next hpos =>
      have hbyte : (UInt8.ofNat type).toNat = type := by
        rw [UInt8.toNat_ofNat']
        omega
      obtain ⟨layout, hlayout⟩ := exists_typedLayout? hpos htype
      rw [parse, hbyte, if_pos (by omega), parseTyped_eq hlayout,
        Signed.readPayload_encode hsize, ok_bind]

/-! ## Fields and items -/

theorem eq_of_strictNumber? {item : Item} {n : Nat}
    (h : strictNumber? item = some n) :
    item = .ofNat n ∨ n = 0 ∧ item = .list [] := by
  unfold strictNumber? at h
  split at h
  · split at h
    · cases h
    · next hhead =>
        cases h
        exact Or.inl (by rw [Item.ofNat, Bytes.ofNat_toNat hhead])
  · cases h
    exact Or.inr ⟨rfl, rfl⟩
  · cases h

/-- The item that spells a value, if its field is well formed. -/
def FieldValue.item : FieldValue → Item
  | .number n => .ofNat n
  | .recipient address => .bytes (address.getD [])
  | .data content => .bytes content
  | .unread item => item

/-- Whether an item has the value of a field and is well formed. -/
def Reads (slot : Field × FieldValue) (item : Item) : Prop :=
  readField slot.1 item = .ok slot.2 ∧ (signedItem? slot.1 item).isSome = true

theorem eq_bytes_of_contentOf {field : Field} {item : Item} {content : Bytes}
    (h : contentOf field item = .ok content) : item = .bytes content := by
  unfold contentOf at h
  split at h
  · cases h
    rfl
  · cases h

theorem eq_item_of_number {field : Field} {item : Item} {value : FieldValue}
    (hread : (do .ok (.number (← contentOf field item).toNat)) =
      Except.ok (ε := Refusal) value)
    (hsigned : ((strictNumber? item).map Item.ofNat).isSome = true) :
    item = value.item := by
  obtain ⟨content, hcontent, hvalue⟩ := exists_of_bind_eq_ok hread
  cases hvalue
  obtain rfl := eq_bytes_of_contentOf hcontent
  rw [Option.isSome_map, Option.isSome_iff_exists] at hsigned
  obtain ⟨n, hn⟩ := hsigned
  rcases eq_of_strictNumber? hn with hitem | ⟨-, hlist⟩
  · cases hitem
    rw [FieldValue.item, Bytes.toNat_ofNat]
    rfl
  · cases hlist

theorem eq_item_of_recipient {item : Item} {value : FieldValue}
    (h : readField .recipient item = .ok value) : item = value.item := by
  obtain ⟨content, hcontent, h⟩ := exists_of_bind_eq_ok h
  rw [eq_bytes_of_contentOf hcontent]
  split at h
  · next hempty =>
      cases h
      rw [List.isEmpty_iff.1 hempty]
      rfl
  · split at h
    · cases h
      rfl
    · cases h

/-- The item of a field that is well formed is the one that spells its value. -/
theorem Reads.eq_item {slot : Field × FieldValue} {item : Item}
    (h : Reads slot item) : item = slot.2.item := by
  obtain ⟨field, value⟩ := slot
  obtain ⟨hread, hsigned⟩ := h
  cases field with
  | chainId | nonce | gasPrice | maxPriorityFeePerGas | maxFeePerGas | gasLimit
  | value => exact eq_item_of_number hread hsigned
  | accessList | maxFeePerBlobGas | blobVersionedHashes | authorizationList =>
      cases hread
      rfl
  | data =>
      cases item with
      | bytes content =>
          cases hread
          rfl
      | list items => cases hread
  | recipient => exact eq_item_of_recipient hread

/-- Reads one field, and keeps its name. -/
def readSlot (slot : Field × Item) : Except Refusal (Field × FieldValue) := do
  let value ← readField slot.1 slot.2
  .ok (slot.1, value)

theorem zip_append_of_length_eq {layout : List Field} {front : List Item}
    (h : front.length = layout.length) (signature : List Item) :
    layout.zip (front ++ signature) = layout.zip front := by
  rw [← List.append_nil layout, List.zip_append h.symm]
  simp

theorem readFields_append {layout : List Field} {front signature : List Item}
    (hfront : front.length = layout.length)
    (hsignature : signature.length = signatureSize) :
    readFields layout (front ++ signature) =
      (layout.zip front).mapM readSlot := by
  rw [readFields, if_neg (by simp [hfront, hsignature]),
    zip_append_of_length_eq hfront]
  rfl

theorem eq_append_of_readFields {layout : List Field} {items : List Item}
    {fields : List (Field × FieldValue)}
    (h : readFields layout items = .ok fields) :
    ∃ front signature, items = front ++ signature ∧
      front.length = layout.length ∧ signature.length = signatureSize := by
  unfold readFields at h
  split at h
  · cases h
  · next hlength =>
      refine ⟨items.take layout.length, items.drop layout.length,
        (List.take_append_drop _ _).symm, ?_, ?_⟩
      · rw [List.length_take]
        omega
      · rw [List.length_drop]
        omega

/-- Fields that are well formed have the items that spell their values. -/
theorem eq_map_item {layout : List Field} {front signed : List Item}
    {fields : List (Field × FieldValue)}
    (hfront : front.length = layout.length)
    (hread : (layout.zip front).mapM readSlot = .ok fields)
    (hsigned : ((layout.zip front).mapM fun slot =>
      signedItem? slot.1 slot.2) = some signed) :
    front = fields.map (·.2.item) ∧ fields.length = layout.length := by
  induction layout generalizing front fields signed with
  | nil =>
      obtain rfl := List.length_eq_zero_iff.1 hfront
      cases hread
      exact ⟨rfl, rfl⟩
  | cons field rest ih =>
      cases front with
      | nil => cases hfront
      | cons item others =>
          rw [List.zip_cons_cons, List.mapM_cons] at hread hsigned
          obtain ⟨slot, hslot, hread⟩ := exists_of_bind_eq_ok hread
          obtain ⟨value, hvalue, hslot⟩ := exists_of_bind_eq_ok hslot
          obtain ⟨slots, hslots, hread⟩ := exists_of_bind_eq_ok hread
          obtain ⟨one, hone, hsigned⟩ := Option.bind_eq_some_iff.1 hsigned
          obtain ⟨more, hmore, -⟩ := Option.bind_eq_some_iff.1 hsigned
          cases hslot
          cases hread
          have hitem : Reads (field, value) item :=
            ⟨hvalue, Option.isSome_iff_exists.2 ⟨one, hone⟩⟩
          obtain ⟨hothers, hlength⟩ := ih (Nat.succ_inj.1 hfront) hslots hmore
          rw [List.map_cons, ← hothers, ← hitem.eq_item]
          exact ⟨rfl, congrArg (· + 1) hlength⟩

/-- What the items of an envelope are parsed to depends on the items of the
fields and on the first item of the signature. -/
theorem ofItems_append {type : Nat} {front : List Item}
    (hfront : front.length = ((typedLayout? type).getD legacyLayout).length)
    (first second third : Item) :
    ofItems type (front ++ [first, second, third]) = (do
      let fields ←
        (((typedLayout? type).getD legacyLayout).zip front).mapM readSlot
      let chain ← chainSlots type first
      return ⟨type, fields ++ chain, front ++ [first, second, third]⟩) := by
  have hfirst : (front ++ [first, second, third]).getD
      ((typedLayout? type).getD legacyLayout).length (.list []) = first := by
    rw [← hfront]
    simp
  unfold ofItems
  simp only [hfirst, readFields_append hfront
    (show [first, second, third].length = signatureSize from rfl)]

theorem exists_of_ofItems {type : Nat} {items : List Item} {parsed : Parsed}
    (h : ofItems type items = .ok parsed) :
    ∃ front first second third, items = front ++ [first, second, third] ∧
      front.length = ((typedLayout? type).getD legacyLayout).length := by
  obtain ⟨fields, hfields, -⟩ := exists_of_bind_eq_ok h
  obtain ⟨front, signature, rfl, hfront, hsignature⟩ :=
    eq_append_of_readFields hfields
  obtain ⟨first, second, third, rfl⟩ := List.length_eq_three.1 hsignature
  exact ⟨front, first, second, third, rfl, hfront⟩

/-! ## Envelopes with a sender -/

namespace Parsed

theorem signatureNumbers?_eq_some {parsed : Parsed} {front : List Item}
    {first second third : Item} {v r s : Nat}
    (hitems : parsed.items = front ++ [first, second, third])
    (hfront : front.length = parsed.layout.length) :
    parsed.signatureNumbers? = some (v, r, s) ↔
      strictNumber? first = some v ∧ strictNumber? second = some r ∧
        strictNumber? third = some s := by
  have hdrop : parsed.items.drop parsed.layout.length =
      [first, second, third] := by
    rw [hitems, ← hfront, List.drop_left]
  unfold signatureNumbers?
  rw [hdrop]
  simp only [Option.bind_eq_bind, Option.bind_eq_some_iff]
  constructor
  · rintro ⟨v', hv, r', hr, s', hs, ⟨⟩⟩
    exact ⟨hv, hr, hs⟩
  · rintro ⟨hv, hr, hs⟩
    exact ⟨v, hv, r, hr, s, hs, rfl⟩

theorem signedItems?_eq {parsed : Parsed} {front : List Item}
    {signature : List Item} (hitems : parsed.items = front ++ signature)
    (hfront : front.length = parsed.layout.length) :
    parsed.signedItems? = (parsed.layout.zip front).mapM fun slot =>
      signedItem? slot.1 slot.2 := by
  unfold signedItems?
  rw [hitems, zip_append_of_length_eq hfront]

/-- A signature with a sender has no zero behind its first number. -/
theorem exists_of_sender? {parsed : Parsed} {sender : Bytes}
    (h : parsed.sender? = some sender) :
    ∃ v r s signed, parsed.signatureNumbers? = some (v, r, s) ∧ r ≠ 0 ∧ s ≠ 0 ∧
      parsed.signedItems? = some signed := by
  obtain ⟨⟨v, r, s⟩, hnumbers, h⟩ := Option.bind_eq_some_iff.1 h
  obtain ⟨bytes, hbytes, h⟩ := Option.bind_eq_some_iff.1 h
  obtain ⟨parity, -, h⟩ := Option.bind_eq_some_iff.1 h
  obtain ⟨key, hkey, -⟩ := Option.bind_eq_some_iff.1 h
  obtain ⟨signed, hsigned, -⟩ := Option.bind_eq_some_iff.1 hbytes
  unfold Secp256k1.Signature.publicKey? at hkey
  split at hkey
  · cases hkey
  · next hbounds =>
      simp only [not_or] at hbounds
      exact ⟨v, r, s, signed, hnumbers, hbounds.1, hbounds.2.2.1, hsigned⟩

/-- An envelope whose sender was recovered has the items that spell its fields
and the last two numbers of its signature. What is left open is the item of the
first number. -/
theorem items_eq_of_sender? {parsed : Parsed} {sender : Bytes}
    (h : ofItems parsed.type parsed.items = .ok parsed)
    (hsender : parsed.sender? = some sender) :
    ∃ front first v r s, parsed.items = front ++ [first, .ofNat r, .ofNat s] ∧
      front.length = parsed.layout.length ∧
      front = (parsed.fields.take parsed.layout.length).map (·.2.item) ∧
      strictNumber? first = some v ∧
      parsed.signatureNumbers? = some (v, r, s) := by
  obtain ⟨front, first, second, third, hitems, hfront⟩ := exists_of_ofItems h
  obtain ⟨v, r, s, signed, hnumbers, hr, hs, hsigned⟩ :=
    exists_of_sender? hsender
  obtain ⟨hfirst, hsecond, hthird⟩ :=
    (signatureNumbers?_eq_some hitems hfront).1 hnumbers
  rw [signedItems?_eq hitems hfront] at hsigned
  rw [hitems, ofItems_append hfront] at h
  obtain ⟨fields, hfields, h⟩ := exists_of_bind_eq_ok h
  obtain ⟨chain, -, h⟩ := exists_of_bind_eq_ok h
  obtain ⟨hspelled, hlength⟩ := eq_map_item hfront hfields hsigned
  have htake : parsed.fields.take parsed.layout.length = fields := by
    rw [← Except.ok.inj h]
    exact List.take_left' hlength
  refine ⟨front, first, v, r, s, ?_, hfront, by rw [htake, hspelled], hfirst,
    hnumbers⟩
  rcases eq_of_strictNumber? hsecond with rfl | ⟨hzero, -⟩
  · rcases eq_of_strictNumber? hthird with rfl | ⟨hzero, -⟩
    · exact hitems
    · exact absurd hzero hs
  · exact absurd hzero hr

end Parsed

/-! ## The other spelling -/

/-- The other spelling of a zero. An item that does not spell zero has no
other. -/
def respellZero : Item → Item
  | .bytes [] => .list []
  | .list [] => .bytes []
  | item => item

theorem strictNumber?_respellZero (item : Item) :
    strictNumber? (respellZero item) = strictNumber? item := by
  unfold respellZero
  split <;> rfl

theorem recoveryNumber_respellZero (item : Item) :
    recoveryNumber (respellZero item) = recoveryNumber item := by
  unfold respellZero
  split <;> rfl

theorem length_encode_respellZero (item : Item) :
    (respellZero item).encode.length = item.encode.length := by
  unfold respellZero
  split <;> rfl

/-- A number that is not zero is spelled in one way, zero in two. -/
theorem eq_or_eq_respellZero {item other : Item} {n : Nat}
    (h : strictNumber? item = some n) (h' : strictNumber? other = some n) :
    other = item ∨ other = respellZero item := by
  rcases eq_of_strictNumber? h with rfl | ⟨rfl, rfl⟩
  · rcases eq_of_strictNumber? h' with rfl | ⟨rfl, rfl⟩
    · exact Or.inl rfl
    · exact Or.inr (by simp [respellZero, Item.ofNat])
  · rcases eq_of_strictNumber? h' with rfl | ⟨-, rfl⟩
    · exact Or.inr (by simp [respellZero, Item.ofNat])
    · exact Or.inl rfl

theorem respellZero_eq_self_iff {item : Item} {n : Nat}
    (h : strictNumber? item = some n) : respellZero item = item ↔ n ≠ 0 := by
  rcases eq_of_strictNumber? h with rfl | ⟨rfl, rfl⟩
  · by_cases hn : n = 0
    · simp [hn, respellZero, Item.ofNat]
    · obtain ⟨b, rest, hcons⟩ :=
        List.exists_cons_of_ne_nil (Bytes.ofNat_ne_nil hn)
      simp [hn, respellZero, Item.ofNat, hcons]
  · simp [respellZero]

theorem length_encodeAll_append (items others : List Item) :
    (Rlp.encodeAll (items ++ others)).length =
      (Rlp.encodeAll items).length + (Rlp.encodeAll others).length := by
  induction items with
  | nil => simp [Rlp.encodeAll]
  | cons item rest ih =>
      rw [List.cons_append, Rlp.encodeAll, Rlp.encodeAll, List.length_append,
        List.length_append, ih]
      omega

namespace Parsed

/-- An envelope that was parsed, with the other spelling of the first number of
its signature if that is zero. -/
def respell (parsed : Parsed) : Parsed :=
  { parsed with
    items := parsed.items.take parsed.layout.length ++
      (parsed.items.drop parsed.layout.length).modifyHead respellZero }

variable {parsed : Parsed}

theorem items_respell {front : List Item} {first second third : Item}
    (hitems : parsed.items = front ++ [first, second, third])
    (hfront : front.length = parsed.layout.length) :
    parsed.respell.items = front ++ [respellZero first, second, third] := by
  unfold respell
  simp only
  rw [hitems, ← hfront, List.take_left, List.drop_left]
  rfl

/-- The other spelling is parsed to the same fields. -/
theorem ofItems_respell (h : ofItems parsed.type parsed.items = .ok parsed) :
    ofItems parsed.type parsed.respell.items = .ok parsed.respell := by
  obtain ⟨front, first, second, third, hitems, hfront⟩ := exists_of_ofItems h
  have hchain : chainSlots parsed.type (respellZero first) =
      chainSlots parsed.type first := by
    unfold chainSlots
    rw [recoveryNumber_respellZero]
  have hafter := items_respell hitems hfront
  rw [hitems, ofItems_append hfront] at h
  obtain ⟨fields, hfields, h⟩ := exists_of_bind_eq_ok h
  obtain ⟨chain, hslots, h⟩ := exists_of_bind_eq_ok h
  have hsame : parsed.fields = fields ++ chain := by rw [← Except.ok.inj h]
  have hrespell : parsed.respell =
      ⟨parsed.type, fields ++ chain, front ++ [respellZero first, second, third]⟩ := by
    rw [← hsame, ← hafter]
    rfl
  rw [hafter, ofItems_append hfront, hfields, hchain, hslots, hrespell]
  rfl

theorem length_encodeAll_respell
    (h : ofItems parsed.type parsed.items = .ok parsed) :
    (Rlp.encodeAll parsed.respell.items).length =
      (Rlp.encodeAll parsed.items).length := by
  obtain ⟨front, first, second, third, hitems, hfront⟩ := exists_of_ofItems h
  rw [items_respell hitems hfront, hitems, length_encodeAll_append,
    length_encodeAll_append]
  simp only [Rlp.encodeAll, List.length_append, length_encode_respellZero]

theorem signatureNumbers?_respell
    (h : ofItems parsed.type parsed.items = .ok parsed) :
    parsed.respell.signatureNumbers? = parsed.signatureNumbers? := by
  obtain ⟨front, first, second, third, hitems, hfront⟩ := exists_of_ofItems h
  apply Option.ext
  rintro ⟨v, r, s⟩
  rw [signatureNumbers?_eq_some hitems hfront,
    signatureNumbers?_eq_some (items_respell hitems hfront) hfront,
    strictNumber?_respellZero]

/-- The other spelling has the same sender. -/
theorem sender?_respell (h : ofItems parsed.type parsed.items = .ok parsed) :
    parsed.respell.sender? = parsed.sender? := by
  obtain ⟨front, first, second, third, hitems, hfront⟩ := exists_of_ofItems h
  have hsigned : parsed.respell.signedItems? = parsed.signedItems? := by
    rw [signedItems?_eq hitems hfront,
      signedItems?_eq (items_respell hitems hfront) hfront]
    rfl
  unfold sender? signedBytes?
  rw [signatureNumbers?_respell h, hsigned]
  rfl

end Parsed

end EvmIndexer.Envelope
