import EvmIndexer.Proofs.Bytes.Number
import EvmIndexer.Rlp.Reader

/-!
# Reading undoes the encoding of items

The strict reader takes back every item that was encoded, whatever follows it.
The one bound is that of the format itself: a head holds the length of its
payload in at most eight bytes, so a payload of 2 ^ 64 bytes or more has no
encoding. Inner payloads are shorter than the payload they stand in, and the
bound is asked of the outermost one alone.

The reader counts its steps. An item is read in at most twice as many steps as
it has bytes: one to see each item and one to go on behind it.
-/

namespace EvmIndexer.Rlp

open Bytes

/-- One more than the greatest length that a head can hold. -/
def maxPayload : Nat := 256 ^ 8

/-- What stands behind the head of an item. -/
def Item.payload : Item → Bytes
  | .bytes content => content
  | .list items => encodeAll items

theorem splitAt?_append (xs ys : Bytes) :
    splitAt? xs.length (xs ++ ys) = some (xs, ys) := by
  simp [splitAt?]

/-! ## Heads -/

theorem length_head_pos (mark length : Nat) : 0 < (head mark length).length := by
  unfold head
  split <;> simp

theorem readLength_ofNat {n : Nat} (hn : 55 < n) (rest : Bytes) :
    readLength (ofNat n).length (ofNat n ++ rest) = some (n, rest) := by
  simp only [readLength, splitAt?_append, Option.bind_eq_bind,
    Option.bind_some, toNat_ofNat]
  rw [if_neg]
  rintro (hzero | hshort)
  · exact head?_ofNat_ne_zero n hzero
  · omega

/-- A head lies within 64 values of its mark, and what it announces is the
payload that it was made for. -/
theorem readPayload_head {mark : Nat} (hmark : mark + 63 < 256)
    {content : Bytes} (hsize : content.length < maxPayload) (rest : Bytes) :
    ∃ first digits, head mark content.length = first :: digits ∧
      mark ≤ first.toNat ∧ first.toNat ≤ mark + 63 ∧
      readPayload (first.toNat - mark) (digits ++ (content ++ rest)) =
        some (content, rest) := by
  unfold head
  split
  · next hshort =>
      have hfirst : (UInt8.ofNat (mark + content.length)).toNat =
          mark + content.length := by
        simp only [UInt8.toNat_ofNat']
        omega
      refine ⟨_, _, rfl, by omega, by omega, ?_⟩
      rw [hfirst, readPayload, if_pos (by omega), List.nil_append,
        Nat.add_sub_cancel_left, splitAt?_append]
  · next hlong =>
      have hwidth : (ofNat content.length).length ≤ 8 := length_ofNat_le hsize
      have hpos : 0 < (ofNat content.length).length :=
        List.length_pos_iff.2 (ofNat_ne_nil (by omega))
      have hfirst : (UInt8.ofNat
          (mark + 55 + (ofNat content.length).length)).toNat =
          mark + 55 + (ofNat content.length).length := by
        simp only [UInt8.toNat_ofNat']
        omega
      have hoffset : mark + 55 + (ofNat content.length).length - mark - 55 =
          (ofNat content.length).length := by omega
      refine ⟨_, _, rfl, by omega, by omega, ?_⟩
      rw [hfirst, readPayload, if_neg (by omega), hoffset,
        readLength_ofNat (by omega)]
      exact splitAt?_append content rest

/-! ## Byte strings -/

theorem length_encodeBytes_pos (content : Bytes) :
    0 < (encodeBytes content).length := by
  unfold encodeBytes
  split
  · split <;> simp
  · rw [List.length_append]
    have := length_head_pos 128 content.length
    omega

theorem length_le_encodeBytes (content : Bytes) :
    content.length ≤ (encodeBytes content).length := by
  unfold encodeBytes
  split
  · split <;> simp
  · simp

/-- A byte string that does not stand for itself is its head and its content. -/
theorem encodeBytes_eq_head {content : Bytes}
    (h : ∀ b, content = [b] → 128 ≤ b.toNat) :
    encodeBytes content = head 128 content.length ++ content := by
  unfold encodeBytes
  split
  · next b =>
      rw [if_neg (Nat.not_lt.2 (h b rfl))]
      rfl
  · rfl

/-- A byte string stands for itself or has a head. -/
theorem encodeBytes_cases (content : Bytes) :
    (∃ b, content = [b] ∧ b.toNat < 128 ∧ encodeBytes content = [b]) ∨
      encodeBytes content = head 128 content.length ++ content := by
  by_cases hself : ∃ b, content = [b] ∧ b.toNat < 128
  · obtain ⟨b, rfl, hb⟩ := hself
    exact Or.inl ⟨b, rfl, hb, by rw [encodeBytes, if_pos hb]⟩
  · right
    apply encodeBytes_eq_head
    intro b hcontent
    exact Nat.not_lt.1 fun hlt => hself ⟨b, hcontent, hlt⟩

theorem readItem_encodeBytes {content : Bytes}
    (hsize : content.length < maxPayload) (steps : Nat) (rest : Bytes) :
    readItem (steps + 1) (encodeBytes content ++ rest) =
      some (.bytes content, rest) := by
  by_cases hself : ∃ b, content = [b] ∧ b.toNat < 128
  · obtain ⟨b, rfl, hb⟩ := hself
    rw [encodeBytes, if_pos hb, List.singleton_append, readItem, if_pos hb]
  · have hlarge : ∀ b, content = [b] → 128 ≤ b.toNat := by
      intro b hcontent
      exact Nat.not_lt.1 fun hlt => hself ⟨b, hcontent, hlt⟩
    obtain ⟨first, digits, hhead, hlow, hhigh, hread⟩ :=
      readPayload_head (by omega : 128 + 63 < 256) hsize rest
    rw [encodeBytes_eq_head hlarge, hhead, List.append_assoc, List.cons_append,
      readItem, if_neg (by omega), if_pos (by omega), hread]
    simp only [Option.bind_eq_bind, Option.bind_some]
    split
    · next c => rw [if_neg (Nat.not_lt.2 (hlarge c rfl))]
    · rfl

/-! ## Items -/

theorem length_encode_pos (item : Item) : 0 < item.encode.length := by
  cases item with
  | bytes content => exact length_encodeBytes_pos content
  | list items =>
      rw [Item.encode, List.length_append]
      have := length_head_pos 192 (encodeAll items).length
      omega

theorem length_payload_le (item : Item) :
    item.payload.length ≤ item.encode.length := by
  cases item with
  | bytes content => exact length_le_encodeBytes content
  | list items => simp [Item.encode, Item.payload]

mutual

theorem readItem_encode {item : Item} (hsize : item.payload.length < maxPayload)
    {steps : Nat} (hsteps : 2 * item.encode.length ≤ steps + 1) (rest : Bytes) :
    readItem steps (item.encode ++ rest) = some (item, rest) := by
  match item with
  | .bytes content =>
      have hpos := length_encodeBytes_pos content
      rw [Item.encode] at hsteps ⊢
      obtain ⟨k, rfl⟩ : ∃ k, steps = k + 1 := ⟨steps - 1, by omega⟩
      exact readItem_encodeBytes hsize k rest
  | .list items =>
      have hpos := length_head_pos 192 (encodeAll items).length
      rw [Item.encode, List.length_append] at hsteps
      rw [Item.payload] at hsize
      obtain ⟨k, rfl⟩ : ∃ k, steps = k + 1 := ⟨steps - 1, by omega⟩
      have hinner : readItems k (encodeAll items) = some items :=
        readItems_encodeAll hsize (by omega)
      obtain ⟨first, digits, hhead, hlow, hhigh, hread⟩ :=
        readPayload_head (by omega : 192 + 63 < 256) hsize rest
      rw [Item.encode, hhead, List.append_assoc, List.cons_append, readItem,
        if_neg (by omega), if_neg (by omega), hread]
      simp only [Option.bind_eq_bind, Option.bind_some, hinner]
      rfl
termination_by sizeOf item
decreasing_by
  simp only [Item.list.sizeOf_spec]
  omega

theorem readItems_encodeAll {items : List Item}
    (hsize : (encodeAll items).length < maxPayload) {steps : Nat}
    (hsteps : 2 * (encodeAll items).length ≤ steps) :
    readItems steps (encodeAll items) = some items := by
  match items with
  | [] => rw [encodeAll, readItems.eq_def]
  | item :: rest =>
      have hpos := length_encode_pos item
      have hle := length_payload_le item
      rw [encodeAll, List.length_append] at hsize hsteps
      obtain ⟨steps, rfl⟩ : ∃ k, steps = k + 1 := ⟨steps - 1, by omega⟩
      have hfirst : readItem steps (item.encode ++ encodeAll rest) =
          some (item, encodeAll rest) :=
        readItem_encode (by omega) (by omega) _
      have hrest : readItems steps (encodeAll rest) = some rest :=
        readItems_encodeAll (by omega) (by omega)
      obtain ⟨b, tail, hcons⟩ :=
        List.exists_cons_of_length_pos (l := item.encode) hpos
      rw [encodeAll]
      rw [hcons, List.cons_append] at hfirst ⊢
      rw [readItems, hfirst]
      simp only [Option.bind_eq_bind, Option.bind_some, hrest]
      rfl
termination_by sizeOf items
decreasing_by
  all_goals
    simp only [List.cons.sizeOf_spec]
    omega

end

/-- Reading gives back the item that was encoded. -/
theorem decode_encode {item : Item} (hsize : item.payload.length < maxPayload) :
    decode item.encode = some item := by
  have hread : readItem (2 * item.encode.length + 1) (item.encode ++ []) =
      some (item, []) := readItem_encode hsize (by omega) []
  rw [List.append_nil] at hread
  rw [decode, hread]
  rfl

end EvmIndexer.Rlp
