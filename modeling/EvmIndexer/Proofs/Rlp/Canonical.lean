import EvmIndexer.Proofs.Rlp.RoundTrip

/-!
# The strict reader takes nothing but encodings

What the reader takes is the encoding of the item that it gives, so an item has
one encoding. A head could announce its payload in two ways wrongly: in a long
form where the short one would do, or with zero bytes in front of the length. The
reader refuses both, and a byte that could stand for itself may not have a head.

The reader counts its steps, and the proof is by induction on them, one half for
an item and one for the items of a list. How many steps there are is of no
account: fewer of them only refuse more.
-/

namespace EvmIndexer.Rlp

open Bytes

theorem eq_append_of_splitAt? {n : Nat} {bs xs ys : Bytes}
    (h : splitAt? n bs = some (xs, ys)) : bs = xs ++ ys ∧ xs.length = n := by
  unfold splitAt? at h
  split at h
  · next hle =>
      cases h
      exact ⟨(List.take_append_drop n bs).symm, List.length_take_of_le hle⟩
  · cases h

/-! ## Heads -/

theorem readLength_sound {width n : Nat} {bs rest : Bytes}
    (h : readLength width bs = some (n, rest)) :
    bs = ofNat n ++ rest ∧ (ofNat n).length = width ∧ 55 < n := by
  unfold readLength at h
  cases hsplit : splitAt? width bs with
  | none =>
      rw [hsplit] at h
      cases h
  | some parts =>
      obtain ⟨digits, rest'⟩ := parts
      obtain ⟨hbs, hwidth⟩ := eq_append_of_splitAt? hsplit
      simp only [hsplit, Option.bind_eq_bind, Option.bind_some] at h
      split at h
      · cases h
      · next hgood =>
          cases h
          have hdigits : ofNat (toNat digits) = digits :=
            ofNat_toNat fun hzero => hgood (Or.inl hzero)
          rw [hdigits]
          exact ⟨hbs, hwidth, by omega⟩

/-- A payload that was split off stands behind its own head. -/
theorem readPayload_sound {mark : Nat} {first : UInt8} {digits content rest : Bytes}
    (hlow : mark ≤ first.toNat) (hhigh : first.toNat ≤ mark + 63)
    (h : readPayload (first.toNat - mark) digits = some (content, rest)) :
    first :: digits = head mark content.length ++ (content ++ rest) ∧
      content.length < maxPayload := by
  unfold readPayload at h
  split at h
  · next hshort =>
      obtain ⟨rfl, hlength⟩ := eq_append_of_splitAt? h
      have hfirst : UInt8.ofNat (mark + content.length) = first := by
        rw [hlength, show mark + (first.toNat - mark) = first.toNat by omega,
          UInt8.ofNat_toNat]
      have hbound : 55 < maxPayload := by decide
      rw [head, if_pos (by omega), hfirst]
      exact ⟨rfl, by omega⟩
  · next hlong =>
      cases hread : readLength (first.toNat - mark - 55) digits with
      | none =>
          rw [hread] at h
          cases h
      | some parts =>
          obtain ⟨n, rest'⟩ := parts
          obtain ⟨rfl, hwidth, hn⟩ := readLength_sound hread
          simp only [hread, Option.bind_eq_bind, Option.bind_some] at h
          obtain ⟨rfl, hlength⟩ := eq_append_of_splitAt? h
          have hfirst :
              UInt8.ofNat (mark + 55 + (ofNat n).length) = first := by
            rw [hwidth, show mark + 55 + (first.toNat - mark - 55) = first.toNat
              by omega, UInt8.ofNat_toNat]
          have hbound : n < maxPayload := by
            calc n = toNat (ofNat n) := (toNat_ofNat n).symm
              _ < 256 ^ (ofNat n).length := toNat_lt _
              _ ≤ 256 ^ 8 := Nat.pow_le_pow_right (by omega) (by omega)
          rw [hlength, head, if_neg (by omega)]
          simp only [hfirst]
          exact ⟨rfl, hbound⟩

/-! ## Items -/

mutual

theorem readItem_sound {steps : Nat} {bs rest : Bytes} {item : Item}
    (h : readItem steps bs = some (item, rest)) :
    bs = item.encode ++ rest ∧ item.payload.length < maxPayload := by
  match steps, bs with
  | 0, _ =>
      rw [readItem] at h
      cases h
  | _ + 1, [] =>
      rw [readItem] at h
      cases h
  | steps + 1, b :: tail =>
      have hb := b.toNat_lt
      rw [readItem] at h
      split at h
      · next hself =>
          cases h
          rw [Item.encode, encodeBytes, if_pos hself]
          exact ⟨rfl, show 1 < maxPayload by decide⟩
      · next hhead =>
          split at h
          · next hbytes =>
              cases hread : readPayload (b.toNat - 128) tail with
              | none =>
                  rw [hread] at h
                  cases h
              | some parts =>
                  obtain ⟨content, rest'⟩ := parts
                  obtain ⟨hbs, hbound⟩ :=
                    readPayload_sound (by omega) (by omega) hread
                  simp only [hread, Option.bind_eq_bind, Option.bind_some] at h
                  have hresult : (∀ c, content = [c] → 128 ≤ c.toNat) ∧
                      Item.bytes content = item ∧ rest' = rest := by
                    split at h
                    · next c =>
                        split at h
                        · cases h
                        · next hlarge =>
                            cases h
                            refine ⟨?_, rfl, rfl⟩
                            rintro _ ⟨⟩
                            exact Nat.not_lt.1 hlarge
                    · next hnot =>
                        cases h
                        exact ⟨fun c hc => (hnot c hc).elim, rfl, rfl⟩
                  obtain ⟨hlarge, rfl, rfl⟩ := hresult
                  rw [Item.encode, encodeBytes_eq_head hlarge, List.append_assoc]
                  exact ⟨hbs, hbound⟩
          · next hlist =>
              cases hread : readPayload (b.toNat - 192) tail with
              | none =>
                  rw [hread] at h
                  cases h
              | some parts =>
                  obtain ⟨payload, rest'⟩ := parts
                  obtain ⟨hbs, hbound⟩ :=
                    readPayload_sound (by omega) (by omega) hread
                  simp only [hread, Option.bind_eq_bind, Option.bind_some] at h
                  cases hitems : readItems steps payload with
                  | none =>
                      rw [hitems] at h
                      cases h
                  | some items =>
                      rw [hitems] at h
                      cases h
                      obtain rfl := readItems_sound hitems
                      rw [Item.encode, List.append_assoc]
                      exact ⟨hbs, hbound⟩
termination_by steps

theorem readItems_sound {steps : Nat} {bs : Bytes} {items : List Item}
    (h : readItems steps bs = some items) : bs = encodeAll items := by
  match steps, bs with
  | _, [] =>
      rw [readItems.eq_def] at h
      cases h
      rfl
  | 0, b :: tail =>
      rw [readItems] at h
      cases h
  | steps + 1, b :: tail =>
      rw [readItems] at h
      cases hfirst : readItem steps (b :: tail) with
      | none =>
          rw [hfirst] at h
          cases h
      | some parts =>
          obtain ⟨item, rest⟩ := parts
          simp only [hfirst, Option.bind_eq_bind, Option.bind_some] at h
          cases hrest : readItems steps rest with
          | none =>
              rw [hrest] at h
              cases h
          | some others =>
              rw [hrest] at h
              cases h
              rw [(readItem_sound hfirst).1, readItems_sound hrest, encodeAll]
termination_by steps

end

/-- The bytes that are read as an item are its encoding, and no others. -/
theorem decode_eq_some_iff {bs : Bytes} {item : Item} :
    decode bs = some item ↔
      bs = item.encode ∧ item.payload.length < maxPayload := by
  constructor
  · intro h
    unfold decode at h
    cases hread : readItem (2 * bs.length + 1) bs with
    | none =>
        rw [hread] at h
        cases h
    | some parts =>
        obtain ⟨read, rest⟩ := parts
        simp only [hread, Option.bind_eq_bind, Option.bind_some] at h
        split at h
        · next hempty =>
            cases h
            obtain ⟨hbs, hbound⟩ := readItem_sound hread
            rw [List.isEmpty_iff.1 hempty, List.append_nil] at hbs
            exact ⟨hbs, hbound⟩
        · cases h
  · rintro ⟨rfl, hbound⟩
    exact decode_encode hbound

end EvmIndexer.Rlp
