import EvmIndexer.Bytes.Basic
import Mathlib.Data.List.Basic

/-!
# Text that was written is read back

The bytes of a text are taken out of its array one by one, and reading puts them
into an array again. That the two arrays are the same is all there is to show: a
text carries the proof that its own bytes are good, so only the last part, on the
zero byte, looks at a character.
-/

namespace EvmIndexer.Bytes

theorem loop_toList (bs : ByteArray) (i : Nat) (done : List UInt8) :
    ByteArray.toList.loop bs i done = done.reverse ++ bs.data.toList.drop i := by
  fun_induction ByteArray.toList.loop bs i done with
  | case1 i done hlt ih =>
      have hi : i < bs.data.toList.length := by simpa using hlt
      have hget : bs.get! i = bs.data.toList[i] := by
        rw [ByteArray.get!, Array.getElem_toList]
        exact getElem!_pos bs.data i (by simpa using hlt)
      rw [ih, List.drop_eq_getElem_cons hi, hget,
        List.reverse_cons, List.append_assoc]
      rfl
  | case2 i done hge =>
      have hall : bs.data.toList.length ≤ i := by simpa using hge
      rw [List.drop_eq_nil_of_le hall, List.append_nil]

theorem ofText_eq (s : String) : ofText s = s.toByteArray.data.toList := by
  show ByteArray.toList.loop s.toByteArray 0 [] = _
  rw [loop_toList]
  rfl

/-- The bytes of a text spell it. -/
theorem toText?_ofText (s : String) : toText? (ofText s) = some s := by
  have harray : (⟨(ofText s).toArray⟩ : ByteArray) = s.toByteArray := by
    rw [ofText_eq, Array.toArray_toList]
  rw [toText?, harray, String.fromUTF8?, dif_pos s.isValidUTF8]
  rfl

theorem ofText_of_toText? {bs : Bytes} {s : String} (h : toText? bs = some s) :
    ofText s = bs := by
  rw [toText?, String.fromUTF8?, Option.dite_none_right_eq_some] at h
  obtain ⟨hvalid, hs⟩ := h
  rw [ofText_eq, ← Option.some.inj hs]
  rfl

/-- A text is spelt character by character. -/
theorem ofText_eq_flatMap (s : String) :
    ofText s = s.toList.flatMap String.utf8EncodeChar := by
  have hencode : s.toByteArray = s.toList.utf8Encode := by
    rw [← String.toByteArray_ofList, String.ofList_toList]
  rw [ofText_eq, hencode, List.utf8Encode, List.data_toByteArray]

theorem zero_mem_of_toText? {bs : Bytes} {s : String} (h : toText? bs = some s)
    (hzero : '\x00' ∈ s.toList) : 0 ∈ bs := by
  rw [← ofText_of_toText? h, ofText_eq_flatMap]
  exact List.mem_flatMap_of_mem hzero (by decide)

/-- Only the zero character is spelt with a zero byte. -/
theorem eq_zero_of_mem_utf8EncodeChar {c : Char} (h : 0 ∈ String.utf8EncodeChar c) :
    c = '\x00' := by
  have hbyte : ∀ n : Nat, n < 256 → (0 : UInt8) = UInt8.ofNat n → n = 0 := by
    intro n hn heq
    have hvalue := congrArg UInt8.toNat heq
    rw [UInt8.toNat_ofNat'] at hvalue
    change 0 = n % 256 at hvalue
    omega
  -- every byte but a single one has its highest bit set
  unfold String.utf8EncodeChar at h
  simp only at h
  split at h
  · have hzero := hbyte _ (by omega) (List.mem_singleton.1 h)
    exact Char.toNat_inj.1 hzero
  · split at h
    · simp only [List.mem_cons, List.not_mem_nil, or_false] at h
      rcases h with h | h <;> exact absurd (hbyte _ (by omega) h) (by omega)
    · split at h
      · simp only [List.mem_cons, List.not_mem_nil, or_false] at h
        rcases h with h | h | h <;> exact absurd (hbyte _ (by omega) h) (by omega)
      · simp only [List.mem_cons, List.not_mem_nil, or_false] at h
        rcases h with h | h | h | h <;> exact absurd (hbyte _ (by omega) h) (by omega)

theorem zero_mem_of_mem_ofText {s : String} (h : 0 ∈ ofText s) : '\x00' ∈ s.toList := by
  rw [ofText_eq_flatMap] at h
  obtain ⟨c, hc, hzero⟩ := List.mem_flatMap.1 h
  rwa [eq_zero_of_mem_utf8EncodeChar hzero] at hc

theorem eq_empty_of_ofText {s : String} (h : ofText s = []) : s = "" := by
  have hempty : ofText "" = [] := ofText_eq ""
  have hread := toText?_ofText s
  rw [h, ← hempty, toText?_ofText] at hread
  exact (Option.some.inj hread).symm

end EvmIndexer.Bytes
