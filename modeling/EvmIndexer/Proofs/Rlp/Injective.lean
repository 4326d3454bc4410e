import EvmIndexer.Proofs.Rlp.RoundTrip

/-!
# No two pairs have one encoding

The strict reader takes an item back as long as a head can hold the length of its
payload. That two payloads have different encodings needs no such bound, since it is
enough to compare lengths. A longer payload has no shorter head. So encodings of one
length have payloads of one length, their heads are the same, and what stands behind
them is the same.

In a list of two byte strings there is a place to know, the one where the second
begins. It is known if the first strings are of one length and of more than one byte,
for only a single byte may do without a head.
-/

namespace EvmIndexer.Rlp

open Bytes

theorem length_head_mono (mark : Nat) {m n : Nat} (h : m ≤ n) :
    (head mark m).length ≤ (head mark n).length := by
  unfold head
  split
  · split
    · exact Nat.le_refl _
    · simp
  · next hlong =>
      rw [if_neg (show ¬ n ≤ 55 by omega)]
      exact Nat.succ_le_succ (length_ofNat_mono h)

/-- A payload behind its head is told by the whole, of whatever length it is. -/
theorem eq_of_head_append_eq (mark : Nat) {x y : Bytes}
    (h : head mark x.length ++ x = head mark y.length ++ y) : x = y := by
  have hlengths := congrArg List.length h
  rw [List.length_append, List.length_append] at hlengths
  have hlength : x.length = y.length := by
    rcases Nat.lt_trichotomy x.length y.length with hlt | heq | hgt
    · have := length_head_mono mark (Nat.le_of_lt hlt)
      omega
    · exact heq
    · have := length_head_mono mark (Nat.le_of_lt hgt)
      omega
  rw [hlength] at h
  exact List.append_cancel_left h

/-- A byte that stands for itself is the encoding of no other byte string. -/
theorem eq_of_encodeBytes_eq_self {b : UInt8} {content : Bytes} (hb : b.toNat < 128)
    (h : encodeBytes content = [b]) : content = [b] := by
  rcases encodeBytes_cases content with ⟨c, hself, -, hencoded⟩ | hencoded
  · rw [hself, ← hencoded, h]
  · rw [hencoded] at h
    have hlength := congrArg List.length h
    have hhead := length_head_pos 128 content.length
    rw [List.length_append, List.length_singleton] at hlength
    obtain rfl : content = [] := List.length_eq_zero_iff.1 (by omega)
    -- the empty byte string is the byte 128
    cases h
    exact absurd hb (by decide)

theorem encodeBytes_injective {x y : Bytes} (h : encodeBytes x = encodeBytes y) : x = y := by
  rcases encodeBytes_cases x with ⟨b, rfl, hb, hself⟩ | hhead
  · exact (eq_of_encodeBytes_eq_self hb (h.symm.trans hself)).symm
  · rcases encodeBytes_cases y with ⟨b, rfl, hb, hself⟩ | hhead'
    · exact eq_of_encodeBytes_eq_self hb (h.trans hself)
    · rw [hhead, hhead'] at h
      exact eq_of_head_append_eq 128 h

theorem length_encodeBytes_of_long {x : Bytes} (h : 1 < x.length) :
    (encodeBytes x).length = (head 128 x.length).length + x.length := by
  rw [encodeBytes_eq_head, List.length_append]
  rintro b rfl
  exact absurd h (by simp)

/-- Two byte strings are told by the encoding of their list, if the length of the
first is known. -/
theorem pair_encode_injective {x y z w : Bytes} (hlength : x.length = y.length)
    (hlong : 1 < x.length)
    (h : (Item.list [.bytes x, .bytes z]).encode = (Item.list [.bytes y, .bytes w]).encode) :
    x = y ∧ z = w := by
  have hpayload := eq_of_head_append_eq 192 h
  have hfirst : (encodeBytes x).length = (encodeBytes y).length := by
    rw [length_encodeBytes_of_long hlong, length_encodeBytes_of_long (hlength ▸ hlong),
      hlength]
  obtain ⟨hx, hz⟩ := List.append_inj hpayload hfirst
  rw [encodeAll, encodeAll, encodeAll, encodeAll, List.append_nil, List.append_nil] at hz
  exact ⟨encodeBytes_injective hx, encodeBytes_injective hz⟩

end EvmIndexer.Rlp
