import EvmIndexer.Proofs.Text.LowerCase
import EvmIndexer.Signature.Cache
import Mathlib.Data.List.Induction
import Mathlib.Data.List.Nodup

/-!
# The cache keeps what was touched last

A key is touched when a signature is put under it and when it is found. The order
of the last touches is a matter of the record of all touches alone: read the latest
first and leave out what came before. What a cache of a capacity holds is the front
of that order, each key with the signature that was put last.

That the front is enough to go on with is the one thing to show. The cache forgets
what lies behind it, so when a key is touched, the new front has to come from the
old one: taking out one key makes room for at most one other, and the touched key
stands where it was wanted.
-/

namespace EvmIndexer

/-! ## Each key once, in the order of the record -/

section EraseDups

variable {α : Type} [BEq α] [LawfulBEq α]

theorem eraseDups_filter (p : α → Bool) (xs : List α) :
    (xs.filter p).eraseDups = xs.eraseDups.filter p := by
  match xs with
  | [] => rfl
  | x :: rest =>
      have ih := eraseDups_filter p (rest.filter fun y => !y == x)
      rw [List.eraseDups_cons]
      by_cases hx : p x = true
      · rw [List.filter_cons_of_pos hx, List.filter_cons_of_pos hx, List.eraseDups_cons,
          ← ih, List.filter_filter, List.filter_filter]
        simp only [Bool.and_comm]
      · rw [List.filter_cons_of_neg hx, List.filter_cons_of_neg hx, ← ih,
          List.filter_filter]
        congr 1
        refine List.filter_congr fun y _ => ?_
        by_cases hy : y = x
        · subst hy
          simp [hx]
        · simp [hy]
termination_by xs.length
decreasing_by exact Nat.lt_succ_of_le (List.length_filter_le _ _)

theorem eraseDups_cons_filter (x : α) (xs : List α) :
    (x :: xs).eraseDups = x :: xs.eraseDups.filter (· != x) := by
  rw [List.eraseDups_cons, ← eraseDups_filter]
  rfl

theorem nodup_eraseDups (xs : List α) : xs.eraseDups.Nodup := by
  induction xs with
  | nil => exact List.nodup_nil
  | cons x rest ih =>
      rw [eraseDups_cons_filter, List.nodup_cons]
      exact ⟨by simp, ih.filter _⟩

/-- Where one of the first elements is moved to the front, the elements behind them
do not matter. -/
theorem take_cons_filter_take {x : α} {xs : List α} (h : xs.Nodup) (n : Nat) :
    (x :: (xs.take n).filter (· != x)).take n = (x :: xs.filter (· != x)).take n := by
  cases n with
  | zero => rfl
  | succ n =>
      rw [List.take_succ_cons, List.take_succ_cons]
      congr 1
      induction xs generalizing n with
      | nil => rfl
      | cons y rest ih =>
          obtain ⟨hy, hrest⟩ := List.nodup_cons.1 h
          rw [List.take_succ_cons]
          by_cases hyx : y = x
          · subst hyx
            have hwhole : rest.filter (· != y) = rest :=
              List.filter_eq_self.2 fun z hz => by
                simpa using ne_of_mem_of_not_mem hz hy
            have hfront : (rest.take n).filter (· != y) = rest.take n :=
              List.filter_eq_self.2 fun z hz => by
                simpa using ne_of_mem_of_not_mem (List.mem_of_mem_take hz) hy
            rw [List.filter_cons_of_neg (by simp), List.filter_cons_of_neg (by simp),
              hwhole, hfront, List.take_take, Nat.min_self]
          · rw [List.filter_cons_of_pos (by simpa using hyx),
              List.filter_cons_of_pos (by simpa using hyx)]
            cases n with
            | zero => rfl
            | succ n => rw [List.take_succ_cons, List.take_succ_cons, ih hrest n]

end EraseDups

namespace SignatureCache

open scoped List

/-! ## What is done with a cache, and what it should hold -/

inductive Operation where
  | put (selector : String) (signature : Option String)
  | get (selector : String)
  | contains (selector : String)
deriving DecidableEq, Repr

/-- The cache after an operation. -/
def perform (cache : SignatureCache) : Operation → SignatureCache
  | .put selector signature => cache.put selector signature
  | .get selector => (cache.get selector).2
  | .contains _ => cache

def performAll (cache : SignatureCache) (operations : List Operation) : SignatureCache :=
  operations.foldl perform cache

/-- The keys that a cache of a capacity should hold after some touches, the latest
first: each once, and no more than there is room for. -/
def recent (capacity : Nat) (touched : List String) : List String :=
  touched.eraseDups.take capacity

/-- The record of touches after an operation, the latest first. -/
def touch (capacity : Nat) (touched : List String) : Operation → List String
  | .put selector _ => Text.lower selector :: touched
  | .get selector =>
    if Text.lower selector ∈ recent capacity touched then
      Text.lower selector :: touched
    else touched
  | .contains _ => touched

/-- All keys that operations touched, the latest first. -/
def touches (capacity : Nat) (operations : List Operation) : List String :=
  operations.foldl (touch capacity) []

/-- The entry that an operation makes. -/
def Operation.entry? : Operation → Option (String × Option String)
  | .put selector signature => some (Text.lower selector, signature)
  | _ => none

/-- What was put last under a key, if anything was. -/
def lastPut? (operations : List Operation) (key : String) : Option (Option String) :=
  (operations.reverse.filterMap Operation.entry?).lookup key

theorem lastPut?_concat (operations : List Operation) (operation : Operation)
    (key : String) :
    lastPut? (operations ++ [operation]) key =
      (operation.entry?.toList.lookup key).or (lastPut? operations key) := by
  rw [lastPut?, List.reverse_concat, List.filterMap_cons]
  cases operation.entry? with
  | none => rfl
  | some entry => rw [lastPut?, Option.toList_some, ← List.lookup_append]; rfl

theorem performAll_concat (cache : SignatureCache) (operations : List Operation)
    (operation : Operation) :
    cache.performAll (operations ++ [operation]) =
      (cache.performAll operations).perform operation :=
  List.foldl_concat ..

theorem touches_concat (capacity : Nat) (operations : List Operation)
    (operation : Operation) :
    touches capacity (operations ++ [operation]) =
      touch capacity (touches capacity operations) operation :=
  List.foldl_concat ..

/-! ## The entries, the newest first -/

/-- The entries from the newest to the oldest, each with a signature that was put. -/
def newest (cache : SignatureCache) : List (String × Option (Option String)) :=
  cache.entries.reverse.map fun entry => (entry.1, some entry.2)

def keys (cache : SignatureCache) : List String := cache.entries.map (·.1)

variable {cache : SignatureCache} {capacity : Nat} {operations : List Operation}
  {selector key : String} {signature : Option String}

theorem newest_map_fst (cache : SignatureCache) :
    cache.newest.map (·.1) = cache.keys.reverse := by
  rw [newest, keys, List.map_map, List.map_reverse]
  rfl

theorem isSome_lookup_iff :
    (cache.entries.lookup key).isSome = true ↔ key ∈ cache.keys := by
  rw [Option.isSome_iff_exists, keys, List.mem_map]
  constructor
  · rintro ⟨value, hvalue⟩
    obtain ⟨before, after, hentries, -⟩ := List.lookup_eq_some_iff.1 hvalue
    exact ⟨(key, value), by simp [hentries], rfl⟩
  · rintro ⟨entry, hentry, rfl⟩
    by_contra hnone
    have hnone : cache.entries.lookup entry.1 = none :=
      Option.eq_none_iff_forall_not_mem.2 fun value hvalue => hnone ⟨value, hvalue⟩
    exact absurd (List.lookup_eq_none_iff.1 hnone entry hentry) (by simp)

theorem get_of_not_mem (h : Text.lower selector ∉ cache.keys) :
    cache.get selector = (none, cache) := by
  have hnone : cache.entries.lookup (Text.lower selector) = none :=
    Option.not_isSome_iff_eq_none.1 (isSome_lookup_iff.not.2 h)
  rw [get, hnone]

theorem get_of_lookup (h : cache.entries.lookup (Text.lower selector) = some signature) :
    cache.get selector = (signature, { cache with
      entries := cache.without (Text.lower selector) ++
        [(Text.lower selector, signature)] }) := by
  rw [get, h]

theorem exists_lookup (h : key ∈ cache.keys) :
    ∃ signature, cache.entries.lookup key = some signature :=
  Option.isSome_iff_exists.1 (isSome_lookup_iff.2 h)

theorem newest_without (cache : SignatureCache) (key : String)
    (signature : Option String) :
    ({ cache with entries := cache.without key ++ [(key, signature)] } :
        SignatureCache).newest =
      (key, some signature) :: cache.newest.filter (·.1 != key) := by
  rw [newest, newest, without, List.reverse_concat, List.map_cons, ← List.filter_reverse,
    List.filter_map]
  rfl

theorem newest_put :
    (cache.put selector signature).newest =
      ((Text.lower selector, some signature) ::
        cache.newest.filter (·.1 != Text.lower selector)).take cache.capacity := by
  rw [← newest_without, newest, newest, ← List.map_take, List.take_reverse]
  rfl

theorem put_lower (cache : SignatureCache) (selector : String)
    (signature : Option String) :
    cache.put (Text.lower selector) signature = cache.put selector signature := by
  rw [put, put, Text.lower_lower]

theorem mem_entries_put {entry : String × Option String}
    (h : entry ∈ (cache.put selector signature).entries) :
    entry = (Text.lower selector, signature) ∨ entry ∈ cache.entries := by
  rcases List.mem_append.1 (List.mem_of_mem_drop h) with hold | hnew
  · exact Or.inr (List.mem_of_mem_filter hold)
  · exact Or.inl (List.mem_singleton.1 hnew)

/-- Where there is room nothing goes for a new entry. -/
theorem entries_put_of_room (hnew : Text.lower selector ∉ cache.keys)
    (hroom : cache.size < cache.capacity) :
    (cache.put selector signature).entries =
      cache.entries ++ [(Text.lower selector, signature)] := by
  have hwithout : cache.without (Text.lower selector) = cache.entries := by
    rw [without, List.filter_eq_self]
    intro entry hentry
    have hkey : entry.1 ∈ cache.keys := List.mem_map_of_mem hentry
    simpa using ne_of_mem_of_not_mem hkey hnew
  have hlength : (cache.entries ++ [(Text.lower selector, signature)]).length -
      cache.capacity = 0 := by
    rw [List.length_append, List.length_singleton]
    exact Nat.sub_eq_zero_of_le hroom
  rw [put, hwithout, hlength, List.drop_zero]

/-- An entry that is found can be taken out and put at the end. -/
theorem perm_without (hnodup : cache.keys.Nodup)
    (hfound : cache.entries.lookup key = some signature) :
    cache.without key ++ [(key, signature)] ~ cache.entries := by
  obtain ⟨before, after, hentries, -⟩ := List.lookup_eq_some_iff.1 hfound
  have hother : ∀ entry ∈ before ++ after, entry.1 ≠ key := by
    have hkeys : (key :: (before ++ after).map (·.1)).Nodup := by
      rw [keys, hentries, List.map_append, List.map_cons] at hnodup
      rw [List.map_append]
      exact List.nodup_middle.1 hnodup
    exact fun entry hentry heq =>
      (List.nodup_cons.1 hkeys).1 (List.mem_map.2 ⟨entry, hentry, heq⟩)
  have hwithout : cache.without key = before ++ after := by
    rw [without, hentries, List.filter_append, List.filter_cons_of_neg (by simp),
      ← List.filter_append, List.filter_eq_self]
    exact fun entry hentry => by simpa using hother entry hentry
  rw [hwithout, hentries]
  exact (List.perm_append_singleton _ _).trans List.perm_middle.symm

/-! ## The cache and the record -/

/-- A cache holds what it should after some operations. -/
structure Holds (capacity : Nat) (operations : List Operation)
    (cache : SignatureCache) : Prop where
  capacity_eq : cache.capacity = capacity
  newest_eq : cache.newest =
    (recent capacity (touches capacity operations)).map fun key =>
      (key, lastPut? operations key)

theorem nodup_recent (capacity : Nat) (touched : List String) :
    (recent capacity touched).Nodup :=
  (nodup_eraseDups touched).sublist (List.take_sublist ..)

theorem length_recent_le (capacity : Nat) (touched : List String) :
    (recent capacity touched).length ≤ capacity :=
  List.length_take_le ..

/-- The front of the order after a touch, out of the front before it. -/
theorem recent_cons (capacity : Nat) (touched : List String) (key : String) :
    recent capacity (key :: touched) =
      (key :: (recent capacity touched).filter (· != key)).take capacity := by
  rw [recent, recent, eraseDups_cons_filter, take_cons_filter_take (nodup_eraseDups _)]

section Holds

variable (h : Holds capacity operations cache)

include h

theorem Holds.reverse_keys :
    cache.keys.reverse = recent capacity (touches capacity operations) := by
  rw [← newest_map_fst, h.newest_eq, List.map_map]
  exact List.map_id _

theorem Holds.mem_keys :
    key ∈ cache.keys ↔ key ∈ recent capacity (touches capacity operations) := by
  rw [← h.reverse_keys, List.mem_reverse]

theorem Holds.contains_iff :
    cache.contains selector = true ↔
      Text.lower selector ∈ recent capacity (touches capacity operations) := by
  rw [← h.mem_keys]
  exact isSome_lookup_iff

/-- What is found under a key was put there last. -/
theorem Holds.lastPut?_eq (hfound : cache.entries.lookup key = some signature) :
    lastPut? operations key = some signature := by
  obtain ⟨before, after, hentries, -⟩ := List.lookup_eq_some_iff.1 hfound
  have hmem : (key, some signature) ∈ cache.newest := by
    rw [SignatureCache.newest, hentries]
    simp
  rw [h.newest_eq] at hmem
  obtain ⟨_, -, heq⟩ := List.mem_map.1 hmem
  obtain ⟨rfl, hput⟩ := Prod.mk.inj heq
  exact hput

/-- Moving a key to the front of the cache is touching it. -/
theorem Holds.renew (operation : Operation)
    (hkey : lastPut? (operations ++ [operation]) key = some signature)
    (hother : ∀ other, other ≠ key →
      lastPut? (operations ++ [operation]) other = lastPut? operations other) :
    ((key, some signature) :: cache.newest.filter (·.1 != key)).take capacity =
      (recent capacity (key :: touches capacity operations)).map fun other =>
        (other, lastPut? (operations ++ [operation]) other) := by
  rw [recent_cons, List.map_take, List.map_cons, hkey, h.newest_eq, List.filter_map]
  congr 2
  refine List.map_congr_left fun other hmem => ?_
  have hne : other ≠ key := by simpa using (List.mem_filter.1 hmem).2
  rw [hother other hne]

theorem Holds.put :
    Holds capacity (operations ++ [.put selector signature])
      (cache.put selector signature) := by
  refine ⟨h.capacity_eq, ?_⟩
  rw [touches_concat, newest_put, h.capacity_eq]
  refine h.renew _ ?_ fun other hne => ?_
  · rw [lastPut?_concat]
    simp [Operation.entry?]
  · have hlookup : List.lookup other [(Text.lower selector, signature)] = none := by
      rw [List.lookup_cons, beq_false_of_ne hne]
      rfl
    rw [lastPut?_concat, Operation.entry?, Option.toList_some, hlookup, Option.none_or]

theorem Holds.aside {operation : Operation} (hentry : operation.entry? = none)
    (htouch : touch capacity (touches capacity operations) operation =
      touches capacity operations) : Holds capacity (operations ++ [operation]) cache := by
  refine ⟨h.capacity_eq, ?_⟩
  rw [touches_concat, htouch, h.newest_eq]
  refine List.map_congr_left fun key _ => ?_
  rw [lastPut?_concat, hentry]
  rfl

theorem Holds.nodup_keys : cache.keys.Nodup := by
  rw [← List.nodup_reverse, h.reverse_keys]
  exact nodup_recent ..

theorem Holds.size_le : cache.size ≤ capacity := by
  have hlength := congrArg List.length h.reverse_keys
  rw [List.length_reverse, SignatureCache.keys, List.length_map] at hlength
  exact Nat.le_trans (Nat.le_of_eq hlength) (length_recent_le ..)

/-- A key that is there leaves its own place to itself. -/
theorem Holds.length_renewed_le (hkey : key ∈ cache.keys) :
    (cache.without key ++ [(key, signature)]).length ≤ capacity := by
  obtain ⟨old, hfound⟩ := exists_lookup hkey
  have hlength := (perm_without h.nodup_keys hfound).length_eq
  rw [List.length_append] at hlength ⊢
  exact Nat.le_trans (Nat.le_of_eq hlength) h.size_le

theorem Holds.get :
    Holds capacity (operations ++ [.get selector]) (cache.get selector).2 := by
  by_cases hkey : Text.lower selector ∈ cache.keys
  · obtain ⟨signature, hfound⟩ := exists_lookup hkey
    have hsame (key : String) : lastPut? (operations ++ [.get selector]) key =
        lastPut? operations key := by
      rw [lastPut?_concat]
      rfl
    have hrenewed := h.renew (.get selector)
      ((hsame _).trans (h.lastPut?_eq hfound)) fun other _ => hsame other
    rw [get_of_lookup hfound]
    refine ⟨h.capacity_eq, ?_⟩
    rw [touches_concat, touch, if_pos (h.mem_keys.1 hkey), ← hrenewed, ← newest_without]
    refine (List.take_of_length_le ?_).symm
    rw [SignatureCache.newest, List.length_map, List.length_reverse]
    exact h.length_renewed_le hkey
  · rw [get_of_not_mem hkey]
    exact h.aside rfl (if_neg (h.mem_keys.not.1 hkey))

theorem Holds.perform (operation : Operation) :
    Holds capacity (operations ++ [operation]) (cache.perform operation) := by
  cases operation with
  | put selector signature => exact h.put
  | get selector => exact h.get
  | contains selector => exact h.aside rfl rfl

end Holds

theorem lower_of_mem_touches (capacity : Nat) (operations : List Operation) :
    ∀ key ∈ touches capacity operations, Text.lower key = key := by
  induction operations using List.reverseRecOn with
  | nil => exact fun _ h => (nomatch h)
  | append_singleton operations operation ih =>
      have hnew (selector : String) : ∀ key ∈ Text.lower selector ::
          touches capacity operations, Text.lower key = key := by
        intro key hkey
        rcases List.mem_cons.1 hkey with rfl | hold
        · exact Text.lower_lower selector
        · exact ih key hold
      rw [touches_concat]
      cases operation with
      | put selector signature => exact hnew selector
      | get selector =>
          rw [touch]
          split
          · exact hnew selector
          · exact ih
      | contains selector => exact ih

theorem holds_performAll (capacity : Nat) (operations : List Operation) :
    Holds capacity operations (performAll { capacity } operations) := by
  induction operations using List.reverseRecOn with
  | nil => exact ⟨rfl, by rw [touches, recent]; exact List.take_nil.symm ▸ rfl⟩
  | append_singleton operations operation ih =>
      rw [performAll_concat]
      exact ih.perform operation

/-! ## What follows of a cache that holds what it should -/

section Follows

variable (h : Holds capacity operations cache)

include h

/-- A key that is there can be put again without another one having to go. -/
theorem Holds.perm_keys_put (hkey : Text.lower selector ∈ cache.keys) :
    (cache.put selector signature).keys ~ cache.keys := by
  obtain ⟨old, hfound⟩ := exists_lookup hkey
  have hperm := (perm_without h.nodup_keys hfound).map (·.1)
  have hroom : (cache.without (Text.lower selector) ++
      [(Text.lower selector, signature)]).length - cache.capacity = 0 :=
    Nat.sub_eq_zero_of_le (h.capacity_eq ▸ h.length_renewed_le hkey)
  rw [keys, SignatureCache.put, hroom, List.drop_zero, List.map_append]
  rwa [List.map_append] at hperm

/-- A lookup only changes the order of the entries. -/
theorem Holds.perm_entries_get : (cache.get selector).2.entries ~ cache.entries := by
  by_cases hkey : Text.lower selector ∈ cache.keys
  · obtain ⟨signature, hfound⟩ := exists_lookup hkey
    rw [get_of_lookup hfound]
    exact perm_without h.nodup_keys hfound
  · rw [get_of_not_mem hkey]

end Follows

/-- After any operations the cache, read from the newest entry, has the keys that were
touched last, as many as there is room for, each with what was put last under it. So
it has no more entries than there is room for, its keys are different and in lower
case, a selector is in it if its key is one of these, what it gives is what was put
last, and putting a selector that is in it takes nothing out. -/
theorem keeps_recent (capacity : Nat) (operations : List Operation) :
    let cache := performAll { capacity } operations
    let kept := recent capacity (touches capacity operations)
    cache.entries.reverse.map (fun entry => (entry.1, some entry.2)) =
        kept.map (fun key => (key, lastPut? operations key)) ∧
      cache.size ≤ capacity ∧
      (cache.entries.map (·.1)).Nodup ∧
      (∀ entry ∈ cache.entries, Text.lower entry.1 = entry.1) ∧
      (∀ selector, cache.contains selector = true ↔ Text.lower selector ∈ kept) ∧
      (∀ selector, (cache.get selector).1 =
        if Text.lower selector ∈ kept then
          (lastPut? operations (Text.lower selector)).join
        else none) ∧
      ∀ selector signature, cache.contains selector = true →
        ((cache.put selector signature).entries.map (·.1)).Perm
          (cache.entries.map (·.1)) := by
  intro cache kept
  have h : Holds capacity operations cache := holds_performAll capacity operations
  refine ⟨h.newest_eq, h.size_le, h.nodup_keys, ?_, fun _ => h.contains_iff, ?_, ?_⟩
  · intro entry hentry
    have hkept : entry.1 ∈ kept := h.mem_keys.1 (List.mem_map_of_mem hentry)
    exact lower_of_mem_touches capacity operations _
      (List.mem_eraseDups.1 (List.mem_of_mem_take hkept))
  · intro selector
    by_cases hkey : Text.lower selector ∈ cache.keys
    · obtain ⟨signature, hfound⟩ := exists_lookup hkey
      rw [get_of_lookup hfound, if_pos (h.mem_keys.1 hkey), h.lastPut?_eq hfound]
      rfl
    · rw [get_of_not_mem hkey, if_neg (h.mem_keys.not.1 hkey)]
  · intro selector signature hcontains
    exact h.perm_keys_put (isSome_lookup_iff.1 hcontains)

/-- A cache with room for two: the key that was found stays, the one that was touched
before it has to go, and putting the first one again takes nothing out. -/
theorem keeps_recent_two :
    let cache := performAll { capacity := 2 } [.put "0xA1" (some "f()"), .put "0xb2" none,
      .get "0xa1", .contains "0xb2", .put "0xC3" (some "g()")]
    cache.entries = [("0xa1", some "f()"), ("0xc3", some "g()")] ∧
      cache.contains "0xA1" = true ∧
      ((cache.put "0xA1" none).entries.map (·.1)).Perm (cache.entries.map (·.1)) :=
  ⟨by decide +kernel, by decide +kernel,
    (keeps_recent 2 _).2.2.2.2.2.2 "0xA1" none (by decide +kernel)⟩

end SignatureCache

end EvmIndexer
