import EvmIndexer.Proofs.Signature.Recency
import EvmIndexer.Signature.Service
import Mathlib.Data.Finset.Card

/-!
# Lookups do not show the cache

Where a service replies to a selector always the same, a lookup gives what asking
the service would give, whatever was looked up before and however small the cache
is. For an entry is made only out of a reply that the service would give again, and
the cache changes no entry, whether it moves it or drops others.

How often the service is asked does depend on the cache. An answer that may be kept
is asked for once as long as nothing has to go, which is the case where there are no
more selectors than entries; an answer that may not be kept is asked for each time.
-/

namespace EvmIndexer.SignatureClient

/-! ## A service that does not change -/

/-- A service that replies to a selector always the same. -/
def unchanging (reply : String → ServiceReply) : SignatureService :=
  fun _ selector => reply selector

/-- A reply is a success and holds a document. -/
def Tells (reply : ServiceReply) (document : Json.Value) : Prop :=
  ∃ status body, reply = .response status body ∧ 200 ≤ status ∧ status < 300 ∧
    Json.ofBytes? body = some document

/-- What a reply says may be kept. -/
def MayKeep (reply : ServiceReply) : Prop := ∃ document, Tells reply document

/-- What a reply says about a signature, if it says anything: that it is this one, or
that there is none. -/
def told? (reply : ServiceReply) : Option (Option String) :=
  (document? reply).map firstSignature?

/-- The answer to a lookup that was replied to. -/
def answerTo (reply : ServiceReply) : LookupAnswer :=
  if reply = .breakdown then .failed else answerOf (told? reply).join

/-- The answer of a client that keeps nothing and asks each time. -/
def directAnswer (reply : String → ServiceReply) (selector : String) : LookupAnswer :=
  if isSelector (Text.lower selector) then answerTo (reply (Text.lower selector))
  else .unknown

/-- What a lookup of a key makes of a client. A key that can be asked for and is not in
the cache is asked for, and then a reply that may be kept goes into the cache, as the
signature it names or as none, and no other does. A lookup that asks for nothing changes
at most the order of the entries. -/
inductive LookedUp (reply : String → ServiceReply) (key : String)
    (client after : SignatureClient) : Prop
  | kept (document : Json.Value) (hselector : isSelector key = true)
      (hmissing : client.cache.contains key = false) (htells : Tells (reply key) document)
      (hrequests : after.requests = client.requests ++ [key])
      (hcache : after.cache = client.cache.put key (firstSignature? document))
  | passed (hselector : isSelector key = true)
      (hmissing : client.cache.contains key = false) (hreply : ¬ MayKeep (reply key))
      (hrequests : after.requests = client.requests ++ [key])
      (hcache : after.cache = client.cache)
  | unasked (hkey : isSelector key = false ∨ client.cache.contains key = true)
      (hrequests : after.requests = client.requests)
      (hentries : after.cache.entries.Perm client.cache.entries)

/-- The selectors among texts, in lower case. -/
def selectorsOf (texts : List String) : List String :=
  (texts.map Text.lower).filter isSelector

variable {reply : String → ServiceReply} {service : SignatureService}
  {client : SignatureClient} {capacity : Nat} {selector key : String}
  {signature : Option String} {document : Json.Value}

theorem tells_iff {reply : ServiceReply} :
    Tells reply document ↔ document? reply = some document := by
  constructor
  · rintro ⟨status, body, rfl, hlow, hhigh, hbody⟩
    rw [document?, if_pos (by simp [hlow, hhigh]), hbody]
  · intro h
    cases reply with
    | response status body =>
        rw [document?] at h
        split at h
        · next hstatus =>
            simp only [Bool.and_eq_true, decide_eq_true_eq] at hstatus
            exact ⟨status, body, rfl, hstatus.1, hstatus.2, h⟩
        · cases h
    | unreachable => cases h
    | breakdown => cases h

theorem mayKeep_iff {reply : ServiceReply} :
    MayKeep reply ↔ (told? reply).isSome = true := by
  rw [told?, Option.isSome_map, Option.isSome_iff_exists]
  exact exists_congr fun _ => tells_iff

instance decidableMayKeep (reply : ServiceReply) : Decidable (MayKeep reply) :=
  decidable_of_iff _ mayKeep_iff.symm

/-- The selectors among texts whose reply may be kept. -/
def lasting (reply : String → ServiceReply) (texts : List String) : List String :=
  (selectorsOf texts).filter fun key => MayKeep (reply key)

/-- The selectors among texts whose reply may not be kept. -/
def passing (reply : String → ServiceReply) (texts : List String) : List String :=
  (selectorsOf texts).filter fun key => ¬ MayKeep (reply key)

theorem answerTo_of_told? {reply : ServiceReply} (h : told? reply = some signature) :
    answerTo reply = answerOf signature := by
  have hreply : reply ≠ .breakdown := by
    rintro rfl
    cases h
  rw [answerTo, if_neg hreply, h]
  rfl

/-! ## What a lookup does -/

theorem lookup_of_not_isSelector (h : isSelector (Text.lower selector) = false) :
    client.lookup service selector = (.unknown, client) := by
  rw [lookup, h]
  rfl

theorem lookup_of_found (hselector : isSelector (Text.lower selector) = true)
    (hfound : client.cache.entries.lookup (Text.lower selector) = some signature) :
    client.lookup service selector = (answerOf signature,
      { client with cache := (client.cache.get selector).2 }) := by
  have hcontains : client.cache.contains (Text.lower selector) = true := by
    rw [SignatureCache.contains, Text.lower_lower, hfound]
    rfl
  have hget : client.cache.get (Text.lower selector) = client.cache.get selector := by
    rw [SignatureCache.get, SignatureCache.get, Text.lower_lower]
  rw [lookup, hselector, hcontains, hget, SignatureCache.get_of_lookup hfound]
  rfl

theorem lookup_of_missing (hselector : isSelector (Text.lower selector) = true)
    (hmissing : Text.lower selector ∉ client.cache.keys) :
    client.lookup service selector =
      (answerTo (service client.requests (Text.lower selector)),
        { client with
          requests := client.requests ++ [Text.lower selector]
          cache := (told? (service client.requests (Text.lower selector))).elim
            client.cache (client.cache.put selector) }) := by
  have hcontains : client.cache.contains (Text.lower selector) = false := by
    rw [← Bool.not_eq_true, SignatureCache.contains, Text.lower_lower,
      SignatureCache.isSome_lookup_iff]
    exact hmissing
  rw [lookup, hselector, hcontains]
  cases hreply : service client.requests (Text.lower selector) with
  | unreachable => rfl
  | breakdown => rfl
  | response status body =>
      have hreply : ServiceReply.response status body ≠ .breakdown := fun h => nomatch h
      rw [answerTo, if_neg hreply, told?]
      cases hdocument : document? (.response status body) with
      | none => simp [hdocument, answerOf]
      | some document => simp [hdocument, SignatureCache.put_lower]

/-! ## What a client keeps -/

/-- A client of a service that does not change: its cache is one that something was
done with, and its entries say what the service says. -/
structure Faithful (capacity : Nat) (reply : String → ServiceReply)
    (client : SignatureClient) : Prop where
  held : ∃ operations, SignatureCache.Holds capacity operations client.cache
  told : ∀ entry ∈ client.cache.entries, told? (reply entry.1) = some entry.2

theorem faithful_new (capacity : Nat) (reply : String → ServiceReply) :
    Faithful capacity reply { cache := { capacity } } :=
  ⟨⟨[], SignatureCache.holds_performAll capacity []⟩, fun _ h => (nomatch h)⟩

section Faithful

variable (h : Faithful capacity reply client)

include h

theorem Faithful.told?_of_lookup (hfound : client.cache.entries.lookup key = some signature) :
    told? (reply key) = some signature := by
  obtain ⟨before, after, hentries, -⟩ := List.lookup_eq_some_iff.1 hfound
  exact h.told (key, signature) (by simp [hentries])

theorem Faithful.mayKeep_of_mem (hkey : key ∈ client.cache.keys) :
    MayKeep (reply key) := by
  obtain ⟨signature, hfound⟩ := SignatureCache.exists_lookup hkey
  rw [mayKeep_iff, h.told?_of_lookup hfound]
  rfl

theorem Faithful.lookup_fst :
    (client.lookup (unchanging reply) selector).1 = directAnswer reply selector := by
  cases hselector : isSelector (Text.lower selector) with
  | false => rw [lookup_of_not_isSelector hselector, directAnswer, hselector]; rfl
  | true =>
      rw [directAnswer, hselector, if_pos rfl]
      by_cases hkey : Text.lower selector ∈ client.cache.keys
      · obtain ⟨signature, hfound⟩ := SignatureCache.exists_lookup hkey
        rw [lookup_of_found hselector hfound,
          answerTo_of_told? (h.told?_of_lookup hfound)]
      · rw [lookup_of_missing hselector hkey]
        rfl

theorem Faithful.lookup_snd :
    Faithful capacity reply (client.lookup (unchanging reply) selector).2 := by
  obtain ⟨operations, hheld⟩ := h.held
  cases hselector : isSelector (Text.lower selector) with
  | false => rwa [lookup_of_not_isSelector hselector]
  | true =>
      by_cases hkey : Text.lower selector ∈ client.cache.keys
      · obtain ⟨signature, hfound⟩ := SignatureCache.exists_lookup hkey
        rw [lookup_of_found hselector hfound]
        exact ⟨⟨_, hheld.get⟩, fun entry hentry =>
          h.told entry (hheld.perm_entries_get.mem_iff.1 hentry)⟩
      · rw [lookup_of_missing hselector hkey]
        cases htold : told? (unchanging reply client.requests (Text.lower selector)) with
        | none => exact ⟨⟨_, hheld⟩, h.told⟩
        | some signature =>
            refine ⟨⟨_, hheld.put⟩, fun entry hentry => ?_⟩
            rcases SignatureCache.mem_entries_put hentry with rfl | hold
            · exact htold
            · exact h.told entry hold

end Faithful

theorem faithful_lookupAll (h : Faithful capacity reply client) (selectors : List String) :
    Faithful capacity reply (client.lookupAll (unchanging reply) selectors) := by
  induction selectors generalizing client with
  | nil => exact h
  | cons selector rest ih => exact ih h.lookup_snd

/-! ## How often the service is asked -/

/-- A lookup asks for what is not in the cache, and afterwards the cache has what may
be kept as well, if there is room. -/
theorem Faithful.lookup_counts (h : Faithful capacity reply client)
    (hselector : isSelector (Text.lower selector) = true)
    (hroom : MayKeep (reply (Text.lower selector)) →
      (insert (Text.lower selector) client.cache.keys.toFinset).card ≤ capacity) :
    (client.lookup (unchanging reply) selector).2.requests.length =
        client.requests.length +
          (if Text.lower selector ∈ client.cache.keys.toFinset then 0 else 1) ∧
      (client.lookup (unchanging reply) selector).2.cache.keys.toFinset =
        if MayKeep (reply (Text.lower selector)) then
          insert (Text.lower selector) client.cache.keys.toFinset
        else client.cache.keys.toFinset := by
  obtain ⟨operations, hheld⟩ := h.held
  by_cases hkey : Text.lower selector ∈ client.cache.keys
  · obtain ⟨signature, hfound⟩ := SignatureCache.exists_lookup hkey
    have hkeys : (client.cache.get selector).2.keys.toFinset =
        client.cache.keys.toFinset :=
      List.toFinset_eq_of_perm _ _ (hheld.perm_entries_get.map _)
    have hmem := List.mem_toFinset.2 hkey
    rw [lookup_of_found hselector hfound, if_pos hmem, hkeys, Finset.insert_eq_of_mem hmem,
      ite_self]
    exact ⟨rfl, rfl⟩
  · have hmem := List.mem_toFinset.not.2 hkey
    rw [lookup_of_missing hselector hkey, if_neg hmem]
    refine ⟨List.length_append, ?_⟩
    cases htold : told? (reply (Text.lower selector)) with
    | none =>
        have hkeeps : ¬ MayKeep (reply (Text.lower selector)) := by simp [mayKeep_iff, htold]
        rw [if_neg hkeeps, unchanging, htold]
        rfl
    | some signature =>
        have hkeeps : MayKeep (reply (Text.lower selector)) := by simp [mayKeep_iff, htold]
        have hsize : client.cache.size < client.cache.capacity := by
          have hless := hroom hkeeps
          rwa [Finset.card_insert_of_notMem hmem,
            List.toFinset_card_of_nodup hheld.nodup_keys, SignatureCache.keys,
            List.length_map, ← hheld.capacity_eq] at hless
        rw [if_pos hkeeps, unchanging, htold, Option.elim_some, SignatureCache.keys,
          SignatureCache.entries_put_of_room hkey hsize, List.map_append]
        simp [SignatureCache.keys, Finset.union_comm]

theorem card_insert_sdiff (key : String) (more kept : Finset String) :
    (insert key more \ kept).card =
      (if key ∈ kept then 0 else 1) + (more \ insert key kept).card := by
  by_cases hkey : key ∈ kept
  · rw [if_pos hkey, Finset.insert_sdiff_of_mem _ hkey, Finset.insert_eq_of_mem hkey,
      Nat.zero_add]
  · have hsplit : insert key more \ kept = insert key (more \ insert key kept) := by
      ext other
      by_cases hother : other = key <;> simp [hother, hkey]
    rw [if_neg hkey, hsplit, Finset.card_insert_of_notMem (by simp), Nat.add_comm]

/-- While there is room, each selector whose reply may be kept is asked for once,
unless it is kept already, and each of the others every time. -/
theorem length_requests_lookupAll (h : Faithful capacity reply client)
    (texts : List String)
    (hroom : (client.cache.keys.toFinset ∪ (lasting reply texts).toFinset).card ≤
      capacity) :
    (client.lookupAll (unchanging reply) texts).requests.length =
      client.requests.length +
        ((lasting reply texts).toFinset \ client.cache.keys.toFinset).card +
        (passing reply texts).length := by
  induction texts generalizing client with
  | nil => simp [lookupAll, lasting, passing, selectorsOf]
  | cons text rest ih =>
      have hrest : client.lookupAll (unchanging reply) (text :: rest) =
          (client.lookup (unchanging reply) text).2.lookupAll (unchanging reply) rest :=
        rfl
      have hlooked : Faithful capacity reply (client.lookup (unchanging reply) text).2 :=
        h.lookup_snd
      have hnext := ih hlooked
      rw [hrest]
      cases hselector : isSelector (Text.lower text) with
      | false =>
          have hskip : selectorsOf (text :: rest) = selectorsOf rest := by
            simp [selectorsOf, hselector]
          rw [lasting, hskip] at hroom
          rw [lasting, passing, hskip]
          rw [lookup_of_not_isSelector hselector] at hnext ⊢
          exact hnext hroom
      | true =>
          have hcons : selectorsOf (text :: rest) =
              Text.lower text :: selectorsOf rest := by
            simp [selectorsOf, hselector]
          by_cases hkeep : MayKeep (reply (Text.lower text))
          · have hlasting : lasting reply (text :: rest) =
                Text.lower text :: lasting reply rest := by
              simp [lasting, hcons, hkeep]
            have hpassing : passing reply (text :: rest) = passing reply rest := by
              simp [passing, hcons, hkeep]
            rw [hlasting, List.toFinset_cons, Finset.union_insert,
              ← Finset.insert_union] at hroom
            obtain ⟨hasked, hkeys⟩ := h.lookup_counts hselector fun _ =>
              (Finset.card_le_card Finset.subset_union_left).trans hroom
            rw [if_pos hkeep] at hkeys
            rw [hkeys] at hnext
            rw [hnext hroom, hasked, hlasting, List.toFinset_cons, card_insert_sdiff,
              hpassing]
            omega
          · have hlasting : lasting reply (text :: rest) = lasting reply rest := by
              simp [lasting, hcons, hkeep]
            have hpassing : passing reply (text :: rest) =
                Text.lower text :: passing reply rest := by
              simp [passing, hcons, hkeep]
            have hmem : Text.lower text ∉ client.cache.keys.toFinset := fun hmem =>
              hkeep (h.mayKeep_of_mem (List.mem_toFinset.1 hmem))
            obtain ⟨hasked, hkeys⟩ := h.lookup_counts hselector (absurd · hkeep)
            rw [hlasting] at hroom
            rw [if_neg hkeep] at hkeys
            rw [if_neg hmem] at hasked
            rw [hkeys] at hnext
            rw [hnext hroom, hasked, hlasting, hpassing, List.length_cons]
            omega

theorem Faithful.lookedUp (h : Faithful capacity reply client) (selector : String) :
    LookedUp reply (Text.lower selector) client
      (client.lookup (unchanging reply) selector).2 := by
  obtain ⟨operations, hheld⟩ := h.held
  have hcontains : client.cache.contains (Text.lower selector) = true ↔
      Text.lower selector ∈ client.cache.keys := by
    rw [SignatureCache.contains, Text.lower_lower]
    exact SignatureCache.isSome_lookup_iff
  cases hselector : isSelector (Text.lower selector) with
  | false =>
      rw [lookup_of_not_isSelector hselector]
      exact .unasked (Or.inl hselector) rfl (List.Perm.refl _)
  | true =>
      by_cases hkey : Text.lower selector ∈ client.cache.keys
      · obtain ⟨signature, hfound⟩ := SignatureCache.exists_lookup hkey
        rw [lookup_of_found hselector hfound]
        exact .unasked (Or.inr (hcontains.2 hkey)) rfl hheld.perm_entries_get
      · have hmissing := Bool.eq_false_iff.2 (hcontains.not.2 hkey)
        rw [lookup_of_missing hselector hkey, unchanging]
        cases hdocument : document? (reply (Text.lower selector)) with
        | none =>
            have hkeep : ¬ MayKeep (reply (Text.lower selector)) := by
              simp [mayKeep_iff, told?, hdocument]
            exact .passed hselector hmissing hkeep rfl (by rw [told?, hdocument]; rfl)
        | some document =>
            exact .kept document hselector hmissing (tells_iff.2 hdocument) rfl (by
              rw [told?, hdocument, SignatureCache.put_lower]
              rfl)

/-! ## A client as its callers see it -/

/-- Whatever was looked up before, a lookup gives what the service would say, and a
reply goes into the cache exactly if it is a success that holds a document. Where there
are no more selectors than entries, the service was asked once for each selector with
such a reply, and each time for each other one. -/
theorem lookups_transparent (capacity : Nat) (reply : String → ServiceReply)
    (texts : List String) :
    let client := lookupAll (unchanging reply) texts { cache := { capacity } }
    (∀ selector,
      (client.lookup (unchanging reply) selector).1 = directAnswer reply selector) ∧
    (∀ selector, LookedUp reply (Text.lower selector) client
      (client.lookup (unchanging reply) selector).2) ∧
    ((selectorsOf texts).toFinset.card ≤ capacity →
      client.requests.length =
        (lasting reply texts).toFinset.card + (passing reply texts).length) := by
  intro client
  have h : Faithful capacity reply client := faithful_lookupAll (faithful_new ..) texts
  refine ⟨fun _ => h.lookup_fst, h.lookedUp, fun hroom => ?_⟩
  have hlasting : (lasting reply texts).toFinset ⊆ (selectorsOf texts).toFinset :=
    fun key hkey => List.mem_toFinset.2 (List.mem_of_mem_filter (List.mem_toFinset.1 hkey))
  have hcount := length_requests_lookupAll (faithful_new capacity reply) texts (by
    simpa [SignatureCache.keys] using (Finset.card_le_card hlasting).trans hroom)
  simpa [SignatureCache.keys] using hcount

/-- A service that knows one signature and has no good reply to anything else. -/
def knowsOne (selector : String) : ServiceReply :=
  if selector = "0xcae9ca51" then
    .response 200 (Bytes.ofText
      "\x7b\"results\": [\x7b\"text_signature\": \" f(uint256) \"\x7d]\x7d")
  else .response 500 []

/-- Five lookups of two selectors: one request for the reply that is kept, and one for
each time the other selector is looked up. -/
theorem lookups_transparent_five :
    let texts := ["0xcae9ca51", "0xDEADBEEF", "0xCAE9CA51", "cae9ca51", "0xdeadbeef"]
    (selectorsOf texts).toFinset.card ≤ 2 ∧
      (lasting knowsOne texts).toFinset.card = 1 ∧ (passing knowsOne texts).length = 2 ∧
      (lookupAll (unchanging knowsOne) texts { cache := { capacity := 2 } }).requests.length =
        (lasting knowsOne texts).toFinset.card + (passing knowsOne texts).length :=
  ⟨by decide +kernel, by decide +kernel, by decide +kernel,
    (lookups_transparent 2 knowsOne _).2.2 (by decide +kernel)⟩

end EvmIndexer.SignatureClient
