import EvmIndexer.Text.LowerCase

/-!
# The cache of signatures

Signatures that a service has told are kept, up to a capacity; the one that was
used least recently goes first. That the service knows no signature is kept as
well, so a key with no signature is not the same as no key.

The entries stand in the order of their last use, oldest first. To use an entry
is to move it to the end, and to make room is to drop from the front.
-/

namespace EvmIndexer

/-- A cache from selectors to signatures, the least recently used first. -/
structure SignatureCache where
  capacity : Nat
  entries : List (String × Option String) := []
deriving DecidableEq, Repr

namespace SignatureCache

/-- An empty cache, if its capacity is positive. -/
def ofCapacity? (capacity : Int) : Option SignatureCache :=
  if 0 < capacity then some { capacity := capacity.toNat } else none

/-- The message about a capacity that is not positive. -/
def capacityMessage : String := "capacity must be positive"

def size (cache : SignatureCache) : Nat := cache.entries.length

/-- Whether a selector, in any case, has an entry. -/
def contains (cache : SignatureCache) (selector : String) : Bool :=
  (cache.entries.lookup (Text.lower selector)).isSome

def without (cache : SignatureCache) (key : String) :
    List (String × Option String) :=
  cache.entries.filter fun entry => entry.1 != key

/-- The signature of a selector; an entry that is found becomes the newest. -/
def get (cache : SignatureCache) (selector : String) :
    Option String × SignatureCache :=
  let key := Text.lower selector
  match cache.entries.lookup key with
  | none => (none, cache)
  | some signature =>
    (signature, { cache with entries := cache.without key ++ [(key, signature)] })

/-- Enters a signature as the newest and drops the oldest beyond the capacity. -/
def put (cache : SignatureCache) (selector : String)
    (signature : Option String) : SignatureCache :=
  let key := Text.lower selector
  let entries := cache.without key ++ [(key, signature)]
  { cache with entries := entries.drop (entries.length - cache.capacity) }

end SignatureCache

end EvmIndexer
