import StoredCall.CallKey

/-!
# Call caches

Compiled calls by key, at most a given number of them; the least recently used one makes room.

* `CallCache.get`: a call by key, which becomes the most recent one;
* `CallCache.insert`: stores a call under its own key, giving back the one that had to go;
* `CallCache.peek?`, `CallCache.remove`, `CallCache.clear`: neither count nor refresh.
-/

namespace StoredCall

/-- A compiled call with the number under which it was issued. -/
structure Issued where
  serial : Nat
  call : CompiledCall

def Issued.key (c : Issued) : CallKey := c.call.definition.key

/-- A cache of compiled calls. -/
structure CallCache where
  /-- The calls by key, the most recently used one first. -/
  entries : List (CallKey × Issued) := []
  capacity : Nat := 128
  /-- The look-ups that found a call, counted without the bound of a 64-bit counter. -/
  hits : Nat := 0
  /-- The look-ups that found none, counted in the same way. -/
  misses : Nat := 0

namespace CallCache

/-- An empty cache for a number of calls; there is always room for one. -/
def ofCapacity (n : Nat) : CallCache := { capacity := max n 1 }

variable (cache : CallCache) (key : CallKey)

def size : Nat := cache.entries.length

/-- The call of a key. -/
def peek? : Option Issued := (cache.entries.find? (·.1 = key)).map (·.2)

/-- The entries of all other keys. -/
def others : List (CallKey × Issued) := cache.entries.filter (·.1 ≠ key)

/-- The cache after a look-up. -/
def afterGet : CallCache :=
  match cache.peek? key with
  | some c => { cache with entries := (key, c) :: cache.others key, hits := cache.hits + 1 }
  | none => { cache with misses := cache.misses + 1 }

/-- The call of a key, which becomes the most recent one. -/
def get : Traced (Option Issued × CallCache) :=
  ⟨(cache.peek? key, cache.afterGet key),
    [if (cache.peek? key).isSome then .cacheHit key.name else .cacheMiss key.name]⟩

/-- Whether storing under a key needs room. -/
def needsRoom : Bool := cache.capacity ≤ cache.size && (cache.peek? key).isNone

/-- The least recently used entry, if storing under a key needs room. -/
def evicted? : Option (CallKey × Issued) :=
  if cache.needsRoom key then cache.entries.getLast? else none

/-- The entries that stay when something is stored under a key. -/
def staying : List (CallKey × Issued) :=
  if cache.needsRoom key then cache.entries.dropLast else cache.others key

/-- The cache with a call stored under its own key as the most recent one. -/
def afterInsert (c : Issued) : CallCache :=
  { cache with entries := (c.key, c) :: cache.staying c.key }

/-- Stores a call under its own key, giving back the one that had to go. -/
def insert (c : Issued) : Traced (Option Issued × CallCache) :=
  ⟨((cache.evicted? c.key).map (·.2), cache.afterInsert c), [.callCached c.key.name]⟩

/-- Takes the call of a key out. -/
def remove : Option Issued × CallCache :=
  (cache.peek? key, { cache with entries := cache.others key })

/-- Takes all calls out. -/
def clear : Traced CallCache := ⟨{ cache with entries := [] }, [.cacheCleared cache.size]⟩

/-- Starts counting anew. -/
def resetCounts : CallCache := { cache with hits := 0, misses := 0 }

/-- The share of look-ups that found a call, zero before any. -/
def hitRatio : Float :=
  if cache.hits + cache.misses = 0 then 0
  else Float.ofNat cache.hits / Float.ofNat (cache.hits + cache.misses)

/-- The cache in diagnostics. -/
def diagnostic : String :=
  Text.quoteRecord "CallCache"
    [("len", toString cache.size), ("max_size", toString cache.capacity),
     ("hits", toString cache.hits), ("misses", toString cache.misses)]

end CallCache

end StoredCall
