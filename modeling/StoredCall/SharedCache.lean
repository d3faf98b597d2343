import StoredCall.CallCache

/-!
# Shared caches

A cache used by many tasks at once. A task looks its key up in one step; if there is no call, it
compiles one on its own and publishes it in another step, unless some task has published one in the
meantime.

* `SharedCache.lookup`, `SharedCache.publish`: the two steps;
* `SharedCache.getOrCompile`: one task from beginning to end;
* `SharedCache.getOrCompileAll`: tasks that all look up before the first of them compiles.
-/

namespace StoredCall

/-- Whether and how much to cache. -/
structure CacheConfig where
  enabled : Bool := true
  capacity : Nat := 128
deriving DecidableEq

namespace CacheConfig

def disabled : CacheConfig := ⟨false, 0⟩

def ofCapacity (n : Nat) : CacheConfig := ⟨true, n⟩

end CacheConfig

/-- A cache shared by tasks. -/
structure SharedCache where
  enabled : Bool
  cache : CallCache
  /-- The number of calls issued so far. -/
  issued : Nat := 0

namespace SharedCache

def ofConfig (config : CacheConfig) : SharedCache :=
  { enabled := config.enabled, cache := .ofCapacity config.capacity }

variable (shared : SharedCache)

/-! ## Steps -/

/-- Looks a key up; a disabled cache has nothing and counts nothing. -/
def lookup (key : CallKey) : Traced (Option Issued × SharedCache) :=
  if shared.enabled then do
    let (found, cache) ← shared.cache.get key
    return (found, { shared with cache })
  else return (none, shared)

/-- Issues a compiled call: what is answered is the call published for its key before, if any, or
else this one, which is published. -/
def publish (call : CompiledCall) : Traced (Issued × SharedCache) :=
  let fresh : Issued := ⟨shared.issued, call⟩
  let next := { shared with issued := shared.issued + 1 }
  if shared.enabled then
    match shared.cache.peek? fresh.key with
    | some c => return (c, next)
    | none => do
      let (_, cache) ← shared.cache.insert fresh
      return (fresh, { next with cache })
  else return (fresh, next)

/-! ## Tasks -/

/-- A task after its first turn. -/
inductive Task
  | answered (answer : Except CallError Issued)
  /-- No call was found, and the source has still to be asked. -/
  | waiting (call : CallDefinition)

/-- The first turn of a task, up to the point where the source is asked. -/
def enter (call : CallDefinition) : Traced (Task × SharedCache) := do
  let (found, next) ← shared.lookup call.key
  match found with
  | some c => return (.answered (.ok c), next)
  | none =>
    match ← call.beginCompile.run with
    | .error e => return (.answered (.error e), next)
    | .ok () => return (.waiting call, next)

/-- The second turn of a task. -/
def settle (source : MetadataSource) :
    Task → Traced (Except CallError Issued × SharedCache × MetadataSource)
  | .answered answer => return (answer, shared, source)
  | .waiting call => do
    match ← (call.finishCompile source).run with
    | .error e => return (.error e, shared, call.sourceAfter source)
    | .ok compiled =>
      let (c, next) ← shared.publish compiled
      return (.ok c, next, call.sourceAfter source)

/-- The call for a definition, from the cache or else compiled. -/
def getOrCompile (call : CallDefinition) (source : MetadataSource) :
    Traced (Except CallError Issued × SharedCache × MetadataSource) := do
  let (task, next) ← shared.enter call
  next.settle source task

/-- The first turns of tasks, in order. -/
def enterAll : SharedCache → List CallDefinition → Traced (List Task × SharedCache)
  | shared, [] => return ([], shared)
  | shared, call :: rest => do
    let (task, next) ← shared.enter call
    let (tasks, last) ← enterAll next rest
    return (task :: tasks, last)

/-- The second turns of tasks, in order. -/
def settleAll : SharedCache → MetadataSource → List Task →
    Traced (List (Except CallError Issued) × SharedCache × MetadataSource)
  | shared, source, [] => return ([], shared, source)
  | shared, source, task :: rest => do
    let (answer, next, source) ← shared.settle source task
    let (answers, last, source) ← settleAll next source rest
    return (answer :: answers, last, source)

/-- The calls for definitions whose tasks take turns: all look up first, then finish in order. -/
def getOrCompileAll (calls : List CallDefinition) (source : MetadataSource) :
    Traced (List (Except CallError Issued) × SharedCache × MetadataSource) := do
  let (tasks, next) ← shared.enterAll calls
  next.settleAll source tasks

/-! ## Other steps -/

/-- Takes the call of a key out and tells whether there was one. -/
def invalidate (key : CallKey) : Bool × SharedCache :=
  let (found, cache) := shared.cache.remove key
  (found.isSome, { shared with cache })

/-- Takes all calls out. -/
def clear : Traced SharedCache := do
  let cache ← shared.cache.clear
  return { shared with cache }

end SharedCache

end StoredCall
