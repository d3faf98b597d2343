import StoredCall.Proofs.CacheEntries

/-!
# Caches by their history

A cache keeps an order of its entries and two counts. Its history, the operations that it has been
through with their answers, says what these are.

* `RecordedCache`: a cache with its past;
* `age`: how many operations ago a key was last used, that is stored or looked up with success;
* `ByAge`: the keys of a cache are in the order of their ages;
* `TracksPast.perform`: what each operation keeps;
* `evicts_oldest`: a cache stays within its size, what it evicts is the entry whose last use is the
  oldest, all else is held until it is removed, and its counts are those of the look-ups since they
  were last reset.
-/

namespace StoredCall

/-! ### Operations and their past -/

/-- An operation on a cache. -/
inductive CacheOp
  | get (key : CallKey)
  | peek (key : CallKey)
  | insert (c : Issued)
  | remove (key : CallKey)
  | clear
  | resetCounts

/-- What an operation answers, and the cache after it. -/
def CallCache.perform (cache : CallCache) : CacheOp → Option Issued × CallCache
  | .get key => (cache.get key).value
  | .peek key => (cache.peek? key, cache)
  | .insert c => (cache.insert c).value
  | .remove key => cache.remove key
  | .clear => (none, cache.clear.value)
  | .resetCounts => (none, cache.resetCounts)

/-- An operation with what it answered. -/
structure Performed where
  op : CacheOp
  answer : Option Issued

namespace Performed

/-- Whether the operation stored a call under the key or looked it up with success. -/
def uses (p : Performed) (key : CallKey) : Bool :=
  match p.op with
  | .get key' => key' = key && p.answer.isSome
  | .insert c => c.key = key
  | .peek _ | .remove _ | .clear | .resetCounts => false

def isHit (p : Performed) : Bool :=
  match p.op with
  | .get _ => p.answer.isSome
  | _ => false

def isMiss (p : Performed) : Bool :=
  match p.op with
  | .get _ => p.answer.isNone
  | _ => false

def isReset (p : Performed) : Bool :=
  match p.op with
  | .resetCounts => true
  | _ => false

end Performed

/-- A cache with what it has been through, the latest operation first. -/
structure RecordedCache where
  cache : CallCache
  past : List Performed := []

namespace RecordedCache

/-- A new cache for a number of calls. -/
def ofCapacity (n : ℕ) : RecordedCache := { cache := .ofCapacity n }

def perform (r : RecordedCache) (op : CacheOp) : RecordedCache :=
  { cache := (r.cache.perform op).2, past := ⟨op, (r.cache.perform op).1⟩ :: r.past }

/-- The cache after some operations. -/
def after (r : RecordedCache) (ops : List CacheOp) : RecordedCache := ops.foldl perform r

end RecordedCache

/-! ### Ages -/

/-- How many operations ago the key was last used. -/
def age (past : List Performed) (key : CallKey) : ℕ := past.findIdx (·.uses key)

/-- The operations since the counts were last reset. -/
def sinceReset (past : List Performed) : List Performed := past.takeWhile (!·.isReset)

section

variable {p : Performed} {past : List Performed} {key : CallKey} {keys keys' : List CallKey}

theorem age_of_uses (h : p.uses key = true) : age (p :: past) key = 0 := by
  rw [age, List.findIdx_cons, h]
  rfl

theorem age_of_not_uses (h : p.uses key = false) : age (p :: past) key = age past key + 1 := by
  rw [age, List.findIdx_cons, h]
  rfl

theorem sinceReset_of_reset (h : p.isReset = true) : sinceReset (p :: past) = [] := by
  simp [sinceReset, h]

theorem sinceReset_cons (h : p.isReset = false) :
    sinceReset (p :: past) = p :: sinceReset past := by
  simp [sinceReset, h]

/-- The keys have all been used, the later used ones before the others. -/
structure ByAge (past : List Performed) (keys : List CallKey) : Prop where
  pairwise : keys.Pairwise fun a b => age past a < age past b
  used : ∀ key ∈ keys, age past key < past.length

theorem ByAge.nodup (h : ByAge past keys) : keys.Nodup :=
  h.pairwise.imp fun hlt he => absurd (congrArg (age past) he) (Nat.ne_of_lt hlt)

/-- An operation that uses none of the keys leaves them in their order. -/
theorem ByAge.of_sublist (h : ByAge past keys) (hsub : keys'.Sublist keys)
    (hnot : ∀ key ∈ keys', p.uses key = false) : ByAge (p :: past) keys' where
  pairwise := by
    refine (h.pairwise.sublist hsub).imp_of_mem fun {a b} ha hb hlt => ?_
    rw [age_of_not_uses (hnot a ha), age_of_not_uses (hnot b hb)]
    exact Nat.succ_lt_succ hlt
  used := by
    intro key hkey
    rw [age_of_not_uses (hnot key hkey)]
    exact Nat.succ_lt_succ (h.used key (hsub.subset hkey))

/-- An operation that uses one key brings it to the front. -/
theorem ByAge.cons (h : ByAge past keys) (hsub : keys'.Sublist keys) (huses : p.uses key = true)
    (hnot : ∀ key ∈ keys', p.uses key = false) : ByAge (p :: past) (key :: keys') where
  pairwise := by
    refine List.pairwise_cons.2 ⟨fun k hk => ?_, (h.of_sublist hsub hnot).pairwise⟩
    rw [age_of_uses huses, age_of_not_uses (hnot k hk)]
    exact Nat.succ_pos _
  used := by
    intro k hk
    rcases List.mem_cons.1 hk with rfl | hk
    · rw [age_of_uses huses]
      exact Nat.succ_pos _
    · exact (h.of_sublist hsub hnot).used k hk

end

/-! ### What the past tells -/

/-- The entries are in the order of their ages and within the size of the cache, and the counts are
those of the past. -/
structure TracksPast (n : ℕ) (cache : CallCache) (past : List Performed) : Prop where
  capacity : cache.capacity = max n 1
  size_le : cache.size ≤ cache.capacity
  own : ∀ e ∈ cache.entries, e.2.key = e.1
  byAge : ByAge past cache.keys
  hits : cache.hits = (sinceReset past).countP (·.isHit)
  misses : cache.misses = (sinceReset past).countP (·.isMiss)

namespace TracksPast

variable {n : ℕ} {cache : CallCache} {past : List Performed} {key : CallKey} {c : Issued}

theorem start (n : ℕ) : TracksPast n (.ofCapacity n) [] where
  capacity := rfl
  size_le := Nat.zero_le _
  own := fun _ he => absurd he List.not_mem_nil
  byAge := ⟨List.Pairwise.nil, fun _ hk => absurd hk List.not_mem_nil⟩
  hits := rfl
  misses := rfl

theorem nodup_keys (h : TracksPast n cache past) : cache.keys.Nodup := h.byAge.nodup

theorem counts_cons {p : Performed} (hreset : p.isReset = false) (hhit : p.isHit = false)
    (hmiss : p.isMiss = false) :
    (sinceReset (p :: past)).countP (·.isHit) = (sinceReset past).countP (·.isHit) ∧
      (sinceReset (p :: past)).countP (·.isMiss) = (sinceReset past).countP (·.isMiss) := by
  rw [sinceReset_cons hreset, List.countP_cons_of_neg (by simp [hhit]),
    List.countP_cons_of_neg (by simp [hmiss])]
  exact ⟨rfl, rfl⟩

theorem of_sublist {p : Performed} {entries : List (CallKey × Issued)}
    (h : TracksPast n cache past) (hsub : entries.Sublist cache.entries)
    (hnot : ∀ key, p.uses key = false) (hreset : p.isReset = false) (hhit : p.isHit = false)
    (hmiss : p.isMiss = false) : TracksPast n { cache with entries } (p :: past) where
  capacity := h.capacity
  size_le := hsub.length_le.trans h.size_le
  own := fun e he => h.own e (hsub.subset he)
  byAge := h.byAge.of_sublist (hsub.map _) fun key _ => hnot key
  hits := h.hits.trans (counts_cons hreset hhit hmiss).1.symm
  misses := h.misses.trans (counts_cons hreset hhit hmiss).2.symm

theorem get (h : TracksPast n cache past) (key : CallKey) :
    TracksPast n (cache.afterGet key) (⟨.get key, cache.peek? key⟩ :: past) := by
  have hsince : sinceReset (⟨.get key, cache.peek? key⟩ :: past) =
      ⟨.get key, cache.peek? key⟩ :: sinceReset past := sinceReset_cons rfl
  have hsize : (cache.afterGet key).size ≤ cache.capacity :=
    CallCache.size_afterGet_le.trans h.size_le
  cases hpeek : cache.peek? key with
  | none =>
    rw [hpeek] at hsince
    have huses : ∀ k, (Performed.mk (.get key) none).uses k = false := fun _ => Bool.and_false _
    rw [CallCache.afterGet_of_none hpeek] at hsize ⊢
    exact
      { capacity := h.capacity
        size_le := hsize
        own := h.own
        byAge := h.byAge.of_sublist (List.Sublist.refl _) fun k _ => huses k
        hits := by rw [hsince, h.hits]; rfl
        misses := by rw [hsince, List.countP_cons_of_pos rfl, ← h.misses] }
  | some c =>
    rw [hpeek] at hsince
    have huses : ∀ k, (Performed.mk (.get key) (some c)).uses k = decide (key = k) :=
      fun _ => Bool.and_true _
    rw [CallCache.afterGet_of_some hpeek] at hsize ⊢
    refine
      { capacity := h.capacity
        size_le := hsize
        own := ?_
        byAge := ?_
        hits := by rw [hsince, List.countP_cons_of_pos rfl, ← h.hits]
        misses := by rw [hsince, h.misses]; rfl }
    · intro e he
      rcases List.mem_cons.1 he with rfl | he
      · exact h.own (key, c) (CallCache.mem_of_peek?_eq_some hpeek)
      · exact h.own e (CallCache.mem_others.1 he).1
    · refine h.byAge.cons (List.filter_sublist.map _) ((huses key).trans (decide_eq_true rfl)) ?_
      intro k hk
      obtain ⟨e, he, rfl⟩ := List.mem_map.1 hk
      exact (huses e.1).trans (decide_eq_false (CallCache.mem_others.1 he).2.symm)

theorem insert (h : TracksPast n cache past) (c : Issued) :
    TracksPast n (cache.afterInsert c)
      (⟨.insert c, (cache.evicted? c.key).map (·.2)⟩ :: past) := by
  set p : Performed := ⟨.insert c, (cache.evicted? c.key).map (·.2)⟩
  have huses : ∀ k, p.uses k = decide (c.key = k) := fun _ => rfl
  have hpos : 0 < cache.capacity := by
    rw [h.capacity]
    omega
  constructor
  case capacity => exact h.capacity
  case size_le => exact CallCache.size_afterInsert_le hpos h.size_le
  case own =>
    intro e he
    rcases List.mem_cons.1 he with rfl | he
    · rfl
    · exact h.own e (CallCache.staying_sublist.subset he)
  case byAge =>
    refine h.byAge.cons (CallCache.staying_sublist.map _)
      ((huses c.key).trans (decide_eq_true rfl)) ?_
    intro k hk
    obtain ⟨e, he, rfl⟩ := List.mem_map.1 hk
    exact (huses e.1).trans (decide_eq_false (CallCache.ne_of_mem_staying he).symm)
  case hits => exact h.hits.trans (counts_cons rfl rfl rfl).1.symm
  case misses => exact h.misses.trans (counts_cons rfl rfl rfl).2.symm

/-- Every operation keeps the entries in the order of their ages, within the size of the cache. -/
theorem perform (h : TracksPast n cache past) (op : CacheOp) :
    TracksPast n (cache.perform op).2 (⟨op, (cache.perform op).1⟩ :: past) := by
  cases op with
  | get key => exact h.get key
  | peek key => exact h.of_sublist (List.Sublist.refl _) (fun _ => rfl) rfl rfl rfl
  | insert c => exact h.insert c
  | remove key => exact h.of_sublist List.filter_sublist (fun _ => rfl) rfl rfl rfl
  | clear => exact h.of_sublist (List.nil_sublist _) (fun _ => rfl) rfl rfl rfl
  | resetCounts =>
    exact
      { capacity := h.capacity
        size_le := h.size_le
        own := h.own
        byAge := h.byAge.of_sublist (List.Sublist.refl _) fun _ _ => rfl
        hits := by rw [sinceReset_of_reset rfl]; rfl
        misses := by rw [sinceReset_of_reset rfl]; rfl }

theorem after {r : RecordedCache} (h : TracksPast n r.cache r.past) (ops : List CacheOp) :
    TracksPast n (r.after ops).cache (r.after ops).past := by
  induction ops generalizing r with
  | nil => exact h
  | cons op ops ih => exact ih (h.perform op)

end TracksPast

/-! ### What is evicted -/

/-- What the past of a cache says of its entries and its counts, and what the next operation answers
and leaves. -/
structure EvictsOldest (n : ℕ) (cache : CallCache) (past : List Performed) : Prop where
  size_le : cache.size ≤ max n 1
  distinct : cache.keys.Nodup
  /-- Every call is held under its own key. -/
  own : ∀ e ∈ cache.entries, e.2.key = e.1
  /-- Every key that is held has been used. -/
  used : ∀ key ∈ cache.keys, age past key < past.length
  /-- A call is evicted if the cache is full and does not hold the key. -/
  evicts_iff : ∀ c, (cache.insert c).value.1.isSome = true ↔
    cache.size = max n 1 ∧ cache.peek? c.key = none
  /-- The evicted call was held, and all others that are held have been used later. -/
  oldest : ∀ c old, (cache.insert c).value.1 = some old →
    cache.peek? old.key = some old ∧
      ∀ key ∈ cache.keys, key ≠ old.key → age past key < age past old.key
  /-- A stored call takes the place of the evicted one, and every other entry stays. -/
  replaced : ∀ c old, (cache.insert c).value.1 = some old → ∀ key,
    (cache.insert c).value.2.peek? key =
      if c.key = key then some c else if old.key = key then none else cache.peek? key
  /-- If nothing is evicted, only what is held under the key of the stored call changes. -/
  kept : ∀ c, (cache.insert c).value.1 = none → ∀ key,
    (cache.insert c).value.2.peek? key = if c.key = key then some c else cache.peek? key
  /-- A look-up answers what is held under its key, and all that is held stays. -/
  looked : ∀ key, (cache.get key).value.1 = cache.peek? key ∧
    ∀ key', (cache.get key).value.2.peek? key' = cache.peek? key'
  /-- A removal answers what was held under its key, and all else stays. -/
  removed : ∀ key, (cache.remove key).1 = cache.peek? key ∧
    ∀ key', (cache.remove key).2.peek? key' = if key = key' then none else cache.peek? key'
  cleared : ∀ key, cache.clear.value.peek? key = none
  recounted : ∀ key, cache.resetCounts.peek? key = cache.peek? key
  hits : cache.hits = (sinceReset past).countP (·.isHit)
  misses : cache.misses = (sinceReset past).countP (·.isMiss)

section

variable {n : ℕ} {cache : CallCache} {past : List Performed} {c old : Issued}

theorem answer_insert_eq_some_iff :
    (cache.insert c).value.1 = some old ↔ ∃ key, cache.evicted? c.key = some (key, old) := by
  show (cache.evicted? c.key).map (·.2) = some old ↔ _
  rw [Option.map_eq_some_iff]
  constructor
  · rintro ⟨⟨key, call⟩, hevicted, rfl⟩
    exact ⟨key, hevicted⟩
  · rintro ⟨key, hevicted⟩
    exact ⟨(key, old), hevicted, rfl⟩

theorem TracksPast.isSome_evicted?_iff (h : TracksPast n cache past) :
    (cache.evicted? c.key).isSome = true ↔ cache.needsRoom c.key = true := by
  unfold CallCache.evicted?
  split
  · rename_i hroom
    refine iff_of_true ?_ hroom
    rw [List.getLast?_isSome, ← List.length_pos_iff]
    have hfull := (CallCache.needsRoom_iff.1 hroom).1
    rw [h.capacity] at hfull
    exact (Nat.lt_of_lt_of_le Nat.one_pos (Nat.le_max_right n 1)).trans_le hfull
  · rename_i hroom
    exact iff_of_false Bool.false_ne_true hroom

/-- An evicted call was held under its own key, and all other keys have been used later. -/
theorem TracksPast.of_evicted {key : CallKey} (h : TracksPast n cache past)
    (hevicted : cache.evicted? c.key = some (key, old)) :
    old.key = key ∧ cache.peek? key = some old ∧
      ∀ k ∈ cache.keys, k ≠ key → age past k < age past key := by
  obtain ⟨-, hentries⟩ := CallCache.evicted?_eq_some_iff.1 hevicted
  have hmem : (key, old) ∈ cache.entries := by
    rw [hentries]
    exact List.mem_append_right _ (List.mem_singleton.2 rfl)
  refine ⟨h.own (key, old) hmem, (CallCache.peek?_eq_some_iff h.nodup_keys).2 hmem, ?_⟩
  intro k hk hne
  have hpairwise := h.byAge.pairwise
  rw [CallCache.keys, hentries, List.map_append] at hk hpairwise
  rcases List.mem_append.1 hk with hk | hk
  · exact (List.pairwise_append.1 hpairwise).2.2 k hk key (List.mem_singleton.2 rfl)
  · exact absurd (List.mem_singleton.1 hk) hne

theorem TracksPast.evictsOldest (h : TracksPast n cache past) : EvictsOldest n cache past := by
  have hfull : cache.capacity ≤ cache.size ↔ cache.size = max n 1 := by
    rw [← h.capacity]
    exact ⟨fun hle => le_antisymm h.size_le hle, fun he => he.ge⟩
  constructor
  case size_le => exact h.capacity ▸ h.size_le
  case distinct => exact h.nodup_keys
  case own => exact h.own
  case used => exact h.byAge.used
  case evicts_iff =>
    intro c
    show ((cache.evicted? c.key).map (·.2)).isSome = true ↔ _
    rw [Option.isSome_map, h.isSome_evicted?_iff, CallCache.needsRoom_iff, hfull]
  case oldest =>
    intro c old hold
    obtain ⟨key, hevicted⟩ := answer_insert_eq_some_iff.1 hold
    obtain ⟨rfl, hpeek, hlater⟩ := h.of_evicted hevicted
    exact ⟨hpeek, hlater⟩
  case replaced =>
    intro c old hold key
    obtain ⟨key', hevicted⟩ := answer_insert_eq_some_iff.1 hold
    rw [(h.of_evicted hevicted).1]
    exact CallCache.peek?_afterInsert_of_evicted h.nodup_keys hevicted
  case kept =>
    intro c hnone key
    have hroom : cache.needsRoom c.key = false := by
      rw [← Bool.not_eq_true, ← h.isSome_evicted?_iff, Bool.not_eq_true,
        Option.isSome_eq_false_iff, Option.isNone_iff_eq_none]
      exact Option.map_eq_none_iff.1 hnone
    exact CallCache.peek?_afterInsert hroom
  case looked => exact fun key => ⟨rfl, fun key' => CallCache.peek?_afterGet⟩
  case removed => exact fun key => ⟨rfl, fun key' => CallCache.peek?_remove⟩
  case cleared => exact fun key => rfl
  case recounted => exact fun key => rfl
  case hits => exact h.hits
  case misses => exact h.misses

end

/-- Whatever a cache has been through, it is within its size, operations answer what is held under
their keys and leave the rest, but for the entry that is evicted, whose last use is the oldest, and
the counts are those of the look-ups. -/
theorem evicts_oldest (n : ℕ) (ops : List CacheOp) :
    let r := (RecordedCache.ofCapacity n).after ops
    EvictsOldest n r.cache r.past :=
  ((TracksPast.start n).after (r := .ofCapacity n) ops).evictsOldest

end StoredCall
