import Mathlib.Data.List.Dedup
import Mathlib.Data.List.Find
import Mathlib.Data.List.Perm.Subperm
import StoredCall.CallCache

/-!
# What a cache holds

The entries of a cache after each of its steps, as seen by `CallCache.peek?`.

* `CallCache.keys`: the keys under which calls are held; every step keeps them distinct;
* `CallCache.peek?_eq_some_iff`: with distinct keys, what is found under a key is what is held;
* `CallCache.peek?_afterGet`, `CallCache.peek?_remove`, `CallCache.peek?_afterInsert`: a look-up
  changes nothing that is held, and a removal, and storing a call as long as there is room, change
  what is held under their key;
* `CallCache.needsRoom_eq_false`: there is room while only few keys are in use;
* `CallCache.size_afterInsert_le`, `CallCache.peek?_afterInsert_of_evicted`: a full cache stays
  within its size, and what it evicts is its last entry.
-/

namespace StoredCall.CallCache

variable {cache : CallCache} {key key' : CallKey} {c : Issued}

/-- The keys under which calls are held, the most recently used one first. -/
def keys (cache : CallCache) : List CallKey := cache.entries.map (·.1)

/-! ### Look-ups -/

theorem peek?_eq_none_iff : cache.peek? key = none ↔ key ∉ cache.keys := by
  rw [peek?, Option.map_eq_none_iff, List.find?_eq_none, keys, List.mem_map]
  constructor
  · rintro hnone ⟨x, hx, he⟩
    exact hnone x hx (decide_eq_true he)
  · exact fun hnot x hx he => hnot ⟨x, hx, of_decide_eq_true he⟩

theorem mem_of_peek?_eq_some (h : cache.peek? key = some c) : (key, c) ∈ cache.entries := by
  obtain ⟨⟨key', c'⟩, hfind, rfl⟩ := Option.map_eq_some_iff.1 h
  have hkey : key' = key := by simpa using List.find?_some hfind
  exact hkey ▸ List.mem_of_find?_eq_some hfind

theorem peek?_eq_some_iff (hdistinct : cache.keys.Nodup) :
    cache.peek? key = some c ↔ (key, c) ∈ cache.entries := by
  refine ⟨mem_of_peek?_eq_some, fun hmem => ?_⟩
  cases hpeek : cache.peek? key with
  | none => exact absurd (List.mem_map_of_mem hmem) (peek?_eq_none_iff.1 hpeek)
  | some c' =>
    have hsame : ((key, c') : CallKey × Issued) = (key, c) :=
      List.inj_on_of_nodup_map hdistinct (mem_of_peek?_eq_some hpeek) hmem rfl
    exact congrArg (fun x => some x.2) hsame

theorem mem_others {x : CallKey × Issued} :
    x ∈ cache.others key ↔ x ∈ cache.entries ∧ x.1 ≠ key := by
  simp [others]

theorem find?_others (hne : key ≠ key') :
    (cache.others key).find? (·.1 = key') = cache.entries.find? (·.1 = key') := by
  rw [others, List.find?_filter]
  refine List.find?_congr fun x _ => ?_
  by_cases h : x.1 = key'
  · simp [h, hne.symm]
  · simp [h]

theorem nodup_keys_cons_others (hdistinct : cache.keys.Nodup) :
    (((key, c) :: cache.others key).map (·.1)).Nodup := by
  have hsub : ((cache.others key).map (·.1)).Sublist cache.keys :=
    (List.filter_sublist (l := cache.entries)).map _
  refine List.nodup_cons.2 ⟨fun hmem => ?_, hsub.nodup hdistinct⟩
  obtain ⟨x, hx, he⟩ := List.mem_map.1 hmem
  exact (mem_others.1 hx).2 he

theorem afterGet_of_some (h : cache.peek? key = some c) :
    cache.afterGet key =
      { cache with entries := (key, c) :: cache.others key, hits := cache.hits + 1 } := by
  simp only [afterGet, h]

theorem afterGet_of_none (h : cache.peek? key = none) :
    cache.afterGet key = { cache with misses := cache.misses + 1 } := by
  simp only [afterGet, h]

/-- A look-up changes nothing that is held. -/
theorem peek?_afterGet : (cache.afterGet key).peek? key' = cache.peek? key' := by
  cases h : cache.peek? key with
  | none => rw [afterGet_of_none h]; rfl
  | some c =>
    rw [afterGet_of_some h]
    by_cases hkey : key = key'
    · rw [← hkey, h]
      simp [peek?]
    · rw [peek?, List.find?_cons_of_neg (by simpa using hkey), find?_others hkey, peek?]

theorem peek?_remove :
    (cache.remove key).2.peek? key' = if key = key' then none else cache.peek? key' := by
  by_cases hkey : key = key'
  · rw [if_pos hkey, peek?_eq_none_iff, keys, List.mem_map]
    rintro ⟨x, hx, he⟩
    exact (mem_others.1 hx).2 (he.trans hkey.symm)
  · rw [if_neg hkey, peek?, remove, find?_others hkey, peek?]

theorem mem_entries_of_afterGet {x : CallKey × Issued} (hx : x ∈ (cache.afterGet key).entries) :
    x ∈ cache.entries := by
  cases h : cache.peek? key with
  | none =>
    rw [afterGet_of_none h] at hx
    exact hx
  | some c =>
    rw [afterGet_of_some h] at hx
    rcases List.mem_cons.1 hx with rfl | hx
    · exact mem_of_peek?_eq_some h
    · exact (mem_others.1 hx).1

theorem mem_keys_afterGet : key' ∈ (cache.afterGet key).keys ↔ key' ∈ cache.keys := by
  rw [← not_iff_not, ← peek?_eq_none_iff, ← peek?_eq_none_iff, peek?_afterGet]

theorem nodup_keys_afterGet (hdistinct : cache.keys.Nodup) : (cache.afterGet key).keys.Nodup := by
  cases h : cache.peek? key with
  | none => rw [afterGet_of_none h]; exact hdistinct
  | some c => rw [afterGet_of_some h]; exact nodup_keys_cons_others hdistinct

theorem capacity_afterGet : (cache.afterGet key).capacity = cache.capacity := by
  unfold afterGet
  split <;> rfl

theorem counts_afterGet :
    (cache.afterGet key).hits + (cache.afterGet key).misses = cache.hits + cache.misses + 1 := by
  cases h : cache.peek? key with
  | none => rw [afterGet_of_none h]; rfl
  | some c => rw [afterGet_of_some h]; exact Nat.add_right_comm _ _ _

/-! ### Stored calls -/

/-- There is room for a key while it and the keys in use are few. -/
theorem needsRoom_eq_false {ks : List CallKey} (hdistinct : cache.keys.Nodup)
    (hsub : cache.keys ⊆ ks) (hkey : key ∈ ks) (hnew : key ∉ cache.keys)
    (hfew : ks.dedup.length ≤ cache.capacity) : cache.needsRoom key = false := by
  have hnodup : (key :: cache.keys).Nodup := List.nodup_cons.2 ⟨hnew, hdistinct⟩
  have hmore : key :: cache.keys ⊆ ks.dedup := by
    intro x hx
    rcases List.mem_cons.1 hx with rfl | hx
    · exact List.mem_dedup.2 hkey
    · exact List.mem_dedup.2 (hsub hx)
  have hlength : (key :: cache.keys).length ≤ ks.dedup.length :=
    (List.subperm_of_subset hnodup hmore).length_le
  have hsize : (key :: cache.keys).length = cache.size + 1 := by simp [keys, size]
  have hroom : ¬cache.capacity ≤ cache.size := by omega
  simp [needsRoom, hroom]

theorem entries_afterInsert (hroom : cache.needsRoom c.key = false) :
    (cache.afterInsert c).entries = (c.key, c) :: cache.others c.key := by
  simp [afterInsert, staying, hroom]

theorem peek?_afterInsert_self : (cache.afterInsert c).peek? c.key = some c := by
  simp [peek?, afterInsert]

/-- With room, what is held changes under the key of a stored call only. -/
theorem peek?_afterInsert (hroom : cache.needsRoom c.key = false) :
    (cache.afterInsert c).peek? key = if c.key = key then some c else cache.peek? key := by
  rw [peek?, entries_afterInsert hroom]
  split
  · rename_i hkey
    simp [hkey]
  · rename_i hkey
    rw [List.find?_cons_of_neg (by simpa using hkey), find?_others hkey, peek?]

theorem mem_keys_afterInsert (hroom : cache.needsRoom c.key = false) :
    key ∈ (cache.afterInsert c).keys ↔ key = c.key ∨ key ∈ cache.keys := by
  rw [← not_iff_not, ← peek?_eq_none_iff, peek?_afterInsert hroom]
  by_cases hkey : c.key = key
  · simp [hkey]
  · simp [hkey, Ne.symm hkey, peek?_eq_none_iff]

theorem nodup_keys_afterInsert (hroom : cache.needsRoom c.key = false)
    (hdistinct : cache.keys.Nodup) : (cache.afterInsert c).keys.Nodup := by
  rw [keys, entries_afterInsert hroom]
  exact nodup_keys_cons_others hdistinct

/-! ### Room -/

theorem needsRoom_iff :
    cache.needsRoom key = true ↔ cache.capacity ≤ cache.size ∧ cache.peek? key = none := by
  rw [needsRoom, Bool.and_eq_true, decide_eq_true_iff, Option.isNone_iff_eq_none]

theorem staying_sublist : (cache.staying key).Sublist cache.entries := by
  unfold staying
  split
  · exact List.dropLast_sublist _
  · exact List.filter_sublist

theorem mem_entries_of_afterInsert {x : CallKey × Issued}
    (hx : x ∈ (cache.afterInsert c).entries) : x = (c.key, c) ∨ x ∈ cache.entries := by
  rcases List.mem_cons.1 hx with rfl | hx
  · exact Or.inl rfl
  · exact Or.inr (staying_sublist.subset hx)

theorem ne_of_mem_staying {x : CallKey × Issued} (hx : x ∈ cache.staying key) : x.1 ≠ key := by
  rintro rfl
  unfold staying at hx
  split at hx
  · rename_i hroom
    exact peek?_eq_none_iff.1 (needsRoom_iff.1 hroom).2
      (List.mem_map_of_mem ((List.dropLast_sublist _).subset hx))
  · exact (mem_others.1 hx).2 rfl

theorem length_others_lt (h : cache.peek? key = some c) :
    (cache.others key).length < cache.size := by
  rw [others, size, List.length_filter_lt_length_iff_exists]
  exact ⟨(key, c), mem_of_peek?_eq_some h, by simp⟩

theorem size_afterGet_le : (cache.afterGet key).size ≤ cache.size := by
  cases h : cache.peek? key with
  | none => rw [afterGet_of_none h]; exact le_refl _
  | some c => rw [afterGet_of_some h]; exact length_others_lt h

/-- A cache that is not too small for one call stays within its size. -/
theorem size_afterInsert_le (hpos : 0 < cache.capacity) (hsize : cache.size ≤ cache.capacity) :
    (cache.afterInsert c).size ≤ cache.capacity := by
  show (cache.staying c.key).length + 1 ≤ cache.capacity
  unfold staying
  cases hroom : cache.needsRoom c.key with
  | true =>
    obtain ⟨hfull, -⟩ := needsRoom_iff.1 hroom
    have hlength : cache.entries.dropLast.length = cache.size - 1 := List.length_dropLast
    rw [if_pos rfl, hlength]
    omega
  | false =>
    rw [if_neg Bool.false_ne_true]
    cases hpeek : cache.peek? c.key with
    | none =>
      have hnot : ¬cache.capacity ≤ cache.size := fun hfull =>
        Bool.false_ne_true (hroom ▸ needsRoom_iff.2 ⟨hfull, hpeek⟩)
      have hle : (cache.others c.key).length ≤ cache.size := List.length_filter_le _ _
      omega
    | some c' => exact (length_others_lt hpeek).trans_le hsize

/-- What is evicted is the last entry of a full cache that does not hold the key. -/
theorem evicted?_eq_some_iff {old : CallKey × Issued} :
    cache.evicted? key = some old ↔
      cache.needsRoom key = true ∧ cache.entries = cache.entries.dropLast ++ [old] := by
  unfold evicted?
  split
  · rename_i hroom
    rw [List.getLast?_eq_some_iff]
    constructor
    · rintro ⟨earlier, he⟩
      refine ⟨hroom, ?_⟩
      rw [he, List.dropLast_concat]
    · exact fun h => ⟨_, h.2⟩
  · rename_i hroom
    exact ⟨nofun, fun h => absurd h.1 hroom⟩

/-- With an eviction, what is held changes under the keys of the stored and the evicted call. -/
theorem peek?_afterInsert_of_evicted {oldKey : CallKey} {old : Issued}
    (hdistinct : cache.keys.Nodup) (h : cache.evicted? c.key = some (oldKey, old)) :
    (cache.afterInsert c).peek? key =
      if c.key = key then some c else if oldKey = key then none else cache.peek? key := by
  obtain ⟨hroom, hentries⟩ := evicted?_eq_some_iff.1 h
  have hafter : (cache.afterInsert c).entries = (c.key, c) :: cache.entries.dropLast := by
    simp [afterInsert, staying, hroom]
  rw [peek?, hafter]
  split
  · rename_i hkey
    simp [hkey]
  rename_i hkey
  rw [List.find?_cons_of_neg (by simpa using hkey)]
  split
  · rename_i hold
    -- the keys before the last one differ from it
    rw [keys, hentries, List.map_append] at hdistinct
    rw [Option.map_eq_none_iff, List.find?_eq_none]
    intro x hx he
    exact (List.disjoint_of_nodup_append hdistinct) (List.mem_map_of_mem hx)
      (List.mem_singleton.2 ((of_decide_eq_true he).trans hold.symm))
  · rename_i hold
    have hlast : [(oldKey, old)].find? (·.1 = key) = none :=
      List.find?_cons_of_neg (by simpa using hold)
    conv_rhs => rw [peek?, hentries, List.find?_append, hlast, Option.or_none]

end StoredCall.CallCache
