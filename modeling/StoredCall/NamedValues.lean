import StoredCall.Value.Convertible

/-!
# Named values

Values by name in the order in which the names first came.

* `NamedValues.insert`: a known name keeps its place and gets the new value;
* `names_upsert`, `get?_insert`: the names and the values after an insertion.
-/

namespace StoredCall

/-- Replaces the value of a name in its place, or appends the name. -/
def upsert (name : String) (v : Value) : List (String × Value) → List (String × Value)
  | [] => [(name, v)]
  | (n, w) :: rest => if n = name then (n, v) :: rest else (n, w) :: upsert name v rest

theorem names_upsert (name : String) (v : Value) (l : List (String × Value)) :
    (upsert name v l).map (·.1) =
      if name ∈ l.map (·.1) then l.map (·.1) else l.map (·.1) ++ [name] := by
  induction l with
  | nil => simp [upsert]
  | cons p rest ih =>
    by_cases h : p.1 = name
    · simp [upsert, h]
    · rw [upsert, if_neg h]
      simp only [List.map_cons, ih, List.mem_cons]
      by_cases hm : name ∈ rest.map (·.1)
      · simp [hm]
      · simp [hm, Ne.symm h]

theorem upsert_of_not_mem {name : String} {v : Value} {l : List (String × Value)}
    (h : name ∉ l.map (·.1)) : upsert name v l = l ++ [(name, v)] := by
  induction l with
  | nil => rfl
  | cons p rest ih =>
    rw [List.map_cons, List.mem_cons, not_or] at h
    rw [upsert, if_neg (Ne.symm h.1), ih h.2]
    rfl

theorem find?_upsert (name n : String) (v : Value) (l : List (String × Value)) :
    (upsert name v l).find? (·.1 = n) =
      if n = name then some (name, v) else l.find? (·.1 = n) := by
  induction l with
  | nil =>
    by_cases hn : n = name
    · simp [upsert, hn]
    · simp [upsert, hn, Ne.symm hn]
  | cons p rest ih =>
    obtain ⟨m, w⟩ := p
    by_cases h : m = name
    · by_cases hn : n = name
      · simp [upsert, h, hn]
      · simp [upsert, h, hn, Ne.symm hn]
    · rw [upsert, if_neg h, List.find?_cons, List.find?_cons, ih]
      by_cases hp : m = n
      · have hn : n ≠ name := hp ▸ h
        simp [hp, hn]
      · simp [hp]

theorem nodup_names_upsert (name : String) (v : Value) {l : List (String × Value)}
    (h : (l.map (·.1)).Nodup) : ((upsert name v l).map (·.1)).Nodup := by
  rw [names_upsert]
  split
  · exact h
  · rename_i hm
    rw [List.nodup_append]
    refine ⟨h, by simp, ?_⟩
    intro a ha b hb hab
    rw [List.mem_singleton] at hb
    exact hm (hb ▸ hab ▸ ha)

/-- Values by distinct names, in order. -/
structure NamedValues where
  entries : List (String × Value)
  nodup : (entries.map (·.1)).Nodup

namespace NamedValues

/-- No values. -/
def empty : NamedValues := ⟨[], by simp⟩

variable (vs : NamedValues)

def names : List String := vs.entries.map (·.1)

def length : Nat := vs.entries.length

/-- The value of a name. -/
def get? (name : String) : Option Value := (vs.entries.find? (·.1 = name)).map (·.2)

def contains (name : String) : Bool := (vs.get? name).isSome

/-- The values with one added or replaced. -/
def insert (name : String) (v : Value) : NamedValues :=
  ⟨upsert name v vs.entries, nodup_names_upsert name v vs.nodup⟩

theorem get?_insert (name n : String) (v : Value) :
    (vs.insert name v).get? n = if n = name then some v else vs.get? n := by
  rw [get?, insert, find?_upsert]
  split <;> rfl

theorem entries_insert_of_not_mem {name : String} {v : Value} (h : name ∉ vs.names) :
    (vs.insert name v).entries = vs.entries ++ [(name, v)] := upsert_of_not_mem h

theorem names_insert_of_not_mem {name : String} {v : Value} (h : name ∉ vs.names) :
    (vs.insert name v).names = vs.names ++ [name] := by
  rw [names, vs.entries_insert_of_not_mem h, List.map_append]
  rfl

/-- The values with one added that is converted first. -/
def insertConverted (name : String) (c : Convertible) : Except TypeError NamedValues :=
  c.toValue.map (vs.insert name)

/-- The values of pairs, of which the last for a name counts. -/
def ofPairs (pairs : List (String × Value)) : NamedValues :=
  pairs.foldl (fun vs p => vs.insert p.1 p.2) empty

end NamedValues

end StoredCall
