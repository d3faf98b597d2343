import Mathlib.Data.List.Nodup
import StoredCall.Reconciliation.Declarations

/-!
# The declarations that take part

What `keptOf` and `resultSetsOf` give, said without the scan that computes them.

* `IsKept`: a declared parameter takes part under a name;
* `mem_keptOf_iff`: `keptOf` holds these declarations and no others;
* `keptOf_pairwise`: they stand in declaration order and no two have one normalized name;
* `resultSetsOf_eq`: the result sets stand in declaration order;
* `key_mem_of_declared`: the normalized name of every declaration belongs to a result set or to a
  declaration that takes part;
* `find?_keptOf`: what takes part under a normalized name is the first declared under it.
-/

namespace StoredCall

/-- The parameter declared at the position takes part under the name: it is no result set, no result
set has its normalized name, and no earlier declaration has it. -/
structure IsKept (d : Dialect) (declared : List Parameter) (i : ℕ) (p : Parameter) (name : String) :
    Prop where
  declared_at : declared[i]? = some p
  no_resultSet : p.isResultSet = false
  named : p.name = some name
  not_hidden : ∀ q ∈ declared, q.isResultSet = true → ∀ m, q.name = some m →
    d.normalize m ≠ d.normalize name
  first : ∀ j < i, ∀ q, declared[j]? = some q → ∀ m, q.name = some m →
    d.normalize m ≠ d.normalize name

/-- The declared result sets with their positions. -/
def declaredResultSets (declared : List Parameter) : List Entry :=
  (declared.zipIdx.filter (·.1.isResultSet)).map fun x => .declared x.2 x.1

/-- Whether a parameter is ordinary and has the normalized name. -/
def Parameter.answers (p : Parameter) (d : Dialect) (key : String) : Bool :=
  !p.isResultSet && p.name.any (d.normalize · = key)

/-- The first ordinary parameter declared under a normalized name. -/
def firstDeclared? (d : Dialect) (declared : List Parameter) (key : String) : Option Entry :=
  (declared.zipIdx.find? fun x => x.1.answers d key).map fun x => .declared x.2 x.1

variable {d : Dialect} {declared : List Parameter}

theorem Parameter.answers_iff {key : String} {p : Parameter} :
    p.answers d key = true ↔
      p.isResultSet = false ∧ ∃ n, p.name = some n ∧ d.normalize n = key := by
  simp [answers, Option.any_eq_true]

theorem mem_resultSetKeys {key : String} :
    key ∈ resultSetKeys d declared ↔
      ∃ q ∈ declared, q.isResultSet = true ∧ ∃ m, q.name = some m ∧ d.normalize m = key := by
  simp only [resultSetKeys, List.mem_filterMap, List.mem_filter, Option.map_eq_some_iff, and_assoc]

/-! ### One verdict -/

section Verdict

variable {hidden seen : List String} {i : ℕ} {p : Parameter}

/-- A declaration is kept exactly if it is named, no result set, and its normalized name is new. -/
theorem kept?_admissionOf {k : Kept} :
    (admissionOf d hidden seen i p).kept? = some k ↔
      k.position = i ∧ k.parameter = p ∧ p.isResultSet = false ∧ p.name = some k.name ∧
        k.key = d.normalize k.name ∧ k.key ∉ hidden ∧ k.key ∉ seen := by
  obtain ⟨position, name, key, parameter⟩ := k
  unfold admissionOf
  cases hr : p.isResultSet with
  | true => simp [Admission.kept?]
  | false =>
    cases hn : p.name with
    | none => simp [Admission.kept?]
    | some n =>
      by_cases hh : d.normalize n ∈ hidden
      · simp only [Admission.kept?, hh, if_true]
        constructor
        · intro h; cases h
        · rintro ⟨-, -, -, hname, hkey, hnot, -⟩
          cases hname
          exact absurd (hkey ▸ hh) hnot
      by_cases hs : d.normalize n ∈ seen
      · simp only [Admission.kept?, hh, hs, if_true, if_false]
        constructor
        · intro h; cases h
        · rintro ⟨-, -, -, hname, hkey, -, hnot⟩
          cases hname
          exact absurd (hkey ▸ hs) hnot
      · simp only [Admission.kept?, hh, hs, if_false, Bool.false_eq_true, Option.some.injEq,
          Kept.mk.injEq]
        constructor
        · rintro ⟨rfl, rfl, rfl, rfl⟩
          exact ⟨rfl, rfl, trivial, rfl, rfl, hh, hs⟩
        · rintro ⟨hi, hp, -, hname, hkey, -, -⟩
          cases hname
          exact ⟨hi.symm, rfl, hkey.symm, hp.symm⟩

theorem normalize_mem_of_admissionOf {m : String} (hr : p.isResultSet = false)
    (hm : p.name = some m) :
    d.normalize m ∈ hidden ∨
      d.normalize m ∈ (admissionOf d hidden seen i p).kept?.toList.map (·.key) ++ seen := by
  by_cases hh : d.normalize m ∈ hidden
  · exact Or.inl hh
  by_cases hs : d.normalize m ∈ seen
  · exact Or.inr (List.mem_append_right _ hs)
  · right
    have hk : (admissionOf d hidden seen i p).kept? = some ⟨i, m, d.normalize m, p⟩ :=
      kept?_admissionOf.2 ⟨rfl, rfl, hr, hm, rfl, hh, hs⟩
    rw [hk]
    simp

theorem resultSet?_admissionOf :
    (admissionOf d hidden seen i p).resultSet? =
      if p.isResultSet then some (.declared i p) else none := by
  unfold admissionOf
  cases hr : p.isResultSet with
  | true => rfl
  | false =>
    cases hn : p.name with
    | none => rfl
    | some n =>
      by_cases hh : d.normalize n ∈ hidden
      · simp [hh, Admission.resultSet?]
      · by_cases hs : d.normalize n ∈ seen <;> simp [hh, hs, Admission.resultSet?]

end Verdict

/-! ### The scan -/

/-- The declarations that a scan keeps. -/
def keptFrom (d : Dialect) (hidden seen : List String) (i : ℕ) (ps : List Parameter) : List Kept :=
  (admissionsFrom d hidden seen i ps).filterMap (·.kept?)

theorem keptFrom_cons (hidden seen : List String) (i : ℕ) (p : Parameter) (ps : List Parameter) :
    keptFrom d hidden seen i (p :: ps) =
      (admissionOf d hidden seen i p).kept?.toList ++
        keptFrom d hidden ((admissionOf d hidden seen i p).kept?.toList.map (·.key) ++ seen)
          (i + 1) ps := by
  simp only [keptFrom, admissionsFrom, List.filterMap_cons]
  cases (admissionOf d hidden seen i p).kept? <;> rfl

/-- What a scan keeps is new, and later than where the scan begins. -/
theorem of_mem_keptFrom {hidden seen : List String} {i : ℕ} {ps : List Parameter} {k : Kept}
    (h : k ∈ keptFrom d hidden seen i ps) : k.key ∉ hidden ∧ k.key ∉ seen ∧ i ≤ k.position := by
  induction ps generalizing seen i with
  | nil => simp [keptFrom, admissionsFrom] at h
  | cons p ps ih =>
    rw [keptFrom_cons, List.mem_append, Option.mem_toList] at h
    rcases h with h | h
    · obtain ⟨hi, -, -, -, -, hh, hs⟩ := kept?_admissionOf.1 h
      exact ⟨hh, hs, by omega⟩
    · obtain ⟨hh, hs, hi⟩ := ih h
      exact ⟨hh, fun hmem => hs (List.mem_append_right _ hmem), by omega⟩

/-- What a scan keeps stands in declaration order, each normalized name once. -/
theorem keptFrom_pairwise (hidden seen : List String) (i : ℕ) (ps : List Parameter) :
    (keptFrom d hidden seen i ps).Pairwise fun a b => a.position < b.position ∧ a.key ≠ b.key := by
  induction ps generalizing seen i with
  | nil => exact List.Pairwise.nil
  | cons p ps ih =>
    rw [keptFrom_cons]
    cases hk : (admissionOf d hidden seen i p).kept? with
    | none => exact ih _ _
    | some k =>
      simp only [Option.toList_some, List.singleton_append, List.map_cons, List.map_nil]
      refine List.pairwise_cons.2 ⟨fun b hb => ?_, ih _ _⟩
      obtain ⟨-, hs, hi⟩ := of_mem_keptFrom hb
      have hpos : k.position = i := (kept?_admissionOf.1 hk).1
      exact ⟨by omega, fun he => hs (he ▸ List.mem_cons_self)⟩

/-- The declarations that a scan keeps, each known by its place in the scanned list. -/
theorem mem_keptFrom_iff {hidden seen : List String} {i : ℕ} {ps : List Parameter} {k : Kept}
    (hidden_spec : ∀ q ∈ ps, q.isResultSet = true → ∀ m, q.name = some m → d.normalize m ∈ hidden) :
    k ∈ keptFrom d hidden seen i ps ↔
      ∃ j, k.position = i + j ∧ ps[j]? = some k.parameter ∧ k.parameter.isResultSet = false ∧
        k.parameter.name = some k.name ∧ k.key = d.normalize k.name ∧ k.key ∉ hidden ∧
        k.key ∉ seen ∧
        ∀ j' < j, ∀ q, ps[j']? = some q → ∀ m, q.name = some m → d.normalize m ≠ k.key := by
  induction ps generalizing seen i with
  | nil => simp [keptFrom, admissionsFrom]
  | cons p ps ih =>
    have ih := @ih ((admissionOf d hidden seen i p).kept?.toList.map (·.key) ++ seen) (i + 1)
      fun q hq => hidden_spec q (List.mem_cons_of_mem _ hq)
    rw [keptFrom_cons, List.mem_append, Option.mem_toList, kept?_admissionOf, ih]
    constructor
    · rintro (⟨hpos, rfl, hr, hn, hkey, hh, hs⟩ | ⟨j, hpos, hj, hr, hn, hkey, hh, hs, hfirst⟩)
      · exact ⟨0, hpos, rfl, hr, hn, hkey, hh, hs, fun j' hj' => absurd hj' (Nat.not_lt_zero j')⟩
      · refine ⟨j + 1, by omega, hj, hr, hn, hkey, hh,
          fun hmem => hs (List.mem_append_right _ hmem), ?_⟩
        intro j' hj' q hq m hm he
        cases j' with
        | zero =>
          obtain rfl : p = q := by simpa using hq
          -- the first parameter of the list would have kept, seen or hidden the name
          cases hres : p.isResultSet with
          | true => exact hh (he ▸ hidden_spec p List.mem_cons_self hres m hm)
          | false =>
            have hcase : d.normalize m ∈ hidden ∨
                d.normalize m ∈ (admissionOf d hidden seen i p).kept?.toList.map (·.key) ++ seen :=
              normalize_mem_of_admissionOf hres hm
            rcases hcase with hmem | hmem
            · exact hh (he ▸ hmem)
            · exact hs (he ▸ hmem)
        | succ j' => exact hfirst j' (by omega) q hq m hm he
    · rintro ⟨j, hpos, hj, hr, hn, hkey, hh, hs, hfirst⟩
      cases j with
      | zero =>
        obtain rfl : p = k.parameter := by simpa using hj
        exact Or.inl ⟨hpos, rfl, hr, hn, hkey, hh, hs⟩
      | succ j =>
        refine Or.inr ⟨j, by omega, hj, hr, hn, hkey, hh, ?_,
          fun j' hj' q hq => hfirst (j' + 1) (by omega) q hq⟩
        intro hmem
        rcases List.mem_append.1 hmem with hmem | hmem
        · obtain ⟨k', hk', he⟩ := List.mem_map.1 hmem
          obtain ⟨-, hp, -, hn', hkey', -, -⟩ := kept?_admissionOf.1 (Option.mem_toList.1 hk')
          exact hfirst 0 (Nat.zero_lt_succ j) p rfl k'.name hn' (hkey' ▸ he)
        · exact hs hmem

/-- A scan misses no normalized name of an ordinary declaration. -/
theorem mem_of_mem_scan {hidden seen : List String} {i : ℕ} {ps : List Parameter} {q : Parameter}
    {m : String} (hq : q ∈ ps) (hr : q.isResultSet = false) (hm : q.name = some m) :
    d.normalize m ∈ hidden ∨ d.normalize m ∈ seen ∨
      ∃ k ∈ keptFrom d hidden seen i ps, k.key = d.normalize m := by
  induction ps generalizing seen i with
  | nil => cases hq
  | cons p ps ih =>
    have hlater : d.normalize m ∈ hidden ∨
        d.normalize m ∈ (admissionOf d hidden seen i p).kept?.toList.map (·.key) ++ seen ∨
        ∃ k ∈ keptFrom d hidden ((admissionOf d hidden seen i p).kept?.toList.map (·.key) ++ seen)
          (i + 1) ps, k.key = d.normalize m := by
      rcases List.mem_cons.1 hq with rfl | hq
      · exact (normalize_mem_of_admissionOf hr hm).imp_right Or.inl
      · exact ih hq
    rw [keptFrom_cons]
    rcases hlater with hh | hs | ⟨k, hk, he⟩
    · exact Or.inl hh
    · rcases List.mem_append.1 hs with hs | hs
      · obtain ⟨k, hk, he⟩ := List.mem_map.1 hs
        exact Or.inr (Or.inr ⟨k, List.mem_append_left _ hk, he⟩)
      · exact Or.inr (Or.inl hs)
    · exact Or.inr (Or.inr ⟨k, List.mem_append_right _ hk, he⟩)

/-- Under a name that is neither hidden nor seen, a scan keeps the first declaration. -/
theorem find?_keptFrom {hidden seen : List String} {i : ℕ} {ps : List Parameter} {key : String}
    (hh : key ∉ hidden) (hs : key ∉ seen) :
    ((keptFrom d hidden seen i ps).find? (·.key = key)).map (·.entry) =
      ((ps.zipIdx i).find? fun x => x.1.answers d key).map fun x => .declared x.2 x.1 := by
  induction ps generalizing seen i with
  | nil => rfl
  | cons p ps ih =>
    rw [keptFrom_cons, List.find?_append, List.zipIdx_cons, List.find?_cons]
    cases ha : p.answers d key with
    | true =>
      obtain ⟨hr, n, hn, rfl⟩ := Parameter.answers_iff.1 ha
      have hk : (admissionOf d hidden seen i p).kept? = some ⟨i, n, d.normalize n, p⟩ :=
        kept?_admissionOf.2 ⟨rfl, rfl, hr, hn, rfl, hh, hs⟩
      rw [hk]
      simp [Kept.entry]
    | false =>
      have hne : ∀ k ∈ (admissionOf d hidden seen i p).kept?.toList, k.key ≠ key := by
        rintro k hk rfl
        obtain ⟨-, -, hr, hn, hkey, -, -⟩ := kept?_admissionOf.1 (Option.mem_toList.1 hk)
        have htrue : p.answers d k.key = true := Parameter.answers_iff.2 ⟨hr, k.name, hn, hkey.symm⟩
        rw [ha] at htrue
        cases htrue
      have hnone : (admissionOf d hidden seen i p).kept?.toList.find? (·.key = key) = none :=
        List.find?_eq_none.2 fun k hk he => hne k hk (of_decide_eq_true he)
      rw [hnone, Option.none_or]
      refine ih fun hmem => ?_
      rcases List.mem_append.1 hmem with hmem | hmem
      · obtain ⟨k, hk, he⟩ := List.mem_map.1 hmem
        exact hne k hk he
      · exact hs hmem

theorem filterMap_resultSet? (hidden seen : List String) (i : ℕ) (ps : List Parameter) :
    (admissionsFrom d hidden seen i ps).filterMap (·.resultSet?) =
      ((ps.zipIdx i).filter (·.1.isResultSet)).map fun x => .declared x.2 x.1 := by
  induction ps generalizing seen i with
  | nil => rfl
  | cons p ps ih =>
    simp only [admissionsFrom, List.filterMap_cons, resultSet?_admissionOf, ih, List.zipIdx_cons,
      List.filter_cons]
    cases p.isResultSet <;> simp

/-! ### Dialects of the same names -/

theorem admissionsFrom_congr {d' : Dialect} (h : d.normalize = d'.normalize)
    (hidden seen : List String) (i : ℕ) (ps : List Parameter) :
    admissionsFrom d hidden seen i ps = admissionsFrom d' hidden seen i ps := by
  induction ps generalizing seen i with
  | nil => rfl
  | cons p ps ih =>
    have hfirst : admissionOf d hidden seen i p = admissionOf d' hidden seen i p := by
      rw [admissionOf, admissionOf, h]
    rw [admissionsFrom, admissionsFrom, hfirst, ih]

/-- The verdicts on declarations depend on a dialect only through its normalized names. -/
theorem admissions_congr {d' : Dialect} (h : d.normalize = d'.normalize) :
    admissions d declared = admissions d' declared := by
  rw [admissions, admissions, resultSetKeys, resultSetKeys, h]
  exact admissionsFrom_congr h _ _ _ _

/-! ### All declarations -/

theorem mem_keptOf_iff {k : Kept} :
    k ∈ keptOf d declared ↔
      IsKept d declared k.position k.parameter k.name ∧ k.key = d.normalize k.name := by
  have hspec : ∀ q ∈ declared, q.isResultSet = true → ∀ m, q.name = some m →
      d.normalize m ∈ resultSetKeys d declared :=
    fun q hq hr m hm => mem_resultSetKeys.2 ⟨q, hq, hr, m, hm, rfl⟩
  have hmem : k ∈ keptOf d declared ↔ k ∈ keptFrom d (resultSetKeys d declared) [] 0 declared :=
    Iff.rfl
  rw [hmem, mem_keptFrom_iff hspec]
  constructor
  · rintro ⟨j, hpos, hj, hr, hn, hkey, hh, -, hfirst⟩
    obtain rfl : k.position = j := by omega
    refine ⟨⟨hj, hr, hn, fun q hq hres m hm he => ?_, fun j' hj' q hq m hm => ?_⟩, hkey⟩
    · exact hh (hkey ▸ he ▸ hspec q hq hres m hm)
    · exact hkey ▸ hfirst j' hj' q hq m hm
  · rintro ⟨hk, hkey⟩
    refine ⟨k.position, by omega, hk.declared_at, hk.no_resultSet, hk.named, hkey, ?_, by simp, ?_⟩
    · intro hmem
      obtain ⟨q, hq, hres, m, hm, he⟩ := mem_resultSetKeys.1 hmem
      exact hk.not_hidden q hq hres m hm (he.trans hkey)
    · intro j' hj' q hq m hm
      exact hkey ▸ hk.first j' hj' q hq m hm

theorem normalize_of_mem_keptOf {k : Kept} {n : String} (hk : k ∈ keptOf d declared)
    (hn : k.entry.name = some n) : d.normalize n = k.key := by
  obtain ⟨hkept, hkey⟩ := mem_keptOf_iff.1 hk
  obtain rfl : k.name = n := Option.some.inj (hkept.named.symm.trans hn)
  exact hkey.symm

theorem not_mem_resultSetKeys_of_mem_keptOf {k : Kept} (hk : k ∈ keptOf d declared) :
    k.key ∉ resultSetKeys d declared := by
  obtain ⟨hkept, hkey⟩ := mem_keptOf_iff.1 hk
  intro hmem
  obtain ⟨q, hq, hres, m, hm, hsame⟩ := mem_resultSetKeys.1 hmem
  exact hkept.not_hidden q hq hres m hm (hsame.trans hkey)

theorem keptOf_pairwise (d : Dialect) (declared : List Parameter) :
    (keptOf d declared).Pairwise fun a b => a.position < b.position ∧ a.key ≠ b.key :=
  keptFrom_pairwise _ _ _ _

theorem eq_of_key_eq {a b : Kept} (ha : a ∈ keptOf d declared) (hb : b ∈ keptOf d declared)
    (h : a.key = b.key) : a = b := by
  have hnodup : ((keptOf d declared).map (·.key)).Nodup :=
    List.pairwise_map.2 ((keptOf_pairwise d declared).imp And.right)
  exact List.inj_on_of_nodup_map hnodup ha hb h

theorem find?_key_of_mem_keptOf {k : Kept} (h : k ∈ keptOf d declared) :
    (keptOf d declared).find? (·.key = k.key) = some k := by
  have hsome : ((keptOf d declared).find? (·.key = k.key)).isSome = true :=
    List.find?_isSome.2 ⟨k, h, decide_eq_true rfl⟩
  obtain ⟨k', hk'⟩ := Option.isSome_iff_exists.1 hsome
  have hkey : k'.key = k.key := by simpa using List.find?_some hk'
  rw [hk', eq_of_key_eq (List.mem_of_find?_eq_some hk') h hkey]

theorem eq_of_position_eq {a b : Kept} (ha : a ∈ keptOf d declared) (hb : b ∈ keptOf d declared)
    (h : a.position = b.position) : a = b := by
  have hnodup : ((keptOf d declared).map (·.position)).Nodup :=
    List.pairwise_map.2 ((keptOf_pairwise d declared).imp fun hab => Nat.ne_of_lt hab.1)
  exact List.inj_on_of_nodup_map hnodup ha hb h

theorem key_mem_of_declared {q : Parameter} {m : String} (hq : q ∈ declared)
    (hm : q.name = some m) :
    d.normalize m ∈ resultSetKeys d declared ∨ ∃ k ∈ keptOf d declared, k.key = d.normalize m := by
  cases hr : q.isResultSet with
  | true => exact Or.inl (mem_resultSetKeys.2 ⟨q, hq, hr, m, hm, rfl⟩)
  | false =>
    rcases mem_of_mem_scan hq hr hm with hh | hs | hk
    · exact Or.inl hh
    · exact absurd hs List.not_mem_nil
    · exact Or.inr hk

/-- What takes part under a normalized name that no result set has is the first declared under
it. -/
theorem find?_keptOf {key : String} (h : key ∉ resultSetKeys d declared) :
    ((keptOf d declared).find? (·.key = key)).map (·.entry) = firstDeclared? d declared key :=
  find?_keptFrom h List.not_mem_nil

theorem resultSetsOf_eq (d : Dialect) (declared : List Parameter) :
    resultSetsOf d declared = declaredResultSets declared :=
  filterMap_resultSet? _ _ _ _

theorem mem_declaredResultSets {e : Entry} :
    e ∈ declaredResultSets declared ↔
      ∃ i p, declared[i]? = some p ∧ p.isResultSet = true ∧ e = .declared i p := by
  simp only [declaredResultSets, List.mem_map, List.mem_filter, Prod.exists,
    List.mem_zipIdx_iff_getElem?]
  constructor
  · rintro ⟨p, i, ⟨hp, hr⟩, rfl⟩
    exact ⟨i, p, hp, hr, rfl⟩
  · rintro ⟨i, p, hp, hr, rfl⟩
    exact ⟨p, i, ⟨hp, hr⟩, rfl⟩

theorem normalize_mem_of_mem_declaredResultSets {e : Entry} {n : String}
    (he : e ∈ declaredResultSets declared) (hn : e.name = some n) :
    d.normalize n ∈ resultSetKeys d declared := by
  obtain ⟨i, p, hp, hr, rfl⟩ := mem_declaredResultSets.1 he
  exact mem_resultSetKeys.2 ⟨p, List.mem_of_getElem? hp, hr, n, hn, rfl⟩

theorem filterMap_position?_declaredResultSets (declared : List Parameter) :
    (declaredResultSets declared).filterMap (·.position?) =
      (declared.zipIdx.filter (·.1.isResultSet)).map (·.2) := by
  rw [declaredResultSets, List.filterMap_map, ← List.filterMap_eq_map]
  rfl

theorem nodup_positions_declaredResultSets (declared : List Parameter) :
    ((declaredResultSets declared).filterMap (·.position?)).Nodup := by
  rw [filterMap_position?_declaredResultSets]
  have hsub := List.filter_sublist (p := fun x => x.1.isResultSet) (l := declared.zipIdx)
  refine (hsub.map (·.2)).nodup ?_
  rw [List.zipIdx_map_snd]
  exact List.nodup_range'

theorem isResultSet_of_mem_positions {i : ℕ}
    (h : i ∈ (declaredResultSets declared).filterMap (·.position?)) :
    ∃ p, declared[i]? = some p ∧ p.isResultSet = true := by
  rw [filterMap_position?_declaredResultSets] at h
  obtain ⟨x, hx, rfl⟩ := List.mem_map.1 h
  obtain ⟨hmem, hr⟩ := List.mem_filter.1 hx
  exact ⟨x.1, List.mem_zipIdx_iff_getElem?.1 hmem, hr⟩

end StoredCall
