import StoredCall.Proofs.CompleteDeclarations
import StoredCall.Proofs.UniqueNames

/-!
# Calls without columns

The parameters of a call whose columns are not used, said without the scan over the declarations.

* `CallContext.keptDeclarations`: of the named ordinary declarations the first of each normalized
  name that no result set has;
* `map_keptFrom`: the scan keeps these;
* `findIdx?_eq_some_iff_of_unique`: the position of what is unique in a list;
* `reconcile_of_declarations`: the parameter list, which does not depend on columns.
-/

namespace StoredCall

/-- An ordinary declaration that has a name, with it. -/
def namedDeclaration? (x : Parameter × ℕ) : Option (String × Entry) :=
  if x.1.isResultSet then none else x.1.name.map fun n => (n, .declared x.2 x.1)

/-- The first declaration of each normalized name. -/
def firstDeclarations (d : Dialect) (named : List (String × Entry)) : List (String × Entry) :=
  named.eraseDupsBy fun x y => d.normalize x.1 = d.normalize y.1

/-- The first ordinary declaration of each normalized name that no result set has. -/
def CallContext.keptDeclarations (c : CallContext) (declared : List Parameter) :
    List (String × Entry) :=
  firstDeclarations c.dialect ((declared.zipIdx.filterMap namedDeclaration?).filter fun x =>
    c.dialect.normalize x.1 ∉ resultSetKeys c.dialect declared)

/-! ### The scan -/

section Scan

variable {d : Dialect} {i : ℕ} {p : Parameter} {ps : List Parameter} {hidden seen : List String}

/-- Whether a name is neither hidden nor seen. -/
def isNew (d : Dialect) (hidden seen : List String) (x : String × Entry) : Bool :=
  d.normalize x.1 ∉ hidden && d.normalize x.1 ∉ seen

theorem isNew_cons (key : String) (x : String × Entry) :
    isNew d hidden (key :: seen) x =
      (decide (decide (d.normalize x.1 = key) = false) && isNew d hidden seen x) := by
  simp [isNew, Bool.and_left_comm]

theorem kept?_admissionOf_eq :
    (admissionOf d hidden seen i p).kept? =
      ((namedDeclaration? (p, i)).filter (isNew d hidden seen)).map fun x =>
        ⟨i, x.1, d.normalize x.1, p⟩ := by
  unfold admissionOf namedDeclaration?
  cases p.isResultSet with
  | true => rfl
  | false =>
    cases p.name with
    | none => rfl
    | some n =>
      by_cases hh : d.normalize n ∈ hidden
      · simp [hh, isNew, Option.filter, Admission.kept?]
      · by_cases hs : d.normalize n ∈ seen <;>
          simp [hh, hs, isNew, Option.filter, Admission.kept?]

theorem entry_of_namedDeclaration? {x : String × Entry} (h : namedDeclaration? (p, i) = some x) :
    x.2 = .declared i p := by
  unfold namedDeclaration? at h
  split at h
  · cases h
  · obtain ⟨n, -, rfl⟩ := Option.map_eq_some_iff.1 h
    rfl

theorem map_keptFrom :
    (keptFrom d hidden seen i ps).map (fun k => (k.name, k.entry)) =
      firstDeclarations d
        (((ps.zipIdx i).filterMap namedDeclaration?).filter (isNew d hidden seen)) := by
  induction ps generalizing seen i with
  | nil => rfl
  | cons p ps ih =>
    rw [keptFrom_cons, List.zipIdx_cons, kept?_admissionOf_eq]
    cases hx : namedDeclaration? (p, i) with
    | none =>
      rw [List.filterMap_cons_none hx]
      exact ih
    | some x =>
      rw [List.filterMap_cons_some hx]
      cases hnew : isNew d hidden seen x with
      | true =>
        -- what has another name than the first is what is new once its name is seen
        have hrest : isNew d hidden (d.normalize x.1 :: seen) = fun y =>
            decide (decide (d.normalize y.1 = d.normalize x.1) = false) && isNew d hidden seen y :=
          funext fun y => isNew_cons _ y
        have hfirst : (x.1, Entry.declared i p) = x := by rw [← entry_of_namedDeclaration? hx]
        rw [List.filter_cons_of_pos hnew, firstDeclarations, List.eraseDupsBy_cons,
          List.filter_filter, ← hrest, Option.filter_some_pos hnew]
        exact congrArg₂ List.cons hfirst ih
      | false =>
        rw [List.filter_cons_of_neg (Bool.eq_false_iff.1 hnew),
          Option.filter_some_neg hnew]
        exact ih

end Scan

/-! ### Positions -/

/-- The first position at which a predicate holds is the only one, if no two elements have it. -/
theorem findIdx?_eq_some_iff_of_unique {α : Type} {q : α → Bool} {l : List α} {i : ℕ}
    (h : l.Pairwise fun a b => q a = true → q b = false) :
    l.findIdx? q = some i ↔ ∃ x, l[i]? = some x ∧ q x = true := by
  rw [List.findIdx?_eq_some_iff_getElem]
  constructor
  · rintro ⟨hi, hq, -⟩
    exact ⟨l[i], List.getElem?_eq_getElem hi, hq⟩
  · rintro ⟨x, hx, hq⟩
    obtain ⟨hi, rfl⟩ := List.getElem?_eq_some_iff.1 hx
    refine ⟨hi, hq, fun j hj hjq => ?_⟩
    have hpair := List.pairwise_iff_getElem.1 h j i (by omega) hi hj hjq
    rw [hq] at hpair
    cases hpair

section

variable {c : CallContext} {declared : List Parameter} {columns : List Column}

theorem map_keptOf :
    (keptOf c.dialect declared).map (fun k => (k.name, k.entry)) = c.keptDeclarations declared := by
  have hscan := @map_keptFrom c.dialect 0 declared (resultSetKeys c.dialect declared) []
  have hnew : isNew c.dialect (resultSetKeys c.dialect declared) [] = fun x =>
      decide (c.dialect.normalize x.1 ∉ resultSetKeys c.dialect declared) := by
    funext x
    simp [isNew]
  rw [hnew] at hscan
  exact hscan

theorem declaredEntries_eq :
    c.declaredEntries declared =
      declaredResultSets declared ++ (c.keptDeclarations declared).map (·.2) := by
  rw [CallContext.declaredEntries, resultSetsOf_eq, ← map_keptOf, List.map_map]
  rfl

theorem declaredOutputs_eq :
    c.declaredOutputs declared =
      ((c.keptDeclarations declared).filter (·.2.parameter.isOutput)).map (·.1) := by
  rw [CallContext.declaredOutputs, ← map_keptOf, List.filter_map, List.map_map]
  rfl

theorem declaredReturnName_of_unused (hunused : c.columnsUsed = false) :
    c.declaredReturnName declared columns =
      (if c.config.isFunction then (c.declaredOutputs declared).head? else none).getD
        c.config.returnName := by
  have htaker : c.returnTaker? declared columns =
      if c.config.isFunction then (keptOf c.dialect declared).find? (·.isOutput) else none := by
    simp [CallContext.returnTaker?, StoredCall.returnTaker?, hunused]
  rw [CallContext.declaredReturnName, htaker, CallContext.declaredOutputs, List.head?_map,
    List.head?_filter]
  cases c.config.isFunction with
  | false => rfl
  | true => cases (keptOf c.dialect declared).find? (·.isOutput) <;> rfl

theorem answersTo_iff {key : String} {e : Entry} :
    c.answersTo key e = true ↔
      e.isResultSet = false ∧ ∃ n, e.name = some n ∧ c.dialect.normalize n = key := by
  simp [CallContext.answersTo, Option.any_eq_true]

theorem answersTo_of_apart {key : String} {a b : Entry} (h : a.Apart c.dialect b)
    (ha : c.answersTo key a = true) : c.answersTo key b = false := by
  obtain ⟨hres, n, hn, hkey⟩ := answersTo_iff.1 ha
  by_contra hb
  obtain ⟨-, m, hm, hkey'⟩ := answersTo_iff.1 (Bool.eq_true_of_not_eq_false hb)
  rcases h with ⟨hset, -⟩ | hne
  · rw [hres] at hset
    cases hset
  · exact hne n hn m hm (hkey.trans hkey'.symm)

/-- The entry that answers to a name is a declaration of that name, after the result sets. -/
theorem exists_answers_iff {key : String} {i : ℕ} :
    (∃ e, (c.declaredEntries declared)[i]? = some e ∧ c.answersTo key e = true) ↔
      ∃ j x, (c.keptDeclarations declared)[j]? = some x ∧ c.dialect.normalize x.1 = key ∧
        i = (declaredResultSets declared).length + j := by
  have hkept : ∀ x ∈ c.keptDeclarations declared,
      x.2.isResultSet = false ∧ x.2.name = some x.1 := by
    intro x hx
    rw [← map_keptOf] at hx
    obtain ⟨k, hk, rfl⟩ := List.mem_map.1 hx
    exact ⟨(mem_keptOf_iff.1 hk).1.no_resultSet, (mem_keptOf_iff.1 hk).1.named⟩
  rw [declaredEntries_eq]
  constructor
  · rintro ⟨e, he, hanswers⟩
    obtain ⟨hres, n, hn, hkey⟩ := answersTo_iff.1 hanswers
    by_cases hi : i < (declaredResultSets declared).length
    · rw [List.getElem?_append_left hi] at he
      obtain ⟨_, p, -, hset, rfl⟩ := mem_declaredResultSets.1 (List.mem_of_getElem? he)
      exact absurd hset (Bool.eq_false_iff.1 hres)
    · rw [List.getElem?_append_right (by omega), List.getElem?_map] at he
      obtain ⟨x, hx, rfl⟩ := Option.map_eq_some_iff.1 he
      have hname : x.1 = n :=
        Option.some.inj ((hkept x (List.mem_of_getElem? hx)).2.symm.trans hn)
      exact ⟨_, x, hx, hname ▸ hkey, by omega⟩
  · rintro ⟨j, x, hx, hkey, rfl⟩
    obtain ⟨hres, hname⟩ := hkept x (List.mem_of_getElem? hx)
    refine ⟨x.2, ?_, answersTo_iff.2 ⟨hres, x.1, hname, hkey⟩⟩
    rw [List.getElem?_append_right (by omega), Nat.add_sub_cancel_left, List.getElem?_map, hx]
    rfl

/-- Without columns the parameters of a call are the declared result sets and then the first
ordinary declaration of each name that no result set has. The outputs among these are reported, the
first one names the result of a function, and the return value goes to the declaration of the
return name. -/
theorem reconcile_of_declarations (hunused : c.columnsUsed = false) (declared : List Parameter) :
    ∃ l, (∀ columns, (c.reconcile declared columns).outcome = .ok l) ∧
      l.entries = declaredResultSets declared ++ (c.keptDeclarations declared).map (·.2) ∧
      l.outputNames =
        ((c.keptDeclarations declared).filter (·.2.parameter.isOutput)).map (·.1) ∧
      l.returnName =
        (if c.config.isFunction then l.outputNames.head? else none).getD c.config.returnName ∧
      ∀ i, l.returnIndex = some i ↔
        (c.config.isFunction = true ∨ c.config.returnRequired = true) ∧
          ∃ j x, (c.keptDeclarations declared)[j]? = some x ∧
            c.dialect.normalize x.1 = c.dialect.normalize l.returnName ∧
            i = (declaredResultSets declared).length + j := by
  have hsame : ∀ columns, c.declaredList declared columns = c.declaredList declared [] := by
    intro columns
    have hname : c.declaredReturnName declared columns = c.declaredReturnName declared [] :=
      (declaredReturnName_of_unused hunused).trans (declaredReturnName_of_unused hunused).symm
    rw [CallContext.declaredList, CallContext.declaredList, hname]
  refine ⟨c.declaredList declared [], fun columns => ?_, declaredEntries_eq, declaredOutputs_eq,
    declaredReturnName_of_unused hunused, fun i => ?_⟩
  · rw [CallContext.reconcile_of_unused hunused, hsame]
  · set key := c.dialect.normalize (c.declaredReturnName declared [])
    have hindex : (c.declaredList declared []).returnIndex =
        if c.config.isFunction || c.config.returnRequired then
          (c.declaredEntries declared).findIdx? (c.answersTo key) else none := rfl
    have hunique : (c.declaredEntries declared).Pairwise fun a b =>
        c.answersTo key a = true → c.answersTo key b = false :=
      pairwise_apart_declaredEntries.imp answersTo_of_apart
    rw [hindex, ← Bool.or_eq_true]
    cases c.config.isFunction || c.config.returnRequired with
    | false => simp
    | true =>
      rw [if_pos rfl, findIdx?_eq_some_iff_of_unique hunique, exists_answers_iff]
      exact (and_iff_right rfl).symm

/-- A function with declarations that repeat one another, the name of a result set that comes later,
and an unnamed one. -/
theorem reconcile_of_declarations_total :
    let c := CallContext.start { CallConfig.function "total" with useColumns := false }
      (.sqlServer Fixtures.sqlServer)
    let declared := [Parameter.input "id" .integer, .output "Rows" .integer,
      .output "sum" .numeric, .input "@ID" .integer,
      { Parameter.input "" .integer with name := none },
      { Parameter.unnamedResultSet with name := some "rows" }]
    c.columnsUsed = false ∧
      ∃ l, (∀ columns, (c.reconcile declared columns).outcome = .ok l) ∧
        l.entries = declaredResultSets declared ++ (c.keptDeclarations declared).map (·.2) ∧
        l.outputNames =
          ((c.keptDeclarations declared).filter (·.2.parameter.isOutput)).map (·.1) ∧
        l.returnName =
          (if c.config.isFunction then l.outputNames.head? else none).getD c.config.returnName ∧
        (∀ i, l.returnIndex = some i ↔
          (c.config.isFunction = true ∨ c.config.returnRequired = true) ∧
            ∃ j x, (c.keptDeclarations declared)[j]? = some x ∧
              c.dialect.normalize x.1 = c.dialect.normalize l.returnName ∧
              i = (declaredResultSets declared).length + j) ∧
        l.entries.map (·.name) = [some "rows", some "id", some "sum"] := by
  intro c declared
  obtain ⟨l, hl, hentries, houtputs, hname, hindex⟩ :=
    @reconcile_of_declarations c rfl declared
  refine ⟨rfl, l, hl, hentries, houtputs, hname, hindex, ?_⟩
  rw [hentries]
  decide +kernel

end

end StoredCall
