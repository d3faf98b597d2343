import StoredCall.Fixtures
import StoredCall.Proofs.ColumnRun

/-!
# Columns that are no return values

The entries that ordinary columns bring in, said without the run that places them.

* `CallContext.eligible`: which columns may stand for their names;
* `CallContext.standing`: the first eligible column of each normalized name, in ordinal order;
* `Plan.Run.of_not_returned`: what a run over ordinary columns adds to any draft;
* `reconcile_of_not_returned`: the parameters of a call without return columns.
-/

namespace StoredCall

/-- The parameter made for a column. -/
def Dialect.defaultFor (d : Dialect) (name : String) (column : Column) : Parameter :=
  match column.kind with
  | .output | .returned => d.defaultOutput name column
  | .inOut => defaultInOut name column
  | .input | .unknown | .result => defaultInput name column

/-- The columns that have a name, each with it. -/
def namedColumns (columns : List Column) : List (String × Column) :=
  columns.filterMap fun column => column.name.map (·, column)

/-- The first column of each normalized name. -/
def firstOfEachName (d : Dialect) (named : List (String × Column)) : List (String × Column) :=
  named.eraseDupsBy fun x y => d.normalize x.1 = d.normalize y.1

theorem firstOfEachName_subset (d : Dialect) (named : List (String × Column)) :
    firstOfEachName d named ⊆ named := by
  induction hn : named.length using Nat.strongRecOn generalizing named with
  | _ n ih =>
    cases named with
    | nil => exact List.Subset.refl _
    | cons x rest =>
      rw [firstOfEachName, List.eraseDupsBy_cons]
      set later := rest.filter fun y => decide (d.normalize y.1 = d.normalize x.1) = false
      have hlength : later.length < n := by
        have hle : later.length ≤ rest.length := List.length_filter_le _ _
        rw [List.length_cons] at hn
        omega
      have hlater : firstOfEachName d later ⊆ later := ih _ hlength later rfl
      intro y hy
      rcases List.mem_cons.1 hy with rfl | hy
      · exact List.mem_cons_self
      · exact List.mem_cons_of_mem _ (List.mem_of_mem_filter (hlater hy))

namespace CallContext

variable (c : CallContext) (declared : List Parameter)

/-- Whether a column may stand for its name: an ordinary parameter is declared under it, or the
column is an output, or the inputs to make are not limited, or they have the name. -/
def eligible (x : String × Column) : Bool :=
  (firstDeclared? c.dialect declared (c.dialect.normalize x.1)).isSome || x.2.kind.isOutput ||
    c.config.inputNames.isEmpty ||
      c.dialect.normalize x.1 ∈ c.config.inputNames.map c.dialect.normalize

/-- The columns that stand for an entry: in ordinal order the first eligible one of each normalized
name that no result set has. -/
def standing (columns : List Column) : List (String × Column) :=
  firstOfEachName c.dialect ((namedColumns (inOrdinalOrder columns)).filter fun x =>
    c.dialect.normalize x.1 ∉ resultSetKeys c.dialect declared && c.eligible declared x)

/-- The entry that a column stands for: the first parameter declared under its name, or else the one
made for the column. -/
def entryFor (x : String × Column) : Entry :=
  (firstDeclared? c.dialect declared (c.dialect.normalize x.1)).getD
    (.synthesized (c.dialect.defaultFor (c.dialect.parameterName x.1) x.2))

end CallContext

/-! ### The names of ordinary columns -/

section

variable {c : CallContext} {columns read later : List Column}

theorem CallContext.mem_reportedKeys {key : String} :
    key ∈ c.reportedKeys columns ↔ ∃ column ∈ columns, column.kind ≠ .returned ∧
      ∃ n, column.name = some n ∧ c.dialect.normalize n = key := by
  simp [reportedKeys, and_assoc]

theorem reportedKeys_subset (h : read ⊆ columns) :
    c.reportedKeys read ⊆ c.reportedKeys columns := by
  intro key hkey
  obtain ⟨x, hx, hrest⟩ := CallContext.mem_reportedKeys.1 hkey
  exact CallContext.mem_reportedKeys.2 ⟨x, h hx, hrest⟩

theorem reportedKeys_append :
    c.reportedKeys (read ++ later) = c.reportedKeys read ++ c.reportedKeys later := by
  simp [CallContext.reportedKeys]

theorem mem_reportedKeys_inOrdinalOrder {key : String} :
    key ∈ c.reportedKeys (inOrdinalOrder columns) ↔ key ∈ c.reportedKeys columns := by
  have hperm : (inOrdinalOrder columns).Perm columns := List.mergeSort_perm _ _
  exact ⟨fun h => reportedKeys_subset hperm.subset h,
    fun h => reportedKeys_subset hperm.symm.subset h⟩

end

/-! ### One step -/

namespace Plan

variable {plan : Plan} {d last : Draft} {column : Column} {v : Decision}

/-- Whether a named column gets an entry if its name is free. -/
def takes (plan : Plan) (x : String × Column) : Bool :=
  (plan.kept.find? (·.key = plan.dialect.normalize x.1)).isSome || x.2.kind.isOutput ||
    plan.wants (plan.dialect.normalize x.1)

/-- The entry that a named column gets. -/
def entryOf (plan : Plan) (x : String × Column) : Entry :=
  ((plan.kept.find? (·.key = plan.dialect.normalize x.1)).map (·.entry)).getD
    (.synthesized (plan.dialect.defaultFor (plan.dialect.parameterName x.1) x.2))

/-- Whether a named column gets an entry while names are taken. -/
def placesUnder (plan : Plan) (taken : List String) (x : String × Column) : Bool :=
  plan.dialect.normalize x.1 ∉ taken && plan.takes x

theorem placesUnder_iff {taken : List String} {x : String × Column} :
    plan.placesUnder taken x = true ↔
      plan.dialect.normalize x.1 ∉ taken ∧ plan.takes x = true := by
  simp [placesUnder]

theorem placesUnder_cons (key : String) (taken : List String) (x : String × Column) :
    plan.placesUnder (key :: taken) x =
      (decide (decide (plan.dialect.normalize x.1 = key) = false) && plan.placesUnder taken x) := by
  simp [placesUnder, Bool.and_assoc]

theorem find?_of_free?_eq_some {key : String} {k : Kept} (h : plan.free? d key = some k) :
    key ∉ d.taken ∧ plan.kept.find? (·.key = key) = some k := by
  have hfree : key ∉ d.taken := (free?_eq_some h).2.2
  rw [free?, if_neg hfree] at h
  exact ⟨hfree, h⟩

theorem find?_of_free?_eq_none {key : String} (h : plan.free? d key = none)
    (hfree : key ∉ d.taken) : plan.kept.find? (·.key = key) = none := by
  rwa [free?, if_neg hfree] at h

section Entry

variable {x : String × Column} {k : Kept}

theorem takes_of_find? (h : plan.kept.find? (·.key = plan.dialect.normalize x.1) = some k) :
    plan.takes x = true := by
  simp [takes, h]

theorem entryOf_of_find? (h : plan.kept.find? (·.key = plan.dialect.normalize x.1) = some k) :
    plan.entryOf x = k.entry := by
  simp [entryOf, h]

theorem entryOf_of_find?_eq_none
    (h : plan.kept.find? (·.key = plan.dialect.normalize x.1) = none) :
    plan.entryOf x =
      .synthesized (plan.dialect.defaultFor (plan.dialect.parameterName x.1) x.2) := by
  simp [entryOf, h]

end Entry

/-- The placement that is made for a column: an entry under its name if the name is free and the
column gets one, and else none. -/
def placementFor? (plan : Plan) (taken : List String) (column : Column) :
    Option (String × Entry) :=
  column.name.bind fun n =>
    if plan.placesUnder taken (n, column) then
      some (plan.dialect.normalize n, plan.entryOf (n, column))
    else none

section Placement

variable {taken : List String} {m : String}

theorem placementFor?_unnamed (hm : column.name = none) :
    plan.placementFor? taken column = none := by
  simp [placementFor?, hm]

theorem placementFor?_placed (hm : column.name = some m)
    (hplaced : plan.placesUnder taken (m, column) = true) :
    plan.placementFor? taken column =
      some (plan.dialect.normalize m, plan.entryOf (m, column)) := by
  simp [placementFor?, hm, hplaced]

theorem placementFor?_left_out (hm : column.name = some m)
    (hplaced : plan.placesUnder taken (m, column) = false) :
    plan.placementFor? taken column = none := by
  simp [placementFor?, hm, hplaced]

end Placement

theorem placementFor?_of_reuse {n : String} {k : Kept} (named : plan.nameOf column = some n)
    (found : plan.free? d (Text.lower n) = some k) :
    plan.placementFor? d.taken column = some (k.key, k.entry) := by
  obtain ⟨m, hm, rfl⟩ := nameOf_eq_some named
  have hfree : plan.dialect.normalize m ∉ d.taken := (find?_of_free?_eq_some found).1
  have hfind : plan.kept.find? (·.key = plan.dialect.normalize m) = some k :=
    (find?_of_free?_eq_some found).2
  have hkey : k.key = plan.dialect.normalize m := (free?_eq_some found).2.1
  have htakes : plan.takes (m, column) = true := takes_of_find? hfind
  have hentry : plan.entryOf (m, column) = k.entry := entryOf_of_find? hfind
  rw [placementFor?_placed hm (placesUnder_iff.2 ⟨hfree, htakes⟩), hentry, hkey]

theorem placementFor?_of_add {n : String} (named : plan.nameOf column = some n)
    (free : Text.lower n ∉ d.taken) (found : plan.free? d (Text.lower n) = none)
    (wanted : column.kind.isOutput = true ∨ plan.wants (Text.lower n) = true) :
    plan.placementFor? d.taken column =
      some (Text.lower n, .synthesized (plan.dialect.defaultFor n column)) := by
  obtain ⟨m, hm, rfl⟩ := nameOf_eq_some named
  have hfind : plan.kept.find? (·.key = plan.dialect.normalize m) = none :=
    find?_of_free?_eq_none found free
  have htakes : plan.takes (m, column) = true := by
    rw [takes, Bool.or_eq_true, Bool.or_eq_true, or_assoc]
    exact Or.inr wanted
  rw [placementFor?_placed hm (placesUnder_iff.2 ⟨free, htakes⟩),
    entryOf_of_find?_eq_none (x := (m, column)) hfind]
  rfl

theorem placementFor?_of_exclude {n : String} (named : plan.nameOf column = some n)
    (free : Text.lower n ∉ d.taken) (found : plan.free? d (Text.lower n) = none)
    (houtput : column.kind.isOutput = false) (unwanted : plan.wants (Text.lower n) = false) :
    plan.placementFor? d.taken column = none := by
  obtain ⟨m, hm, rfl⟩ := nameOf_eq_some named
  have hfind : plan.kept.find? (·.key = plan.dialect.normalize m) = none :=
    find?_of_free?_eq_none found free
  have hwants : plan.wants (plan.dialect.normalize m) = false := unwanted
  have hplaced : plan.placesUnder d.taken (m, column) = false := by
    simp [placesUnder, takes, hfind, houtput, hwants]
  exact placementFor?_left_out hm hplaced

theorem Verdict.placement?_of_not_returned (h : plan.Verdict d column v)
    (hkind : column.kind ≠ .returned) : v.placement? = plan.placementFor? d.taken column := by
  cases h with
  | resolveReturn k kind => exact absurd kind hkind
  | returnMissing kind => exact absurd kind hkind
  | reuseReturn k kind => exact absurd kind hkind
  | bypass kind => exact absurd kind hkind
  | addReturn n kind => exact absurd kind hkind
  | alreadyBound n named taken =>
    obtain ⟨m, hm, rfl⟩ := nameOf_eq_some named
    have hplaced : plan.placesUnder d.taken (m, column) = false :=
      Bool.eq_false_iff.2 fun h => (placesUnder_iff.1 h).1 taken
    exact (placementFor?_left_out hm hplaced).symm
  | skipOutput kind unnamed | skipInput kind unnamed =>
    exact (placementFor?_unnamed (Option.map_eq_none_iff.1 unnamed)).symm
  | reuseOutput n k kind named found | reuseInput n k kind named found =>
    exact (placementFor?_of_reuse named found).symm
  | addOutput n kind named free found =>
    have houtput : column.kind.isOutput = true := by
      rcases kind with hk | hk <;> rw [hk] <;> rfl
    rw [placementFor?_of_add named free found (Or.inl houtput)]
    rcases kind with hk | hk <;> simp [Decision.placement?, Dialect.defaultFor, hk]
  | addInput n kind named free found wanted =>
    rw [placementFor?_of_add named free found (Or.inr wanted)]
    rcases kind with hk | hk | hk <;> simp [Decision.placement?, Dialect.defaultFor, hk]
  | exclude n kind named free found unwanted =>
    have houtput : column.kind.isOutput = false := by
      rcases kind with hk | hk | hk <;> rw [hk] <;> rfl
    exact (placementFor?_of_exclude named free found houtput unwanted).symm

/-! ### Runs -/

theorem Verdict.returnIndex_of_not_returned (h : plan.Verdict d column v)
    (hkind : column.kind ≠ .returned) : (d.apply v).returnIndex = d.returnIndex := by
  cases h with
  | resolveReturn k kind => exact absurd kind hkind
  | reuseReturn k kind => exact absurd kind hkind
  | addReturn n kind => exact absurd kind hkind
  | _ => rfl

/-- The columns that get an entry while names are taken. -/
def standingUnder (plan : Plan) (taken : List String) (columns : List Column) :
    List (String × Column) :=
  firstOfEachName plan.dialect ((namedColumns columns).filter (plan.placesUnder taken))

/-- The first column gets its placement, and the others theirs when its name is taken. -/
theorem standingUnder_cons (plan : Plan) (taken : List String) (column : Column)
    (columns : List Column) :
    (plan.standingUnder taken (column :: columns)).map plan.entryOf =
      (plan.placementFor? taken column).toList.map (·.2) ++
        (plan.standingUnder ((plan.placementFor? taken column).toList.map (·.1) ++ taken)
          columns).map plan.entryOf := by
  cases hn : column.name with
  | none =>
    have hnamed : namedColumns (column :: columns) = namedColumns columns := by
      simp [namedColumns, hn]
    rw [placementFor?_unnamed hn, standingUnder, hnamed]
    rfl
  | some n =>
    have hnamed : namedColumns (column :: columns) = (n, column) :: namedColumns columns := by
      simp [namedColumns, hn]
    cases hplaced : plan.placesUnder taken (n, column) with
    | true =>
      -- what has another name than the column is what is free once its name is taken
      have hrest : plan.placesUnder (plan.dialect.normalize n :: taken) = fun x =>
          decide (decide (plan.dialect.normalize x.1 = plan.dialect.normalize n) = false) &&
            plan.placesUnder taken x := funext fun x => placesUnder_cons _ _ x
      rw [placementFor?_placed hn hplaced, standingUnder, hnamed, List.filter_cons_of_pos hplaced,
        firstOfEachName, List.eraseDupsBy_cons, List.filter_filter, ← hrest]
      rfl
    | false =>
      rw [placementFor?_left_out hn hplaced, standingUnder, hnamed,
        List.filter_cons_of_neg (Bool.eq_false_iff.1 hplaced)]
      rfl

theorem Run.of_not_returned {columns : List Column} (run : plan.Run d columns last)
    (h : ∀ column ∈ columns, column.kind ≠ .returned) :
    last.entries = d.entries ++ (plan.standingUnder d.taken columns).map plan.entryOf ∧
      last.returnIndex = d.returnIndex := by
  induction run with
  | nil d => exact ⟨(List.append_nil _).symm, rfl⟩
  | @cons d last column rest decided later ih =>
    obtain ⟨hkind, hrest⟩ := List.forall_mem_cons.1 h
    obtain ⟨hentries, hindex⟩ := ih hrest
    have hv := plan.verdict d column
    have hplaced := hv.placement?_of_not_returned hkind
    refine ⟨?_, hindex.trans (hv.returnIndex_of_not_returned hkind)⟩
    rw [hentries, Draft.entries_apply, Draft.taken_apply, hplaced, standingUnder_cons,
      List.append_assoc]

end Plan

/-! ### Calls without return columns -/

section

variable {c : CallContext} {declared : List Parameter} {columns : List Column}
  {x : String × Column}

theorem wants_plan (key : String) :
    (c.plan declared).wants key =
      (c.config.inputNames.isEmpty || key ∈ c.config.inputNames.map c.dialect.normalize) := by
  simp [Plan.wants, CallContext.plan]

theorem takes_plan (h : c.dialect.normalize x.1 ∉ resultSetKeys c.dialect declared) :
    (c.plan declared).takes x = c.eligible declared x := by
  have hfind : ((c.plan declared).kept.find? (·.key = c.dialect.normalize x.1)).isSome =
      (firstDeclared? c.dialect declared (c.dialect.normalize x.1)).isSome := by
    rw [← find?_keptOf h, Option.isSome_map]
    rfl
  have hdialect : (c.plan declared).dialect = c.dialect := rfl
  rw [Plan.takes, CallContext.eligible, hdialect, wants_plan, hfind, Bool.or_assoc, Bool.or_assoc,
    Bool.or_assoc]

theorem entryOf_plan (h : c.dialect.normalize x.1 ∉ resultSetKeys c.dialect declared) :
    (c.plan declared).entryOf x = c.entryFor declared x := by
  rw [CallContext.entryFor, ← find?_keptOf h]
  rfl

theorem standingUnder_plan :
    (c.plan declared).standingUnder (resultSetKeys c.dialect declared) (inOrdinalOrder columns) =
      c.standing declared columns := by
  rw [Plan.standingUnder, CallContext.standing]
  congr 1
  refine List.filter_congr fun x _ => ?_
  by_cases h : c.dialect.normalize x.1 ∈ resultSetKeys c.dialect declared
  · have hplaced : (c.plan declared).placesUnder (resultSetKeys c.dialect declared) x = false :=
      Bool.eq_false_iff.2 fun hp => (Plan.placesUnder_iff.1 hp).1 h
    simp [hplaced, h]
  · rw [Plan.placesUnder, takes_plan h]
    rfl

theorem not_mem_resultSetKeys_of_mem_standing (h : x ∈ c.standing declared columns) :
    c.dialect.normalize x.1 ∉ resultSetKeys c.dialect declared := by
  have hmem := firstOfEachName_subset _ _ h
  have heligible := (List.mem_filter.1 hmem).2
  rw [Bool.and_eq_true] at heligible
  exact of_decide_eq_true heligible.1

/-- A call none of whose columns is a return value has a parameter list without a return parameter.
After the result sets stand the entries of the standing columns. -/
theorem reconcile_of_not_returned (hused : c.columnsUsed = true)
    (h : ∀ column ∈ columns, column.kind ≠ .returned) :
    ∃ l, (c.reconcile declared columns).outcome = .ok l ∧ l.returnIndex = none ∧
      l.entries = declaredResultSets declared ++
        (c.standing declared columns).map (c.entryFor declared) := by
  have hsorted : ∀ column ∈ inOrdinalOrder columns, column.kind ≠ .returned :=
    fun column hmem => h column (List.mem_mergeSort.1 hmem)
  obtain ⟨last, run, -⟩ := (c.plan declared).exists_run_of_not_returned
    (c.draft declared columns) hsorted
  obtain ⟨hentries, hindex⟩ := run.of_not_returned hsorted
  have hmap : (c.standing declared columns).map (c.plan declared).entryOf =
      (c.standing declared columns).map (c.entryFor declared) :=
    List.map_congr_left fun x hx => entryOf_plan (not_mem_resultSetKeys_of_mem_standing hx)
  refine ⟨last.finish, CallContext.reconcile_of_run hused rfl run, hindex, ?_⟩
  calc last.entries
    _ = resultSetsOf c.dialect declared ++ ((c.plan declared).standingUnder
          (resultSetKeys c.dialect declared) (inOrdinalOrder columns)).map
            (c.plan declared).entryOf := hentries
    _ = declaredResultSets declared ++
          (c.standing declared columns).map (c.entryFor declared) := by
        rw [resultSetsOf_eq, standingUnder_plan, hmap]

/-- Columns of the name of a result set and of a declared parameter, one that the limits leave out,
and an output of its name. -/
theorem reconcile_of_not_returned_mixed :
    let c := CallContext.start { CallConfig.procedure "p" with inputNames := ["@b"] }
      (.sqlServer Fixtures.sqlServer)
    let declared := [Parameter.input "A" .integer,
      { Parameter.unnamedResultSet with name := some "rows" }]
    let columns := [Fixtures.column "@Rows" .input .integer 1,
      Fixtures.column "@a" .input .integer 2, Fixtures.column "@c" .input .integer 3,
      Fixtures.column "@C" .output .integer 4, Fixtures.column "@B" .unknown .integer 5]
    c.columnsUsed = true ∧ (∀ column ∈ columns, column.kind ≠ .returned) ∧
      ∃ l, (c.reconcile declared columns).outcome = .ok l ∧ l.returnIndex = none ∧
        l.entries = declaredResultSets declared ++
          (c.standing declared columns).map (c.entryFor declared) ∧
        l.entries.map (·.name) = [some "rows", some "A", some "C", some "B"] := by
  intro c declared columns
  have hused : c.columnsUsed = true := rfl
  have h : ∀ column ∈ columns, column.kind ≠ .returned := by decide
  obtain ⟨l, hl, hindex, hentries⟩ := @reconcile_of_not_returned c declared columns hused h
  have hsorted : inOrdinalOrder columns = columns := List.mergeSort_of_pairwise (by decide)
  refine ⟨hused, h, l, hl, hindex, hentries, ?_⟩
  rw [hentries, CallContext.standing, hsorted]
  decide +kernel

end

end StoredCall
