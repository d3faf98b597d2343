import StoredCall.Proofs.CaseForms
import StoredCall.Proofs.FunctionResult

/-!
# Names that are given once

Which parameters of a call may have one normalized name.

* `Entry.Apart`: two entries have different normalized names, or are result sets both;
* `CallContext.Unchecked`, `CallContext.Misfiled`: the entries made for columns that are placed
  without a look at the names taken, or under another name than their own;
* `CallContext.NamesFiled`: what holds of the draft between two columns, kept by every decision;
* `apart_of_reconcile`: all parameters of a call are apart, except for these entries.
-/

namespace StoredCall

/-- The entries have different normalized names, or are result sets both. -/
def Entry.Apart (d : Dialect) (a b : Entry) : Prop :=
  a.isResultSet = true ∧ b.isResultSet = true ∨
    ∀ n, a.name = some n → ∀ m, b.name = some m → d.normalize n ≠ d.normalize m

namespace CallContext

variable (c : CallContext) (columns : List Column)

/-- The entry is made for the unnamed return column of a procedure. It gets the configured return
name, whoever has that name already. -/
def Unchecked (e : Entry) : Prop :=
  c.config.isFunction = false ∧ ∃ column ∈ columns, column.kind = .returned ∧ column.name = none ∧
    e = .synthesized (c.dialect.defaultOutput c.config.returnName column)

/-- The entry takes another name than its own normalized one. -/
inductive Misfiled : Entry → Prop
  /-- The return name is lowered, but the rules of the dialect are not applied to it. -/
  | returnName (e : Entry) (unchecked : c.Unchecked columns e)
      (other : Text.lower c.config.returnName ≠ c.dialect.normalize c.config.returnName) :
      Misfiled e
  /-- The name keeps an at-sign that the next normalization drops. -/
  | doubleAtSign (column : Column) (n : String) (reported : column ∈ columns)
      (named : column.name = some n) (atSign : c.dialect.atSign = true)
      (doubled : Dialect.dropAtSign (Dialect.dropAtSign n) ≠ Dialect.dropAtSign n) :
      Misfiled (.synthesized (c.dialect.defaultFor (c.dialect.parameterName n) column))

/-- The first entry has another normalized name than the second, unless names are not looked at. -/
def ApartUnlessLoose (a b : Entry) : Prop :=
  a.Apart c.dialect b ∨ c.Unchecked columns b ∨ c.Misfiled columns a ∨ c.Misfiled columns b

/-- What holds of the draft after columns are read: the names of its entries are taken, and no two
entries have one name. -/
structure NamesFiled (d : Draft) : Prop where
  returnName : c.config.isFunction = false → d.returnName = c.config.returnName
  filed : ∀ e ∈ d.entries, ∀ n, e.name = some n →
    c.dialect.normalize n ∈ d.taken ∨ c.Misfiled columns e
  apart : d.entries.Pairwise (c.ApartUnlessLoose columns)

end CallContext

section

variable {c : CallContext} {declared : List Parameter} {columns : List Column} {column : Column}
  {d : Draft} {v : Decision} {key : String} {entry : Entry} {l : ParameterList}

/-! ### One column -/

theorem Dialect.name_defaultFor (d : Dialect) (n : String) (column : Column) :
    (d.defaultFor n column).name = some n := by
  unfold defaultFor
  split
  · exact name_defaultOutput d n column
  · exact name_defaultOutput d n column
  all_goals rfl

/-- A parameter made for a named column takes its own normalized name, but for a second at-sign. -/
theorem normalize_of_named {n m : String} (hcolumn : column ∈ columns)
    (hm : column.name = some m) (hn : c.dialect.parameterName m = n) :
    c.dialect.normalize n = Text.lower n ∨
      c.Misfiled columns (.synthesized (c.dialect.defaultFor n column)) := by
  by_cases hat : c.dialect.atSign = true →
      Dialect.dropAtSign (Dialect.dropAtSign m) = Dialect.dropAtSign m
  · left
    rw [← hn, Dialect.normalize_parameterName hat]
    rfl
  · right
    obtain ⟨hsign, hdouble⟩ := Classical.not_imp.1 hat
    rw [← hn]
    exact .doubleAtSign column m hcolumn hm hsign hdouble

/-- The entry takes a name that is free, unless names are not looked at, and the name is its own. -/
def CallContext.FiledUnder (c : CallContext) (columns : List Column) (taken : List String)
    (key : String) (e : Entry) : Prop :=
  (key ∉ taken ∨ c.Unchecked columns e) ∧
    ∀ n, e.name = some n → c.dialect.normalize n = key ∨ c.Misfiled columns e

theorem filedUnder_of_kept {k : Kept} {taken : List String} (hk : k ∈ keptOf c.dialect declared)
    (hfree : k.key ∉ taken) : c.FiledUnder columns taken k.key k.entry :=
  ⟨Or.inl hfree, fun _ hn => Or.inl (normalize_of_mem_keptOf hk hn)⟩

theorem filedUnder_of_named {n : String} {taken : List String} (hcolumn : column ∈ columns)
    (hn : (c.plan declared).nameOf column = some n) (hfree : Text.lower n ∉ taken) :
    c.FiledUnder columns taken (Text.lower n)
      (.synthesized (c.dialect.defaultFor n column)) := by
  obtain ⟨m, hm, hmn⟩ := Plan.nameOf_eq_some hn
  refine ⟨Or.inl hfree, fun n' hn' => ?_⟩
  obtain rfl : n = n' :=
    Option.some.inj ((Dialect.name_defaultFor c.dialect n column).symm.trans hn')
  exact normalize_of_named hcolumn hm hmn

theorem filedUnder_of_unnamed {taken : List String} (hcolumn : column ∈ columns)
    (hkind : column.kind = .returned) (hunnamed : column.name = none)
    (hf : c.config.isFunction = false) :
    c.FiledUnder columns taken (Text.lower c.config.returnName)
      (.synthesized (c.dialect.defaultOutput c.config.returnName column)) := by
  have hunchecked : c.Unchecked columns
      (.synthesized (c.dialect.defaultOutput c.config.returnName column)) :=
    ⟨hf, column, hcolumn, hkind, hunnamed, rfl⟩
  refine ⟨Or.inr hunchecked, fun n hn => ?_⟩
  obtain rfl : c.config.returnName = n :=
    Option.some.inj ((Dialect.name_defaultOutput c.dialect _ column).symm.trans hn)
  by_cases hother : Text.lower c.config.returnName = c.dialect.normalize c.config.returnName
  · exact Or.inl hother.symm
  · exact Or.inr (.returnName _ hunchecked hother)

theorem filedUnder_of_placement? (hv : (c.plan declared).Verdict d column v)
    (hcolumn : column ∈ columns)
    (hname : c.config.isFunction = false → d.returnName = c.config.returnName)
    (hplace : v.placement? = some (key, entry)) : c.FiledUnder columns d.taken key entry := by
  cases hv with
  | alreadyBound | returnMissing | bypass | skipOutput | exclude | skipInput => cases hplace
  | resolveReturn k kind function free found =>
    cases hplace
    obtain ⟨hk, hfree⟩ := Plan.functionTaker?_eq_some found
    exact filedUnder_of_kept hk hfree
  | reuseReturn k kind procedure free found =>
    cases hplace
    obtain ⟨hk, hfree⟩ := Plan.returnReuse?_eq_some found
    exact filedUnder_of_kept hk hfree
  | reuseOutput n k kind named found | reuseInput n k kind named found =>
    cases hplace
    obtain ⟨hk, hkey, hfree⟩ := Plan.free?_eq_some found
    exact filedUnder_of_kept hk (hkey ▸ hfree)
  | addReturn n kind procedure free found bound name =>
    cases hplace
    cases hn : (c.plan declared).nameOf column with
    | none =>
      rw [hn, Option.getD_none, hname procedure] at name
      rw [name]
      exact filedUnder_of_unnamed hcolumn kind (Option.map_eq_none_iff.1 hn) procedure
    | some m =>
      obtain rfl : n = m := by simpa [hn] using name
      have hfiled := filedUnder_of_named hcolumn hn (free n hn)
      rwa [Dialect.defaultFor, kind] at hfiled
  | addOutput n kind named free found =>
    cases hplace
    have hfiled := filedUnder_of_named hcolumn named free
    have hdialect : (c.plan declared).dialect = c.dialect := rfl
    rcases kind with hkind | hkind <;> simpa [Dialect.defaultFor, hkind, hdialect] using hfiled
  | addInput n kind named free found wanted =>
    cases hplace
    have hfiled := filedUnder_of_named hcolumn named free
    rcases kind with hkind | hkind | hkind <;> simpa [Dialect.defaultFor, hkind] using hfiled

/-- What is filed under a free name is apart from what has its name taken. -/
theorem apartUnlessLoose_of_filed {a b : Entry}
    (ha : ∀ n, a.name = some n → c.dialect.normalize n ∈ d.taken ∨ c.Misfiled columns a)
    (hb : c.FiledUnder columns d.taken key b) : c.ApartUnlessLoose columns a b := by
  obtain ⟨hfree, hfiled⟩ := hb
  by_cases hloose : c.Unchecked columns b ∨ c.Misfiled columns a ∨ c.Misfiled columns b
  · exact Or.inr hloose
  obtain ⟨hchecked, hfiledA, hfiledB⟩ : ¬c.Unchecked columns b ∧
      ¬c.Misfiled columns a ∧ ¬c.Misfiled columns b := by simpa using hloose
  refine Or.inl (Or.inr fun n hn m hm he => ?_)
  have hmem : c.dialect.normalize n ∈ d.taken := (ha n hn).resolve_right hfiledA
  have hkey : c.dialect.normalize m = key := (hfiled m hm).resolve_right hfiledB
  exact hfree.resolve_right hchecked (hkey ▸ he ▸ hmem)

theorem CallContext.NamesFiled.step (hv : (c.plan declared).Verdict d column v)
    (hcolumn : column ∈ columns) (h : c.NamesFiled columns d) :
    c.NamesFiled columns (d.apply v) := by
  have hname : c.config.isFunction = false → (d.apply v).returnName = c.config.returnName :=
    fun hf => (hv.returnName_apply hf).trans (h.returnName hf)
  cases hplace : v.placement? with
  | none =>
    have hentries : (d.apply v).entries = d.entries := by
      rw [Draft.entries_apply, hplace]
      exact List.append_nil _
    refine ⟨hname, ?_, hentries ▸ h.apart⟩
    intro e he n hn
    rw [hentries] at he
    exact (h.filed e he n hn).imp_left fun hmem => d.taken_subset_apply v hmem
  | some x =>
    obtain ⟨key, entry⟩ := x
    have hfiled := filedUnder_of_placement? hv hcolumn h.returnName hplace
    have hentries : (d.apply v).entries = d.entries ++ [entry] := by
      rw [Draft.entries_apply, hplace]
      rfl
    have htaken : (d.apply v).taken = key :: d.taken := by
      rw [Draft.taken_apply, hplace]
      rfl
    refine ⟨hname, ?_, ?_⟩
    · intro e he n hn
      rw [htaken]
      rw [hentries] at he
      rcases List.mem_append.1 he with he | he
      · exact (h.filed e he n hn).imp_left (List.mem_cons_of_mem _)
      · obtain rfl := List.mem_singleton.1 he
        refine (hfiled.2 n hn).imp_left fun hkey => ?_
        rw [hkey]
        exact List.mem_cons_self
    · rw [hentries]
      refine List.pairwise_append.2 ⟨h.apart, List.pairwise_singleton _ _, ?_⟩
      intro a ha b hb
      obtain rfl := List.mem_singleton.1 hb
      exact apartUnlessLoose_of_filed (h.filed a ha) hfiled

/-! ### All parameters -/

theorem pairwise_apart_declaredResultSets :
    (declaredResultSets declared).Pairwise (Entry.Apart c.dialect) := by
  refine List.pairwise_of_forall_mem_list fun a ha b hb => Or.inl ?_
  obtain ⟨i, p, -, hp, rfl⟩ := mem_declaredResultSets.1 ha
  obtain ⟨j, q, -, hq, rfl⟩ := mem_declaredResultSets.1 hb
  exact ⟨hp, hq⟩

theorem namesFiled_draft : c.NamesFiled columns (c.draft declared columns) := by
  have hsets : (c.draft declared columns).entries = declaredResultSets declared :=
    resultSetsOf_eq _ _
  refine ⟨declaredReturnName_of_procedure, ?_, ?_⟩
  · intro e he n hn
    exact Or.inl (normalize_mem_of_mem_declaredResultSets (hsets ▸ he) hn)
  · rw [hsets]
    exact pairwise_apart_declaredResultSets.imp Or.inl

theorem pairwise_apart_declaredEntries :
    (c.declaredEntries declared).Pairwise (Entry.Apart c.dialect) := by
  rw [CallContext.declaredEntries, resultSetsOf_eq]
  refine List.pairwise_append.2 ⟨pairwise_apart_declaredResultSets, ?_, ?_⟩
  · refine List.pairwise_map.2 ((List.Pairwise.and_mem.1 (keptOf_pairwise _ _)).imp ?_)
    rintro a b ⟨ha, hb, -, hne⟩
    refine Or.inr fun n hn m hm he => hne ?_
    rw [← normalize_of_mem_keptOf ha hn, he, normalize_of_mem_keptOf hb hm]
  · intro a ha b hb
    obtain ⟨k, hk, rfl⟩ := List.mem_map.1 hb
    refine Or.inr fun n hn m hm he => not_mem_resultSetKeys_of_mem_keptOf hk ?_
    rw [← normalize_of_mem_keptOf hk hm, ← he]
    exact normalize_mem_of_mem_declaredResultSets ha hn

/-- No two parameters of a call have one normalized name unless both are result sets. Only the
unnamed return column of a procedure may repeat a name, and a name that is not normalized yet. -/
theorem apart_of_reconcile (h : (c.reconcile declared columns).outcome = .ok l) :
    l.entries.Pairwise (c.ApartUnlessLoose columns) := by
  obtain ⟨-, rfl⟩ | ⟨-, last, run, rfl⟩ := CallContext.cases_of_reconcile h
  · exact pairwise_apart_declaredEntries.imp Or.inl
  · have hfiled : c.NamesFiled columns last :=
      run.invariant_of_mem (fun d column v hcolumn hv _ hd =>
        hd.step hv (List.mem_mergeSort.1 hcolumn)) namesFiled_draft
    exact hfiled.apart

/-- Columns of a procedure with a status, one of them declared. -/
theorem apart_of_reconcile_add_user :
    let c := CallContext.start (.procedure "add_user") (.sqlServer Fixtures.sqlServer)
    let declared := [Parameter.input "USER_NAME" .nvarchar]
    let columns := Fixtures.sqlServerAddUser.columns
    ∃ l, (c.reconcile declared columns).outcome = .ok l ∧
      l.entries.Pairwise (c.ApartUnlessLoose columns) := by
  intro c declared columns
  obtain ⟨l, hl⟩ := c.exists_reconcile_of_procedure declared columns rfl
  exact ⟨l, hl, apart_of_reconcile hl⟩

/-- The unnamed return column of a procedure repeats the name of an ordinary column. -/
theorem return_name_twice :
    let c := CallContext.start (.procedure "p") (.generic Fixtures.mySql)
    let columns := [Fixtures.column "return" .input .integer 1,
      { unnamedReturn with ordinal := 2 }]
    ∃ l, (c.reconcile [] columns).outcome = .ok l ∧
      l.entries.map (fun e => (e.name, e.isResultSet)) =
        [(some "return", false), (some "return", false)] := by
  intro c columns
  have hsorted : inOrdinalOrder columns = columns := List.mergeSort_of_pairwise (by decide)
  have run : (c.plan []).Run (c.draft [] columns) columns _ :=
    .cons (by decide +kernel) (.cons (by decide +kernel) (.nil _))
  exact ⟨_, CallContext.reconcile_of_run rfl hsorted run, by decide +kernel⟩

/-- A column is placed under a name that keeps an at-sign, and one without it is placed as well. -/
theorem second_at_sign_dropped :
    let c := CallContext.start (.procedure "p") (.sqlServer Fixtures.sqlServer)
    let columns := [Fixtures.column "@@x" .input .integer 1, Fixtures.column "@x" .input .integer 2]
    ∃ l, (c.reconcile [] columns).outcome = .ok l ∧
      l.entries.map (fun e => (e.name, e.name.map c.dialect.normalize)) =
        [(some "@x", some "x"), (some "x", some "x")] := by
  intro c columns
  have hsorted : inOrdinalOrder columns = columns := List.mergeSort_of_pairwise (by decide)
  have run : (c.plan []).Run (c.draft [] columns) columns _ :=
    .cons (by decide +kernel) (.cons (by decide +kernel) (.nil _))
  exact ⟨_, CallContext.reconcile_of_run rfl hsorted run, by decide +kernel⟩

end

end StoredCall
