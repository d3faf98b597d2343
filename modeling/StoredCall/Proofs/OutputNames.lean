import StoredCall.CallText
import StoredCall.Proofs.DeclaredCalls

/-!
# The output names of a call

Which names a call reports as outputs, compared with its parameters.

* `Plan.MakesOutput`, `Plan.Run.outputNames`: a run adds the names of the outputs that it makes, and
  it makes them for output columns and for return columns that a call may not leave out;
* `CallContext.KeptPlaced`, `CallContext.NamedTaken`: what holds of the draft between two columns
  about the declarations that columns name;
* `CallContext.LeftOut`: a declared output that no column has brought in;
* `outputNames_of_reconcile`: the names in their order;
* `mem_outputNames_iff`, `outputs_of_reconcile`: the names are those of the outputs of the call and
  of the ones left out.
-/

namespace StoredCall

/-- The name of an output that is made for a column. -/
def Entry.madeOutput? : Entry → Option String
  | .declared .. => none
  | .synthesized p => if p.isOutput then p.name else none

theorem Entry.madeOutput?_eq_some {e : Entry} {n : String} :
    e.madeOutput? = some n ↔ ∃ p, e = .synthesized p ∧ p.isOutput = true ∧ p.name = some n := by
  cases e with
  | declared i p => simp [madeOutput?]
  | synthesized p => simp [madeOutput?]

namespace CallContext

variable (c : CallContext) (declared : List Parameter) (columns : List Column)

/-- The unnamed return column of a procedure has taken the name of a declaration, because the return
name is lowered without the rules of the dialect. -/
def TakenByReturn (key : String) : Prop :=
  c.config.isFunction = false ∧ (∃ column ∈ columns, column.kind = .returned ∧ column.name = none) ∧
    Text.lower c.config.returnName = key ∧ c.dialect.normalize c.config.returnName ≠ key

/-- An output that takes part is declared at the position, and it is no parameter of the call: no
column has its name. -/
structure LeftOut (l : ParameterList) (i : ℕ) (p : Parameter) (name : String) : Prop where
  used : c.columnsUsed = true
  kept : IsKept c.dialect declared i p name
  output : p.isOutput = true
  absent : Entry.declared i p ∉ l.entries
  unreported : (∀ column ∈ columns, ∀ n, column.name = some n →
      c.dialect.normalize n ≠ c.dialect.normalize name) ∨
    c.TakenByReturn columns (c.dialect.normalize name)

/-- The declarations whose names are taken are placed. -/
def KeptPlaced (d : Draft) : Prop :=
  ∀ k ∈ keptOf c.dialect declared, k.key ∈ d.taken →
    k.entry ∈ d.entries ∨ c.TakenByReturn columns k.key

/-- The declarations of the columns that are read have their names taken. -/
def NamedTaken (read : List Column) (d : Draft) : Prop :=
  ∀ k ∈ keptOf c.dialect declared, ∀ column ∈ read, ∀ n, column.name = some n →
    c.dialect.normalize n = k.key → k.key ∈ d.taken

end CallContext

/-- An output may be made for the column: it is an output column, or the return column of a
procedure, unless this one may be left out. -/
def Plan.MakesOutput (plan : Plan) (column : Column) : Prop :=
  (column.kind = .output ∨ column.kind = .inOut) ∨
    column.kind = .returned ∧ plan.isFunction = false ∧
      (plan.returnRequired = true ∨ plan.dialect.bypasses column.name = false)

/-! ### Outputs made along a run -/

theorem Plan.Verdict.output?_eq {plan : Plan} {d : Draft} {column : Column} {v : Decision}
    (h : plan.Verdict d column v) : v.output? = v.placement?.bind (·.2.madeOutput?) := by
  have hmade : ∀ n, (Entry.synthesized (plan.dialect.defaultOutput n column)).madeOutput? =
      some n := fun n => Entry.madeOutput?_eq_some.2 ⟨_, rfl, by
    rw [Parameter.isOutput, Dialect.direction_defaultOutput]
    rfl, Dialect.name_defaultOutput _ _ _⟩
  cases h with
  | addReturn n => exact (hmade n).symm
  | addOutput n kind =>
    rcases kind with hkind | hkind
    · simp [Decision.output?, Decision.placement?, hkind, hmade]
    · simp only [Decision.output?, Decision.placement?, hkind]
      rfl
  | _ => rfl

/-- No declaration of the return name is free when a parameter is made for an unnamed column. -/
theorem Plan.Verdict.unclaimed_of_unnamed {plan : Plan} {d : Draft} {column : Column}
    {v : Decision} {key : String} {p : Parameter} (h : plan.Verdict d column v)
    (hplace : v.placement? = some (key, .synthesized p)) (hunnamed : plan.nameOf column = none)
    (hfree : plan.dialect.normalize d.returnName ∉ d.taken) :
    ∀ k ∈ plan.kept, k.key ≠ plan.dialect.normalize d.returnName := by
  cases h with
  | addReturn n kind procedure free found =>
    exact free?_eq_none (Option.or_eq_none_iff.1 found).2 hfree
  | addOutput n kind named | addInput n kind named => rw [hunnamed] at named; cases named
  | _ => cases hplace

theorem Plan.Verdict.makesOutput {plan : Plan} {d : Draft} {column : Column} {v : Decision}
    {key n : String} {e : Entry} (h : plan.Verdict d column v)
    (hplace : v.placement? = some (key, e)) (hmade : e.madeOutput? = some n) :
    plan.MakesOutput column := by
  cases h with
  | addReturn n kind procedure free found bound => exact Or.inr ⟨kind, procedure, bound⟩
  | addOutput n kind => exact Or.inl kind
  | addInput n kind =>
    cases hplace
    cases hmade
  | alreadyBound | returnMissing | bypass | skipOutput | exclude | skipInput => cases hplace
  | resolveReturn k | reuseReturn k | reuseOutput n k | reuseInput n k =>
    cases hplace
    cases hmade

/-- A run places entries for some of its columns in their order, and it adds the names of the
outputs that it makes. -/
theorem Plan.Run.outputNames {plan : Plan} {d last : Draft} {columns : List Column}
    (run : plan.Run d columns last) :
    ∃ placed : List (Column × Entry), last.entries = d.entries ++ placed.map (·.2) ∧
      last.outputNames = d.outputNames ++ placed.filterMap (·.2.madeOutput?) ∧
      (placed.map (·.1)).Sublist columns ∧
      ∀ x ∈ placed, x.2.madeOutput?.isSome = true → plan.MakesOutput x.1 := by
  induction run with
  | nil d => exact ⟨[], by simp, by simp, List.nil_sublist _, by simp⟩
  | @cons d last column rest decided later ih =>
    obtain ⟨placed, hentries, hnames, hsub, hmakes⟩ := ih
    have hv := plan.verdict d column
    set v := plan.decisionFor d column
    rw [Draft.entries_apply] at hentries
    rw [Draft.outputNames_apply, hv.output?_eq] at hnames
    cases hplace : v.placement? with
    | none =>
      rw [hplace] at hentries hnames
      exact ⟨placed, by simpa using hentries, by simpa using hnames, hsub.cons _, hmakes⟩
    | some x =>
      obtain ⟨key, e⟩ := x
      rw [hplace] at hentries hnames
      refine ⟨(column, e) :: placed, by simpa using hentries, ?_, hsub.cons_cons _, ?_⟩
      · rw [hnames, List.append_assoc]
        cases he : e.madeOutput? <;> simp [he]
      · refine List.forall_mem_cons.2 ⟨fun hmade => ?_, hmakes⟩
        obtain ⟨n, hn⟩ := Option.isSome_iff_exists.1 hmade
        exact hv.makesOutput hplace hn

section

variable {c : CallContext} {declared : List Parameter} {columns read : List Column}
  {column : Column} {d : Draft} {v : Decision} {k : Kept} {l : ParameterList} {name : String}

/-! ### One column -/

theorem key_taken_of_named (hv : (c.plan declared).Verdict d column v)
    (hmissing : v.missing? = none) (hk : k ∈ keptOf c.dialect declared) {n : String}
    (hn : (c.plan declared).nameOf column = some n) (hkey : Text.lower n = k.key) :
    k.key ∈ (d.apply v).taken := by
  by_cases htaken : k.key ∈ d.taken
  · exact d.taken_subset_apply v htaken
  have hfree : (c.plan declared).free? d (Text.lower n) = some k := by
    rw [hkey, Plan.free?, if_neg htaken]
    exact find?_key_of_mem_keptOf hk
  have hreuse : (c.plan declared).returnReuse? d ((c.plan declared).nameOf column) = some k := by
    rw [Plan.returnReuse?, hn, Option.bind_some, hfree, Option.some_or]
  rw [Draft.taken_apply]
  refine List.mem_append_left _ ?_
  cases hv with
  | alreadyBound m named taken =>
    obtain rfl : n = m := Option.some.inj (hn.symm.trans named)
    exact absurd (hkey ▸ taken) htaken
  | resolveReturn k' kind function free found =>
    rw [Plan.functionTaker?, hreuse, Option.some_or] at found
    obtain rfl := Option.some.inj found
    exact List.mem_singleton_self _
  | returnMissing => cases hmissing
  | reuseReturn k' kind procedure free found =>
    obtain rfl : k = k' := Option.some.inj (hreuse.symm.trans found)
    exact List.mem_singleton_self _
  | bypass kind procedure free found => rw [hreuse] at found; cases found
  | addReturn m kind procedure free found => rw [hreuse] at found; cases found
  | reuseOutput m k' kind named found | reuseInput m k' kind named found =>
    obtain rfl : n = m := Option.some.inj (hn.symm.trans named)
    obtain rfl : k = k' := Option.some.inj (hfree.symm.trans found)
    exact List.mem_singleton_self _
  | addOutput m kind named free found | addInput m kind named free found
  | exclude m kind named free found =>
    obtain rfl : n = m := Option.some.inj (hn.symm.trans named)
    rw [hfree] at found
    cases found
  | skipOutput kind unnamed | skipInput kind unnamed => rw [hn] at unnamed; cases unnamed

theorem CallContext.NamedTaken.step (hv : (c.plan declared).Verdict d column v)
    (hmissing : v.missing? = none) (h : c.NamedTaken declared read d) :
    c.NamedTaken declared (read ++ [column]) (d.apply v) := by
  intro k hk x hx n hn hkey
  rcases List.mem_append.1 hx with hx | hx
  · exact d.taken_subset_apply v (h k hk x hx n hn hkey)
  · obtain rfl := List.mem_singleton.1 hx
    have hname : (c.plan declared).nameOf x = some (c.dialect.parameterName n) := by
      rw [Plan.nameOf, hn]
      rfl
    exact key_taken_of_named hv hmissing hk hname hkey

theorem CallContext.KeptPlaced.step (hv : (c.plan declared).Verdict d column v)
    (hcolumn : column ∈ columns)
    (hname : c.config.isFunction = false → d.returnName = c.config.returnName)
    (h : c.KeptPlaced declared columns d) : c.KeptPlaced declared columns (d.apply v) := by
  intro k hk hkey
  by_cases htaken : k.key ∈ d.taken
  · refine (h k hk htaken).imp_left fun hmem => ?_
    rw [Draft.entries_apply]
    exact List.mem_append_left _ hmem
  rw [Draft.taken_apply, List.mem_append] at hkey
  obtain ⟨⟨key, entry⟩, hx, hsame⟩ := List.mem_map.1 (hkey.resolve_right htaken)
  have hsame : key = k.key := hsame
  have hplace := Option.mem_toList.1 hx
  have hplaced : entry = k.entry → k.entry ∈ (d.apply v).entries := by
    intro he
    rw [Draft.entries_apply]
    exact List.mem_append_right _ (List.mem_map.2 ⟨_, hx, he⟩)
  cases hv.origin hplace with
  | declared k' kept =>
    obtain rfl : k' = k := eq_of_key_eq kept hk hsame
    exact Or.inl (hplaced rfl)
  | named n p named free undeclared => exact absurd hsame.symm (undeclared k hk)
  | unnamed p kind unnamed procedure =>
    rw [hname procedure] at hsame
    have hcolumns : ∃ x ∈ columns, x.kind = .returned ∧ x.name = none :=
      ⟨column, hcolumn, kind, Option.map_eq_none_iff.1 unnamed⟩
    refine Or.inr ⟨procedure, hcolumns, hsame, fun he => ?_⟩
    rw [← hname procedure] at he
    exact hv.unclaimed_of_unnamed hplace unnamed (he ▸ htaken) k hk he.symm

/-! ### All columns -/

/-- The parameters of a call are result sets, declarations that take part, or made for columns, and
these have names. -/
theorem cases_of_mem_entries (h : (c.reconcile declared columns).outcome = .ok l) {e : Entry}
    (he : e ∈ l.entries) :
    e ∈ declaredResultSets declared ∨ (∃ k ∈ keptOf c.dialect declared, e = k.entry) ∨
      ∃ p n, e = .synthesized p ∧ p.name = some n := by
  obtain ⟨-, rfl⟩ | ⟨-, last, run, rfl⟩ := CallContext.cases_of_reconcile h
  · rcases List.mem_append.1 he with he | he
    · exact Or.inl (resultSetsOf_eq c.dialect declared ▸ he)
    · obtain ⟨k, hk, rfl⟩ := List.mem_map.1 he
      exact Or.inr (Or.inl ⟨k, hk, rfl⟩)
  · obtain ⟨ps, hentries, -, hfrom, -⟩ :=
      run.placements (indexedColumns columns) map_fst_indexedColumns
    have he : e ∈ last.entries := he
    rw [hentries] at he
    rcases List.mem_append.1 he with he | he
    · exact Or.inl (resultSetsOf_eq c.dialect declared ▸ he)
    · obtain ⟨p, hp, rfl⟩ := List.mem_map.1 he
      obtain ⟨position, column, key, entry⟩ := p
      cases hfrom _ hp with
      | declared k kept => exact Or.inr (Or.inl ⟨k, kept, rfl⟩)
      | named n p named free undeclared direction name => exact Or.inr (Or.inr ⟨p, n, rfl, name⟩)
      | unnamed p kind unnamed procedure direction name =>
        exact Or.inr (Or.inr ⟨p, _, rfl, name⟩)

/-- The names of outputs are those of the declared outputs that take part, and then those of the
outputs made for columns. -/
theorem outputNames_eq (h : (c.reconcile declared columns).outcome = .ok l) :
    l.outputNames = c.declaredOutputs declared ++ l.entries.filterMap (·.madeOutput?) := by
  have hsets : (resultSetsOf c.dialect declared).filterMap (·.madeOutput?) = [] := by
    rw [resultSetsOf_eq, List.filterMap_eq_nil_iff]
    intro e he
    obtain ⟨i, p, -, -, rfl⟩ := mem_declaredResultSets.1 he
    rfl
  obtain ⟨-, rfl⟩ | ⟨-, last, run, rfl⟩ := CallContext.cases_of_reconcile h
  · have hkept : ((keptOf c.dialect declared).map (·.entry)).filterMap (·.madeOutput?) = [] := by
      rw [List.filterMap_eq_nil_iff]
      intro e he
      obtain ⟨k, -, rfl⟩ := List.mem_map.1 he
      rfl
    have hentries : (c.declaredList declared columns).entries =
        resultSetsOf c.dialect declared ++ (keptOf c.dialect declared).map (·.entry) := rfl
    rw [hentries, List.filterMap_append, hsets, hkept]
    exact (List.append_nil _).symm
  · obtain ⟨placed, hentries, hnames, -⟩ := run.outputNames
    have hlast : last.finish.entries = resultSetsOf c.dialect declared ++ placed.map (·.2) :=
      hentries
    rw [hlast, List.filterMap_append, hsets, List.filterMap_map]
    exact hnames

theorem keptPlaced_of_run {last : Draft}
    (run : (c.plan declared).Run (c.draft declared columns) (inOrdinalOrder columns) last) :
    c.KeptPlaced declared columns last := by
  have hboth : (c.config.isFunction = false → last.returnName = c.config.returnName) ∧
      c.KeptPlaced declared columns last := by
    refine run.invariant_of_mem (P := fun d => (c.config.isFunction = false →
      d.returnName = c.config.returnName) ∧ c.KeptPlaced declared columns d) ?_ ⟨?_, ?_⟩
    · rintro d column v hcolumn hv - ⟨hname, hplaced⟩
      exact ⟨fun hf => (hv.returnName_apply hf).trans (hname hf),
        hplaced.step hv (List.mem_mergeSort.1 hcolumn) hname⟩
    · exact declaredReturnName_of_procedure
    · exact fun k hk hkey => absurd hkey (not_mem_resultSetKeys_of_mem_keptOf hk)
  exact hboth.2

/-- A declaration that is left out has a name that no column has, or that the return column of a
procedure has taken. -/
theorem unreported_of_absent (hused : c.columnsUsed = true)
    (h : (c.reconcile declared columns).outcome = .ok l) (hk : k ∈ keptOf c.dialect declared)
    (habsent : k.entry ∉ l.entries) :
    (∀ column ∈ columns, ∀ n, column.name = some n → c.dialect.normalize n ≠ k.key) ∨
      c.TakenByReturn columns k.key := by
  obtain ⟨last, run, rfl⟩ := CallContext.run_of_reconcile hused h
  have hnamed : c.NamedTaken declared (inOrdinalOrder columns) last := by
    refine run.invariant_read (P := c.NamedTaken declared)
      (fun _ _ _ _ _ _ hv hmissing hd => hd.step hv hmissing) (List.nil_append _).symm ?_
    exact fun k _ column hcolumn => absurd hcolumn List.not_mem_nil
  by_cases htaken : k.key ∈ last.taken
  · exact Or.inr ((keptPlaced_of_run run k hk htaken).resolve_left habsent)
  · exact Or.inl fun column hcolumn n hn he =>
      htaken (hnamed k hk column (List.mem_mergeSort.2 hcolumn) n hn he)

/-! ### The names -/

theorem exists_outputName_of_mem (h : (c.reconcile declared columns).outcome = .ok l) {e : Entry}
    (he : e ∈ l.entries) (hout : e.parameter.isOutput = true) :
    ∃ n ∈ l.outputNames, e.name = some n := by
  rw [outputNames_eq h]
  rcases cases_of_mem_entries h he with hset | ⟨k, hk, rfl⟩ | ⟨p, n, rfl, hn⟩
  · obtain ⟨i, p, -, hr, rfl⟩ := mem_declaredResultSets.1 hset
    have hdirection : p.direction = .resultSet := of_decide_eq_true hr
    rw [Entry.parameter, Parameter.isOutput, hdirection] at hout
    cases hout
  · refine ⟨k.name, List.mem_append_left _ ?_, (mem_keptOf_iff.1 hk).1.named⟩
    exact List.mem_map_of_mem (List.mem_filter.2 ⟨hk, hout⟩)
  · refine ⟨n, List.mem_append_right _ (List.mem_filterMap.2 ⟨_, he, ?_⟩), hn⟩
    exact Entry.madeOutput?_eq_some.2 ⟨p, rfl, hout, hn⟩

theorem mem_outputNames_iff (h : (c.reconcile declared columns).outcome = .ok l) :
    name ∈ l.outputNames ↔
      (∃ e ∈ l.entries, e.name = some name ∧ e.parameter.isOutput = true) ∨
        ∃ i p, c.LeftOut declared columns l i p name := by
  constructor
  · intro hmem
    rw [outputNames_eq h, List.mem_append] at hmem
    rcases hmem with hmem | hmem
    · obtain ⟨k, hk, rfl⟩ := List.mem_map.1 hmem
      obtain ⟨hk, hout⟩ := List.mem_filter.1 hk
      obtain ⟨hkept, hkey⟩ := mem_keptOf_iff.1 hk
      by_cases hplaced : k.entry ∈ l.entries
      · exact Or.inl ⟨k.entry, hplaced, hkept.named, hout⟩
      · obtain ⟨-, rfl⟩ | ⟨hused, -⟩ := CallContext.cases_of_reconcile h
        · exact absurd (List.mem_append_right _ (List.mem_map_of_mem hk)) hplaced
        exact Or.inr ⟨k.position, k.parameter, hused, hkept, hout, hplaced,
          hkey ▸ unreported_of_absent hused h hk hplaced⟩
    · obtain ⟨e, he, hmade⟩ := List.mem_filterMap.1 hmem
      obtain ⟨p, rfl, hout, hn⟩ := Entry.madeOutput?_eq_some.1 hmade
      exact Or.inl ⟨_, he, hn, hout⟩
  · rintro (⟨e, he, hn, hout⟩ | ⟨i, p, hleft⟩)
    · obtain ⟨n, hmem, hname⟩ := exists_outputName_of_mem h he hout
      obtain rfl : name = n := Option.some.inj (hn.symm.trans hname)
      exact hmem
    · rw [outputNames_eq h]
      have hk : Kept.mk i name (c.dialect.normalize name) p ∈ keptOf c.dialect declared :=
        mem_keptOf_iff.2 ⟨hleft.kept, rfl⟩
      exact List.mem_append_left _
        (List.mem_map.2 ⟨_, List.mem_filter.2 ⟨hk, hleft.output⟩, rfl⟩)

/-- The output names are those of the declared outputs that take part, in declaration order, and
then those of the outputs made for columns, in the order of the call. Every output of the call has
its name there. What stands for an input column or for a declaration adds none, and a return column
that may be left out adds none. -/
theorem outputNames_of_reconcile (h : (c.reconcile declared columns).outcome = .ok l) :
    l.outputNames = ((c.keptDeclarations declared).filter (·.2.parameter.isOutput)).map (·.1) ++
        l.entries.filterMap (·.madeOutput?) ∧
      (∀ e ∈ l.entries, e.parameter.isOutput = true → ∃ n ∈ l.outputNames, e.name = some n) ∧
      (c.columnsUsed = true → ∃ placed : List (Column × Entry),
        l.entries = declaredResultSets declared ++ placed.map (·.2) ∧
        (placed.map (·.1)).Sublist (inOrdinalOrder columns) ∧
        ∀ x ∈ placed, x.2.madeOutput?.isSome = true → (c.plan declared).MakesOutput x.1) := by
  refine ⟨?_, fun e he hout => exists_outputName_of_mem h he hout, fun hused => ?_⟩
  · rw [← declaredOutputs_eq]
    exact outputNames_eq h
  · obtain ⟨last, run, rfl⟩ := CallContext.run_of_reconcile hused h
    obtain ⟨placed, hentries, -, hsub, hmakes⟩ := run.outputNames
    rw [show (c.draft declared columns).entries = resultSetsOf c.dialect declared from rfl,
      resultSetsOf_eq] at hentries
    exact ⟨placed, hentries, hsub, hmakes⟩

/-- A status column that is left out, an input column, a declared output of a column in another
letter case, and an output made for a column. -/
theorem outputNames_of_reconcile_add_user :
    let c := CallContext.start (.procedure "add_user") (.sqlServer Fixtures.sqlServer)
    let declared := [Parameter.output "NEW_ID" .integer]
    let columns := Fixtures.sqlServerAddUser.columns ++ [Fixtures.column "@seen" .output .bigint 3]
    ∃ l, (c.reconcile declared columns).outcome = .ok l ∧
      l.outputNames =
          ((c.keptDeclarations declared).filter (·.2.parameter.isOutput)).map (·.1) ++
            l.entries.filterMap (·.madeOutput?) ∧
        (∀ e ∈ l.entries, e.parameter.isOutput = true → ∃ n ∈ l.outputNames, e.name = some n) ∧
        (c.columnsUsed = true → ∃ placed : List (Column × Entry),
          l.entries = declaredResultSets declared ++ placed.map (·.2) ∧
          (placed.map (·.1)).Sublist (inOrdinalOrder columns) ∧
          ∀ x ∈ placed, x.2.madeOutput?.isSome = true → (c.plan declared).MakesOutput x.1) ∧
        l.outputNames = ["NEW_ID", "seen"] := by
  intro c declared columns
  have hsorted : inOrdinalOrder columns = columns := List.mergeSort_of_pairwise (by decide)
  have run : (c.plan declared).Run (c.draft declared columns) columns _ :=
    .cons (by decide +kernel) (.cons (by decide +kernel) (.cons (by decide +kernel)
      (.cons (by decide +kernel) (.nil _))))
  have hl := CallContext.reconcile_of_run rfl hsorted run
  obtain ⟨hnames, houtputs, hplaced⟩ := outputNames_of_reconcile hl
  exact ⟨_, hl, hnames, houtputs, hplaced, by decide +kernel⟩

/-- A reported output, and the one result of a procedure, is an output of the call or a declared
output that columns have left out. -/
theorem outputs_of_reconcile (h : (c.reconcile declared columns).outcome = .ok l) :
    (∀ name, name ∈ l.outputNames ↔
        (∃ e ∈ l.entries, e.name = some name ∧ e.parameter.isOutput = true) ∨
          ∃ i p, c.LeftOut declared columns l i p name) ∧
      (c.config.isFunction = false → ∀ name, (c.learn l).scalarName = some name →
        (∃ e ∈ l.entries, e.name = some name ∧ e.parameter.isOutput = true) ∨
          ∃ i p, c.LeftOut declared columns l i p name) := by
  refine ⟨fun name => mem_outputNames_iff h, fun hf name hscalar => ?_⟩
  have hhead : l.outputNames.head? = some name := by
    rw [← hscalar, CallContext.scalarName, if_neg (by simpa [CallContext.learn] using hf)]
    rfl
  exact (mem_outputNames_iff h).1 (List.mem_of_head? hhead)

/-- A declared output of a column in another letter case, and an output made for a column. -/
theorem outputs_of_reconcile_count_items :
    let c := CallContext.start (.procedure "count_items") (.generic Fixtures.mySql)
    let declared := [Parameter.output "TOTAL" .integer]
    let columns := [Fixtures.column "total" .output .integer 1,
      Fixtures.column "largest" .output .integer 2]
    ∃ l, (c.reconcile declared columns).outcome = .ok l ∧
      (∀ name, name ∈ l.outputNames ↔
          (∃ e ∈ l.entries, e.name = some name ∧ e.parameter.isOutput = true) ∨
            ∃ i p, c.LeftOut declared columns l i p name) ∧
        (c.config.isFunction = false → ∀ name, (c.learn l).scalarName = some name →
          (∃ e ∈ l.entries, e.name = some name ∧ e.parameter.isOutput = true) ∨
            ∃ i p, c.LeftOut declared columns l i p name) := by
  intro c declared columns
  obtain ⟨l, hl⟩ := c.exists_reconcile_of_procedure declared columns rfl
  exact ⟨l, hl, outputs_of_reconcile hl⟩

/-- A declared output that no column has is the one result of a procedure, and no parameter of the
call has its name. -/
theorem scalar_names_no_parameter :
    let c := CallContext.start (.procedure "p") (.generic Fixtures.mySql)
    let declared := [Parameter.output "a" .integer]
    let columns := [Fixtures.column "b" .input .integer 1]
    ∃ l, (c.reconcile declared columns).outcome = .ok l ∧ l.outputNames = ["a"] ∧
      (c.learn l).scalarName = some "a" ∧ l.entries.map (·.name) = [some "b"] := by
  intro c declared columns
  have run : (c.plan declared).Run (c.draft declared columns) columns _ :=
    .cons (by decide +kernel) (.nil _)
  exact ⟨_, CallContext.reconcile_of_run rfl (List.mergeSort_singleton _) run, by decide +kernel,
    by decide +kernel, by decide +kernel⟩

end

end StoredCall
