import StoredCall.Proofs.OrdinaryColumns
import StoredCall.Proofs.Provenance

/-!
# Where the result of a function goes

Which declaration carries the result of a function when columns are read.

* `CallContext.ReturnState`: what holds of the draft between two columns, with one lemma for an
  ordinary column and one for a return column;
* `CallContext.Landing`: why a declaration gets the result at a return column;
* `return_of_function`: the result goes to a declaration, which is an output unless it has the name
  that a return column or the configuration gives, or all return columns are skipped;
* `reported_of_function`: the declarations of ordinary columns are all placed, and one of them
  carries the result only if a return column comes first to it.
-/

namespace StoredCall

/-! ### Runs that remember the columns read -/

/-- What every decision keeps for the columns read so far, a run keeps for all of them. -/
theorem Plan.Run.invariant_read {plan : Plan} {P : List Column → Draft → Prop}
    {columns read rest : List Column} {d last : Draft} (run : plan.Run d rest last)
    (step : ∀ earlier column later d v, columns = earlier ++ column :: later →
      plan.Verdict d column v → v.missing? = none → P earlier d →
        P (earlier ++ [column]) (d.apply v))
    (hsplit : columns = read ++ rest) (h : P read d) : P columns last := by
  induction run generalizing read with
  | nil d => simpa [hsplit] using h
  | @cons d last column later decided run ih =>
    have hstep := step read column later d _ hsplit (plan.verdict d column) decided h
    exact ih (by simp [hsplit]) hstep

namespace CallContext

variable (c : CallContext) (declared : List Parameter) (columns : List Column)

/-- Every declared output that takes part has the name of an ordinary column. -/
def OutputsReported : Prop :=
  ∀ k ∈ keptOf c.dialect declared, k.isOutput = true → k.key ∈ c.reportedKeys columns

/-- The name of a column belongs to a result set or to an ordinary column before it. -/
def NameTaken (earlier : List Column) (column : Column) : Prop :=
  ∃ n, column.name = some n ∧ (c.dialect.normalize n ∈ resultSetKeys c.dialect declared ∨
    c.dialect.normalize n ∈ c.reportedKeys earlier)

/-- Every return column has a name that is taken before it. -/
def ReturnsSkipped : Prop :=
  ∀ earlier column later, inOrdinalOrder columns = earlier ++ column :: later →
    column.kind = .returned → c.NameTaken declared earlier column

/-- A return column has the name, or the configuration gives it to the result and every declared
output has the name of an ordinary column. -/
def NamesResult (name : String) : Prop :=
  (∃ column ∈ columns, column.kind = .returned ∧
      ∃ n, column.name = some n ∧ c.dialect.normalize n = c.dialect.normalize name) ∨
    c.OutputsReported declared columns ∧
      c.dialect.normalize name = c.dialect.normalize c.config.returnName

/-- A return column stands before all ordinary columns of the name, and it has the name itself, or
every declared output has the name of an ordinary column, or an earlier return column has taken the
output that has not. -/
def ResultFirst (p : Parameter) (name : String) : Prop :=
  ∃ earlier column later, inOrdinalOrder columns = earlier ++ column :: later ∧
    column.kind = .returned ∧ c.dialect.normalize name ∉ c.reportedKeys earlier ∧
      ((∃ n, column.name = some n ∧ c.dialect.normalize n = c.dialect.normalize name) ∨
        c.OutputsReported declared columns ∧ (p.isOutput = true ∨
          c.dialect.normalize name = c.dialect.normalize c.config.returnName) ∨
        p.isOutput = true ∧ ∃ x ∈ earlier, x.kind = .returned)

/-- Why a declaration gets the result at a return column. -/
inductive Landing (k : Kept) (earlier : List Column) (column : Column) : Prop
  /-- The column has its name. -/
  | ownName (n : String) (named : column.name = some n) (same : c.dialect.normalize n = k.key)
  /-- The configuration gives the result its name, and no other output is free for it. -/
  | returnName (reported : c.OutputsReported declared columns)
      (same : k.key = c.dialect.normalize c.config.returnName)
  /-- It is the output that no ordinary column has the name of. -/
  | taker (output : k.isOutput = true) (unreported : k.key ∉ c.reportedKeys columns)
  /-- It is the first output left, for want of one that no ordinary column has the name of. -/
  | firstOutput (output : k.isOutput = true)
      (none_left : c.OutputsReported declared columns ∨ ∃ x ∈ earlier, x.kind = .returned)

/-- What holds of the draft after columns are read. -/
inductive ReturnState (read : List Column) (d : Draft) : Prop
  | pending (index : d.returnIndex = none)
      (name : d.returnName = c.declaredReturnName declared columns)
      (taken : ∀ key ∈ d.taken,
        key ∈ resultSetKeys c.dialect declared ∨ key ∈ c.reportedKeys read)
      (skipped : ∀ earlier column later, read = earlier ++ column :: later →
        column.kind = .returned → c.NameTaken declared earlier column)
  | landed (i : ℕ) (k : Kept) (index : d.returnIndex = some i)
      (entry : d.entries[i]? = some k.entry) (kept : k ∈ keptOf c.dialect declared)
      (taken : k.key ∈ d.taken) (name : d.returnName = k.name)
      (earlier : List Column) (column : Column) (later : List Column)
      (split : read = earlier ++ column :: later) (kind : column.kind = .returned)
      (unread : k.key ∉ c.reportedKeys earlier)
      (reason : c.Landing declared columns k earlier column)

/-- The declarations of the ordinary columns that are read have their names taken. -/
def DeclaredTaken (read : List Column) (d : Draft) : Prop :=
  ∀ k ∈ keptOf c.dialect declared, k.key ∈ c.reportedKeys read → k.key ∈ d.taken

/-- The declarations whose names are taken are placed. -/
def DeclaredPlaced (d : Draft) : Prop :=
  ∀ k ∈ keptOf c.dialect declared, k.key ∈ d.taken → k.entry ∈ d.entries

end CallContext

section

variable {c : CallContext} {declared : List Parameter} {columns read earlier later : List Column}
  {column : Column} {d : Draft} {v : Decision} {k : Kept} {l : ParameterList}

theorem key_of_placement? {x : String × Entry} (hv : (c.plan declared).Verdict d column v)
    (hkind : column.kind ≠ .returned) (hx : v.placement? = some x) :
    ∃ n, column.name = some n ∧ c.dialect.normalize n = x.1 := by
  rw [hv.placement?_of_not_returned hkind] at hx
  obtain ⟨n, hn, hx⟩ := Option.bind_eq_some_iff.1 hx
  refine ⟨n, hn, ?_⟩
  split at hx
  · cases hx; rfl
  · cases hx

/-! ### One column -/

theorem CallContext.DeclaredTaken.step (hv : (c.plan declared).Verdict d column v)
    (h : c.DeclaredTaken declared read d) :
    c.DeclaredTaken declared (read ++ [column]) (d.apply v) := by
  intro k hk hkey
  rw [reportedKeys_append, List.mem_append] at hkey
  rcases hkey with hkey | hkey
  · exact d.taken_subset_apply v (h k hk hkey)
  by_cases htaken : k.key ∈ d.taken
  · exact d.taken_subset_apply v htaken
  -- a free declaration is placed for the column of its name
  obtain ⟨x, hx, hkind, n, hn, hsame⟩ := CallContext.mem_reportedKeys.1 hkey
  obtain rfl := List.mem_singleton.1 hx
  have hfind : ∃ k', (c.plan declared).kept.find? (·.key = c.dialect.normalize n) = some k' := by
    rw [← Option.isSome_iff_exists, List.find?_isSome]
    exact ⟨k, hk, decide_eq_true hsame.symm⟩
  obtain ⟨k', hfind⟩ := hfind
  have hplaces : (c.plan declared).placesUnder d.taken (n, x) = true :=
    Plan.placesUnder_iff.2 ⟨hsame ▸ htaken, Plan.takes_of_find? hfind⟩
  rw [Draft.taken_apply, hv.placement?_of_not_returned hkind,
    Plan.placementFor?_placed hn hplaces, ← hsame]
  exact List.mem_cons_self

theorem of_returnTaker?_eq_some (hused : c.columnsUsed = true)
    (h : c.returnTaker? declared columns = some k) :
    k ∈ keptOf c.dialect declared ∧ k.isOutput = true ∧ k.key ∉ c.reportedKeys columns := by
  rw [CallContext.returnTaker?, if_pos hused] at h
  split at h
  · have hfound := List.find?_some h
    rw [Bool.and_eq_true, decide_eq_true_eq] at hfound
    exact ⟨List.mem_of_find?_eq_some h, hfound⟩
  · cases h

theorem outputsReported_of_returnTaker?_eq_none (hused : c.columnsUsed = true)
    (hf : c.config.isFunction = true) (h : c.returnTaker? declared columns = none) :
    c.OutputsReported declared columns := by
  rw [CallContext.returnTaker?, if_pos hused, if_pos hf, StoredCall.returnTaker?,
    List.find?_eq_none] at h
  intro k hk hout
  have hnot := h k hk
  rw [Bool.and_eq_true, decide_eq_true_eq, not_and, not_not] at hnot
  exact hnot hout

theorem CallContext.ReturnState.landing (hused : c.columnsUsed = true)
    (hf : c.config.isFunction = true) (hsub : read ⊆ columns)
    (h : c.ReturnState declared columns read d)
    (found : (c.plan declared).functionTaker? d column = some k) :
    c.Landing declared columns k read column := by
  rcases Option.or_eq_some_iff.1 found with hreuse | ⟨hreuse, houtput⟩
  · rcases Option.or_eq_some_iff.1 hreuse with hown | ⟨-, hname⟩
    · obtain ⟨n, hn, hfree⟩ := Option.bind_eq_some_iff.1 hown
      obtain ⟨m, hm, rfl⟩ := Plan.nameOf_eq_some hn
      exact .ownName m hm (Plan.free?_eq_some hfree).2.1.symm
    · obtain ⟨hk, hkey, hfree⟩ := Plan.free?_eq_some hname
      cases h with
      | pending index name taken skipped =>
        rw [name, CallContext.declaredReturnName] at hkey
        cases htaker : c.returnTaker? declared columns with
        | none =>
          rw [htaker] at hkey
          exact .returnName (outputsReported_of_returnTaker?_eq_none hused hf htaker) hkey
        | some t =>
          rw [htaker] at hkey
          obtain ⟨ht, hout, hunreported⟩ := of_returnTaker?_eq_some hused htaker
          obtain rfl : k = t := eq_of_key_eq hk ht (hkey.trans (mem_keptOf_iff.1 ht).2.symm)
          exact .taker hout hunreported
      | landed i k' index entry kept taken name =>
        -- the name of the declaration that has the result is taken
        have hkey' : k'.key = (c.plan declared).dialect.normalize d.returnName := by
          rw [name]
          exact (mem_keptOf_iff.1 kept).2
        exact absurd (hkey' ▸ taken) hfree
  · obtain ⟨hk, hout, hfree⟩ := Plan.freeOutput?_eq_some houtput
    cases h with
    | pending index name taken skipped =>
      cases htaker : c.returnTaker? declared columns with
      | none =>
        exact .firstOutput hout (Or.inl (outputsReported_of_returnTaker?_eq_none hused hf htaker))
      | some t =>
        -- the name of `t` is free, and so the result would go to `t`
        obtain ⟨ht, -, hunreported⟩ := of_returnTaker?_eq_some hused htaker
        have hkey : t.key = c.dialect.normalize d.returnName := by
          rw [name, CallContext.declaredReturnName, htaker]
          exact (mem_keptOf_iff.1 ht).2
        have htfree : c.dialect.normalize d.returnName ∉ d.taken := by
          rw [← hkey]
          intro hmem
          rcases taken _ hmem with hhidden | hread
          · exact not_mem_resultSetKeys_of_mem_keptOf ht hhidden
          · exact hunreported (reportedKeys_subset hsub hread)
        have hnone := (Option.or_eq_none_iff.1 hreuse).2
        exact absurd hkey (Plan.free?_eq_none hnone htfree t ht)
    | landed i k' index entry kept taken name earlier column' later split kind =>
      exact .firstOutput hout (Or.inr ⟨column', by rw [split]; simp, kind⟩)

/-- The columns before one that is read last are the ones before it, or stand before these. -/
theorem split_of_append_singleton {x : Column}
    (h : read ++ [column] = earlier ++ x :: later) :
    (earlier = read ∧ x = column) ∨ ∃ later', read = earlier ++ x :: later' := by
  rcases List.eq_nil_or_concat later with rfl | ⟨later', y, rfl⟩
  · obtain ⟨hread, hx⟩ := List.append_inj' h rfl
    exact Or.inl ⟨hread.symm, (List.singleton_inj.1 hx).symm⟩
  · rw [List.concat_eq_append, ← List.cons_append, ← List.append_assoc] at h
    exact Or.inr ⟨later', (List.append_inj' h rfl).1⟩

theorem CallContext.ReturnState.step_ordinary (hv : (c.plan declared).Verdict d column v)
    (hkind : column.kind ≠ .returned) (h : c.ReturnState declared columns read d) :
    c.ReturnState declared columns (read ++ [column]) (d.apply v) := by
  have hindex : (d.apply v).returnIndex = d.returnIndex := hv.returnIndex_of_not_returned hkind
  have hname : (d.apply v).returnName = d.returnName := (hv.of_not_returned hkind).2
  cases h with
  | pending index name taken skipped =>
    refine .pending (hindex.trans index) (hname.trans name) ?_ ?_
    · intro key hkey
      rw [reportedKeys_append, List.mem_append]
      rw [Draft.taken_apply, List.mem_append] at hkey
      rcases hkey with hkey | hkey
      · obtain ⟨x, hx, rfl⟩ := List.mem_map.1 hkey
        obtain ⟨n, hn, hsame⟩ := key_of_placement? hv hkind (Option.mem_toList.1 hx)
        exact Or.inr (Or.inr (CallContext.mem_reportedKeys.2
          ⟨column, List.mem_singleton_self _, hkind, n, hn, hsame⟩))
      · exact (taken key hkey).imp_right Or.inl
    · intro earlier x later hsplit hx
      rcases split_of_append_singleton hsplit with ⟨-, rfl⟩ | ⟨later', hread⟩
      · exact absurd hx hkind
      · exact skipped earlier x later' hread hx
  | landed i k index entry kept taken name earlier x later split kind unread reason =>
    refine .landed i k (hindex.trans index) ?_ kept (d.taken_subset_apply v taken)
      (hname.trans name) earlier x (later ++ [column]) (by simp [split]) kind unread reason
    rw [Draft.entries_apply, List.getElem?_append_left (List.getElem?_eq_some_iff.1 entry).1, entry]

theorem CallContext.ReturnState.step_returned (hused : c.columnsUsed = true)
    (hf : c.config.isFunction = true) (hsub : read ⊆ columns)
    (hv : (c.plan declared).Verdict d column v) (hmissing : v.missing? = none)
    (hkind : column.kind = .returned) (hdeclared : c.DeclaredTaken declared read d)
    (h : c.ReturnState declared columns read d) :
    c.ReturnState declared columns (read ++ [column]) (d.apply v) := by
  cases hv with
  | alreadyBound n named taken' =>
    cases h with
    | pending index name taken skipped =>
      refine .pending index name ?_ ?_
      · intro key hkey
        rw [reportedKeys_append, List.mem_append]
        exact (taken key hkey).imp_right Or.inl
      · intro earlier x later hsplit hx
        rcases split_of_append_singleton hsplit with ⟨rfl, rfl⟩ | ⟨later', hread⟩
        · obtain ⟨m, hm, rfl⟩ := Plan.nameOf_eq_some named
          exact ⟨m, hm, taken _ taken'⟩
        · exact skipped earlier x later' hread hx
    | landed i k index entry kept taken name earlier x later split kind unread reason =>
      exact .landed i k index entry kept taken name earlier x (later ++ [column]) (by simp [split])
        kind unread reason
  | resolveReturn k kind function free found =>
    have hkept : k ∈ keptOf c.dialect declared ∧ k.key ∉ d.taken :=
      Plan.functionTaker?_eq_some found
    refine .landed d.entries.length k rfl ?_ hkept.1 List.mem_cons_self rfl read column []
      rfl hkind (fun hread => hkept.2 (hdeclared k hkept.1 hread)) (h.landing hused hf hsub found)
    rw [Draft.entries_apply]
    simp [Decision.placement?]
  | returnMissing => cases hmissing
  | reuseReturn k kind procedure | bypass kind procedure | addReturn n kind procedure =>
    have hfunction : (c.plan declared).isFunction = true := hf
    rw [hfunction] at procedure
    cases procedure
  | reuseOutput n k kind | addOutput n kind | skipOutput kind =>
    rcases kind with hk | hk <;> rw [hkind] at hk <;> cases hk
  | reuseInput n k kind | addInput n kind | exclude n kind | skipInput kind =>
    rcases kind with hk | hk | hk <;> rw [hkind] at hk <;> cases hk

theorem CallContext.DeclaredPlaced.step (hf : c.config.isFunction = true)
    (hv : (c.plan declared).Verdict d column v) (h : c.DeclaredPlaced declared d) :
    c.DeclaredPlaced declared (d.apply v) := by
  intro k hk hkey
  rw [Draft.entries_apply, List.mem_append]
  rw [Draft.taken_apply, List.mem_append] at hkey
  rcases hkey with hkey | hkey
  · right
    obtain ⟨⟨key, entry⟩, hx, hsame⟩ := List.mem_map.1 hkey
    have hsame : key = k.key := hsame
    have hentry : entry = k.entry := by
      cases hv.origin (Option.mem_toList.1 hx) with
      | declared k' kept =>
        obtain rfl : k' = k := eq_of_key_eq kept hk hsame
        rfl
      | named n p named free undeclared => exact absurd hsame.symm (undeclared k hk)
      | unnamed p kind unnamed procedure =>
        have hfunction : (c.plan declared).isFunction = true := hf
        rw [hfunction] at procedure
        cases procedure
    exact List.mem_map.2 ⟨_, hx, hentry⟩
  · exact Or.inl (h k hk hkey)

/-! ### All columns -/

theorem returnEntry?_finish {last : Draft} {i : ℕ} {e : Entry} (index : last.returnIndex = some i)
    (entry : last.entries[i]? = some e) : last.finish.returnEntry? = some e := by
  rw [ParameterList.returnEntry?, Draft.finish, index]
  exact entry

/-- What holds after all columns of a function call. -/
theorem returnState_of_reconcile (hused : c.columnsUsed = true) (hf : c.config.isFunction = true)
    (h : (c.reconcile declared columns).outcome = .ok l) :
    ∃ last, l = last.finish ∧ c.DeclaredPlaced declared last ∧
      c.DeclaredTaken declared (inOrdinalOrder columns) last ∧
      c.ReturnState declared columns (inOrdinalOrder columns) last := by
  obtain ⟨last, run, rfl⟩ := CallContext.run_of_reconcile hused h
  have hplaced : c.DeclaredPlaced declared last := by
    refine run.invariant (fun d column v hv _ hd => hd.step hf hv) ?_
    exact fun k hk hkey => absurd hkey (not_mem_resultSetKeys_of_mem_keptOf hk)
  have hboth : c.DeclaredTaken declared (inOrdinalOrder columns) last ∧
      c.ReturnState declared columns (inOrdinalOrder columns) last := by
    refine run.invariant_read (P := fun read d => c.DeclaredTaken declared read d ∧
      c.ReturnState declared columns read d) ?_ (List.nil_append _).symm ⟨?_, ?_⟩
    · rintro read column later d v hsplit hv hmissing ⟨hdeclared, hstate⟩
      have hsub : read ⊆ columns := by
        intro x hx
        have hmem : x ∈ inOrdinalOrder columns := by rw [hsplit]; exact List.mem_append_left _ hx
        exact List.mem_mergeSort.1 hmem
      refine ⟨hdeclared.step hv, ?_⟩
      by_cases hkind : column.kind = .returned
      · exact hstate.step_returned hused hf hsub hv hmissing hkind hdeclared
      · exact hstate.step_ordinary hv hkind
    · intro k hk hkey
      simp [CallContext.reportedKeys] at hkey
    · exact .pending rfl rfl (fun key hkey => Or.inl hkey) (by simp)
  exact ⟨last, rfl, hplaced, hboth⟩

/-! ### The parameter that carries the result -/

/-- Columns give a parameter list, or the result of a function finds no taker. -/
theorem reconcile_cases (hused : c.columnsUsed = true) (declared : List Parameter)
    (columns : List Column) :
    (∃ name, (c.reconcile declared columns).outcome =
        .error (.configuration (.returnNotDeclared name))) ∨
      ∃ l, (c.reconcile declared columns).outcome = .ok l := by
  rw [CallContext.reconcile, Attempt.outcome_of, CallContext.parameterList, if_pos hused,
    CallContext.columnList]
  split
  · exact Or.inl ⟨_, rfl⟩
  · exact Or.inr ⟨_, rfl⟩

/-- The call of a function has no parameter list, or its result goes to a declaration that takes
part, or the names of all its return columns are taken before them. The declaration is an output
unless it has the name that a return column or the configuration gives to the result. -/
theorem return_of_function (hused : c.columnsUsed = true) (hf : c.config.isFunction = true) :
    (∃ name, (c.reconcile declared columns).outcome =
        .error (.configuration (.returnNotDeclared name))) ∨
      ∃ l, (c.reconcile declared columns).outcome = .ok l ∧
        ((∃ i p name, IsKept c.dialect declared i p name ∧
            l.returnEntry? = some (.declared i p) ∧
              (p.isOutput = true ∨ c.NamesResult declared columns name)) ∨
          l.returnIndex = none ∧ c.ReturnsSkipped declared columns) := by
  rcases reconcile_cases hused declared columns with herror | ⟨l, hl⟩
  · exact Or.inl herror
  refine Or.inr ⟨l, hl, ?_⟩
  obtain ⟨last, rfl, -, -, hstate⟩ := returnState_of_reconcile hused hf hl
  cases hstate with
  | pending index name taken skipped => exact Or.inr ⟨index, skipped⟩
  | landed i k index entry kept taken name earlier x later split kind unread reason =>
    obtain ⟨hkept, hkey⟩ := mem_keptOf_iff.1 kept
    have hentry : last.finish.returnEntry? = some k.entry := returnEntry?_finish index entry
    have hx : x ∈ columns := by
      have hmem : x ∈ inOrdinalOrder columns := by rw [split]; simp
      exact List.mem_mergeSort.1 hmem
    refine Or.inl ⟨k.position, k.parameter, k.name, hkept, hentry, ?_⟩
    cases reason with
    | ownName n named same =>
      exact Or.inr (Or.inl ⟨x, hx, kind, n, named, same.trans hkey⟩)
    | returnName reported same => exact Or.inr (Or.inr ⟨reported, hkey.symm.trans same⟩)
    | taker output => exact Or.inl output
    | firstOutput output => exact Or.inl output

/-- A return column without a name. -/
def unnamedReturn : Column := { name := none, kind := .returned, sqlType := .integer, ordinal := 0 }

theorem return_of_function_greeting :
    let c := CallContext.start (.function "get_greeting") (.sqlServer Fixtures.sqlServer)
    let declared := [Parameter.input "first_name" .nvarchar, .returned "greeting" .nvarchar]
    let columns := Fixtures.sqlServerGetGreeting.columns
    c.columnsUsed = true ∧ c.config.isFunction = true ∧
      ((∃ name, (c.reconcile declared columns).outcome =
          .error (.configuration (.returnNotDeclared name))) ∨
        ∃ l, (c.reconcile declared columns).outcome = .ok l ∧
          ((∃ i p name, IsKept c.dialect declared i p name ∧
              l.returnEntry? = some (.declared i p) ∧
                (p.isOutput = true ∨ c.NamesResult declared columns name)) ∨
            l.returnIndex = none ∧ c.ReturnsSkipped declared columns)) :=
  ⟨rfl, rfl, return_of_function rfl rfl⟩

/-- The result of a function goes to a declared input of the configured return name. -/
theorem function_result_in_input :
    let c := CallContext.start (.function "f") (.generic Fixtures.mySql)
    let declared := [Parameter.input "return" .integer]
    c.columnsUsed = true ∧ c.config.isFunction = true ∧
      ∃ l, (c.reconcile declared [unnamedReturn]).outcome = .ok l ∧
        l.returnEntry?.map (fun e => (e.position?, e.parameter.isOutput)) =
          some (some 0, false) := by
  intro c declared
  have hused : c.columnsUsed = true := rfl
  have run : (c.plan declared).Run (c.draft declared [unnamedReturn]) [unnamedReturn] _ :=
    .cons (by decide +kernel) (.nil _)
  have hl := CallContext.reconcile_of_run hused (List.mergeSort_singleton _) run
  exact ⟨hused, rfl, _, hl, by decide +kernel⟩

theorem exists_kept_of_returnEntry? (hused : c.columnsUsed = true)
    (hf : c.config.isFunction = true) (h : (c.reconcile declared columns).outcome = .ok l)
    {e : Entry} (he : l.returnEntry? = some e) : ∃ k ∈ keptOf c.dialect declared, k.entry = e := by
  obtain ⟨last, rfl, -, -, hstate⟩ := returnState_of_reconcile hused hf h
  cases hstate with
  | pending index =>
    rw [ParameterList.returnEntry?, Draft.finish, index] at he
    cases he
  | landed j k index entry kept =>
    exact ⟨k, kept, Option.some.inj ((returnEntry?_finish index entry).symm.trans he)⟩

/-- In the call of a function every declaration that has the name of an ordinary column is placed,
and it carries the result only if a return column comes first to it. -/
theorem reported_of_function (hused : c.columnsUsed = true) (hf : c.config.isFunction = true)
    (h : (c.reconcile declared columns).outcome = .ok l) :
    (∀ i p name, IsKept c.dialect declared i p name →
        c.dialect.normalize name ∈ c.reportedKeys columns → .declared i p ∈ l.entries) ∧
      ∀ i p name, l.returnEntry? = some (.declared i p) → p.name = some name →
        c.dialect.normalize name ∈ c.reportedKeys columns →
          c.ResultFirst declared columns p name := by
  obtain ⟨last, rfl, hplaced, htaken, hstate⟩ := returnState_of_reconcile hused hf h
  constructor
  · intro i p name hkept hreported
    have hk : Kept.mk i name (c.dialect.normalize name) p ∈ keptOf c.dialect declared :=
      mem_keptOf_iff.2 ⟨hkept, rfl⟩
    exact hplaced _ hk (htaken _ hk (mem_reportedKeys_inOrdinalOrder.2 hreported))
  · intro i p name hreturn hname hreported
    cases hstate with
    | pending index =>
      rw [ParameterList.returnEntry?, Draft.finish, index] at hreturn
      cases hreturn
    | landed j k index entry kept taken hreturnName earlier x later split kind unread reason =>
      obtain ⟨hkept, hkey⟩ := mem_keptOf_iff.1 kept
      have hentry : some (Entry.declared i p) = some k.entry :=
        hreturn.symm.trans (returnEntry?_finish index entry)
      obtain ⟨rfl, rfl⟩ : i = k.position ∧ p = k.parameter := by
        simpa [Kept.entry] using hentry
      obtain rfl : name = k.name := Option.some.inj (hname.symm.trans hkept.named)
      rw [CallContext.ResultFirst, ← hkey]
      rw [← hkey] at hreported
      refine ⟨earlier, x, later, split, kind, unread, ?_⟩
      cases reason with
      | ownName n named same => exact Or.inl ⟨n, named, same⟩
      | returnName reported same => exact Or.inr (Or.inl ⟨reported, Or.inr same⟩)
      | taker output unreported => exact absurd hreported unreported
      | firstOutput output none_left =>
        rcases none_left with hall | hearlier
        · exact Or.inr (Or.inl ⟨hall, Or.inl output⟩)
        · exact Or.inr (Or.inr ⟨output, hearlier⟩)

/-- A return column comes first, and the first of two reported outputs carries the result. -/
theorem reported_of_function_new_id :
    let c := CallContext.start (.function "f") (.generic Fixtures.mySql)
    let newId := Parameter.output "new_id" .integer
    let total := Parameter.output "total" .integer
    let columns := [unnamedReturn, Fixtures.column "new_id" .output .integer 1,
      Fixtures.column "total" .output .integer 2]
    c.columnsUsed = true ∧ c.config.isFunction = true ∧
      ∃ l, (c.reconcile [newId, total] columns).outcome = .ok l ∧
        l.returnEntry? = some (.declared 0 newId) ∧
        c.dialect.normalize "new_id" ∈ c.reportedKeys columns ∧
        c.ResultFirst [newId, total] columns newId "new_id" ∧
        .declared 1 total ∈ l.entries := by
  intro c newId total columns
  have hused : c.columnsUsed = true := rfl
  have hsorted : inOrdinalOrder columns = columns := List.mergeSort_of_pairwise (by decide)
  obtain ⟨last, run, hposition⟩ : ∃ last,
      (c.plan [newId, total]).Run (c.draft [newId, total] columns) columns last ∧
        last.finish.returnEntry?.map (·.position?) = some (some 0) :=
    ⟨_, .cons (by decide +kernel) (.cons (by decide +kernel) (.cons (by decide +kernel) (.nil _))),
      by decide +kernel⟩
  have hl := CallContext.reconcile_of_run hused hsorted run
  -- what takes part is known by its position
  have hkept : ∀ k ∈ keptOf c.dialect [newId, total],
      IsKept c.dialect [newId, total] k.position k.parameter k.name :=
    fun k hk => (mem_keptOf_iff.1 hk).1
  have hreturn : last.finish.returnEntry? = some (.declared 0 newId) := by
    obtain ⟨e, he, hzero⟩ := Option.map_eq_some_iff.1 hposition
    obtain ⟨k, hk, rfl⟩ := exists_kept_of_returnEntry? hused rfl hl he
    have hfirst : k.position = 0 := Option.some.inj hzero
    have hdeclared := (hkept k hk).declared_at
    rw [hfirst] at hdeclared
    have hnew : some newId = some k.parameter := hdeclared
    rw [he, Kept.entry, hfirst, Option.some.inj hnew]
  have htotal : IsKept c.dialect [newId, total] 1 total "total" := by
    obtain ⟨k, hk, hone, hname⟩ : ∃ k ∈ keptOf c.dialect [newId, total],
        k.position = 1 ∧ k.name = "total" := by decide +kernel
    have hsecond := hkept k hk
    rw [hone, hname] at hsecond
    have hparameter : some total = some k.parameter := hsecond.declared_at
    rwa [← Option.some.inj hparameter] at hsecond
  obtain ⟨hplaced, hresult⟩ := reported_of_function hused rfl hl
  have hreported : c.dialect.normalize "new_id" ∈ c.reportedKeys columns := by decide +kernel
  exact ⟨hused, rfl, _, hl, hreturn, hreported, hresult 0 newId "new_id" hreturn rfl hreported,
    hplaced 1 total "total" htotal (by decide +kernel)⟩

/-- The result of a function goes to the declared output of an ordinary column, and that column is
left without a placeholder. -/
theorem function_result_in_reported_output :
    let c := CallContext.start (.function "f") (.generic Fixtures.mySql)
    let declared := [Parameter.output "a" .integer]
    let columns := [unnamedReturn, Fixtures.column "a" .output .integer 1]
    c.columnsUsed = true ∧ c.config.isFunction = true ∧
      ∃ l, (c.reconcile declared columns).outcome = .ok l ∧
        l.returnEntry?.map (fun e => (e.position?, e.name)) = some (some 0, some "a") ∧
          c.dialect.normalize "a" ∈ c.reportedKeys columns ∧ l.entries.length = 1 := by
  intro c declared columns
  have hused : c.columnsUsed = true := rfl
  have hsorted : inOrdinalOrder columns = columns := List.mergeSort_of_pairwise (by decide)
  have run : (c.plan declared).Run (c.draft declared columns) columns _ :=
    .cons (by decide +kernel) (.cons (by decide +kernel) (.nil _))
  have hl := CallContext.reconcile_of_run hused hsorted run
  exact ⟨hused, rfl, _, hl, by decide +kernel, by decide +kernel, by decide +kernel⟩

end

end StoredCall
