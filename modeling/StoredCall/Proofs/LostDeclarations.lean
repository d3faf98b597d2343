import StoredCall.Proofs.OutputNames

/-!
# Declarations that are left out

Every declared parameter is a parameter of the call, or one report tells that it is left out and
why.

* `Event.lost?`: the position that a report on a left-out declaration names, and
  `Event.isSome_lost?_iff`: these are the reports with one of four texts;
* `Judged`: the verdict on the declaration at a position, and `exists_judged`: no other verdict
  reports on that position;
* `entry_mem_iff_of_run`: after the columns, the declarations that are placed are those whose names
  are taken;
* `CallContext.Loss`: why a declaration is left out, with its report;
* `placedOrReported_of_reconcile`: each declaration is placed once or reported once.
-/

namespace StoredCall

/-! ### Reports on declarations that are left out -/

/-- The position of the declaration that the report tells to be left out. -/
def Event.lost? : Event → Option ℕ
  | unnamedDeclaration i _ => some i
  | shadowedDeclaration i _ => some i
  | duplicateDeclaration i _ => some i
  | unreportedDeclaration i _ => some i
  | _ => none

/-- The level and the text of a line. -/
def LogLine.heading? : LogLine → Option (Level × String)
  | message level text _ => some (level, text)
  | _ => none

/-- How a log tells that a declaration is left out. -/
def lossHeadings : List (Level × String) :=
  [(.warn, "ignoring declared parameter without a name"),
   (.warn, "ignoring declared parameter shadowed by a result set of the same name"),
   (.warn, "ignoring duplicate declaration; the first declaration is kept"),
   (.debug, "declared parameter not reported by column metadata; leaving it out")]

theorem Event.isSome_lost?_iff (e : Event) :
    e.lost?.isSome = true ↔ ∃ heading ∈ lossHeadings, e.line.heading? = some heading := by
  cases e <;> simp [lost?, line, about, LogLine.heading?, lossHeadings]

theorem Decision.lost?_of_mem_events {v : Decision} {e : Event} (he : e ∈ v.events) :
    e.lost? = none := by
  cases v with
  | reuse role name k => cases role <;> (cases List.mem_singleton.1 he; rfl)
  | add role name kind p => cases role <;> (cases List.mem_singleton.1 he; rfl)
  | skipUnnamed role kind => cases role <;> (cases List.mem_singleton.1 he; rfl)
  | returnMissing => cases he
  | _ => cases List.mem_singleton.1 he; rfl

/-- What alone in a list has a mark is all that is found by it. -/
theorem filter_eq_singleton_of_nodup {α β : Type} [DecidableEq β] {f : α → Option β} {l : List α}
    {a : α} {b : β} (hnodup : (l.filterMap f).Nodup) (ha : a ∈ l) (hb : f a = some b) :
    l.filter (f · = some b) = [a] := by
  induction l with
  | nil => cases ha
  | cons x l ih =>
    have hlater : ∀ y ∈ l, f y = some b → b ∈ l.filterMap f := fun y hy h =>
      List.mem_filterMap.2 ⟨y, hy, h⟩
    cases hx : f x with
    | none =>
      rw [List.filterMap_cons_none hx] at hnodup
      have ha : a ∈ l := (List.mem_cons.1 ha).resolve_left fun he => by rw [he, hx] at hb; cases hb
      rw [List.filter_cons_of_neg (by simp [hx]), ih hnodup ha]
    | some m =>
      rw [List.filterMap_cons_some hx, List.nodup_cons] at hnodup
      by_cases hm : m = b
      · subst hm
        have hrest : l.filter (f · = some m) = [] :=
          List.filter_eq_nil_iff.2 fun y hy h => hnodup.1 (hlater y hy (of_decide_eq_true h))
        obtain rfl : a = x :=
          (List.mem_cons.1 ha).resolve_right fun hmem => hnodup.1 (hlater a hmem hb)
        rw [List.filter_cons_of_pos (by simp [hx]), hrest]
      · have ha : a ∈ l := (List.mem_cons.1 ha).resolve_left fun he => by
          rw [he, hx] at hb
          exact hm (Option.some.inj hb)
        rw [List.filter_cons_of_neg (by simp [hx, hm]), ih hnodup.2 ha]

/-! ### One verdict for each declaration -/

/-- The verdicts on the parameter declared at a position, with their conditions. -/
inductive Judged (d : Dialect) (hidden seen : List String) (i : ℕ) (p : Parameter) :
    Admission → Prop
  | resultSet (set : p.isResultSet = true) : Judged d hidden seen i p (.resultSet (.declared i p))
  | unnamed (ordinary : p.isResultSet = false) (unnamed : p.name = none) :
      Judged d hidden seen i p (.unnamed i p.direction)
  | shadowed (name : String) (ordinary : p.isResultSet = false) (named : p.name = some name)
      (taken : d.normalize name ∈ hidden) : Judged d hidden seen i p (.shadowed i name)
  | duplicate (name : String) (ordinary : p.isResultSet = false) (named : p.name = some name)
      (taken : d.normalize name ∈ seen) : Judged d hidden seen i p (.duplicate i name)
  | kept (name : String) : Judged d hidden seen i p (.kept ⟨i, name, d.normalize name, p⟩)

section Verdict

variable {d : Dialect} {declared ps : List Parameter} {hidden seen : List String} {i j : ℕ}
  {p : Parameter} {a : Admission} {taker : Option Kept} {e : Event}

theorem judged_admissionOf (d : Dialect) (hidden seen : List String) (i : ℕ) (p : Parameter) :
    Judged d hidden seen i p (admissionOf d hidden seen i p) := by
  unfold admissionOf
  cases hset : p.isResultSet with
  | true => exact .resultSet hset
  | false =>
    cases hname : p.name with
    | none => exact .unnamed hset hname
    | some name =>
      simp only [Bool.false_eq_true, if_false]
      split
      · exact .shadowed name hset hname ‹_›
      · split
        · exact .duplicate name hset hname ‹_›
        · exact .kept name

/-- The reports on a declaration name its position. -/
theorem Judged.lost?_eq (h : Judged d hidden seen i p a) (he : e ∈ a.events taker)
    (hj : e.lost? = some j) : j = i := by
  cases h with
  | resultSet => cases he
  | unnamed | shadowed | duplicate =>
    cases List.mem_singleton.1 he
    exact (Option.some.inj hj).symm
  | kept name =>
    rw [Admission.events] at he
    split at he
    · cases List.mem_singleton.1 he
      cases hj
    · cases he

theorem le_of_mem_admissionsFrom
    (he : e ∈ (admissionsFrom d hidden seen i ps).flatMap (·.events taker))
    (hj : e.lost? = some j) : i ≤ j := by
  induction ps generalizing seen i with
  | nil => cases he
  | cons p ps ih =>
    rw [admissionsFrom, List.flatMap_cons, List.mem_append] at he
    rcases he with he | he
    · exact ((judged_admissionOf d hidden seen i p).lost?_eq he hj).ge
    · exact Nat.le_of_succ_le (ih he)

/-- The normalized name of a parameter that is declared before the position. -/
def DeclaredBefore (d : Dialect) (ps : List Parameter) (j : ℕ) (key : String) : Prop :=
  ∃ j' < j, ∃ q, ps[j']? = some q ∧ q.isResultSet = false ∧
    ∃ m, q.name = some m ∧ d.normalize m = key

/-- Of all verdicts only the one on the declaration at a position reports on that position, and the
names it has seen are those declared before. -/
theorem exists_judged (hp : ps[j]? = some p) (taker : Option Kept) :
    ∃ seen' a, (∀ key ∈ seen', key ∈ seen ∨ DeclaredBefore d ps j key) ∧
      Judged d hidden seen' (i + j) p a ∧ a ∈ admissionsFrom d hidden seen i ps ∧
      ((admissionsFrom d hidden seen i ps).flatMap (·.events taker)).filter
          (·.lost? = some (i + j)) =
        (a.events taker).filter (·.lost? = some (i + j)) := by
  induction ps generalizing seen i j with
  | nil => cases hp
  | cons q ps ih =>
    have hq := judged_admissionOf d hidden seen i q
    rw [admissionsFrom, List.flatMap_cons, List.filter_append]
    cases j with
    | zero =>
      obtain rfl : q = p := Option.some.inj hp
      refine ⟨seen, _, fun key hkey => Or.inl hkey, hq, List.mem_cons_self, ?_⟩
      -- the later verdicts report on later positions
      have hlater : ((admissionsFrom d hidden
          ((admissionOf d hidden seen i q).kept?.toList.map (·.key) ++ seen) (i + 1) ps).flatMap
            (·.events taker)).filter (·.lost? = some (i + 0)) = [] := by
        refine List.filter_eq_nil_iff.2 fun e he hlost => ?_
        have hle := le_of_mem_admissionsFrom he (of_decide_eq_true hlost)
        omega
      rw [hlater, List.append_nil]
    | succ j =>
      obtain ⟨seen', a, hseen, hjudged, hmem, hfilter⟩ :=
        @ih ((admissionOf d hidden seen i q).kept?.toList.map (·.key) ++ seen) (i + 1) j hp
      have hposition : i + 1 + j = i + (j + 1) := by omega
      rw [hposition] at hjudged hfilter
      have hfirst : ((admissionOf d hidden seen i q).events taker).filter
          (·.lost? = some (i + (j + 1))) = [] := by
        refine List.filter_eq_nil_iff.2 fun e he hlost => ?_
        have heq := hq.lost?_eq he (of_decide_eq_true hlost)
        omega
      refine ⟨seen', a, fun key hkey => ?_, hjudged, List.mem_cons_of_mem _ hmem, ?_⟩
      · rcases hseen key hkey with hmem | ⟨j', hj', q', hq', hrest⟩
        · rcases List.mem_append.1 hmem with hmem | hmem
          · -- the first declaration was kept under the name
            obtain ⟨k, hk, rfl⟩ := List.mem_map.1 hmem
            obtain ⟨-, -, hset, hname, hkey, -⟩ := kept?_admissionOf.1 (Option.mem_toList.1 hk)
            exact Or.inr ⟨0, Nat.succ_pos j, q, rfl, hset, k.name, hname, hkey.symm⟩
          · exact Or.inl hmem
        · exact Or.inr ⟨j' + 1, Nat.succ_lt_succ hj', q', hq', hrest⟩
      · rw [hfirst, List.nil_append]
        exact hfilter

end Verdict

namespace CallContext

variable (c : CallContext) (declared : List Parameter) (columns : List Column)

/-- Why the parameter declared at a position is left out, with the report that tells so. -/
inductive Loss (i : ℕ) (p : Parameter) : Event → Prop
  | unnamed (ordinary : p.isResultSet = false) (unnamed : p.name = none) :
      Loss i p (.unnamedDeclaration i p.direction)
  | shadowed (name : String) (ordinary : p.isResultSet = false) (named : p.name = some name)
      (taken : c.dialect.normalize name ∈ resultSetKeys c.dialect declared) :
      Loss i p (.shadowedDeclaration i name)
  | duplicate (name : String) (ordinary : p.isResultSet = false) (named : p.name = some name)
      (taken : DeclaredBefore c.dialect declared i (c.dialect.normalize name)) :
      Loss i p (.duplicateDeclaration i name)
  | unreported (name : String) (used : c.columnsUsed = true)
      (kept : IsKept c.dialect declared i p name)
      (unreported : ∀ column ∈ columns, ∀ n, column.name = some n →
        c.dialect.normalize n ≠ c.dialect.normalize name) :
      Loss i p (.unreportedDeclaration i name)

/-- The parameter declared at a position is placed once and no report tells that it is left out, or
it is not placed and one report tells why. -/
def PlacedOrReported (l : ParameterList) (i : ℕ) (p : Parameter) : Prop :=
  (l.entries.filter (·.position? = some i) = [.declared i p] ∧
      (c.reconcile declared columns).events.filter (·.lost? = some i) = []) ∨
    (l.entries.filter (·.position? = some i) = [] ∧
      ∃ e, c.Loss declared columns i p e ∧
        (c.reconcile declared columns).events.filter (·.lost? = some i) = [e])

/-- The call is a function, or all its return columns have names. -/
def ReturnsNamed : Prop :=
  c.config.isFunction = true ∨
    ∀ column ∈ columns, column.kind = .returned → column.name.isSome = true

end CallContext

section

variable {c : CallContext} {declared : List Parameter} {columns : List Column} {l : ParameterList}
  {i : ℕ} {p : Parameter} {k : Kept} {e : Entry}

/-! ### The parameters of the call -/

theorem parameter_eq_of_position (hk : k ∈ keptOf c.dialect declared)
    (hp : declared[k.position]? = some p) : k.parameter = p :=
  Option.some.inj ((mem_keptOf_iff.1 hk).1.declared_at.symm.trans hp)

theorem isKept_of_position (hk : k ∈ keptOf c.dialect declared)
    (hp : declared[k.position]? = some p) : IsKept c.dialect declared k.position p k.name :=
  parameter_eq_of_position hk hp ▸ (mem_keptOf_iff.1 hk).1

theorem cases_of_position (h : (c.reconcile declared columns).outcome = .ok l) (he : e ∈ l.entries)
    (hi : e.position? = some i) (hp : declared[i]? = some p) :
    e = .declared i p ∧ (p.isResultSet = true ∨
      ∃ k ∈ keptOf c.dialect declared, k.position = i ∧ k.parameter = p) := by
  rcases cases_of_mem_entries h he with hmem | ⟨k, hk, rfl⟩ | ⟨q, n, rfl, -⟩
  · obtain ⟨j, q, hq, hset, rfl⟩ := mem_declaredResultSets.1 hmem
    obtain rfl : j = i := Option.some.inj hi
    obtain rfl : q = p := Option.some.inj (hq.symm.trans hp)
    exact ⟨rfl, Or.inl hset⟩
  · obtain rfl : k.position = i := Option.some.inj hi
    obtain rfl := parameter_eq_of_position hk hp
    exact ⟨rfl, Or.inr ⟨k, hk, rfl, rfl⟩⟩
  · cases hi

theorem entry_not_mem_declaredResultSets (hk : k ∈ keptOf c.dialect declared) :
    k.entry ∉ declaredResultSets declared := by
  intro hmem
  obtain ⟨i, p, -, hset, he⟩ := mem_declaredResultSets.1 hmem
  obtain rfl : k.parameter = p := congrArg Entry.parameter he
  rw [no_resultSet_of_mem_kept hk] at hset
  cases hset

theorem eq_of_entry_eq {k' : Kept} (hk : k ∈ keptOf c.dialect declared)
    (hk' : k' ∈ keptOf c.dialect declared) (he : k'.entry = k.entry) : k' = k :=
  eq_of_position_eq hk' hk (Option.some.inj (congrArg Entry.position? he))

theorem nodup_positions_declaredEntries :
    ((c.declaredEntries declared).filterMap (·.position?)).Nodup := by
  have hkept : ((keptOf c.dialect declared).map (·.entry)).filterMap (·.position?) =
      (keptOf c.dialect declared).map (·.position) := by
    rw [List.filterMap_map, ← List.filterMap_eq_map]
    rfl
  rw [CallContext.declaredEntries, resultSetsOf_eq, List.filterMap_append, hkept]
  refine List.nodup_append.2 ⟨nodup_positions_declaredResultSets declared, ?_, ?_⟩
  · exact List.pairwise_map.2 ((keptOf_pairwise _ _).imp fun hab => Nat.ne_of_lt hab.1)
  · rintro i hi j hj rfl
    obtain ⟨p, hp, hset⟩ := isResultSet_of_mem_positions hi
    obtain ⟨k, hk, rfl⟩ := List.mem_map.1 hj
    obtain rfl := parameter_eq_of_position hk hp
    exact entry_not_mem_declaredResultSets hk (mem_declaredResultSets.2 ⟨_, _, hp, hset, rfl⟩)

theorem nodup_positions_of_reconcile (h : (c.reconcile declared columns).outcome = .ok l) :
    (l.entries.filterMap (·.position?)).Nodup := by
  obtain ⟨-, rfl⟩ | ⟨-, last, run, rfl⟩ := CallContext.cases_of_reconcile h
  · exact nodup_positions_declaredEntries
  · obtain ⟨ps, hentries, -, hfrom, hpairs⟩ :=
      run.placements (indexedColumns columns) map_fst_indexedColumns
    have hentries : last.entries = declaredResultSets declared ++ ps.map (·.entry) :=
      hentries.trans (congrArg (· ++ _) (resultSetsOf_eq c.dialect declared))
    show (last.entries.filterMap (·.position?)).Nodup
    rw [hentries, List.filterMap_append]
    exact List.nodup_append.2 ⟨nodup_positions_declaredResultSets declared,
      nodup_positions_of_from hpairs hfrom, ne_of_mem_positions hfrom⟩

theorem filter_position_eq (h : (c.reconcile declared columns).outcome = .ok l) (he : e ∈ l.entries)
    (hi : e.position? = some i) : l.entries.filter (·.position? = some i) = [e] :=
  filter_eq_singleton_of_nodup (nodup_positions_of_reconcile h) he hi

theorem key_mem_taken_of_run {last : Draft}
    (run : (c.plan declared).Run (c.draft declared columns) (inOrdinalOrder columns) last)
    (hk : k ∈ keptOf c.dialect declared) (hplaced : k.entry ∈ last.entries) :
    k.key ∈ last.taken := by
  have hall : ∀ k ∈ keptOf c.dialect declared, k.entry ∈ last.entries → k.key ∈ last.taken := by
    refine run.invariant (P := fun d => ∀ k ∈ keptOf c.dialect declared,
      k.entry ∈ d.entries → k.key ∈ d.taken) ?_ ?_
    · intro d column v hv _ hd k hk hmem
      rw [Draft.entries_apply, List.mem_append] at hmem
      rcases hmem with hmem | hmem
      · exact d.taken_subset_apply v (hd k hk hmem)
      · obtain ⟨⟨key, entry⟩, hx, he⟩ := List.mem_map.1 hmem
        rw [Draft.taken_apply]
        refine List.mem_append_left _ (List.mem_map.2 ⟨_, hx, ?_⟩)
        cases hv.origin (Option.mem_toList.1 hx) with
        | declared k' kept => rw [eq_of_entry_eq hk kept he]
        | named | unnamed => cases he
    · intro k hk hmem
      have hmem : k.entry ∈ resultSetsOf c.dialect declared := hmem
      rw [resultSetsOf_eq] at hmem
      exact absurd hmem (entry_not_mem_declaredResultSets hk)
  exact hall k hk hplaced

theorem not_takenByReturn {key : String} (hreturns : c.ReturnsNamed columns) :
    ¬ c.TakenByReturn columns key := by
  rintro ⟨hprocedure, ⟨column, hcolumn, hkind, hname⟩, -⟩
  rcases hreturns with hf | hnamed
  · rw [hprocedure] at hf
    cases hf
  · have hsome := hnamed column hcolumn hkind
    rw [hname] at hsome
    cases hsome

/-- With columns, a declaration that takes part is placed exactly if its name is taken. -/
theorem entry_mem_iff_of_run {last : Draft} (hreturns : c.ReturnsNamed columns)
    (run : (c.plan declared).Run (c.draft declared columns) (inOrdinalOrder columns) last)
    (hk : k ∈ keptOf c.dialect declared) : k.entry ∈ last.entries ↔ k.key ∈ last.taken := by
  refine ⟨key_mem_taken_of_run run hk, fun hkey => ?_⟩
  exact (keptPlaced_of_run run k hk hkey).resolve_right (not_takenByReturn hreturns)

/-! ### The reports -/

/-- The reports on a position are those on its declaration, and the closing one with columns. -/
theorem filter_lost_events (h : (c.reconcile declared columns).outcome = .ok l) (i : ℕ) :
    (c.reconcile declared columns).events.filter (·.lost? = some i) =
      (c.declarationEvents declared columns).filter (·.lost? = some i) ++
        if c.columnsUsed then (c.leftOut declared columns).filter (·.lost? = some i) else [] := by
  have hcolumns : c.columnsUsed = true → (c.columnEvents declared columns).filter
      (·.lost? = some i) = (c.leftOut declared columns).filter (·.lost? = some i) := by
    intro hused
    have hok : (c.columnList declared columns).isOk = true := by
      rw [CallContext.reconcile, Attempt.outcome_of, CallContext.parameterList, if_pos hused] at h
      rw [h]
      rfl
    have hdecisions : ((c.decisions declared columns).flatMap (·.events)).filter
        (·.lost? = some i) = [] := by
      refine List.filter_eq_nil_iff.2 fun e he hlost => ?_
      obtain ⟨v, -, hmem⟩ := List.mem_flatMap.1 he
      rw [Decision.lost?_of_mem_events hmem] at hlost
      cases of_decide_eq_true hlost
    rw [CallContext.columnEvents, hok, List.filter_append, hdecisions]
    rfl
  rw [CallContext.reconcile, Attempt.events_of, CallContext.reconcileEvents, List.filter_append,
    List.filter_cons_of_neg (by simp [Event.lost?])]
  cases hused : c.columnsUsed with
  | false => rfl
  | true => rw [if_pos rfl, if_pos rfl, hcolumns hused]

theorem filter_lost_leftOut (hk : k ∈ keptOf c.dialect declared) :
    (c.leftOut declared columns).filter (·.lost? = some k.position) =
      if k.key ∈ (c.placed declared columns).taken then []
      else [.unreportedDeclaration k.position k.name] := by
  have hone : (keptOf c.dialect declared).filter (some ·.position = some k.position) = [k] := by
    refine filter_eq_singleton_of_nodup ?_ hk rfl
    rw [List.filterMap_eq_map']
    exact List.pairwise_map.2 ((keptOf_pairwise _ _).imp fun hab => Nat.ne_of_lt hab.1)
  have hfilter : (c.leftOut declared columns).filter (·.lost? = some k.position) =
      (([k] : List Kept).filter (·.key ∉ (c.placed declared columns).taken)).map
        fun k => .unreportedDeclaration k.position k.name := by
    rw [CallContext.leftOut, List.filter_map, ← hone, List.filter_comm]
    rfl
  rw [hfilter]
  split <;> rename_i hkey <;> simp [hkey]

theorem filter_lost_leftOut_of_not_kept (h : ∀ k ∈ keptOf c.dialect declared, k.position ≠ i) :
    (c.leftOut declared columns).filter (·.lost? = some i) = [] := by
  refine List.filter_eq_nil_iff.2 fun e he hlost => ?_
  obtain ⟨k, hk, rfl⟩ := List.mem_map.1 he
  exact h k (List.mem_of_mem_filter hk) (Option.some.inj (of_decide_eq_true hlost))

/-! ### One declaration -/

section Declaration

variable {a : Admission} (h : (c.reconcile declared columns).outcome = .ok l)
  (hp : declared[i]? = some p)
  (hfilter : (c.declarationEvents declared columns).filter (·.lost? = some i) =
    (a.events (c.returnTaker? declared columns)).filter (·.lost? = some i))

include h hp hfilter

theorem placedOrReported_of_resultSet (ha : a = .resultSet (.declared i p))
    (hset : p.isResultSet = true) : c.PlacedOrReported declared columns l i p := by
  have hmem : Entry.declared i p ∈ declaredResultSets declared :=
    mem_declaredResultSets.2 ⟨i, p, hp, hset, rfl⟩
  have hplaced : Entry.declared i p ∈ l.entries := by
    rw [← resultSetsOf_eq c.dialect declared] at hmem
    obtain ⟨-, rfl⟩ | ⟨-, last, run, rfl⟩ := CallContext.cases_of_reconcile h
    · exact List.mem_append_left _ hmem
    · obtain ⟨ps, hentries, -⟩ := run.placements (indexedColumns columns) map_fst_indexedColumns
      have hentries : last.finish.entries = _ := hentries
      rw [hentries]
      exact List.mem_append_left _ hmem
  have hkept : ∀ k ∈ keptOf c.dialect declared, k.position ≠ i := by
    rintro k hk rfl
    obtain rfl := parameter_eq_of_position hk hp
    exact entry_not_mem_declaredResultSets hk hmem
  refine Or.inl ⟨filter_position_eq h hplaced rfl, ?_⟩
  rw [filter_lost_events h, hfilter, ha, filter_lost_leftOut_of_not_kept hkept]
  simp [Admission.events]

/-- A declaration that does not take part is not placed, and reported where it is refused. -/
theorem placedOrReported_of_refused {report : Event}
    (hevents : a.events (c.returnTaker? declared columns) = [report])
    (hlost : report.lost? = some i) (hloss : c.Loss declared columns i p report)
    (hset : p.isResultSet = false) (hkept : ∀ k ∈ keptOf c.dialect declared, k.position ≠ i) :
    c.PlacedOrReported declared columns l i p := by
  refine Or.inr ⟨List.filter_eq_nil_iff.2 fun x hx hi => ?_, report, hloss, ?_⟩
  · rcases (cases_of_position h hx (of_decide_eq_true hi) hp).2 with hres | ⟨k, hk, hi, -⟩
    · rw [hset] at hres
      cases hres
    · exact hkept k hk hi
  · rw [filter_lost_events h, hfilter, hevents, filter_lost_leftOut_of_not_kept hkept]
    simp [hlost]

/-- A declaration that takes part is placed, or reported after the columns. -/
theorem placedOrReported_of_kept (ha : a = .kept k) (hreturns : c.ReturnsNamed columns)
    (hk : k ∈ keptOf c.dialect declared) (hi : k.position = i) :
    c.PlacedOrReported declared columns l i p := by
  subst hi
  obtain ⟨hkept, hkey⟩ := mem_keptOf_iff.1 hk
  obtain rfl := parameter_eq_of_position hk hp
  have hnone : (a.events (c.returnTaker? declared columns)).filter
      (·.lost? = some k.position) = [] := by
    rw [ha, Admission.events]
    split <;> simp [Event.lost?]
  have hevents := filter_lost_events h k.position
  rw [hfilter, hnone, List.nil_append] at hevents
  obtain ⟨hused, rfl⟩ | ⟨hused, last, run, rfl⟩ := CallContext.cases_of_reconcile h
  · have hplaced : k.entry ∈ (c.declaredList declared columns).entries :=
      List.mem_append_right _ (List.mem_map_of_mem hk)
    rw [hused] at hevents
    exact Or.inl ⟨filter_position_eq h hplaced rfl, hevents⟩
  have htaken : (c.placed declared columns).taken = last.taken :=
    congrArg Draft.taken (Plan.run_iff.1 run).2
  rw [if_pos hused, filter_lost_leftOut hk, htaken] at hevents
  by_cases hkeytaken : k.key ∈ last.taken
  · have hplaced : k.entry ∈ last.finish.entries :=
      (entry_mem_iff_of_run hreturns run hk).2 hkeytaken
    rw [if_pos hkeytaken] at hevents
    exact Or.inl ⟨filter_position_eq h hplaced rfl, hevents⟩
  · have habsent : k.entry ∉ last.finish.entries := fun hplaced =>
      hkeytaken ((entry_mem_iff_of_run hreturns run hk).1 hplaced)
    have hunreported := (unreported_of_absent hused h hk habsent).resolve_right
      (not_takenByReturn hreturns)
    rw [if_neg hkeytaken] at hevents
    refine Or.inr ⟨List.filter_eq_nil_iff.2 fun x hx hi => ?_, _,
      .unreported k.name hused hkept (hkey ▸ hunreported), hevents⟩
    obtain ⟨rfl, -⟩ := cases_of_position h hx (of_decide_eq_true hi) hp
    exact habsent hx

end Declaration

/-! ### All declarations -/

/-- Every declaration is placed once and not reported as left out, or it is not placed and one
report tells why. These reports are the ones with four texts of a log. -/
theorem placedOrReported_of_reconcile (hreturns : c.ReturnsNamed columns)
    (h : (c.reconcile declared columns).outcome = .ok l) :
    (∀ i p, declared[i]? = some p → c.PlacedOrReported declared columns l i p) ∧
      ∀ report : Event, report.lost?.isSome = true ↔
        ∃ heading ∈ lossHeadings, report.line.heading? = some heading := by
  refine ⟨fun i p hp => ?_, Event.isSome_lost?_iff⟩
  obtain ⟨seen, a, hseen, hjudged, hmem, hfilter⟩ :=
    @exists_judged c.dialect declared (resultSetKeys c.dialect declared) [] 0 i p hp
      (c.returnTaker? declared columns)
  rw [Nat.zero_add] at hjudged hfilter
  cases hjudged with
  | resultSet set => exact placedOrReported_of_resultSet h hp hfilter rfl set
  | unnamed ordinary unnamed =>
    refine placedOrReported_of_refused h hp hfilter rfl rfl (.unnamed ordinary unnamed) ordinary ?_
    rintro k hk rfl
    have hnamed := (isKept_of_position hk hp).named
    rw [unnamed] at hnamed
    cases hnamed
  | shadowed name ordinary named taken =>
    refine placedOrReported_of_refused h hp hfilter rfl rfl (.shadowed name ordinary named taken)
      ordinary ?_
    rintro k hk rfl
    have hkept := isKept_of_position hk hp
    obtain rfl : name = k.name := Option.some.inj (named.symm.trans hkept.named)
    exact not_mem_resultSetKeys_of_mem_keptOf hk ((mem_keptOf_iff.1 hk).2 ▸ taken)
  | duplicate name ordinary named taken =>
    have hearlier := (hseen _ taken).resolve_left List.not_mem_nil
    refine placedOrReported_of_refused h hp hfilter rfl rfl
      (.duplicate name ordinary named hearlier) ordinary ?_
    rintro k hk rfl
    have hkept := isKept_of_position hk hp
    obtain rfl : name = k.name := Option.some.inj (named.symm.trans hkept.named)
    obtain ⟨j, hj, q, hq, -, m, hm, hsame⟩ := hearlier
    exact hkept.first j hj q hq m hm hsame
  | kept name =>
    have hk : Kept.mk i name (c.dialect.normalize name) p ∈ keptOf c.dialect declared :=
      List.mem_filterMap.2 ⟨_, hmem, rfl⟩
    exact placedOrReported_of_kept h hp hfilter rfl hreturns hk rfl

/-- A declaration of a column, one of no column, and one that has the name of the first. -/
theorem placedOrReported_of_reconcile_add_user :
    let c := CallContext.start (.procedure "add_user") (.sqlServer Fixtures.sqlServer)
    let declared := [Parameter.input "USER_NAME" .nvarchar, .output "seen" .integer,
      .input "@user_name" .nvarchar]
    let columns := Fixtures.sqlServerAddUser.columns
    c.ReturnsNamed columns ∧ ∃ l, (c.reconcile declared columns).outcome = .ok l ∧
      c.PlacedOrReported declared columns l 0 (.input "USER_NAME" .nvarchar) ∧
      l.entries.map (·.position?) = [some 0, none] ∧
      (∃ e, c.Loss declared columns 1 (.output "seen" .integer) e ∧
        (c.reconcile declared columns).events.filter (·.lost? = some 1) = [e]) ∧
      ∃ e, c.Loss declared columns 2 (.input "@user_name" .nvarchar) e ∧
        (c.reconcile declared columns).events.filter (·.lost? = some 2) = [e] := by
  intro c declared columns
  have hreturns : c.ReturnsNamed columns := Or.inr (by decide)
  have hsorted : inOrdinalOrder columns = columns := List.mergeSort_of_pairwise (by decide)
  have run : (c.plan declared).Run (c.draft declared columns) columns _ :=
    .cons (by decide +kernel) (.cons (by decide +kernel) (.cons (by decide +kernel) (.nil _)))
  have hl := CallContext.reconcile_of_run rfl hsorted run
  have hall := (placedOrReported_of_reconcile hreturns hl).1
  refine ⟨hreturns, _, hl, hall 0 _ rfl, by decide +kernel, ?_, ?_⟩
  · refine ((hall 1 _ rfl).resolve_left ?_).2
    rintro ⟨hplaced, -⟩
    exact absurd (congrArg List.length hplaced) (by decide +kernel)
  · refine ((hall 2 _ rfl).resolve_left ?_).2
    rintro ⟨hplaced, -⟩
    exact absurd (congrArg List.length hplaced) (by decide +kernel)

end

end StoredCall
