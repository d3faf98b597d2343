import StoredCall.Fixtures
import StoredCall.Proofs.ColumnRun

/-!
# Processing twice

What a context finds out is where its next reconciliation starts from. With at most one return
column, reconciling again finds out nothing new.

* `CallContext.processKept`: processing on a context that is kept, and `processKept_value` that this
  is `CallContext.process` with the context kept on a failure;
* `Plan.Run.again`: a run that starts from the return name that it ends with decides every column
  as before and ends as before;
* `reconcile_learn`: a context that knows its parameter list finds the same list, with the same
  reports;
* `process_again`: processing twice is processing once, and a failure changes nothing.
-/

namespace StoredCall

/-! ### Processing on a context that is kept -/

/-- What comes after an attempt goes on from its outcome, and adds to its reports. -/
theorem Attempt.run_bind_eq {α β : Type} {x : Attempt α} {o : Except CallError α}
    (h : x.outcome = o) (f : Except CallError α → Traced β) :
    x.run >>= f = ⟨(f o).value, x.events ++ (f o).events⟩ := by
  subst h
  rfl

namespace CallContext

/-- Finds the parameters of a call, and keeps in its context what they tell. -/
def processKept (declared : List Parameter) (columns : List Column) :
    StateT CallContext Traced (Except CallError ParameterList) := do
  let found ← StateT.lift ((← get).reconcile declared columns).run
  if let .ok l := found then
    modify (·.learn l)
  return found

variable (c : CallContext) (declared : List Parameter) (columns : List Column)

theorem run_processKept :
    (processKept declared columns).run c =
      ⟨((c.reconcile declared columns).outcome,
        match (c.reconcile declared columns).outcome with
        | .ok l => c.learn l
        | .error _ => c), (c.reconcile declared columns).events⟩ := by
  simp only [processKept, StateT.run_bind, StateT.run_get, StateT.run_lift, pure_bind, bind_assoc]
  cases h : (c.reconcile declared columns).outcome <;>
    rw [Attempt.run_bind_eq h] <;> exact congrArg (Traced.mk _) (List.append_nil _)

theorem outcome_process :
    (c.process declared columns).outcome =
      (c.reconcile declared columns).outcome.map fun l => (l, c.learn l) := by
  rw [process, Attempt.outcome_bind]
  cases (c.reconcile declared columns).outcome <;> rfl

/-- The context that is kept is the one that processing gives, or the old one if it gives none. -/
theorem processKept_value :
    ((processKept declared columns).run c).value =
      match (c.process declared columns).outcome with
      | .ok (l, c') => (.ok l, c')
      | .error e => (.error e, c) := by
  rw [run_processKept, outcome_process]
  cases (c.reconcile declared columns).outcome <;> rfl

end CallContext

/-! ### Another return name to start from -/

/-- The draft with another return name. -/
def Draft.named (d : Draft) (name : String) : Draft := { d with returnName := name }

namespace Plan

variable {plan : Plan} {d d' last : Draft} {column : Column} {rest : List Column} {k : Kept}
  {v : Decision} {name : String}

theorem decisionFor_named (hkind : column.kind ≠ .returned) :
    plan.decisionFor (d.named name) column = plan.decisionFor d column := by
  unfold decisionFor
  cases hk : column.kind with
  | returned => exact absurd hk hkind
  | _ => cases column.name <;> rfl

theorem Verdict.apply_named (h : plan.Verdict d column v) (hkind : column.kind ≠ .returned) :
    (d.named name).apply v = (d.apply v).named name := by
  cases h with
  | resolveReturn k kind | returnMissing kind | reuseReturn k kind | bypass kind
  | addReturn n kind => exact absurd kind hkind
  | alreadyBound | skipOutput | skipInput | exclude | reuseOutput | addOutput | reuseInput
  | addInput => rfl

/-- Only the result of a function changes the return name. -/
theorem Verdict.returnName_cases (h : plan.Verdict d column v) (hmissing : v.missing? = none) :
    (d.apply v).returnName = d.returnName ∨ ∃ k, v = .resolveReturn k := by
  cases h with
  | resolveReturn k => exact Or.inr ⟨k, rfl⟩
  | returnMissing => cases hmissing
  | _ => exact Or.inl rfl

theorem decisions_cons (h : (plan.decisionFor d column).missing? = none) :
    plan.decisions d (column :: rest) =
      plan.decisionFor d column :: plan.decisions (d.apply (plan.decisionFor d column)) rest := by
  rw [decisions, h]
  rfl

/-- A run from one draft ends as given, and decides the columns as they are decided from another. -/
structure Retraces (plan : Plan) (d d' : Draft) (columns : List Column) (last : Draft) : Prop where
  run : plan.Run d' columns last
  decisions_eq : plan.decisions d' columns = plan.decisions d columns

theorem Retraces.cons (decided : (plan.decisionFor d column).missing? = none)
    (same : plan.decisionFor d' column = plan.decisionFor d column)
    (later : plan.Retraces (d.apply (plan.decisionFor d column))
      (d'.apply (plan.decisionFor d column)) rest last) :
    plan.Retraces d d' (column :: rest) last := by
  have decided' : (plan.decisionFor d' column).missing? = none := same ▸ decided
  refine ⟨.cons decided' (same ▸ later.run), ?_⟩
  rw [decisions_cons decided', decisions_cons decided, same, later.decisions_eq]

end Plan

section

variable {c : CallContext} {declared : List Parameter} {columns rest : List Column}
  {column : Column} {d last : Draft} {k : Kept} {l : ParameterList}

theorem functionTaker?_named (h : (c.plan declared).functionTaker? d column = some k) :
    (c.plan declared).functionTaker? (d.named k.name) column = some k := by
  obtain ⟨hk, hfree⟩ := Plan.functionTaker?_eq_some h
  have hnamed : (c.plan declared).free? (d.named k.name) (c.dialect.normalize k.name) = some k := by
    rw [← (mem_keptOf_iff.1 hk).2]
    exact (if_neg hfree).trans (find?_key_of_mem_keptOf hk)
  -- a declaration that the name of the column means comes before the one of the return name
  rw [Plan.functionTaker?, Plan.returnReuse?] at h ⊢
  cases hown : ((c.plan declared).nameOf column).bind fun n =>
      (c.plan declared).free? d (Text.lower n) with
  | none => exact Option.or_eq_some_iff.2 (Or.inl (Option.or_eq_some_iff.2 (Or.inr ⟨hown, hnamed⟩)))
  | some own =>
    rw [hown, Option.some_or, Option.some_or] at h
    exact Option.or_eq_some_iff.2 (Or.inl (Option.or_eq_some_iff.2 (Or.inl (hown.trans h))))

/-- The result of a function goes where it goes if it has the name of what takes it. -/
theorem decisionFor_again (h : (c.plan declared).Verdict d column (.resolveReturn k)) :
    (c.plan declared).decisionFor (d.named k.name) column = .resolveReturn k := by
  cases h with
  | resolveReturn _ kind function free found =>
    have hfree : ∀ n, (c.plan declared).nameOf column = some n →
        Text.lower n ∉ (d.named k.name).taken := free
    rw [Plan.decisionFor_returned function kind hfree, functionTaker?_named found]

/-! ### Runs -/

theorem Plan.Run.returnName_eq {plan : Plan} (run : plan.Run d columns last)
    (h : ∀ x ∈ columns, x.kind ≠ .returned) : last.returnName = d.returnName :=
  run.invariant_of_mem (P := fun d' => d'.returnName = d.returnName)
    (fun _ _ _ hmem hv _ hd => (hv.of_not_returned (h _ hmem)).2.trans hd) rfl

/-- A run over columns with at most one return value goes the same way from the return name that it
ends with. -/
theorem Plan.Run.again (run : (c.plan declared).Run d columns last)
    (hone : (columns.filter (·.kind = .returned)).length ≤ 1) :
    (c.plan declared).Retraces d (d.named last.returnName) columns last := by
  induction run with
  | nil d => exact ⟨.nil d, rfl⟩
  | @cons d last column rest decided later ih =>
    have hv := (c.plan declared).verdict d column
    by_cases hkind : column.kind = .returned
    · -- no return value follows, and so the run ends with the return name after this one
      have hrest : ∀ x ∈ rest, x.kind ≠ .returned := by
        rw [List.filter_cons_of_pos (by simpa using hkind), List.length_cons] at hone
        have hnil := List.length_eq_zero_iff.1 (Nat.le_zero.1 (Nat.le_of_succ_le_succ hone))
        exact fun x hx he => List.filter_eq_nil_iff.1 hnil x hx (decide_eq_true he)
      have hlast := later.returnName_eq hrest
      rcases hv.returnName_cases decided with hsame | ⟨k, hk⟩
      · have hd : d.named last.returnName = d := by
          rw [hlast.trans hsame]
          rfl
        rw [hd]
        exact ⟨.cons decided later, rfl⟩
      · rw [hk] at hv later hlast
        have hname : last.returnName = k.name := hlast
        rw [hname]
        refine .cons decided ((decisionFor_again hv).trans hk.symm) ?_
        rw [hk]
        exact ⟨later, rfl⟩
    · rw [List.filter_cons_of_neg (by simpa using hkind)] at hone
      refine .cons decided (decisionFor_named hkind) ?_
      rw [hv.apply_named hkind]
      exact ih hone

/-! ### The parameter list -/

/-- A context that knows its parameter list starts from the return name of the list, unless a
declared output takes the result. -/
theorem declaredReturnName_learn (c : CallContext) (declared : List Parameter)
    (columns : List Column) (l : ParameterList) :
    (c.learn l).declaredReturnName declared columns = c.declaredReturnName declared columns ∨
      (c.learn l).declaredReturnName declared columns = l.returnName := by
  have htaker : (c.learn l).returnTaker? declared columns = c.returnTaker? declared columns := rfl
  rw [CallContext.declaredReturnName, CallContext.declaredReturnName, htaker]
  cases c.returnTaker? declared columns with
  | none => exact Or.inr rfl
  | some k => exact Or.inl rfl

theorem declaredList_learn (c : CallContext) (declared : List Parameter) (columns : List Column) :
    (c.learn (c.declaredList declared columns)).declaredList declared columns =
      c.declaredList declared columns := by
  have hname : (c.learn (c.declaredList declared columns)).declaredReturnName declared columns =
      c.declaredReturnName declared columns :=
    (declaredReturnName_learn c declared columns _).elim id id
  rw [CallContext.declaredList, hname]
  rfl

section Columns

variable (hone : (columns.filter (·.kind = .returned)).length ≤ 1)
  (run : (c.plan declared).Run (c.draft declared columns) (inOrdinalOrder columns) last)

include hone run

theorem retraces_learn :
    (c.plan declared).Retraces (c.draft declared columns)
      ((c.learn last.finish).draft declared columns) (inOrdinalOrder columns) last := by
  have hsorted : ((inOrdinalOrder columns).filter (·.kind = .returned)).length ≤ 1 := by
    have hperm := List.mergeSort_perm columns fun a b => a.ordinal ≤ b.ordinal
    exact Nat.le_trans (Nat.le_of_eq (hperm.filter (·.kind = .returned)).length_eq) hone
  have hdraft : (c.learn last.finish).draft declared columns = (c.draft declared columns).named
      ((c.learn last.finish).declaredReturnName declared columns) := rfl
  rcases declaredReturnName_learn c declared columns last.finish with hname | hname <;>
    rw [hdraft, hname]
  · exact ⟨run, rfl⟩
  · exact run.again hsorted

theorem decisions_learn :
    (c.learn last.finish).decisions declared columns = c.decisions declared columns :=
  (retraces_learn hone run).decisions_eq

theorem placed_learn :
    (c.learn last.finish).placed declared columns = c.placed declared columns :=
  (Plan.run_iff.1 (retraces_learn hone run).run).2.trans (Plan.run_iff.1 run).2.symm

theorem columnList_learn :
    (c.learn last.finish).columnList declared columns = c.columnList declared columns := by
  rw [CallContext.columnList, CallContext.columnList, decisions_learn hone run,
    placed_learn hone run]

theorem columnEvents_learn :
    (c.learn last.finish).columnEvents declared columns = c.columnEvents declared columns := by
  rw [CallContext.columnEvents, CallContext.columnEvents, CallContext.leftOut, CallContext.leftOut,
    decisions_learn hone run, columnList_learn hone run, placed_learn hone run]
  rfl

end Columns

/-- A context that knows its parameter list finds it again, with the same reports. -/
theorem reconcile_learn (hone : (columns.filter (·.kind = .returned)).length ≤ 1)
    (h : (c.reconcile declared columns).outcome = .ok l) :
    (c.learn l).reconcile declared columns = c.reconcile declared columns := by
  have husedAgain : (c.learn l).columnsUsed = c.columnsUsed := rfl
  have hbegun : (c.learn l).declarationEvents declared columns =
      c.declarationEvents declared columns := rfl
  unfold CallContext.reconcile CallContext.parameterList CallContext.reconcileEvents
  rw [husedAgain, hbegun]
  rcases CallContext.cases_of_reconcile h with ⟨hunused, rfl⟩ | ⟨hused, last, run, rfl⟩
  · rw [hunused, declaredList_learn]
    rfl
  · rw [if_pos hused, if_pos hused, if_pos hused, if_pos hused, columnList_learn hone run,
      columnEvents_learn hone run]
    rfl

/-- Processing again with the same inputs, at most one of the columns a return value, gives the same
result and the same context. So it does on a context that is kept, with the same reports, and a
failure leaves that context as it was. -/
theorem process_again (c : CallContext) (declared : List Parameter) (columns : List Column)
    (hone : (columns.filter (·.kind = .returned)).length ≤ 1) :
    (∀ l c', (c.process declared columns).outcome = .ok (l, c') →
        (c'.process declared columns).outcome = .ok (l, c')) ∧
      let first := (CallContext.processKept declared columns).run c
      (CallContext.processKept declared columns).run first.value.2 = first ∧
        ∀ e, first.value.1 = .error e → first.value.2 = c := by
  have hprocess := c.outcome_process declared columns
  have hfirst := c.run_processKept declared columns
  cases h : (c.reconcile declared columns).outcome with
  | error e =>
    rw [h] at hprocess hfirst
    rw [hprocess, hfirst]
    exact ⟨fun l c' hc => (by cases hc), hfirst, fun _ _ => rfl⟩
  | ok l =>
    have hagain := reconcile_learn hone h
    rw [h] at hprocess hfirst
    rw [hprocess, hfirst]
    refine ⟨?_, ?_, fun e he => (by cases he)⟩
    · intro l' c' hc
      obtain ⟨rfl, rfl⟩ := Prod.mk.inj (Except.ok.inj hc)
      rw [CallContext.outcome_process, hagain, h]
      rfl
    · show (CallContext.processKept declared columns).run (c.learn l) = _
      rw [CallContext.run_processKept, hagain, h]
      rfl

/-- The result goes to the output that is left, and from then on it has the name of that output. -/
theorem process_again_new_id :
    let c := CallContext.start (.function "f") (.generic Fixtures.mySql)
    let declared := [Parameter.output "new_id" .integer]
    let columns := [{ Fixtures.column "f" .returned .integer 0 with name := none },
      Fixtures.column "new_id" .output .integer 1]
    (columns.filter (·.kind = .returned)).length ≤ 1 ∧
      (∃ l c', (c.process declared columns).outcome = .ok (l, c') ∧
        c.config.returnName = "return" ∧ c'.config.returnName = "new_id" ∧
          (c'.process declared columns).outcome = .ok (l, c')) ∧
      let first := (CallContext.processKept declared columns).run c
      (CallContext.processKept declared columns).run first.value.2 = first ∧
        ∀ e, first.value.1 = .error e → first.value.2 = c := by
  intro c declared columns
  have hone : (columns.filter (·.kind = .returned)).length ≤ 1 := by decide
  have hsorted : inOrdinalOrder columns = columns := List.mergeSort_of_pairwise (by decide)
  have run : (c.plan declared).Run (c.draft declared columns) columns _ :=
    .cons (by decide +kernel) (.cons (by decide +kernel) (.nil _))
  have hl := c.outcome_process declared columns
  rw [CallContext.reconcile_of_run rfl hsorted run] at hl
  obtain ⟨hagain, hkept⟩ := process_again c declared columns hone
  exact ⟨hone, ⟨_, _, hl, by decide +kernel, by decide +kernel, hagain _ _ hl⟩, hkept⟩

end

end StoredCall
