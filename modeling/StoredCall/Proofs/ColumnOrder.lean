import StoredCall.Fixtures
import StoredCall.Proofs.Compilation
import StoredCall.Proofs.OrdinalOrder
import StoredCall.Proofs.OrdinaryColumns

/-!
# The order in which columns are reported

The parameters of a call depend on its columns through their ordinal order only, and so a call
compiles alike whether its source tells the columns or they are given in any order.

* `reconcile_congr`: columns of one ordinal order give one parameter list, or one error;
* `CallDefinition.candidates`: the signatures that a call may mean;
* `CallDefinition.outcome_compile_of_found`: a compilation by what is found;
* `compile_of_candidates`: the outcome for no, one and several candidates.
-/

namespace StoredCall

/-! ### Parameter lists -/

section

variable {c : CallContext} {declared : List Parameter} {columns columns' : List Column}
  (h : inOrdinalOrder columns = inOrdinalOrder columns')

include h

theorem mem_reportedKeys_congr {key : String} :
    key ∈ c.reportedKeys columns ↔ key ∈ c.reportedKeys columns' := by
  rw [← mem_reportedKeys_inOrdinalOrder, h, mem_reportedKeys_inOrdinalOrder]

theorem declaredReturnName_congr :
    c.declaredReturnName declared columns = c.declaredReturnName declared columns' := by
  have htaker : c.returnTaker? declared columns = c.returnTaker? declared columns' := by
    unfold CallContext.returnTaker? StoredCall.returnTaker?
    cases c.columnsUsed with
    | false => rfl
    | true => simp only [if_true, mem_reportedKeys_congr h]
  unfold CallContext.declaredReturnName
  rw [htaker]

theorem reconcile_congr :
    (c.reconcile declared columns).outcome = (c.reconcile declared columns').outcome := by
  have hname : c.declaredReturnName declared columns = c.declaredReturnName declared columns' :=
    declaredReturnName_congr h
  have hdraft : c.draft declared columns = c.draft declared columns' := by
    unfold CallContext.draft
    rw [hname]
  have hdecisions : c.decisions declared columns = c.decisions declared columns' := by
    unfold CallContext.decisions
    rw [hdraft, h]
  have hlist : c.declaredList declared columns = c.declaredList declared columns' := by
    unfold CallContext.declaredList
    rw [hname]
  unfold CallContext.reconcile CallContext.parameterList CallContext.columnList CallContext.placed
  rw [Attempt.outcome_of, Attempt.outcome_of, hdecisions, hdraft, hlist]

end

/-! ### Compilations -/

namespace CallDefinition

variable {call : CallDefinition} {source : MetadataSource} {dialect : Dialect}
  {columns columns' : List Column} {s : Signature}

theorem compileWith_congr (h : inOrdinalOrder columns = inOrdinalOrder columns') :
    (call.compileWith dialect columns).outcome = (call.compileWith dialect columns').outcome := by
  rw [outcome_compileWith, outcome_compileWith, reconcile_congr h]

/-- The filter by which a call is looked up. -/
def lookupOf (call : CallDefinition) (info : DatabaseInfo) : RoutineName :=
  (call.dialectFor info).value.lookupName call.config.routine

/-- The signatures that a call may mean: those which its look-up admits. -/
def candidates (call : CallDefinition) (source : MetadataSource) : List Signature :=
  source.signatures.filter fun s => (call.lookupOf source.info).admits s.routine

theorem find_eq_candidates (hfailure : source.failure = none) :
    source.find (call.lookupOf source.info) = .ok (call.candidates source) := by
  unfold MetadataSource.find
  rw [hfailure]
  rfl

section

variable (hused : (call.dialectFor source.info).value.columnsUsed = true)

include hused

theorem outcome_compile_of_found (hvalid : call.config.validate = .ok ()) :
    (call.compile source).outcome =
      ((source.loadColumns (call.lookupOf source.info)).value.mapError .metadata).bind
        fun columns => (call.compileWith (call.dialectFor source.info).value columns).outcome := by
  rw [outcome_compile hvalid, outcome_columnsFrom, if_pos hused]
  rfl

theorem outcome_compile_of_load_error {e : MetadataError} (hvalid : call.config.validate = .ok ())
    (h : (source.loadColumns (call.lookupOf source.info)).value = .error e) :
    (call.compile source).outcome = .error (.metadata e) := by
  rw [outcome_compile_of_found hused hvalid, h]
  rfl

/-- A call with one candidate compiles with any columns of the candidate's ordinal order. -/
theorem compile_eq_compileWith (hfailure : source.failure = none)
    (hone : call.candidates source = [s])
    (hcolumns : inOrdinalOrder columns = inOrdinalOrder s.columns) :
    (call.compile source).outcome =
      (call.compileWith (call.dialectFor source.info).value columns).outcome := by
  cases hvalid : call.config.validate with
  | error e =>
    rw [outcome_compile_of_error hvalid, outcome_compileWith, hvalid]
    rfl
  | ok u =>
    have hload : (source.loadColumns (call.lookupOf source.info)).value =
        .ok (inOrdinalOrder s.columns) := by
      refine MetadataSource.loadColumns_of_find_singleton ?_
      rw [find_eq_candidates hfailure, hone]
    rw [outcome_compile_of_found hused hvalid, hload]
    exact compileWith_congr (inOrdinalOrder_inOrdinalOrder.trans hcolumns.symm)

end

end CallDefinition

/-- A call that may mean one routine compiles as with the columns of the routine in any order, if
their ordinals differ. An accepted call that may mean none is not found, and one that may mean
several is ambiguous. -/
theorem compile_of_candidates {call : CallDefinition} {source : MetadataSource}
    (hfailure : source.failure = none)
    (hused : (call.dialectFor source.info).value.columnsUsed = true) :
    (∀ s, call.candidates source = [s] → (s.columns.map (·.ordinal)).Nodup →
        ∀ columns, columns.Perm s.columns →
          (call.compile source).outcome =
            (call.compileWith (call.dialectFor source.info).value columns).outcome) ∧
      (call.config.validate = .ok () → call.candidates source = [] →
        (call.compile source).outcome =
          .error (.metadata (.procedureNotFound (call.lookupOf source.info).text))) ∧
      (call.config.validate = .ok () → 2 ≤ (call.candidates source).length →
        (call.compile source).outcome =
          .error (.metadata (.ambiguousSignature (call.lookupOf source.info).text
            ((call.candidates source).map (·.routine.text))))) := by
  have hfind : source.find (call.lookupOf source.info) = .ok (call.candidates source) :=
    CallDefinition.find_eq_candidates hfailure
  refine ⟨fun s hone hnodup columns hperm => ?_, fun hvalid hnone => ?_, fun hvalid hmany => ?_⟩
  · have hcolumns : inOrdinalOrder columns = inOrdinalOrder s.columns :=
      (inOrdinalOrder_eq_of_perm hperm.symm hnodup).symm
    exact CallDefinition.compile_eq_compileWith hused hfailure hone hcolumns
  · rw [hnone] at hfind
    exact CallDefinition.outcome_compile_of_load_error hused hvalid
      (MetadataSource.loadColumns_of_find_nil hfind)
  · exact CallDefinition.outcome_compile_of_load_error hused hvalid
      (MetadataSource.loadColumns_of_find_many hfind hmany)

theorem compile_of_candidates_add_user :
    let call : CallDefinition := { config := .procedure "add_user" }
    let s := Fixtures.sqlServerAddUser
    let s' : Signature := { s with routine := ⟨none, some "app", "add_user"⟩ }
    let source (signatures : List Signature) : MetadataSource :=
      { info := Fixtures.sqlServer, signatures }
    (call.compile (source [s])).outcome =
        (call.compileWith (call.dialectFor Fixtures.sqlServer).value s.columns.reverse).outcome ∧
      (call.compile (source [])).outcome =
        .error (.metadata (.procedureNotFound "add_user")) ∧
      (call.compile (source [s, s'])).outcome =
        .error (.metadata (.ambiguousSignature "add_user" ["dbo.add_user", "app.add_user"])) := by
  intro call s s' source
  have hused : (call.dialectFor Fixtures.sqlServer).value.columnsUsed = true := by decide +kernel
  have hvalid : call.config.validate = .ok () := by decide +kernel
  have htext : (call.lookupOf Fixtures.sqlServer).text = "add_user" := by decide +kernel
  have hadmits : (call.lookupOf Fixtures.sqlServer).admits s.routine = true := by decide +kernel
  have hadmits' : (call.lookupOf Fixtures.sqlServer).admits s'.routine = true := by decide +kernel
  have hone : call.candidates (source [s]) = [s] := by
    simp [CallDefinition.candidates, source, hadmits]
  have hmany : call.candidates (source [s, s']) = [s, s'] := by
    simp [CallDefinition.candidates, source, hadmits, hadmits']
  have hfailure : ∀ signatures, (source signatures).failure = none := fun _ => rfl
  refine ⟨?_, ?_, ?_⟩
  · exact (compile_of_candidates (hfailure [s]) hused).1 s hone (by decide) _
      s.columns.reverse_perm
  · have hnone := (compile_of_candidates (hfailure []) hused).2.1 hvalid rfl
    rwa [show (source []).info = Fixtures.sqlServer from rfl, htext] at hnone
  · have htwo : 2 ≤ (call.candidates (source [s, s'])).length := by
      rw [hmany]
      decide
    have hfound := (compile_of_candidates (hfailure [s, s']) hused).2.2 hvalid htwo
    rw [hmany] at hfound
    exact hfound.trans (congrArg _ (congrArg _ (by decide +kernel)))

end StoredCall
