import StoredCall.Call
import StoredCall.Proofs.ColumnRun

/-!
# What a compilation gives

The outcome of a compilation in terms of its parts.

* `MetadataSource.loadColumns_of_find_nil`, `MetadataSource.loadColumns_of_find_singleton`,
  `MetadataSource.loadColumns_of_find_many`: the columns of no, one and several routines found;
* `compileWith_eq_ok_iff`: a call compiles to the parameter list and text of its reconciliation,
  provided that its configuration is accepted;
* `exists_compileWith_of_procedure`: the call of a procedure compiles if its configuration is
  accepted;
* `compile_eq_ok_iff`: the same with what a source of metadata tells.
-/

namespace StoredCall

theorem info_forFamily (info : DatabaseInfo) : (Dialect.forFamily info).info = info := by
  unfold Dialect.forFamily
  split <;> rfl

namespace MetadataSource

variable {source : MetadataSource} {lookup : RoutineName} {found : List Signature}

theorem loadColumns_of_find_nil (h : source.find lookup = .ok []) :
    (source.loadColumns lookup).value = .error (.procedureNotFound lookup.text) := by
  unfold loadColumns signature
  rw [h]
  rfl

theorem loadColumns_of_find_singleton {s : Signature} (h : source.find lookup = .ok [s]) :
    (source.loadColumns lookup).value = .ok (inOrdinalOrder s.columns) := by
  unfold loadColumns signature
  rw [h]
  rfl

theorem loadColumns_of_find_many (h : source.find lookup = .ok found) (hmany : 2 ≤ found.length) :
    (source.loadColumns lookup).value =
      .error (.ambiguousSignature lookup.text (found.map (·.routine.text))) := by
  unfold loadColumns signature
  rw [h]
  match found, hmany with
  | _ :: _ :: _, _ => rfl

end MetadataSource

namespace CallDefinition

variable {call : CallDefinition} {dialect : Dialect} {columns : List Column}

/-- The compiled call for a parameter list. -/
def compiledFor (call : CallDefinition) (dialect : Dialect) (l : ParameterList) : CompiledCall :=
  let context := (CallContext.start call.config dialect).learn l
  { definition := call, context, parameters := l, text := context.callText l }

/-- What is learnt from a parameter list does not change the text of the call. -/
theorem text_compiledFor (l : ParameterList) :
    (call.compiledFor dialect l).text = (CallContext.start call.config dialect).callText l := rfl

theorem outcome_compileWith (call : CallDefinition) (dialect : Dialect) (columns : List Column) :
    (call.compileWith dialect columns).outcome =
      call.config.validate.bind fun _ =>
        ((CallContext.start call.config dialect).reconcile call.declared columns).outcome.map
          (call.compiledFor dialect) := by
  unfold compileWith CallContext.process
  rw [Attempt.outcome_bind, Attempt.outcome_of]
  congr 1
  funext _
  rw [Attempt.outcome_bind, Attempt.outcome_bind]
  cases ((CallContext.start call.config dialect).reconcile call.declared columns).outcome <;> rfl

theorem compileWith_eq_ok_iff {compiled : CompiledCall} :
    (call.compileWith dialect columns).outcome = .ok compiled ↔
      call.config.validate = .ok () ∧ ∃ l,
        ((CallContext.start call.config dialect).reconcile call.declared columns).outcome = .ok l ∧
          call.compiledFor dialect l = compiled := by
  rw [outcome_compileWith]
  cases call.config.validate with
  | error e => simp [Except.bind]
  | ok u =>
    cases ((CallContext.start call.config dialect).reconcile call.declared columns).outcome with
    | error e => simp [Except.bind, Except.map]
    | ok l => simp [Except.bind, Except.map]

theorem exists_compileWith_of_procedure (call : CallDefinition) (dialect : Dialect)
    (columns : List Column) (hvalid : call.config.validate = .ok ())
    (hf : call.config.isFunction = false) :
    ∃ compiled, (call.compileWith dialect columns).outcome = .ok compiled := by
  obtain ⟨l, hl⟩ := (CallContext.start call.config dialect).exists_reconcile_of_procedure
    call.declared columns hf
  exact ⟨_, compileWith_eq_ok_iff.2 ⟨hvalid, l, hl, rfl⟩⟩

/-! ### With a source of metadata -/

variable {source : MetadataSource}

theorem info_dialectFor (call : CallDefinition) (info : DatabaseInfo) :
    (call.dialectFor info).value.info = info := by
  simp only [dialectFor, Dialect.forDatabase, Dialect.forCalls, info_forFamily]

theorem outcome_columnsFrom (call : CallDefinition) (source : MetadataSource) (dialect : Dialect) :
    (call.columnsFrom source dialect).outcome =
      if dialect.columnsUsed then
        (source.loadColumns (dialect.lookupName call.config.routine)).value.mapError .metadata
      else .ok [] := by
  unfold columnsFrom
  split
  · rfl
  · rfl

theorem outcome_compile (hvalid : call.config.validate = .ok ()) :
    (call.compile source).outcome =
      (call.columnsFrom source (call.dialectFor source.info).value).outcome.bind fun columns =>
        (call.compileWith (call.dialectFor source.info).value columns).outcome := by
  have hbegin : call.beginCompile.outcome = .ok () := by
    unfold beginCompile
    rw [Attempt.outcome_bind, Attempt.outcome_of, hvalid]
    rfl
  have hlift : ∀ {α β : Type} (x : Traced α) (f : α → Attempt β),
      ((liftM x : Attempt α) >>= f).outcome = (f x.value).outcome := by
    intro α β x f
    rw [Attempt.outcome_bind]
    rfl
  unfold compile finishCompile
  rw [Attempt.outcome_bind, hbegin]
  show Attempt.outcome _ = _
  rw [hlift, hlift, Attempt.outcome_bind]

theorem outcome_compile_of_error {e : CallError} (h : call.config.validate = .error e) :
    (call.compile source).outcome = .error e := by
  have hbegin : call.beginCompile.outcome = .error e := by
    rw [beginCompile, Attempt.outcome_bind, Attempt.outcome_of, h]
    rfl
  rw [compile, Attempt.outcome_bind, hbegin]
  rfl

/-- A call that compiles is accepted, and its source tells the columns that it compiles with. -/
theorem compile_eq_ok_iff {compiled : CompiledCall} :
    (call.compile source).outcome = .ok compiled ↔
      call.config.validate = .ok () ∧ ∃ columns,
        (call.columnsFrom source (call.dialectFor source.info).value).outcome = .ok columns ∧
          (call.compileWith (call.dialectFor source.info).value columns).outcome =
            .ok compiled := by
  cases hvalid : call.config.validate with
  | error e =>
    rw [outcome_compile_of_error hvalid]
    simp
  | ok u =>
    rw [outcome_compile hvalid]
    cases (call.columnsFrom source (call.dialectFor source.info).value).outcome with
    | error e => simp [Except.bind]
    | ok columns => simp [Except.bind]

theorem definition_of_compile {compiled : CompiledCall}
    (h : (call.compile source).outcome = .ok compiled) : compiled.definition = call := by
  obtain ⟨-, columns, -, hcompile⟩ := compile_eq_ok_iff.1 h
  obtain ⟨-, l, -, rfl⟩ := compileWith_eq_ok_iff.1 hcompile
  rfl

theorem compile_of_run {columns sorted : List Column} {last : Draft}
    (hvalid : call.config.validate = .ok ())
    (hused : (call.dialectFor source.info).value.columnsUsed = true)
    (hload : (source.loadColumns
      ((call.dialectFor source.info).value.lookupName call.config.routine)).value = .ok columns)
    (hsorted : inOrdinalOrder columns = sorted)
    (run : ((CallContext.start call.config (call.dialectFor source.info).value).plan
      call.declared).Run ((CallContext.start call.config (call.dialectFor source.info).value).draft
        call.declared columns) sorted last) :
    (call.compile source).outcome =
      .ok (call.compiledFor (call.dialectFor source.info).value last.finish) := by
  set c := CallContext.start call.config (call.dialectFor source.info).value with hc
  have husedHere : c.columnsUsed = true := by
    have hcolumns : call.config.useColumns = true := (Bool.and_eq_true_iff.1 hused).1
    exact Bool.and_eq_true_iff.2 ⟨hcolumns, hused⟩
  have hlist : (c.reconcile call.declared columns).outcome = .ok last.finish :=
    CallContext.reconcile_of_run husedHere hsorted run
  rw [outcome_compile hvalid, outcome_columnsFrom, if_pos hused, hload]
  exact compileWith_eq_ok_iff.2 ⟨hvalid, _, hlist, rfl⟩

end CallDefinition

end StoredCall
