import StoredCall.CallContext
import StoredCall.Reconciliation.Decisions
import StoredCall.Traced

/-!
# Reconciliation

The parameters of a call, put together from the declared ones and the columns that the database
reports. Result sets come first. Without columns the declarations follow as they are; with columns,
these decide in ordinal order which parameters take part, and a declared parameter stands in for a
column of its name.

* `CallContext.reconcile`: the parameter list, or the reason why there is none;
* `CallContext.process`: the same, kept in the context.
-/

namespace StoredCall

namespace CallContext

variable (c : CallContext) (declared : List Parameter) (columns : List Column)

/-- The normalized names of the columns that are no return values. -/
def reportedKeys : List String :=
  (columns.filter (·.kind ≠ .returned)).filterMap fun column => column.name.map c.dialect.normalize

/-- The declared output that a function result goes to. -/
def returnTaker? : Option Kept :=
  if c.config.isFunction then
    StoredCall.returnTaker? (keptOf c.dialect declared)
      (if c.columnsUsed then c.reportedKeys columns else [])
  else none

/-- The return name after the declarations are read. -/
def declaredReturnName : String :=
  match c.returnTaker? declared columns with
  | some k => k.name
  | none => c.config.returnName

/-- The names of the declared outputs. -/
def declaredOutputs : List String :=
  ((keptOf c.dialect declared).filter (·.isOutput)).map (·.name)

/-! ## Without columns -/

/-- The result sets and then the declarations that take part. -/
def declaredEntries : List Entry :=
  resultSetsOf c.dialect declared ++ (keptOf c.dialect declared).map (·.entry)

/-- Whether an entry is an ordinary parameter with the normalized name. -/
def answersTo (key : String) (e : Entry) : Bool :=
  !e.isResultSet && e.name.any (c.dialect.normalize · = key)

/-- The parameter list when columns are not used. -/
def declaredList : ParameterList :=
  let entries := c.declaredEntries declared
  let returnName := c.declaredReturnName declared columns
  { entries
    returnIndex :=
      if c.config.bindsReturn then
        entries.findIdx? (c.answersTo (c.dialect.normalize returnName))
      else none
    outputNames := c.declaredOutputs declared
    returnName }

/-! ## With columns -/

/-- What the decisions on columns depend on. -/
def plan : Plan :=
  { dialect := c.dialect
    isFunction := c.config.isFunction
    returnRequired := c.config.returnRequired
    kept := keptOf c.dialect declared
    limited := c.config.inputNames.map c.dialect.normalize }

/-- The draft before any column. -/
def draft : Draft :=
  { entries := resultSetsOf c.dialect declared
    taken := resultSetKeys c.dialect declared
    outputNames := c.declaredOutputs declared
    returnName := c.declaredReturnName declared columns }

/-- The decisions on the columns. -/
def decisions : List Decision :=
  (c.plan declared).decisions (c.draft declared columns) (inOrdinalOrder columns)

/-- The draft after the columns. -/
def placed : Draft := (c.decisions declared columns).foldl Draft.apply (c.draft declared columns)

/-- The parameter list when columns are used. -/
def columnList : Except CallError ParameterList :=
  match (c.decisions declared columns).findSome? (·.missing?) with
  | some returnName => .error (.configuration (.returnNotDeclared returnName))
  | none => .ok (c.placed declared columns).finish

/-- The reports on declarations that no column has brought in. -/
def leftOut : List Event :=
  let missing := (keptOf c.dialect declared).filter (·.key ∉ (c.placed declared columns).taken)
  missing.map fun k => .unreportedDeclaration k.position k.name

/-- The reports on the columns, and on the declarations left out if there is a list. -/
def columnEvents : List Event :=
  (c.decisions declared columns).flatMap (·.events)
    ++ if (c.columnList declared columns).isOk then c.leftOut declared columns else []

/-! ## The parameter list -/

/-- The reports on the declarations. -/
def declarationEvents : List Event :=
  (admissions c.dialect declared).flatMap (·.events (c.returnTaker? declared columns))

/-- The parameters of the call. -/
def parameterList : Except CallError ParameterList :=
  if c.columnsUsed then c.columnList declared columns else .ok (c.declaredList declared columns)

/-- The reports on the way to the parameters of the call. -/
def reconcileEvents : List Event :=
  .reconciliationBegun c.config.routine.name declared.length columns.length
    :: c.declarationEvents declared columns
    ++ if c.columnsUsed then c.columnEvents declared columns
      else [.columnsUnused (c.declaredEntries declared).length]

/-- The parameters of the call, with reports. -/
def reconcile : Attempt ParameterList :=
  .of (c.parameterList declared columns) (c.reconcileEvents declared columns)

/-- The context with what a parameter list tells. -/
def learn (l : ParameterList) : CallContext :=
  { c with config.returnName := l.returnName, outputNames := l.outputNames }

/-- The parameters of the call, and the context that knows about them. -/
def process : Attempt (ParameterList × CallContext) := do
  let l ← c.reconcile declared columns
  return (l, c.learn l)

end CallContext

end StoredCall
