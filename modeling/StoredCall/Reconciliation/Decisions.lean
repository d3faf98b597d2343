import StoredCall.Reconciliation.Declarations

/-!
# Decisions

What becomes of each reported column, in ordinal order.

* `Plan.decisionFor`: the decision on one column, given the parameters placed so far;
* `Draft.apply`: the parameters placed after a decision;
* `Plan.decisions`: the decisions on all columns, ending early at a return value that nobody can
  take.
-/

namespace StoredCall

/-- What a column stands for. -/
inductive Role
  | returned
  | output
  | input
deriving DecidableEq

/-- What becomes of a column. -/
inductive Decision
  /-- The name is taken already. -/
  | alreadyBound (column : Option String)
  /-- A declared parameter takes the result of a function. -/
  | resolveReturn (k : Kept)
  /-- No declared parameter can take the result of a function. -/
  | returnMissing (returnName : String)
  /-- The return value of a procedure is left out. -/
  | bypass (column : Option String)
  /-- A declared parameter is placed. -/
  | reuse (role : Role) (name : String) (k : Kept)
  /-- A parameter is made. -/
  | add (role : Role) (name : String) (kind : ColumnKind) (p : Parameter)
  | skipUnnamed (role : Role) (kind : ColumnKind)
  /-- The names of input parameters are limited and this one is not among them. -/
  | exclude (name : String)

/-- The parameters placed so far. -/
structure Draft where
  entries : List Entry
  /-- The normalized names that are no longer free. -/
  taken : List String
  outputNames : List String
  returnName : String
  returnIndex : Option Nat := none

namespace Draft

/-- The draft with one more entry. -/
def place (d : Draft) (key : String) (e : Entry) : Draft :=
  { d with entries := d.entries ++ [e], taken := key :: d.taken }

/-- The draft whose next entry carries the return value. -/
def markReturn (d : Draft) : Draft := { d with returnIndex := some d.entries.length }

/-- The draft after a decision. -/
def apply (d : Draft) : Decision → Draft
  | .resolveReturn k => { d.markReturn with returnName := k.name }.place k.key k.entry
  | .reuse .returned _ k => d.markReturn.place k.key k.entry
  | .reuse _ _ k => d.place k.key k.entry
  | .add .returned name _ p =>
    { d.markReturn with outputNames := d.outputNames ++ [name] }.place (Text.lower name)
      (.synthesized p)
  | .add .output name _ p =>
    { d with outputNames := d.outputNames ++ [name] }.place (Text.lower name) (.synthesized p)
  | .add .input name _ p => d.place (Text.lower name) (.synthesized p)
  | .alreadyBound _ | .returnMissing _ | .bypass _ | .skipUnnamed .. | .exclude _ => d

/-- The parameter list of a finished draft. -/
def finish (d : Draft) : ParameterList :=
  { entries := d.entries, returnIndex := d.returnIndex, outputNames := d.outputNames,
    returnName := d.returnName }

end Draft

namespace Decision

/-- The return name of a function whose result nobody can take. -/
def missing? : Decision → Option String
  | returnMissing name => some name
  | _ => none

def events : Decision → List Event
  | alreadyBound column => [.columnAlreadyBound column]
  | resolveReturn k => [.returnResolved k.name]
  | returnMissing _ => []
  | bypass column => [.returnBypassed column]
  | reuse .returned name _ => [.returnReused name]
  | reuse .output name _ => [.outputReused name]
  | reuse .input name _ => [.inputReused name]
  | add .returned name _ _ => [.returnAdded name]
  | add .output name kind _ => [.outputAdded name kind]
  | add .input name _ _ => [.inputAdded name]
  | skipUnnamed .input _ => [.unnamedInputColumn]
  | skipUnnamed _ kind => [.unnamedOutputColumn kind]
  | exclude name => [.inputExcluded name]

end Decision

/-- What the decisions depend on beside the draft. -/
structure Plan where
  dialect : Dialect
  isFunction : Bool
  returnRequired : Bool
  kept : List Kept
  /-- The normalized names of the input parameters to make; none means all. -/
  limited : List String

namespace Plan

variable (plan : Plan) (draft : Draft)

/-- The declared parameter of a name that is still free. -/
def free? (key : String) : Option Kept :=
  if key ∈ draft.taken then none else plan.kept.find? (·.key = key)

/-- The first declared output that is still free. -/
def freeOutput? : Option Kept := plan.kept.find? fun k => k.isOutput && k.key ∉ draft.taken

/-- The declared parameter that a return column means: of its name, or else of the return name. -/
def returnReuse? (name : Option String) : Option Kept :=
  (name.bind fun n => plan.free? draft (Text.lower n)).or
    (plan.free? draft (plan.dialect.normalize draft.returnName))

/-- The decision on a return column. -/
def decideReturn (name : Option String) (column : Column) : Decision :=
  if plan.isFunction then
    match (plan.returnReuse? draft name).or (plan.freeOutput? draft) with
    | some k => .resolveReturn k
    | none => .returnMissing draft.returnName
  else match plan.returnReuse? draft name with
    | some k => .reuse .returned k.name k
    | none =>
      if !plan.returnRequired && plan.dialect.bypasses column.name then .bypass column.name
      else
        let n := name.getD draft.returnName
        .add .returned n column.kind (plan.dialect.defaultOutput n column)

/-- The decision on a named output column. -/
def decideOutput (name : String) (column : Column) : Decision :=
  match plan.free? draft (Text.lower name) with
  | some k => .reuse .output name k
  | none =>
    .add .output name column.kind
      (if column.kind = .output then plan.dialect.defaultOutput name column
        else Dialect.defaultInOut name column)

/-- Whether an undeclared input parameter of a normalized name is wanted. -/
def wants (key : String) : Bool := plan.limited.isEmpty || key ∈ plan.limited

/-- The decision on a named input column. -/
def decideInput (name : String) (column : Column) : Decision :=
  match plan.free? draft (Text.lower name) with
  | some k => .reuse .input name k
  | none =>
    if plan.wants (Text.lower name) then
      .add .input name column.kind (Dialect.defaultInput name column)
    else .exclude name

/-- The decision on a column. -/
def decisionFor (column : Column) : Decision :=
  let name := column.name.map plan.dialect.parameterName
  if name.any (Text.lower · ∈ draft.taken) then .alreadyBound column.name
  else match column.kind, name with
    | .returned, _ => plan.decideReturn draft name column
    | .output, some n | .inOut, some n => plan.decideOutput draft n column
    | .output, none | .inOut, none => .skipUnnamed .output column.kind
    | .input, some n | .unknown, some n | .result, some n => plan.decideInput draft n column
    | .input, none | .unknown, none | .result, none => .skipUnnamed .input column.kind

/-- The decisions on columns, up to a return value that nobody can take. -/
def decisions : Draft → List Column → List Decision
  | _, [] => []
  | draft, column :: rest =>
    let v := plan.decisionFor draft column
    v :: if v.missing?.isSome then [] else decisions (draft.apply v) rest

end Plan

end StoredCall
