import StoredCall.CallText
import StoredCall.Matching
import StoredCall.MetadataSource
import StoredCall.Reconciliation.Basic

/-!
# Calls

A call as it is defined, and as it is compiled for a database.

* `CallDefinition.compileWith`: the compiled call for a dialect and given columns;
* `CallDefinition.compile`: the compiled call for a source of metadata, which is asked at most once;
* `CallDefinition.lookup?`: what the source is asked.
-/

namespace StoredCall

/-- The definition of a call. -/
structure CallDefinition where
  config : CallConfig
  declared : List Parameter := []

/-- A call ready to run. -/
structure CompiledCall where
  definition : CallDefinition
  context : CallContext
  parameters : ParameterList
  text : String

namespace CallDefinition

variable (call : CallDefinition)

/-- The call compiled with what is known about its database. -/
def compileWith (dialect : Dialect) (columns : List Column) : Attempt CompiledCall := do
  .of call.config.validate []
  let (parameters, context) ← (CallContext.start call.config dialect).process call.declared columns
  let text ← context.buildCallText parameters
  Traced.report (.callCompiled dialect.family call.config.routine.text text parameters.length)
  return { definition := call, context, parameters, text }

/-- The dialect that the call uses on a database. -/
def dialectFor (info : DatabaseInfo) : Traced Dialect :=
  Dialect.forDatabase info call.config.isFunction call.config.useColumns

/-- What a compilation asks the source for. -/
def lookup? (source : MetadataSource) : Option RoutineName :=
  let dialect := (call.dialectFor source.info).value
  if call.config.validate.isOk && dialect.columnsUsed then
    some (dialect.lookupName call.config.routine)
  else none

/-- The columns that the call needs to know, reporting the look-up. -/
def columnsFrom (source : MetadataSource) (dialect : Dialect) : Attempt (List Column) :=
  if dialect.columnsUsed then do
    let lookup := dialect.lookupName call.config.routine
    Traced.report (.introspectionBegun dialect.family lookup.text)
    let columns ← source.loadColumns lookup
    .of (columns.mapError .metadata) []
  else return []

/-- The first part of a compilation, before the source is asked. -/
def beginCompile : Attempt Unit := do
  .of call.config.validate []
  Traced.report (.compileBegun call.config.routine.text call.config.isFunction)

/-- The rest of a compilation. -/
def finishCompile (source : MetadataSource) : Attempt CompiledCall := do
  let dialect ← call.dialectFor source.info
  Traced.report (.compileSystem dialect.family)
  let columns ← call.columnsFrom source dialect
  call.compileWith dialect columns

/-- The call compiled with what a source tells. -/
def compile (source : MetadataSource) : Attempt CompiledCall := do
  call.beginCompile
  call.finishCompile source

/-- The source after a compilation. -/
def sourceAfter (source : MetadataSource) : MetadataSource :=
  match call.lookup? source with
  | some lookup => source.record lookup
  | none => source

/-- A call in diagnostics, given the word for its state. -/
def describe (state : String) : String :=
  Text.quoteRecord "Call"
    [("procedure", Text.quote call.config.routine.text),
     ("is_function", toString call.config.isFunction),
     ("declared", toString call.declared.length), ("state", Text.quote state)]

/-- A call in diagnostics. -/
def diagnostic : String := call.describe "sqlcall::state::Declaring"

end CallDefinition

namespace CompiledCall

variable (call : CompiledCall)

/-- A compiled call in diagnostics. -/
def diagnostic : String := call.definition.describe "sqlcall::state::Compiled"

/-- The argument values for the call. -/
def matchArguments (source : ArgumentSource) : Attempt NamedValues :=
  call.context.dialect.matchArguments call.parameters source

end CompiledCall

end StoredCall
