import StoredCall.Column
import StoredCall.Parameter

/-!
# Events

What is reported while a call is prepared, as data, and how a log shows it.

* `Event`: the reports, which hold more than their text: those about a declared parameter name its
  position;
* `Event.line`: the line of a log for a report;
* `LogLine.shownAt`: the lines that a log of a given detail holds.
-/

namespace StoredCall

/-- A report. -/
inductive Event
  -- Declared parameters; each report names the declared position.
  | unnamedDeclaration (position : Nat) (direction : Direction)
  | shadowedDeclaration (position : Nat) (name : String)
  | duplicateDeclaration (position : Nat) (name : String)
  | unreportedDeclaration (position : Nat) (name : String)
  | outputTakesReturn (position : Nat) (name : String)
  -- Columns.
  | columnsUnused (parameters : Nat)
  | columnAlreadyBound (column : Option String)
  | returnResolved (parameter : String)
  | returnReused (parameter : String)
  | returnBypassed (column : Option String)
  | returnAdded (parameter : String)
  | unnamedOutputColumn (kind : ColumnKind)
  | outputReused (parameter : String)
  | outputAdded (parameter : String) (kind : ColumnKind)
  | unnamedInputColumn
  | inputReused (parameter : String)
  | inputAdded (parameter : String)
  | inputExcluded (parameter : String)
  -- The call and its arguments.
  | callTextBuilt (call : String)
  | callCompiled (family : Family) (procedure call : String) (parameters : Nat)
  | argumentDropped (argument : String)
  | severalOutputs (procedure : String) (outputs : List String)
  | unknownKey (key : String)
  -- The database.
  | columnsUnsupported (product : String) (isFunction : Bool)
  | dialectChosen (family : Family) (columnsUsed : Bool)
  | columnsLoaded (procedure : String) (columns : Nat)
  | lookupFailing (lookup : String)
  -- The cache.
  | cacheHit (call : String)
  | cacheMiss (call : String)
  | callCached (call : String)
  | cacheCleared (count : Nat)
  -- Beginnings of activities.
  | compileBegun (procedure : String) (isFunction : Bool)
  | compileSystem (family : Family)
  | introspectionBegun (family : Family) (procedure : String)
  | reconciliationBegun (procedure : String) (declared columns : Nat)
  | matchingBegun (parameters : Nat)
deriving DecidableEq

/-! ## Logs -/

/-- How important a line is. -/
inductive Level
  | warn
  | debug
  | trace
deriving DecidableEq

def Level.keyword : Level → String
  | warn => "WARN"
  | debug => "DEBUG"
  | trace => "TRACE"

/-- The value of a field of a line. -/
inductive FieldValue
  | text (s : String)
  | count (n : Nat)
  | flag (b : Bool)

/-- The fields of a line by name. -/
abbrev Fields := List (String × FieldValue)

/-- A line of a log. -/
inductive LogLine
  | message (level : Level) (text : String) (fields : Fields)
  /-- The beginning of an activity. -/
  | span (name : String) (level : Level) (fields : Fields)
  /-- Facts that become known during an activity. -/
  | record (span : String) (fields : Fields)

/-- Whether a log of the given detail holds the line: only the most detailed one has activities. -/
def LogLine.shownAt (detail : Level) : LogLine → Bool
  | message level _ _ =>
    match detail with
    | .warn => level = .warn
    | .debug => level ≠ .trace
    | .trace => true
  | span .. => detail = .trace
  | record .. => detail = .trace

/-! ## Names in logs -/

namespace LogName

def compile : String := "sqlcall.compile"
def introspect : String := "sqlcall.introspect"
def reconcile : String := "sqlcall.reconcile"
def matchArguments : String := "sqlcall.match_arguments"

/-- The activities. -/
def spans : List String := [compile, introspect, reconcile, matchArguments]

def system : String := "db.system"
def procedure : String := "db.sql.procedure"
def callKind : String := "db.sql.call_kind"
def statement : String := "db.statement"
def parameterCount : String := "db.sql.parameter_count"
def errorType : String := "error.type"

/-- The attributes of an activity. -/
def attributes : List String := [system, procedure, callKind, statement, parameterCount, errorType]

/-- The word for what is called. -/
def kindOf (isFunction : Bool) : String := if isFunction then "function" else "procedure"

end LogName

namespace Event

open FieldValue (text count flag)

/-- The field for a text that may be absent. -/
def optional (name : String) (s : Option String) : Fields := s.toList.map fun s => (name, text s)

/-- A line about one parameter. -/
def about (level : Level) (parameter : String) (message : String) : LogLine :=
  .message level message [("parameter", text parameter)]

/-- The line of a log for a report. -/
def line : Event → LogLine
  | unnamedDeclaration _ direction =>
    .message .warn "ignoring declared parameter without a name"
      [("direction", text direction.keyword)]
  | shadowedDeclaration _ name =>
    about .warn name "ignoring declared parameter shadowed by a result set of the same name"
  | duplicateDeclaration _ name =>
    about .warn name "ignoring duplicate declaration; the first declaration is kept"
  | unreportedDeclaration _ name =>
    about .debug name "declared parameter not reported by column metadata; leaving it out"
  | outputTakesReturn _ name =>
    about .debug name "using declared out parameter for function return value"
  | columnsUnused parameters =>
    .message .debug "column metadata not used; taking declared parameters as-is"
      [("parameters", count parameters)]
  | columnAlreadyBound column =>
    .message .debug "skipping column already bound to a parameter" (optional "column" column)
  | returnResolved name => about .debug name "using declared parameter for function return value"
  | returnReused name => about .debug name "using declared parameter for return value"
  | returnBypassed column =>
    .message .debug "bypassing metadata return parameter" (optional "column" column)
  | returnAdded name => about .debug name "added metadata return parameter"
  | unnamedOutputColumn kind =>
    .message .warn "skipping unnamed output column" [("kind", text kind.diagnostic)]
  | outputReused name => about .debug name "using declared out parameter"
  | outputAdded name kind =>
    .message .debug "added metadata out parameter"
      [("parameter", text name), ("kind", text kind.diagnostic)]
  | unnamedInputColumn => .message .debug "skipping unnamed input column" []
  | inputReused name => about .debug name "using declared in parameter"
  | inputAdded name => about .debug name "added metadata in parameter"
  | inputExcluded name =>
    about .debug name "limited set of in parameters excludes metadata parameter"
  | callTextBuilt call => .message .debug "compiled call string" [("call", text call)]
  | callCompiled family procedure call parameters =>
    .message .debug "compiled call"
      [(LogName.system, text family.systemName), ("procedure", text procedure), ("call", text call),
       ("parameters", count parameters)]
  | argumentDropped argument =>
    .message .warn "unable to locate the corresponding parameter for argument value; dropping it"
      [("argument", text argument)]
  | severalOutputs procedure outputs =>
    .message .warn "more than one out parameter; using the first as the scalar result"
      [("procedure", text procedure), ("out_parameters", text (Text.quoteList outputs))]
  | unknownKey key => .message .debug "ignoring unknown call descriptor key" [("key", text key)]
  | columnsUnsupported product isFunction =>
    .message .warn
      "column metadata lookup is not supported for this database; using declared parameters only"
      [("product", text product), ("kind", text (LogName.kindOf isFunction))]
  | dialectChosen family columnsUsed =>
    .message .debug "using call metadata provider"
      [(LogName.system, text family.systemName),
       ("procedure_column_metadata_used", flag columnsUsed)]
  | columnsLoaded procedure columns =>
    .message .debug "loaded procedure column metadata"
      [("procedure", text procedure), ("columns", count columns)]
  | lookupFailing lookup => .message .debug "mock source failing lookup" [("lookup", text lookup)]
  | cacheHit call => .message .trace "call cache hit" [("call", text call)]
  | cacheMiss call => .message .trace "call cache miss" [("call", text call)]
  | callCached call => .message .debug "caching compiled call" [("call", text call)]
  | cacheCleared n => .message .debug "cleared call cache" [("count", count n)]
  | compileBegun procedure isFunction =>
    .span LogName.compile .debug
      [(LogName.procedure, text procedure), (LogName.callKind, text (LogName.kindOf isFunction))]
  | compileSystem family => .record LogName.compile [(LogName.system, text family.systemName)]
  | introspectionBegun family procedure =>
    .span LogName.introspect .debug
      [(LogName.system, text family.systemName), (LogName.procedure, text procedure)]
  | reconciliationBegun procedure declared columns =>
    .span LogName.reconcile .trace
      [(LogName.procedure, text procedure), ("declared", count declared),
       ("discovered", count columns)]
  | matchingBegun parameters =>
    .span LogName.matchArguments .trace [("parameters", count parameters)]

end Event

end StoredCall
