import StoredCall.CallConfig.Basic
import StoredCall.Dialect

/-!
# Call contexts

A call under preparation: its configuration, the dialect of its database, and what the last
reconciliation found out.
-/

namespace StoredCall

/-- A call under preparation. -/
structure CallContext where
  /-- The configuration, whose return name is the one found last. -/
  config : CallConfig
  dialect : Dialect
  /-- The output parameters found last. -/
  outputNames : List String := []

namespace CallContext

/-- A context before any reconciliation. -/
def start (config : CallConfig) (dialect : Dialect) : CallContext := { config, dialect }

/-- Whether columns decide which parameters take part. -/
def columnsUsed (c : CallContext) : Bool := c.config.useColumns && c.dialect.columnsUsed

/-- The filter by which the routine is looked up. -/
def lookupName (c : CallContext) : RoutineName := c.dialect.lookupName c.config.routine

end CallContext

end StoredCall
