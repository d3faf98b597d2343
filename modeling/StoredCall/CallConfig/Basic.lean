import StoredCall.Identifier
import StoredCall.RoutineName

/-!
# Call configurations

Which routine a call names, and how its parameters are put together.

* `CallConfig.procedure`, `CallConfig.function`: the configurations with all else left open;
* `CallConfig.validate`: accepts configurations whose names can stand in a call.
-/

namespace StoredCall

/-- The configuration of a call. -/
structure CallConfig where
  routine : RoutineName
  isFunction : Bool := false
  /-- Whether a procedure call binds a return value. -/
  returnRequired : Bool := false
  /-- The name of the function result. -/
  returnName : String := "return"
  /-- The undeclared input parameters to take from the columns; none means all. -/
  inputNames : List String := []
  /-- Whether the columns of the routine are looked up. -/
  useColumns : Bool := true
deriving DecidableEq

namespace CallConfig

/-- The call of a procedure. -/
def procedure (name : String) : CallConfig := { routine := .ofName name }

/-- The call of a function. -/
def function (name : String) : CallConfig := { routine := .ofName name, isFunction := true }

/-- Accepts an absent, empty or well-formed qualifier. -/
def checkQualifier : Option String → Except CallError Unit
  | none => .ok ()
  | some q => if q = "" then .ok () else checkIdentifier q

/-- Accepts configurations whose names can stand in a call. -/
def validate (c : CallConfig) : Except CallError Unit := do
  checkIdentifier c.routine.name
  checkQualifier c.routine.catalog
  checkQualifier c.routine.schema
  if c.returnName = "" then .error (.configuration .emptyFunctionReturnName) else .ok ()

/-- Whether the call begins by binding a return value. -/
def bindsReturn (c : CallConfig) : Bool := c.isFunction || c.returnRequired

end CallConfig

end StoredCall
