import StoredCall.Database

/-!
# Errors

What can go wrong while a call is prepared, as causes, each with its wording.

* `TypeError`, `MetadataError`, `CallError`: the causes;
* `TypeError.message`, `MetadataError.message`, `CallError.message`: the wording.
-/

namespace StoredCall

/-- A value that cannot be converted. -/
inductive TypeError
  | unexpectedNull
  | typeMismatch (expected actual : String)
  | outOfRange (target : String)
  | unsupportedConversion (source target : String)
  /-- A row mapper refused the row with this number. -/
  | rowMapping (row : Nat) (reason : String)
deriving DecidableEq

def TypeError.message : TypeError → String
  | unexpectedNull => "unexpected null value"
  | typeMismatch expected actual => s!"type mismatch: expected {expected}, got {actual}"
  | outOfRange target => s!"value out of range for {target}"
  | unsupportedConversion source target => s!"unsupported conversion from {source} to {target}"
  | rowMapping row reason => s!"row {row} could not be mapped: {reason}"

/-- A look-up that did not yield one signature. -/
inductive MetadataError
  | procedureNotFound (name : String)
  | ambiguousSignature (name : String) (found : List String)
  /-- The source itself failed. -/
  | source (reason : String)
deriving DecidableEq

namespace MetadataError

def message : MetadataError → String
  | procedureNotFound name =>
    s!"unable to determine the call signature: no procedure/function named {name} found"
  | ambiguousSignature name found =>
    "unable to determine the call signature: multiple procedures/functions/signatures for " ++ name
      ++ " found: " ++ ", ".intercalate found
  | source reason => s!"metadata source error: {reason}"

def isSourceError : MetadataError → Bool
  | source _ => true
  | _ => false

end MetadataError

/-- A call that is described wrongly. -/
inductive ConfigurationFault
  | malformedPair (part : String)
  | emptyReturnName
  | malformedBoolean (key value : String)
  | twoTargets
  | noTarget
  | emptyFunctionReturnName
  /-- No declared output can take the return value, which is known by this name. -/
  | returnNotDeclared (returnName : String)
  | resultSetUnsupported (family : Family)
  | described (text : String)
deriving DecidableEq

def ConfigurationFault.message : ConfigurationFault → String
  | malformedPair part => s!"invalid key-value: {part}"
  | emptyReturnName => "ReturnName cannot be empty"
  | malformedBoolean key value => s!"invalid boolean for {key}: {value}"
  | twoTargets => "descriptor names both a procedure and a function"
  | noTarget => "descriptor must name a procedure or a function"
  | emptyFunctionReturnName => "function return name cannot be empty"
  | returnNotDeclared returnName =>
    "unable to locate declared parameter for function return value; "
      ++ "declare an out parameter named '"
      ++ returnName ++ "'"
  | resultSetUnsupported family =>
    "returning a result set from a stored procedure is not supported on " ++ family.systemName
  | described text => text

/-- A name that is no identifier. -/
inductive IdentifierFault
  | empty
  | malformed (name : String)
  | described (text : String)
deriving DecidableEq

def IdentifierFault.message : IdentifierFault → String
  | empty => "identifier cannot be empty"
  | malformed name =>
    "invalid identifier '" ++ name
      ++ "': must start with letter/underscore, "
      ++ "contain only alphanumerics/_/@/#/$, and be 1-128 characters"
  | described text => text

/-- Why a call could not be prepared. -/
inductive CallError
  | configuration (fault : ConfigurationFault)
  | invalidIdentifier (fault : IdentifierFault)
  | metadata (error : MetadataError)
  | type (error : TypeError)
deriving DecidableEq

namespace CallError

def message : CallError → String
  | configuration fault => "configuration error: " ++ fault.message
  | invalidIdentifier fault => "invalid identifier: " ++ fault.message
  | metadata error => "metadata error: " ++ error.message
  | type error => "type error: " ++ error.message

/-- Whether the caller described the call wrongly. -/
def isConfiguration : CallError → Bool
  | configuration _ | invalidIdentifier _ => true
  | _ => false

def isMetadata : CallError → Bool
  | metadata _ => true
  | _ => false

/-- Whether trying again may help. -/
def isTransient : CallError → Bool
  | metadata error => error.isSourceError
  | _ => false

end CallError

end StoredCall
