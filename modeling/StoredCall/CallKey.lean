import StoredCall.Call

/-!
# Call keys

What identifies a call definition in a cache. Names that databases compare without letter case are
in lower case, the input names are a set, and row mappers do not count.

* `CallDefinition.key`: the key of a definition;
* `CallKey.ofName`: the key of a call of which only the name matters.
-/

namespace StoredCall

/-- What counts of a declared parameter. -/
structure ParameterKey where
  name : Option String
  direction : Direction
  sqlType : SqlType
  typeName : Option String
deriving DecidableEq

/-- What counts of a parameter. -/
def Parameter.key (p : Parameter) : ParameterKey := ⟨p.name, p.direction, p.sqlType, p.typeName⟩

/-- What identifies a call definition. -/
structure CallKey where
  /-- The qualified name in lower case. -/
  name : String
  isFunction : Bool
  returnRequired : Bool
  useColumns : Bool
  returnName : String
  /-- The input names in lower case, sorted and without repetition. -/
  inputNames : List String
  declared : List ParameterKey
deriving DecidableEq

/-- A set of names, ignoring letter case. -/
def nameSet (names : List String) : List String := ((names.map Text.lower).mergeSort).eraseDups

/-- The key of a configuration with declared parameters. -/
def CallDefinition.key (call : CallDefinition) : CallKey :=
  { name := Text.lower call.config.routine.text
    isFunction := call.config.isFunction
    returnRequired := call.config.returnRequired
    useColumns := call.config.useColumns
    returnName := Text.lower call.config.returnName
    inputNames := nameSet call.config.inputNames
    declared := call.declared.map (·.key) }

/-- The key of a call with the given qualified name and nothing declared. -/
def CallKey.ofName (qualifiedName : String) (isFunction : Bool) : CallKey :=
  { (CallDefinition.mk (.procedure "") []).key with name := Text.lower qualifiedName, isFunction }

end StoredCall
