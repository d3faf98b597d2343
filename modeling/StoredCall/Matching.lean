import StoredCall.ArgumentSource
import StoredCall.Naming
import StoredCall.ParameterList
import StoredCall.Traced

/-!
# Matching

The argument values for the parameters of a call. A parameter takes the argument of its normalized
name, or else one that denotes the same field; result sets and unnamed parameters take none.

* `Dialect.argumentFor?`: the argument that a parameter takes;
* `Dialect.droppedArguments`: the arguments that no parameter takes;
* `Dialect.matchArguments`: the values by parameter name, in call order.
-/

namespace StoredCall

/-- The names of the parameters that take a value, in call order. -/
def ParameterList.bindableNames (l : ParameterList) : List String :=
  (l.entries.filter (!·.isResultSet)).filterMap (·.name)

/-- An argument taken by a parameter. -/
structure Binding where
  parameter : String
  /-- The position of the argument in its source. -/
  position : Nat
  argument : String
deriving DecidableEq

namespace Dialect

variable (d : Dialect) (l : ParameterList)

/-- The argument that a parameter takes, with its position: the first of the parameter's normalized
name, or else the first that denotes the same field. -/
def argumentFor? (names : List String) (parameter : String) : Option (String × Nat) :=
  (names.zipIdx.find? fun a => d.normalize a.1 = d.normalize parameter).or
    (names.zipIdx.find? fun a => sameProperty a.1 (d.parameterName parameter))

/-- The arguments that the parameters take, in call order. -/
def bindings (names : List String) : List Binding :=
  l.bindableNames.filterMap fun parameter =>
    (d.argumentFor? names parameter).map fun a => ⟨parameter, a.2, a.1⟩

/-- The arguments that no parameter takes. -/
def droppedArguments (names : List String) : List String :=
  (names.zipIdx.filter fun a => a.2 ∉ (d.bindings l names).map (·.position)).map (·.1)

/-- The values of bindings, up to one that cannot be converted. -/
def collect (source : ArgumentSource) : List Binding → NamedValues → Except TypeError NamedValues
  | [], vs => .ok vs
  | b :: rest, vs =>
    match source.value b.argument with
    | .error e => .error e
    | .ok none => collect source rest vs
    | .ok (some v) => collect source rest (vs.insert b.parameter v)

/-- The values for the parameters, by parameter name in call order. -/
def matchedValues (source : ArgumentSource) : Except TypeError NamedValues :=
  collect source (d.bindings l source.names) .empty

/-- The values for the parameters, reporting arguments that are dropped. -/
def matchArguments (source : ArgumentSource) : Attempt NamedValues :=
  .of ((d.matchedValues l source).mapError .type)
    (.matchingBegun l.length
      :: if (d.matchedValues l source).isOk then
          (d.droppedArguments l source.names).map .argumentDropped
        else [])

end Dialect

end StoredCall
