import StoredCall.NamedValues

/-!
# Argument sources

Where the argument values of a call come from: anything that lists names and has values for them.
-/

namespace StoredCall

/-- A source of named values. -/
structure ArgumentSource where
  /-- The names of the values that the source can provide. -/
  names : List String
  /-- Whether a value is registered under a name. -/
  has : String → Bool
  /-- The value registered under a name, if any. -/
  value : String → Except TypeError (Option Value)

namespace ArgumentSource

/-- Named values as a source. -/
def ofValues (vs : NamedValues) : ArgumentSource :=
  { names := vs.names, has := vs.contains, value := fun name => .ok (vs.get? name) }

/-- Named values as a source that lists the names in alphabetical order. -/
def ofUnordered (vs : NamedValues) : ArgumentSource :=
  { ofValues vs with names := vs.names.mergeSort }

end ArgumentSource

end StoredCall
