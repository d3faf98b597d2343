import StoredCall.Text.Case

/-!
# Routine names

The name of a stored procedure or function with its optional catalog and schema. The same three
parts serve as the name of a routine and as the filter of a look-up.

* `RoutineName.text`: the parts joined by points, without absent and empty ones;
* `RoutineName.admits`: whether a name passes a filter.
-/

namespace StoredCall

/-- A routine name, or a filter for routine names. -/
structure RoutineName where
  /-- The catalog; for Oracle the package. -/
  catalog : Option String
  schema : Option String
  name : String
deriving DecidableEq

namespace RoutineName

/-- A name without qualifiers. -/
def ofName (name : String) : RoutineName := ⟨none, none, name⟩

/-- The qualifiers that are present and not empty. -/
def qualifiers (n : RoutineName) : List String :=
  (n.catalog.toList ++ n.schema.toList).filter (· ≠ "")

/-- `catalog.schema.name`, without absent and empty parts. -/
def text (n : RoutineName) : String := ".".intercalate (n.qualifiers ++ [n.name])

/-- Whether one part passes its filter: no filter takes every part, and an empty one takes an absent
or empty part only. -/
def partAdmits (filter part : Option String) : Bool :=
  match filter with
  | none => true
  | some f =>
    if f = "" then part.all (· = "")
    else part.any (Text.sameLetters · f)

/-- Whether a name passes the filter, ignoring ASCII letter case. -/
def admits (filter n : RoutineName) : Bool :=
  Text.sameLetters n.name filter.name && partAdmits filter.catalog n.catalog
    && partAdmits filter.schema n.schema

end RoutineName

end StoredCall
