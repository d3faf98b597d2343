import StoredCall.Event
import StoredCall.Naming
import StoredCall.ParameterList

/-!
# Declarations

What becomes of each declared parameter before any column is read.

* `admissions`: a verdict for each declared parameter, in order;
* `keptOf`, `resultSetsOf`: the declarations that take part, and the result sets;
* `returnTaker?`: the declared output that a function result goes to unless a column tells
  otherwise.
-/

namespace StoredCall

/-- A declared parameter that takes part: named, no result set, not hidden by a result set, and the
first of its name. -/
structure Kept where
  position : Nat
  name : String
  /-- The normalized name. -/
  key : String
  parameter : Parameter

namespace Kept

def entry (k : Kept) : Entry := .declared k.position k.parameter

def isOutput (k : Kept) : Bool := k.parameter.isOutput

end Kept

/-- What becomes of a declared parameter. -/
inductive Admission
  | resultSet (entry : Entry)
  | unnamed (position : Nat) (direction : Direction)
  /-- A result set has the name. -/
  | shadowed (position : Nat) (name : String)
  /-- An earlier declaration has the name. -/
  | duplicate (position : Nat) (name : String)
  | kept (k : Kept)

namespace Admission

def kept? : Admission → Option Kept
  | kept k => some k
  | _ => none

def resultSet? : Admission → Option Entry
  | resultSet e => some e
  | _ => none

/-- The reports on a declaration, given the one that a function result goes to. -/
def events (taker : Option Kept) : Admission → List Event
  | resultSet _ => []
  | unnamed i direction => [.unnamedDeclaration i direction]
  | shadowed i name => [.shadowedDeclaration i name]
  | duplicate i name => [.duplicateDeclaration i name]
  | kept k =>
    if taker.any (·.position = k.position) then [.outputTakesReturn k.position k.name] else []

end Admission

variable (d : Dialect)

/-- The normalized names of the declared result sets. -/
def resultSetKeys (declared : List Parameter) : List String :=
  (declared.filter (·.isResultSet)).filterMap fun p => p.name.map d.normalize

/-- The verdict on one declared parameter, given the names of result sets and those kept so far. -/
def admissionOf (hidden seen : List String) (position : Nat) (p : Parameter) : Admission :=
  if p.isResultSet then .resultSet (.declared position p)
  else match p.name with
    | none => .unnamed position p.direction
    | some name =>
      let key := d.normalize name
      if key ∈ hidden then .shadowed position name
      else if key ∈ seen then .duplicate position name
      else .kept ⟨position, name, key, p⟩

/-- The verdicts on declared parameters from a position on. -/
def admissionsFrom (hidden : List String) : List String → Nat → List Parameter → List Admission
  | _, _, [] => []
  | seen, i, p :: ps =>
    let a := admissionOf d hidden seen i p
    a :: admissionsFrom hidden (a.kept?.toList.map (·.key) ++ seen) (i + 1) ps

/-- The verdicts on all declared parameters. -/
def admissions (declared : List Parameter) : List Admission :=
  admissionsFrom d (resultSetKeys d declared) [] 0 declared

/-- The declarations that take part. -/
def keptOf (declared : List Parameter) : List Kept := (admissions d declared).filterMap (·.kept?)

/-- The declared result sets. -/
def resultSetsOf (declared : List Parameter) : List Entry :=
  (admissions d declared).filterMap (·.resultSet?)

/-- The first output whose name no ordinary column has. -/
def returnTaker? (kept : List Kept) (reported : List String) : Option Kept :=
  kept.find? fun k => k.isOutput && k.key ∉ reported

end StoredCall
