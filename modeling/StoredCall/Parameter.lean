import StoredCall.Error
import StoredCall.Text.Quoted
import StoredCall.Value.Basic

/-!
# Parameters

The declaration of one parameter of a call: its name, direction and type, and for parameters that
yield rows the mapper applied to each row.

* `Parameter.input`, `Parameter.output`, …: the ways to declare a parameter;
* `Parameter.same`: equality, where mappers are compared by identity;
* `Parameter.mapRows`: the value of the rows that a parameter yields.
-/

namespace StoredCall

/-! ## Directions -/

inductive Direction
  | input
  | output
  | inOut
  /-- The return value of a function. -/
  | returned
  /-- A result set, which takes no placeholder. -/
  | resultSet
deriving DecidableEq, Repr

namespace Direction

instance : Inhabited Direction := ⟨input⟩

/-- Whether a value is bound. -/
def isInput : Direction → Bool
  | input | inOut => true
  | _ => false

/-- Whether a value is produced. -/
def isOutput : Direction → Bool
  | output | inOut | returned => true
  | _ => false

/-- The keyword of the direction. -/
def keyword : Direction → String
  | input => "IN"
  | output => "OUT"
  | inOut => "INOUT"
  | returned => "RETURN"
  | resultSet => "RESULT_SET"

/-- The name of the direction in diagnostics. -/
def diagnostic : Direction → String
  | input => "In"
  | output => "Out"
  | inOut => "InOut"
  | returned => "Return"
  | resultSet => "ResultSet"

end Direction

/-! ## Row mappers -/

/-- A function on the rows of a result set. Two mappers are the same only if they share a tag. -/
structure RowMapper where
  tag : Nat
  /-- The value of a row, given its number from zero. -/
  mapRow : List Value → Nat → Except TypeError Value

/-! ## Parameters -/

/-- A parameter declaration. -/
structure Parameter where
  name : Option String
  direction : Direction
  sqlType : SqlType
  /-- The type's name in the database, such as `refcursor`. -/
  typeName : Option String := none
  mapper : Option RowMapper := none

namespace Parameter

/-- A parameter passed to the routine. -/
def input (name : String) (sqlType : SqlType) : Parameter :=
  { name, direction := .input, sqlType }

/-- A parameter produced by the routine. -/
def output (name : String) (sqlType : SqlType) : Parameter :=
  { name, direction := .output, sqlType }

/-- A parameter that the routine may change. -/
def inOut (name : String) (sqlType : SqlType) : Parameter :=
  { name, direction := .inOut, sqlType }

/-- The return value of a function. -/
def returned (name : String) (sqlType : SqlType) : Parameter :=
  { name, direction := .returned, sqlType }

/-- A returned result set whose rows are mapped. -/
def resultSet (name : String) (mapper : RowMapper) : Parameter :=
  { name, direction := .resultSet, sqlType := .other, mapper }

/-- A returned result set without a name. -/
def unnamedResultSet : Parameter := { name := none, direction := .resultSet, sqlType := .other }

def withTypeName (p : Parameter) (typeName : String) : Parameter := { p with typeName }

def withMapper (p : Parameter) (mapper : RowMapper) : Parameter := { p with mapper }

def isResultSet (p : Parameter) : Bool := p.direction = .resultSet

def isInput (p : Parameter) : Bool := p.direction.isInput

def isOutput (p : Parameter) : Bool := p.direction.isOutput

/-- Equality, with mappers compared by identity. -/
def same (p q : Parameter) : Bool :=
  p.name = q.name && p.direction = q.direction && p.sqlType = q.sqlType && p.typeName = q.typeName
    && p.mapper.map (·.tag) = q.mapper.map (·.tag)

/-- Maps rows in order, up to the first row that the mapper refuses. -/
def mapEach (mapper : RowMapper) : Nat → List (List Value) → Except TypeError (List Value)
  | _, [] => .ok []
  | n, row :: rest => do
    let v ← mapper.mapRow row n
    let vs ← mapEach mapper (n + 1) rest
    return v :: vs

/-- The value of the rows that the parameter yields; without a mapper each row is kept as it is. -/
def mapRows (p : Parameter) (rows : List (List Value)) : Except TypeError Value :=
  match p.mapper with
  | some mapper => (mapEach mapper 0 rows).map .rows
  | none => .ok (.rows (rows.map .rows))

/-- The parameter in diagnostics. -/
def diagnostic (p : Parameter) : String :=
  Text.quoteRecord "ParameterSpec"
    [("name", Text.quoteOption p.name), ("direction", p.direction.diagnostic),
     ("sql_type", s!"SqlType({p.sqlType.code})"), ("type_name", Text.quoteOption p.typeName),
     ("row_mapper", toString p.mapper.isSome)]

end Parameter

end StoredCall
