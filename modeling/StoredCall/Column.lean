import StoredCall.RoutineName
import StoredCall.SqlType

/-!
# Columns and signatures

The parameters of a routine as a database reports them.

* `ColumnKind.ofCode`: the kind of a metadata code;
* `inOrdinalOrder`: the columns by position, those of one position as reported;
* `Signature`: a routine with its columns.
-/

namespace StoredCall

/-- The kind of a reported column. -/
inductive ColumnKind
  | unknown
  | input
  | inOut
  /-- A column of a result set. -/
  | result
  | output
  /-- The return value of a function or the status of a procedure. -/
  | returned
deriving DecidableEq, Repr

namespace ColumnKind

/-- The kind of a metadata code; codes that are not in use stand for an unknown kind. -/
def ofCode (code : Int) : ColumnKind :=
  if code = 1 then input
  else if code = 2 then inOut
  else if code = 3 then result
  else if code = 4 then output
  else if code = 5 then returned
  else unknown

def code : ColumnKind → Nat
  | unknown => 0
  | input => 1
  | inOut => 2
  | result => 3
  | output => 4
  | returned => 5

/-- The name of the kind in diagnostics. -/
def diagnostic : ColumnKind → String
  | unknown => "Unknown"
  | input => "In"
  | inOut => "InOut"
  | result => "Result"
  | output => "Out"
  | returned => "Return"

/-- Whether the column is an output parameter. -/
def isOutput (k : ColumnKind) : Bool := k = output || k = inOut

end ColumnKind

/-- A reported parameter. -/
structure Column where
  name : Option String
  kind : ColumnKind
  sqlType : SqlType
  typeName : Option String := none
  nullable : Bool := true
  /-- The position from one on; a return value has position zero. -/
  ordinal : Nat
deriving DecidableEq

/-- The columns by position, those of one position in the given order. -/
def inOrdinalOrder (columns : List Column) : List Column :=
  columns.mergeSort (fun a b => a.ordinal ≤ b.ordinal)

/-- A routine as its database reports it. -/
structure Signature where
  routine : RoutineName
  columns : List Column
deriving DecidableEq

end StoredCall
