import StoredCall.Column
import StoredCall.Parameter

/-!
# Dialects

How one database names and types the parameters of calls, as a record of rules.

* `Dialect.generic`, `Dialect.sqlServer`, …: the dialects of the families;
* `Dialect.forFamily`: the dialect for a database;
* `Dialect.identifier`, `Dialect.parameterName`: names by the rules of the dialect;
* `Dialect.lookupName`: the filter by which a routine is looked up;
* `Dialect.defaultInput`, `Dialect.defaultOutput`, `Dialect.defaultInOut`: the parameter made for a
  column that nobody declared.
-/

namespace StoredCall

/-- How a qualifier becomes the filter of a look-up. -/
inductive FilterRule
  /-- The filter is the qualifier that the call itself would use. -/
  | asInCall
  /-- The filter is the qualifier if there is one, or else this. -/
  | orElse (default : Option String)

/-- Which output columns are cursors. -/
inductive CursorRule
  | none
  /-- Columns of this type; the parameter has the type and no type name. -/
  | ofType (sqlType : SqlType)
  /-- Columns of this type name, in any letter case; the parameter is of a vendor type so named. -/
  | ofTypeName (typeName : String)

/-- The rules of one database. -/
structure Dialect where
  family : Family
  info : DatabaseInfo
  /-- Whether reported columns decide which parameters take part. -/
  columnsUsed : Bool := true
  /-- Whether parameter names are reported with a leading at-sign. -/
  atSign : Bool := false
  /-- The reported name of a return column that a procedure call may leave out. -/
  statusColumn : Option String := none
  catalogFilter : FilterRule := .asInCall
  schemaFilter : FilterRule := .asInCall
  /-- Whether procedures return result sets without a placeholder. -/
  resultSets : Bool := true
  /-- Whether result sets come back through cursor parameters. -/
  cursors : Bool := false
  cursorType : SqlType := .other
  cursorColumns : CursorRule := .none

namespace Dialect

/-! ## Names -/

/-- A name in the letter case in which the database stores identifiers. -/
def identifierCase (info : DatabaseInfo) (name : String) : String :=
  if info.storesUpper then Text.upper name
  else if info.storesLower then Text.lower name
  else name

/-- A name without a leading at-sign; an at-sign alone is kept. -/
def dropAtSign (name : String) : String :=
  match name.toList with
  | '@' :: c :: cs => String.ofList (c :: cs)
  | _ => name

variable (d : Dialect)

/-- An identifier in the letter case of the database. -/
def identifier (name : String) : String := identifierCase d.info name

/-- A declared or reported parameter name by the rules of the database. -/
def parameterName (name : String) : String :=
  d.identifier (if d.atSign then dropAtSign name else name)

/-- The catalog to name in a call. -/
def catalogInCall (catalog : Option String) : Option String :=
  if d.info.catalogsInCalls then catalog.map d.identifier else none

/-- The schema to name in a call. -/
def schemaInCall (schema : Option String) : Option String :=
  if d.info.schemasInCalls then schema.map d.identifier else none

/-- The catalog to look for. -/
def catalogToFind (catalog : Option String) : Option String :=
  match d.catalogFilter with
  | .asInCall => d.catalogInCall catalog
  | .orElse default => (catalog.map d.identifier).or default

/-- The schema to look for. -/
def schemaToFind (schema : Option String) : Option String :=
  match d.schemaFilter with
  | .asInCall => d.schemaInCall schema
  | .orElse default => (schema.map d.identifier).or default

/-- The filter by which a routine is looked up. -/
def lookupName (routine : RoutineName) : RoutineName :=
  ⟨d.catalogToFind routine.catalog, d.schemaToFind routine.schema, d.identifier routine.name⟩

/-- Whether a return column may be left out of a procedure call. -/
def bypasses (name : Option String) : Bool := name.isSome && name = d.statusColumn

/-! ## Parameters for undeclared columns -/

/-- The parameter with the column's type name. -/
def typedAs (p : Parameter) (column : Column) : Parameter := { p with typeName := column.typeName }

def defaultInput (name : String) (column : Column) : Parameter :=
  typedAs (.input name column.sqlType) column

def defaultInOut (name : String) (column : Column) : Parameter :=
  typedAs (.inOut name column.sqlType) column

def defaultOutput (name : String) (column : Column) : Parameter :=
  match d.cursorColumns with
  | .ofType sqlType =>
    if column.sqlType = sqlType then .output name sqlType
    else typedAs (.output name column.sqlType) column
  | .ofTypeName typeName =>
    if column.typeName.any (Text.sameLetters · typeName) then
      (Parameter.output name .other).withTypeName typeName
    else typedAs (.output name column.sqlType) column
  | .none => typedAs (.output name column.sqlType) column

/-! ## The dialects of the families -/

/-- The dialect of a database that has only its identifier case. -/
def generic (info : DatabaseInfo) : Dialect := { family := info.family, info }

/-- Microsoft SQL Server: at-signs, and a status column. -/
def sqlServer (info : DatabaseInfo) : Dialect :=
  { family := .sqlServer, info, atSign := true, statusColumn := some "@RETURN_VALUE" }

/-- Sybase: as SQL Server, but the status column comes without an at-sign. -/
def sybase (info : DatabaseInfo) : Dialect :=
  { family := .sybase, info, atSign := true, statusColumn := some "RETURN_VALUE" }

/-- Oracle: packages stand in place of catalogs, a routine outside packages has an empty one,
routines are filed under the user's name, and result sets come through cursors. -/
def oracle (info : DatabaseInfo) : Dialect :=
  { family := .oracle, info, catalogFilter := .orElse (some ""),
    schemaFilter := .orElse (info.user.map Text.upper), resultSets := false, cursors := true,
    cursorType := .oracleCursor, cursorColumns := .ofType .oracleCursor }

/-- PostgreSQL: routines are filed under `public`, results are reported as a return column, and
result sets come through cursors known by their type name. -/
def postgres (info : DatabaseInfo) : Dialect :=
  { family := .postgres, info, statusColumn := some "returnValue",
    schemaFilter := .orElse (some "public"), resultSets := false, cursors := true,
    cursorColumns := .ofTypeName "refcursor" }

/-- Apache Derby: routines are filed under the user's name. -/
def derby (info : DatabaseInfo) : Dialect :=
  { family := .derby, info, schemaFilter := .orElse (info.user.map (identifierCase info)) }

/-- The dialect of a database's family. -/
def forFamily (info : DatabaseInfo) : Dialect :=
  match info.family with
  | .sqlServer => sqlServer info
  | .sybase => sybase info
  | .oracle => oracle info
  | .postgres => postgres info
  | .derby => derby info
  | .mySql | .db2 | .other => generic info

end Dialect

end StoredCall
