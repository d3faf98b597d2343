import StoredCall.Text.Blank

/-!
# Databases

What a database says about itself, and the family it belongs to.

* `Family.ofProduct`: the family of a product name;
* `Family.systemName`: the short name of a family in messages;
* `Family.reportsColumns`: whether a family reports the columns of its routines.
-/

namespace StoredCall

/-- Database families that describe their routines differently. -/
inductive Family
  | sqlServer
  | sybase
  | oracle
  | postgres
  | mySql
  | db2
  | derby
  | other
deriving DecidableEq, Repr

namespace Family

/-- The product names that stand for a family by themselves. -/
def products : List (String × Family) :=
  [("Microsoft SQL Server", sqlServer), ("Sybase SQL Server", sybase),
   ("Adaptive Server Enterprise", sybase), ("ASE", sybase), ("sql server", sybase),
   ("Oracle", oracle), ("PostgreSQL", postgres), ("MySQL", mySql), ("Apache Derby", derby)]

/-- The family of a product; of DB2 and Sybase products only the beginning of the name matters. -/
def ofProduct (product : String) : Family :=
  let name := Text.trim product
  match products.lookup name with
  | some family => family
  | none =>
    if "DB2".toList.isPrefixOf name.toList then db2
    else if "Sybase".toList.isPrefixOf name.toList then sybase
    else other

/-- The short name of the family. -/
def systemName : Family → String
  | sqlServer => "mssql"
  | sybase => "sybase"
  | oracle => "oracle"
  | postgres => "postgresql"
  | mySql => "mysql"
  | db2 => "db2"
  | derby => "derby"
  | other => "other_sql"

/-- Whether the columns of functions, or else of procedures, can be looked up. -/
def reportsColumns (family : Family) (isFunction : Bool) : Bool :=
  match family with
  | sqlServer | oracle | postgres | mySql => true
  | sybase | db2 | derby => !isFunction
  | other => false

end Family

/-- The facts about a database that decide how it names things. -/
structure DatabaseInfo where
  product : String
  version : Option String := none
  user : Option String := none
  /-- Unquoted identifiers are stored in upper case. -/
  storesUpper : Bool := false
  /-- Unquoted identifiers are stored in lower case. -/
  storesLower : Bool := false
  /-- A call may name a catalog. -/
  catalogsInCalls : Bool := true
  /-- A call may name a schema. -/
  schemasInCalls : Bool := true

namespace DatabaseInfo

/-- A database that keeps identifiers as written and takes both qualifiers. -/
def ofProduct (product : String) : DatabaseInfo := { product }

def withVersion (info : DatabaseInfo) (version : String) : DatabaseInfo :=
  { info with version := some version }

def withUser (info : DatabaseInfo) (user : String) : DatabaseInfo := { info with user := some user }

def storingUpper (info : DatabaseInfo) : DatabaseInfo :=
  { info with storesUpper := true, storesLower := false }

def storingLower (info : DatabaseInfo) : DatabaseInfo :=
  { info with storesUpper := false, storesLower := true }

def withQualifiers (info : DatabaseInfo) (catalogs schemas : Bool) : DatabaseInfo :=
  { info with catalogsInCalls := catalogs, schemasInCalls := schemas }

def family (info : DatabaseInfo) : Family := Family.ofProduct info.product

end DatabaseInfo

end StoredCall
