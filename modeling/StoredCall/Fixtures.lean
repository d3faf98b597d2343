import StoredCall.MetadataSource

/-!
# Fixtures

Sample databases and routines, described as each database reports them: SQL Server with at-signs and
a status column, Oracle in capitals, PostgreSQL with results as a return column.
-/

namespace StoredCall.Fixtures

/-! ## Databases -/

def sqlServer : DatabaseInfo :=
  ((DatabaseInfo.ofProduct "Microsoft SQL Server").withVersion "16.00.4135").withUser "dbo"

def oracle : DatabaseInfo :=
  (((DatabaseInfo.ofProduct "Oracle").withVersion "19.0.0.0.0").withUser "scott").storingUpper

def postgres : DatabaseInfo :=
  (((DatabaseInfo.ofProduct "PostgreSQL").withVersion "16.2").withUser "app").storingLower

/-- MySQL has no schemas in calls. -/
def mySql : DatabaseInfo :=
  ((DatabaseInfo.ofProduct "MySQL").withVersion "8.0.36").withQualifiers true false

/-- A product of no known family. -/
def unknown : DatabaseInfo := .ofProduct "HyperWidgetDB"

/-- The sample databases by name. -/
def databases : List (String × DatabaseInfo) :=
  [("sql_server", sqlServer), ("oracle", oracle), ("postgres", postgres), ("mysql", mySql),
   ("unknown", unknown)]

/-! ## Routines -/

/-- A named column. -/
def column (name : String) (kind : ColumnKind) (sqlType : SqlType) (ordinal : Nat) : Column :=
  { name := some name, kind, sqlType, ordinal }

/-- `dbo.add_user(@user_name, @new_id)` with a status. -/
def sqlServerAddUser : Signature :=
  { routine := ⟨none, some "dbo", "add_user"⟩
    columns := [column "@RETURN_VALUE" .returned .integer 0, column "@user_name" .input .nvarchar 1,
      { column "@new_id" .inOut .integer 2 with nullable := false }] }

/-- `dbo.get_greeting(@first_name, @last_name)`, a function. -/
def sqlServerGetGreeting : Signature :=
  { routine := ⟨none, some "dbo", "get_greeting"⟩
    columns := [column "@RETURN_VALUE" .returned .nvarchar 0,
      column "@first_name" .input .nvarchar 1,
      column "@last_name" .input .nvarchar 2] }

/-- `SCOTT.GET_EMPLOYEES(P_DEPT, P_CUR)` with a cursor. -/
def oracleGetEmployees : Signature :=
  { routine := ⟨none, some "SCOTT", "GET_EMPLOYEES"⟩
    columns := [column "P_DEPT" .input .numeric 1,
      { column "P_CUR" .output .oracleCursor 2 with typeName := some "REF CURSOR" }] }

/-- `RAISE_SALARY(P_EMP_ID, P_PCT, P_NEW_SALARY)` of the package `PKG_PAYROLL`. -/
def oraclePackagedRaiseSalary : Signature :=
  { routine := ⟨some "PKG_PAYROLL", some "SCOTT", "RAISE_SALARY"⟩
    columns := [column "P_EMP_ID" .input .numeric 1, column "P_PCT" .input .numeric 2,
      column "P_NEW_SALARY" .output .numeric 3] }

/-- `public.get_orders(customer_id)` returning a cursor. -/
def postgresGetOrders : Signature :=
  { routine := ⟨none, some "public", "get_orders"⟩
    columns := [{ column "returnValue" .returned .other 0 with typeName := some "refcursor" },
      column "customer_id" .input .integer 1] }

/-- `public.order_total(order_id)` returning a number. -/
def postgresOrderTotal : Signature :=
  { routine := ⟨none, some "public", "order_total"⟩
    columns := [{ column "returnValue" .returned .numeric 0 with typeName := some "numeric" },
      column "order_id" .input .integer 1] }

/-- `shop.count_items(category, total)`. -/
def mySqlCountItems : Signature :=
  { routine := ⟨some "shop", none, "count_items"⟩
    columns := [column "category" .input .varchar 1, column "total" .output .integer 2] }

/-- The sample routines by name. -/
def routines : List (String × Signature) :=
  [("sql_server_add_user", sqlServerAddUser), ("sql_server_get_greeting", sqlServerGetGreeting),
   ("oracle_get_employees", oracleGetEmployees),
   ("oracle_packaged_raise_salary", oraclePackagedRaiseSalary),
   ("postgres_get_orders", postgresGetOrders), ("postgres_order_total", postgresOrderTotal),
   ("mysql_count_items", mySqlCountItems)]

/-- The sample routines. -/
def signatures : List Signature := routines.map (·.2)

end StoredCall.Fixtures
