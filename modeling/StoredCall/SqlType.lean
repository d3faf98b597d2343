/-!
# SQL types

Parameter types are the integer codes that databases report; a code without a conventional name is
kept as it is.

* `SqlType.named?`: the type of a conventional identifier;
* `SqlType.name?`, `SqlType.text`: the name of a type, and the form in which messages show it.
-/

namespace StoredCall

/-- A type code as reported by procedure column metadata. -/
structure SqlType where
  code : Int
deriving DecidableEq, Repr

namespace SqlType

def bit : SqlType := ⟨-7⟩
def tinyint : SqlType := ⟨-6⟩
def bigint : SqlType := ⟨-5⟩
def longvarbinary : SqlType := ⟨-4⟩
def varbinary : SqlType := ⟨-3⟩
def binary : SqlType := ⟨-2⟩
def longvarchar : SqlType := ⟨-1⟩
def null : SqlType := ⟨0⟩
def char : SqlType := ⟨1⟩
def numeric : SqlType := ⟨2⟩
def decimal : SqlType := ⟨3⟩
def integer : SqlType := ⟨4⟩
def smallint : SqlType := ⟨5⟩
def float : SqlType := ⟨6⟩
def real : SqlType := ⟨7⟩
def double : SqlType := ⟨8⟩
def varchar : SqlType := ⟨12⟩
def boolean : SqlType := ⟨16⟩
def date : SqlType := ⟨91⟩
def time : SqlType := ⟨92⟩
def timestamp : SqlType := ⟨93⟩
def timestampWithTimezone : SqlType := ⟨2014⟩
def nvarchar : SqlType := ⟨-9⟩
def nchar : SqlType := ⟨-15⟩
def blob : SqlType := ⟨2004⟩
def clob : SqlType := ⟨2005⟩
def sqlxml : SqlType := ⟨2009⟩
/-- Vendor-specific types share this code; PostgreSQL reports `refcursor` under it. -/
def other : SqlType := ⟨1111⟩
def refCursor : SqlType := ⟨2012⟩
/-- The type of Oracle's `SYS_REFCURSOR` parameters. -/
def oracleCursor : SqlType := ⟨-10⟩

instance : Inhabited SqlType := ⟨other⟩

/-- The conventional types with their identifiers. -/
def conventional : List (String × SqlType) :=
  [("BIT", bit), ("TINYINT", tinyint), ("SMALLINT", smallint), ("INTEGER", integer),
   ("BIGINT", bigint), ("FLOAT", float), ("REAL", real), ("DOUBLE", double),
   ("NUMERIC", numeric), ("DECIMAL", decimal), ("CHAR", char), ("VARCHAR", varchar),
   ("LONGVARCHAR", longvarchar), ("NCHAR", nchar), ("NVARCHAR", nvarchar), ("DATE", date),
   ("TIME", time), ("TIMESTAMP", timestamp),
   ("TIMESTAMP_WITH_TIMEZONE", timestampWithTimezone), ("BINARY", binary), ("VARBINARY", varbinary),
   ("LONGVARBINARY", longvarbinary), ("NULL", null), ("OTHER", other), ("BOOLEAN", boolean),
   ("BLOB", blob), ("CLOB", clob), ("SQLXML", sqlxml), ("REF_CURSOR", refCursor),
   ("ORACLE_CURSOR", oracleCursor)]

/-- The type with a conventional identifier. -/
def named? (identifier : String) : Option SqlType := conventional.lookup identifier

/-- The name that messages use: the identifier, except that the Oracle cursor is just a cursor. -/
def name? (t : SqlType) : Option String :=
  if t = oracleCursor then some "CURSOR" else (conventional.find? (·.2 = t)).map (·.1)

/-- The name, or the code of a type without one. -/
def text (t : SqlType) : String := t.name?.getD s!"SQLTYPE({t.code})"

def isCharacter (t : SqlType) : Bool := t ∈ [char, varchar, longvarchar, nchar, nvarchar, clob]

/-- Exact and approximate numbers; a bit is none. -/
def isNumeric (t : SqlType) : Bool :=
  t ∈ [tinyint, smallint, integer, bigint, float, real, double, numeric, decimal]

/-- Whether a parameter of the type yields a result set. -/
def isCursor (t : SqlType) : Bool := t ∈ [refCursor, oracleCursor]

end SqlType

end StoredCall
