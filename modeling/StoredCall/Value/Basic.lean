import StoredCall.SqlType
import StoredCall.Value.Decimal
import StoredCall.Value.Document.Basic
import StoredCall.Value.Time
import StoredCall.Value.Uuid

/-!
# Values

The values that calls take and return, independent of any database driver.

* `Value.asInt32?`, `Value.asInt64?`, `Value.asDouble?`: the accessors that widen smaller numbers;
* `Value.sqlType`: the type as which a value is bound by default;
* `Value.same`: equality, where floating-point numbers and decimals compare as numbers, and times
  with an offset as instants.
-/

namespace StoredCall

/-- An argument or result value. -/
inductive Value
  | null
  | bool (b : Bool)
  | tinyInt (n : UInt8)
  | smallInt (n : Int16)
  | int (n : Int32)
  | bigInt (n : Int64)
  | float (x : Float32)
  | double (x : Float)
  | text (s : String)
  | binary (bytes : List UInt8)
  | decimal (d : Decimal)
  | uuid (u : Uuid)
  | date (d : Date)
  | time (t : Time)
  | dateTime (t : DateTime)
  | dateTimeOffset (t : OffsetDateTime)
  | json (d : Document)
  /-- The rows of a returned result set or cursor. -/
  | rows (vs : List Value)

namespace Value

instance : Inhabited Value := ⟨null⟩

/-! ## Accessors -/

def isNull : Value → Bool
  | null => true
  | _ => false

def asBool? : Value → Option Bool
  | bool b => some b
  | _ => none

/-- The integer of a value of at most 32 bits. -/
def asInt32? : Value → Option Int32
  | int n => some n
  | smallInt n => some n.toInt32
  | tinyInt n => some (Int32.ofNat n.toNat)
  | _ => none

/-- The integer of a value of at most 64 bits. -/
def asInt64? : Value → Option Int64
  | bigInt n => some n
  | int n => some n.toInt64
  | smallInt n => some n.toInt64
  | tinyInt n => some (Int64.ofNat n.toNat)
  | _ => none

/-- The number of a floating-point value. -/
def asDouble? : Value → Option Float
  | double x => some x
  | float x => some x.toFloat
  | _ => none

def asText? : Value → Option String
  | text s => some s
  | _ => none

def asBytes? : Value → Option (List UInt8)
  | binary bytes => some bytes
  | _ => none

def asRows? : Value → Option (List Value)
  | rows vs => some vs
  | _ => none

/-- The type as which a value is bound by default. -/
def sqlType : Value → SqlType
  | null => .null
  | bool _ => .boolean
  | tinyInt _ => .tinyint
  | smallInt _ => .smallint
  | int _ => .integer
  | bigInt _ => .bigint
  | float _ => .real
  | double _ => .double
  | text _ => .varchar
  | binary _ => .varbinary
  | decimal _ => .decimal
  | uuid _ => .other
  | date _ => .date
  | time _ => .time
  | dateTime _ => .timestamp
  | dateTimeOffset _ => .timestampWithTimezone
  | json _ => .varchar
  | rows _ => .refCursor

/-! ## Equality -/

mutual

/-- Equality of values of one kind; a NaN differs from itself, and the two zeros are equal. -/
def same : Value → Value → Bool
  | null, null => true
  | bool a, bool b => a == b
  | tinyInt a, tinyInt b => a == b
  | smallInt a, smallInt b => a == b
  | int a, int b => a == b
  | bigInt a, bigInt b => a == b
  | float a, float b => a == b
  | double a, double b => a == b
  | text a, text b => a == b
  | binary a, binary b => a == b
  | decimal a, decimal b => a.same b
  | uuid a, uuid b => a == b
  | date a, date b => a == b
  | time a, time b => a == b
  | dateTime a, dateTime b => a == b
  | dateTimeOffset a, dateTimeOffset b => a.sameInstant b
  | json a, json b => a.same b
  | rows as, rows bs => sameRows as bs
  | _, _ => false

/-- Equality of two lists of values. -/
def sameRows : List Value → List Value → Bool
  | [], [] => true
  | a :: as, b :: bs => same a b && sameRows as bs
  | _, _ => false

end

end Value

end StoredCall
