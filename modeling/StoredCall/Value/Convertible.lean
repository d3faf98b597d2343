import StoredCall.Error
import StoredCall.Value.Basic

/-!
# Convertible data

Data of an application that can be bound as a value.

* `Convertible.toValue`: the value, which fails only for a natural number beyond 63 bits;
* `Convertible.sqlType`: the type as which the data is bound, known even where the conversion fails.
-/

namespace StoredCall

/-- Data of an application. -/
inductive Convertible
  | bool (b : Bool)
  | uint8 (n : UInt8)
  | int16 (n : Int16)
  | int32 (n : Int32)
  | int64 (n : Int64)
  | uint32 (n : UInt32)
  | uint64 (n : UInt64)
  | float32 (x : Float32)
  | float64 (x : Float)
  | text (s : String)
  | bytes (bs : List UInt8)
  | uuid (u : Uuid)
  | decimal (d : Decimal)
  | date (d : Date)
  | time (t : Time)
  | dateTime (t : DateTime)
  | dateTimeOffset (t : OffsetDateTime)
  | json (d : Document)
  | value (v : Value)
  /-- An optional datum that is absent. -/
  | absent

namespace Convertible

/-- The value of the data. -/
def toValue : Convertible → Except TypeError Value
  | bool b => .ok (.bool b)
  | uint8 n => .ok (.tinyInt n)
  | int16 n => .ok (.smallInt n)
  | int32 n => .ok (.int n)
  | int64 n => .ok (.bigInt n)
  | uint32 n => .ok (.bigInt (Int64.ofNat n.toNat))
  | uint64 n =>
    if n.toNat < Nat.pow 2 63 then .ok (.bigInt (Int64.ofNat n.toNat))
    else .error (.outOfRange "BIGINT")
  | float32 x => .ok (.float x)
  | float64 x => .ok (.double x)
  | text s => .ok (.text s)
  | bytes bs => .ok (.binary bs)
  | uuid u => .ok (.uuid u)
  | decimal d => .ok (.decimal d)
  | date d => .ok (.date d)
  | time t => .ok (.time t)
  | dateTime t => .ok (.dateTime t)
  | dateTimeOffset t => .ok (.dateTimeOffset t)
  | json d => .ok (.json d)
  | value v => .ok v
  | absent => .ok .null

/-- The type as which the data is bound. -/
def sqlType (c : Convertible) : SqlType :=
  match c.toValue with
  | .ok v => v.sqlType
  | .error _ => .bigint

end Convertible

end StoredCall
