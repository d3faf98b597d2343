import StoredCall.Parameter
import StoredCall.Text.Case

/-!
# Row mappers

Mappers for common uses: the first value of a row as it is, in capitals, as an integer or required
to be present, and the number of the row.
-/

namespace StoredCall.RowMappers

/-- The first value of a row. -/
def first (row : List Value) (n : Nat) : Except TypeError Value :=
  match row with
  | [] => .error (.rowMapping n "empty row")
  | v :: _ => .ok v

/-- The first value of a row, a text, in upper case. -/
def capitals (row : List Value) (n : Nat) : Except TypeError Value :=
  match row.head?.bind Value.asText? with
  | some s => .ok (.text (Text.upper s))
  | none => .error (.rowMapping n "name column is not a string")

/-- The number of a row and its length. -/
def rowNumber (row : List Value) (n : Nat) : Except TypeError Value :=
  .ok (.bigInt (Int64.ofNat (n * 1000 + row.length)))

/-- The first value of a row, which must be there. -/
def present (row : List Value) (_ : Nat) : Except TypeError Value :=
  match row with
  | [] => .error .unexpectedNull
  | v :: _ => if v.isNull then .error .unexpectedNull else .ok v

/-- The first value of a row as an integer. -/
def integer (row : List Value) (_ : Nat) : Except TypeError Value :=
  match row with
  | [] => .error (.unsupportedConversion "nothing" "i32")
  | v :: _ =>
    match v.asInt32? with
    | some n => .ok (.int n)
    | none => .error (.typeMismatch "i32" v.sqlType.text)

/-- The mappers by name. -/
def all : List (String × (List Value → Nat → Except TypeError Value)) :=
  [("first", first), ("upper", capitals), ("row_num", rowNumber), ("not_null", present),
   ("int", integer)]

end StoredCall.RowMappers
