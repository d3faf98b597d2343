import StoredCall.ArgumentSource
import StoredCall.Record.Basic

/-!
# Records as argument sources

A record supplies its fields as argument values. Values are converted when they are asked for, so a
field that cannot be converted fails only then.

* `sourceOf`: the source of value fields, given what each field of a record is converted to;
* `RecordType.sourceFrom`: a record type as a way to make sources, whatever its fields hold;
* `RecordType.source`: the same for fields that hold convertible data;
* `SampleRecords`: some record types.
-/

namespace StoredCall

/-- What the fields of a record are converted to, by field name. -/
abbrev FieldValues := String → Except TypeError Value

/-- The data of a record by field name. -/
abbrev RecordData := String → Convertible

/-- What the data of a record is converted to. -/
def RecordData.values (data : RecordData) : FieldValues := fun field => (data field).toValue

/-- The source that value fields make of what the fields of a record are converted to. -/
def sourceOf (fields : List ValueField) (values : FieldValues) : ArgumentSource :=
  { names := fields.map (·.name)
    has := fun name => fields.any (·.name = name)
    value := fun name =>
      match fields.find? (·.name = name) with
      | some f => (values f.field).map some
      | none => .ok none }

/-- A record type as a way to make sources of what the fields are converted to, unless its
attributes are wrong. -/
def RecordType.sourceFrom (t : RecordType) (values : FieldValues) :
    Except RecordError ArgumentSource :=
  t.valueFields.map fun fields => sourceOf fields values

/-- A record type as a way to make sources of data, unless its attributes are wrong. -/
def RecordType.source (t : RecordType) (data : RecordData) : Except RecordError ArgumentSource :=
  t.sourceFrom data.values

namespace SampleRecords

/-- An attribute that gives a value name. -/
def rename (name : String) : FieldAttribute :=
  { family := attributeFamily, key := "rename", value := some (.text name) }

/-- An attribute that leaves a field out. -/
def skip : FieldAttribute := { family := attributeFamily, key := "skip" }

/-- An attribute that sets the casing of a type. -/
def renameAll (style : String) : FieldAttribute :=
  { family := attributeFamily, key := "rename_all", value := some (.text style) }

/-- A user with a part that is no argument. -/
def newUser : RecordType :=
  { fields :=
      [{ name := "user_name" }, { name := "email" }, { name := "draft", attributes := [skip] }] }

/-- Two names in camel case, one of them renamed. -/
def greeting : RecordType :=
  { attributes := [renameAll "camelCase"]
    fields :=
      [{ name := "first_name" }, { name := "surname", attributes := [rename "LAST_NAME"] }] }

/-- A number that may not fit. -/
def limits : RecordType := { fields := [{ name := "max_rows" }] }

/-- An order in capitals, with a field named like a keyword. -/
def order : RecordType :=
  { attributes := [renameAll "SCREAMING_SNAKE_CASE"]
    fields :=
      [{ name := "order_id" }, { name := "quantity" }, { name := "r#type" },
       { name := "raw_data" }] }

/-- A page of results with a capital for each word. -/
def page : RecordType :=
  { attributes := [renameAll "PascalCase"]
    fields := [{ name := "page_no" }, { name := "is_last" }, { name := "ratio" }] }

end SampleRecords

end StoredCall
