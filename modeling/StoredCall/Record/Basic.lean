import StoredCall.Record.Casing

/-!
# Records

A record type whose fields serve as named argument values, and the attributes that rename fields or
leave them out.

* `RecordType.valueFields`: the fields that are values, with their value names, or what is wrong
  with the attributes.
-/

namespace StoredCall

/-- The value of an attribute. -/
inductive Literal
  | text (s : String)
  | integer (n : Int)
deriving DecidableEq

/-- An attribute: a word and, in parentheses, a key with or without a value. -/
structure FieldAttribute where
  /-- The word before the parentheses; attributes with other words are for others. -/
  family : String
  key : String
  value : Option Literal := none
deriving DecidableEq

/-- A field with its attributes. -/
structure Field where
  name : String
  attributes : List FieldAttribute := []
deriving DecidableEq

/-- The form of a type. -/
inductive Shape
  /-- Named fields. -/
  | record
  /-- Fields without names, or none. -/
  | unnamed
  /-- Alternatives. -/
  | other
deriving DecidableEq

/-- A type with its attributes. -/
structure RecordType where
  shape : Shape := .record
  attributes : List FieldAttribute := []
  fields : List Field := []
deriving DecidableEq

/-- What is wrong with a record type. -/
inductive RecordError
  | unknownFieldAttribute
  | unknownTypeAttribute
  | unsupportedCasing (style : String)
  | valueExpected
  | separatorExpected
  | textExpected
  | fieldsUnnamed
  | noRecord
  | duplicateName (name : String)
deriving DecidableEq

def RecordError.message : RecordError → String
  | unknownFieldAttribute => "unknown sqlcall field attribute"
  | unknownTypeAttribute => "unknown sqlcall struct attribute"
  | unsupportedCasing style =>
    "unsupported rename_all style `" ++ style ++ "`; expected one of "
      ++ ", ".intercalate (Casing.styles.map (·.1))
  | valueExpected => "expected `=`"
  | separatorExpected => "expected `,`"
  | textExpected => "expected a string literal"
  | fieldsUnnamed => "ParameterSource can only be derived for structs with named fields"
  | noRecord => "ParameterSource can only be derived for structs"
  | duplicateName name => "duplicate parameter value name `" ++ name ++ "`"

/-! ## Attributes -/

/-- The word before the parentheses of the attributes that count here. -/
def attributeFamily : String := "sqlcall"

/-- The attributes that count here. -/
def relevant (attributes : List FieldAttribute) : List FieldAttribute :=
  attributes.filter (·.family = attributeFamily)

/-- The text that an attribute must have. -/
def FieldAttribute.text (a : FieldAttribute) : Except RecordError String :=
  match a.value with
  | some (.text s) => .ok s
  | some (.integer _) => .error .textExpected
  | none => .error .valueExpected

/-- What the attributes of a field say. -/
structure FieldOptions where
  rename : Option String := none
  skip : Bool := false
deriving DecidableEq

namespace FieldOptions

/-- The options after an attribute. -/
def apply (o : FieldOptions) (a : FieldAttribute) : Except RecordError FieldOptions :=
  if a.key = "rename" then a.text.map fun name => { o with rename := some name }
  else if a.key = "skip" then
    if a.value.isSome then .error .separatorExpected else .ok { o with skip := true }
  else .error .unknownFieldAttribute

/-- What attributes say, the last one counting. -/
def ofAttributes (attributes : List FieldAttribute) : Except RecordError FieldOptions :=
  (relevant attributes).foldlM apply {}

end FieldOptions

/-- The casing after an attribute of a type. -/
def applyTypeAttribute (_ : Option Casing) (a : FieldAttribute) :
    Except RecordError (Option Casing) :=
  if a.key = "rename_all" then do
    let style ← a.text
    match Casing.named? style with
    | some casing => .ok (some casing)
    | none => .error (.unsupportedCasing style)
  else .error .unknownTypeAttribute

/-- The casing that the attributes of a type ask for. -/
def casingOf (attributes : List FieldAttribute) : Except RecordError (Option Casing) :=
  (relevant attributes).foldlM applyTypeAttribute none

/-! ## Values -/

/-- A field that is a value. -/
structure ValueField where
  /-- The name of the value. -/
  name : String
  /-- The name of the field as written. -/
  field : String
deriving DecidableEq

/-- The name of a field without the mark that lets it be a keyword. -/
def plainName (field : String) : String :=
  match field.toList with
  | 'r' :: '#' :: cs => String.ofList cs
  | _ => field

/-- The value name of a field: its own name in the casing, unless it is renamed. -/
def valueName (casing : Option Casing) (o : FieldOptions) (field : String) : String :=
  o.rename.getD (match casing with
    | some c => c.apply (plainName field)
    | none => plainName field)

/-- The value of a field, if it is none that is left out; its name must be new. -/
def addField (casing : Option Casing) (known : List ValueField) (f : Field) :
    Except RecordError (List ValueField) := do
  let o ← FieldOptions.ofAttributes f.attributes
  if o.skip then return known
  let name := valueName casing o f.name
  if known.any (·.name = name) then .error (.duplicateName name)
  else return known ++ [⟨name, f.name⟩]

/-- Accepts types with named fields. -/
def Shape.check : Shape → Except RecordError Unit
  | record => .ok ()
  | unnamed => .error .fieldsUnnamed
  | other => .error .noRecord

/-- The fields of a type that are values. -/
def RecordType.valueFields (t : RecordType) : Except RecordError (List ValueField) := do
  let casing ← casingOf t.attributes
  t.shape.check
  t.fields.foldlM (addField casing) []

end StoredCall
