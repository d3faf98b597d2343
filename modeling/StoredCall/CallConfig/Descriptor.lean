import StoredCall.CallConfig.Basic
import StoredCall.Text.Blank
import StoredCall.Traced

/-!
# Call descriptors

A configuration written as `key=value` pairs between semicolons, such as
`Function=f;Schema=billing`. Keys are known in any letter case and with some aliases, and the last
pair for a key counts.

* `Setting.read`: the meaning of one segment;
* `CallConfig.ofSettings`: the configuration that settings describe;
* `CallConfig.ofDescriptor`: the configuration that a descriptor describes.
-/

namespace StoredCall

/-- What one segment of a descriptor says. -/
inductive Setting
  | blank
  | procedure (name : String)
  | function (name : String)
  | catalog (name : Option String)
  | schema (name : Option String)
  | returnRequired (b : Bool)
  | returnName (name : String)
  | useColumns (b : Bool)
  | inputNames (names : List String)
  | unknown (key : String)
deriving DecidableEq

namespace Setting

/-- The truth value that a text spells. -/
def truth? (value : String) : Option Bool :=
  if Text.sameLetters value "true" || Text.sameLetters value "yes" || value = "1" then
    some true
  else if Text.sameLetters value "false" || Text.sameLetters value "no" || value = "0" then
    some false
  else none

/-- A truth value as the value of a key. -/
def readTruth (key value : String) : Except CallError Bool :=
  match truth? value with
  | some b => .ok b
  | none => .error (.configuration (.malformedBoolean key value))

/-- A text unless it is empty. -/
def nonempty? (value : String) : Option String := if value = "" then none else some value

/-- The names between commas, without blanks around them and without empty ones. -/
def namesOf (value : List Char) : List String :=
  ((Text.pieces ',' value).map fun part => String.ofList (Text.trimChars part)).filter (· ≠ "")

/-- The meaning of a pair, given its key in lower case. -/
def ofPair (key : String) (value : List Char) : Except CallError Setting :=
  let text := String.ofList value
  if key ∈ ["procedure", "proc"] then .ok (.procedure text)
  else if key = "function" then .ok (.function text)
  else if key ∈ ["catalog", "package"] then .ok (.catalog (nonempty? text))
  else if key ∈ ["schema", "owner"] then .ok (.schema (nonempty? text))
  else if key ∈ ["returnvalue", "return value"] then (readTruth key text).map .returnRequired
  else if key ∈ ["returnname", "return name"] then
    if text = "" then .error (.configuration .emptyReturnName) else .ok (.returnName text)
  else if key ∈ ["metadata", "accessmetadata", "access metadata"] then
    (readTruth key text).map .useColumns
  else if key ∈ ["inparameters", "in parameters"] then .ok (.inputNames (namesOf value))
  else .ok (.unknown key)

/-- The meaning of a segment. -/
def read (segment : List Char) : Except CallError Setting :=
  let part := Text.trimChars segment
  if part = [] then .ok .blank
  else match Text.cutAt? '=' part with
    | none => .error (.configuration (.malformedPair (String.ofList part)))
    | some (key, value) =>
      ofPair (Text.lower (String.ofList (Text.trimChars key))) (Text.trimChars value)

/-- The meanings of segments, up to the first that has none. -/
def readAll : List (List Char) → Except CallError (List Setting)
  | [] => .ok []
  | segment :: rest => do
    let s ← read segment
    let ss ← readAll rest
    return s :: ss

/-- What reading segments reports: the unknown keys before the first segment without a meaning. -/
def events : List (List Char) → List Event
  | [] => []
  | segment :: rest =>
    match read segment with
    | .error _ => []
    | .ok (.unknown key) => .unknownKey key :: events rest
    | .ok _ => events rest

end Setting

/-! ## The configuration of settings -/

/-- A configuration in the making; its routine is named at the end. -/
structure ConfigDraft where
  procedure : Option String := none
  function : Option String := none
  config : CallConfig := .procedure ""

namespace ConfigDraft

/-- The draft after a setting. -/
def apply (d : ConfigDraft) : Setting → ConfigDraft
  | .blank => d
  | .procedure name => { d with procedure := some name }
  | .function name => { d with function := some name }
  | .catalog name => { d with config.routine.catalog := name }
  | .schema name => { d with config.routine.schema := name }
  | .returnRequired b => { d with config.returnRequired := b }
  | .returnName name => { d with config.returnName := name }
  | .useColumns b => { d with config.useColumns := b }
  | .inputNames names => { d with config.inputNames := names }
  | .unknown _ => d

/-- The configuration of a draft that names exactly one routine. -/
def finish (d : ConfigDraft) : Except CallError CallConfig :=
  match d.procedure, d.function with
  | some name, none => .ok { d.config with routine.name := name }
  | none, some name => .ok { d.config with routine.name := name, isFunction := true }
  | some _, some _ => .error (.configuration .twoTargets)
  | none, none => .error (.configuration .noTarget)

end ConfigDraft

namespace CallConfig

/-- The configuration that settings describe. -/
def ofSettings (settings : List Setting) : Except CallError CallConfig := do
  let c ← (settings.foldl ConfigDraft.apply {}).finish
  c.validate
  return c

/-- The segments of a descriptor. -/
def segments (descriptor : String) : List (List Char) := Text.pieces ';' descriptor.toList

/-- The configuration that a descriptor describes. -/
def parse (descriptor : String) : Except CallError CallConfig := do
  let settings ← Setting.readAll (segments descriptor)
  ofSettings settings

/-- The configuration that a descriptor describes, reporting keys without a meaning. -/
def ofDescriptor (descriptor : String) : Attempt CallConfig :=
  .of (parse descriptor) (Setting.events (segments descriptor))

end CallConfig

end StoredCall
