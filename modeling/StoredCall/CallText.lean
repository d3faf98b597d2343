import StoredCall.CallContext
import StoredCall.ParameterList
import StoredCall.Traced

/-!
# Call texts

The text of a call, between braces: an optional return placeholder, the qualified name, and a
placeholder for each parameter that is neither a result set nor bound to the return placeholder.

* `CallContext.placeholders`: the number of placeholders between the parentheses;
* `CallContext.callText`: the text.
-/

namespace StoredCall

namespace CallContext

variable (c : CallContext) (l : ParameterList)

/-- The qualifiers named in the call. -/
def qualifiersInCall : List String :=
  ((c.dialect.catalogInCall c.config.routine.catalog).toList
    ++ (c.dialect.schemaInCall c.config.routine.schema).toList).filter (· ≠ "")

/-- The position of the parameter bound to the return placeholder. -/
def boundReturn : Option Nat := if c.config.bindsReturn then l.returnIndex else none

/-- The number of placeholders between the parentheses. -/
def placeholders : Nat :=
  l.entries.zipIdx.countP fun e => !e.1.isResultSet && some e.2 ≠ c.boundReturn l

/-- Question marks between commas. -/
def questionMarks (n : Nat) : String := ", ".intercalate (List.replicate n "?")

/-- The text of the call. -/
def callText : String :=
  "\x7b" ++ (if c.config.bindsReturn then "? = " else "") ++ "call "
    ++ String.join (c.qualifiersInCall.map (· ++ ".")) ++ c.dialect.identifier c.config.routine.name
    ++ "(" ++ questionMarks (c.placeholders l) ++ ")\x7d"

/-- The text of the call, reported. -/
def buildCallText : Traced String := ⟨c.callText l, [.callTextBuilt (c.callText l)]⟩

/-! ## Results -/

/-- The name of the one result of the call: a function's return name, or else the first output. -/
def scalarName : Option String :=
  if c.config.isFunction then some c.config.returnName else c.outputNames.head?

/-- The name of the one result of the call, reporting if there are several outputs. -/
def scalar : Traced (Option String) :=
  ⟨c.scalarName,
    if !c.config.isFunction && c.outputNames.length > 1 then
      [.severalOutputs c.config.routine.name c.outputNames]
    else []⟩

/-- The parameter for a result set: a result set, or else a cursor. -/
def resultSetParameter (name : String) (mapper : Option RowMapper) : Except CallError Parameter :=
  if c.dialect.resultSets then
    .ok { name := some name, direction := .resultSet, sqlType := .other, mapper }
  else if c.dialect.cursors then .ok { Parameter.output name c.dialect.cursorType with mapper }
  else .error (.configuration (.resultSetUnsupported c.dialect.family))

end CallContext

end StoredCall
