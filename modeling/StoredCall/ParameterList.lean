import StoredCall.Parameter
import StoredCall.Text.Case

/-!
# Parameter lists

The ordered parameters of a prepared call.

* `Entry`: a declared parameter, known by its position among the declarations, or one made for a
  column;
* `ParameterList.find?`: the position of a parameter by name.
-/

namespace StoredCall

/-- A parameter of a prepared call. -/
inductive Entry
  /-- The parameter declared at the position. -/
  | declared (position : Nat) (parameter : Parameter)
  /-- A parameter made for a column that nobody declared. -/
  | synthesized (parameter : Parameter)

namespace Entry

def parameter : Entry → Parameter
  | declared _ p => p
  | synthesized p => p

/-- The position among the declarations. -/
def position? : Entry → Option Nat
  | declared i _ => some i
  | synthesized _ => none

def name (e : Entry) : Option String := e.parameter.name

def isResultSet (e : Entry) : Bool := e.parameter.isResultSet

end Entry

/-- The parameters of a prepared call. -/
structure ParameterList where
  entries : List Entry := []
  /-- The position of the parameter that carries the return value. -/
  returnIndex : Option Nat := none
  /-- The names of the output parameters, declared ones first. -/
  outputNames : List String := []
  /-- The name under which the function result is known. -/
  returnName : String := ""

namespace ParameterList

def length (l : ParameterList) : Nat := l.entries.length

/-- The parameter that carries the return value. -/
def returnEntry? (l : ParameterList) : Option Entry := l.returnIndex.bind (l.entries[·]?)

/-- The position of the first parameter with a name, ignoring ASCII letter case. -/
def find? (l : ParameterList) (name : String) : Option Nat :=
  l.entries.findIdx? fun e => e.name.any (Text.sameLetters · name)

end ParameterList

end StoredCall
