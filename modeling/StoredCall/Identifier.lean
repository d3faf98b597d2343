import StoredCall.Error

/-!
# Identifiers

The names that may stand in a call: a letter or underscore, then letters, digits, `_`, `@`, `#` and
`$`, at most 128 characters in all.
-/

namespace StoredCall

/-- A character that may begin an identifier. -/
def isIdentifierStart (c : Char) : Bool := c.isAlpha || c = '_'

/-- A character that may follow in an identifier. -/
def isIdentifierRest (c : Char) : Bool := c.isAlphanum || c = '_' || c = '@' || c = '#' || c = '$'

/-- Whether characters form an identifier. -/
def isIdentifier : List Char → Bool
  | [] => false
  | c :: cs => isIdentifierStart c && cs.all isIdentifierRest && cs.length ≤ 127

/-- Accepts identifiers only. -/
def checkIdentifier (name : String) : Except CallError Unit :=
  if name = "" then .error (.invalidIdentifier .empty)
  else if isIdentifier name.toList then .ok ()
  else .error (.invalidIdentifier (.malformed name))

end StoredCall
