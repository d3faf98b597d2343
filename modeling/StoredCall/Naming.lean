import StoredCall.Dialect

/-!
# Parameter names

When two names denote one parameter.

* `Dialect.normalize`: the form in which names are compared;
* `propertyName`: the name of a column as an application would name a field, `user_name` as
  `userName`;
* `sameProperty`: whether two names denote one field.
-/

namespace StoredCall

/-- The form in which names are compared: the dialect's parameter name in lower case. -/
def Dialect.normalize (d : Dialect) (name : String) : String := Text.lower (d.parameterName name)

/-- The characters of a property name after the first: an underscore is dropped and capitalizes what
follows it. -/
def propertyTail : Bool → List Char → List Char
  | _, [] => []
  | capitalize, c :: cs =>
    if c = '_' then propertyTail true cs
    else (if capitalize then Text.upperChar c else Text.lowerChar c) ++ propertyTail false cs

/-- The characters of a property name; a letter alone before an underscore becomes a capital. -/
def propertyChars : List Char → List Char
  | [] => []
  | c :: cs =>
    (if cs.head? = some '_' then Text.upperChar c else Text.lowerChar c) ++ propertyTail false cs

/-- The name of a column as an application would name a field. -/
def propertyName (name : String) : String := String.ofList (propertyChars name.toList)

/-- Whether two names denote one field. -/
def sameProperty (a b : String) : Bool := Text.sameLetters (propertyName a) (propertyName b)

end StoredCall
