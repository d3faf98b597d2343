import StoredCall.Text.Shortest
import StoredCall.Value.Document.Basic

/-!
# Writing documents

A document as JSON text, without blanks.

* `Document.quote`: a string between quotes, with quotes, backslashes and controls escaped;
* `Document.render`: the document.
-/

namespace StoredCall.Document

/-- A character as it stands inside quotes. -/
def escaped (c : Char) : List Char :=
  if c = '"' then ['\\', '"']
  else if c = '\\' then ['\\', '\\']
  else if c < ' ' then '\\' :: 'u' :: Text.padded 16 4 c.toNat
  else [c]

/-- A string between quotes. -/
def quote (s : String) : String := String.ofList ('"' :: s.toList.flatMap escaped ++ ['"'])

mutual

/-- The text of a document. -/
def render : Document → String
  | null => "null"
  | bool b => if b then "true" else "false"
  | integer n => toString n
  | real x => Text.shortestText x
  | text s => quote s
  | array items => "[" ++ ",".intercalate (renderItems items) ++ "]"
  | object members => "\x7b" ++ ",".intercalate (renderMembers members) ++ "\x7d"

/-- The texts of the items of an array. -/
def renderItems : List Document → List String
  | [] => []
  | d :: ds => render d :: renderItems ds

/-- The texts of the members of an object. -/
def renderMembers : List (String × Document) → List String
  | [] => []
  | (name, d) :: ms => (quote name ++ ":" ++ render d) :: renderMembers ms

end

end StoredCall.Document
