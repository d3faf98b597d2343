import StoredCall.Text.Case

/-!
# Casing styles

The ways to turn field names into value names.

* `Casing.named?`: the style of a name;
* `Casing.apply`: a name in a style.
-/

namespace StoredCall

/-- A way to write names of several words. -/
inductive Casing
  /-- As in `user_name`. -/
  | snake
  /-- As in `userName`. -/
  | camel
  /-- As in `UserName`. -/
  | pascal
  /-- As in `USER_NAME`. -/
  | screamingSnake
deriving DecidableEq

namespace Casing

/-- The styles by name. -/
def styles : List (String × Casing) :=
  [("snake_case", snake), ("camelCase", camel), ("PascalCase", pascal),
   ("SCREAMING_SNAKE_CASE", screamingSnake)]

/-- The style of a name. -/
def named? (style : String) : Option Casing := styles.lookup style

/-- The characters after those written so far: a capital begins a word with an underscore, unless
there is one already or it comes first. -/
def snakeAfter (written : List Char) : List Char → List Char
  | [] => written
  | c :: cs =>
    if Text.isCapital c then
      let gap := if written ≠ [] && written.getLast? ≠ some '_' then ['_'] else []
      snakeAfter (written ++ gap ++ Text.lowerChar c) cs
    else snakeAfter (written ++ [c]) cs

/-- Words in lower case between underscores. -/
def snakeChars (cs : List Char) : List Char := snakeAfter [] cs

/-- Words with a capital each and no underscores, the first one also if it is wanted. -/
def pascalFrom : Bool → List Char → List Char
  | _, [] => []
  | capitalize, c :: cs =>
    if c = '_' then pascalFrom true cs
    else (if capitalize then Text.upperChar c else [c]) ++ pascalFrom false cs

/-- Words with a capital each. -/
def pascalChars (cs : List Char) : List Char := pascalFrom true cs

/-- Words with a capital each, except for the first letter of all. -/
def camelChars (cs : List Char) : List Char :=
  match pascalChars cs with
  | [] => []
  | c :: rest => Text.lowerChar c ++ rest

/-- A name in a style. -/
def apply (casing : Casing) (name : String) : String :=
  match casing with
  | snake => String.ofList (snakeChars name.toList)
  | camel => String.ofList (camelChars name.toList)
  | pascal => String.ofList (pascalChars name.toList)
  | screamingSnake => Text.upper (String.ofList (snakeChars name.toList))

end Casing

end StoredCall
