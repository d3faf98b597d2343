/-!
# Documents

JSON documents as argument values. They are passed on as they are; only equality looks inside.

* `Document.member?`, `insertMember`: the members of an object, sorted by name, each name once;
* `Document.same`: equality, with an integer never equal to a number that has a fraction or
  exponent.
-/

namespace StoredCall

/-- A JSON document; the members of an object are sorted by name. -/
inductive Document
  | null
  | bool (b : Bool)
  /-- An integer of at most 64 bits, of which only a negative one has a sign. -/
  | integer (n : Int)
  /-- Any other number. -/
  | real (x : Float)
  | text (s : String)
  | array (items : List Document)
  | object (members : List (String × Document))

namespace Document

instance : Inhabited Document := ⟨null⟩

/-! ## Members -/

/-- Puts a member at its place; it replaces one of the same name. -/
def insertMember (name : String) (d : Document) :
    List (String × Document) → List (String × Document)
  | [] => [(name, d)]
  | (n, e) :: ms =>
    if name < n then (name, d) :: (n, e) :: ms
    else if name = n then (name, d) :: ms
    else (n, e) :: insertMember name d ms

/-- The object with the given members; the last of a name counts. -/
def ofMembers (members : List (String × Document)) : Document :=
  object (members.foldl (fun ms m => insertMember m.1 m.2 ms) [])

/-- The member of an object that has the given name. -/
def member? (name : String) : Document → Option Document
  | object members => members.lookup name
  | _ => none

/-! ## Equality -/

mutual

/-- Equality of documents. -/
def same : Document → Document → Bool
  | null, null => true
  | bool a, bool b => a == b
  | integer a, integer b => a == b
  | real a, real b => a == b
  | text a, text b => a == b
  | array as, array bs => sameItems as bs
  | object as, object bs => sameMembers as bs
  | _, _ => false

/-- Equality of the items of two arrays. -/
def sameItems : List Document → List Document → Bool
  | [], [] => true
  | a :: as, b :: bs => same a b && sameItems as bs
  | _, _ => false

/-- Equality of the members of two objects. -/
def sameMembers : List (String × Document) → List (String × Document) → Bool
  | [], [] => true
  | (m, a) :: as, (n, b) :: bs => m == n && same a b && sameMembers as bs
  | _, _ => false

end

end Document

end StoredCall
