import StoredCall.Value.Document.Numeral

/-!
# Reading documents

JSON text as a document. The reader goes through a list of characters; what it has read it returns
with the rest of the text. It takes a count that bounds its steps, which `Document.ofText?` sets to
what any document of the text needs.

* `Document.ofText?`: reads a text that holds one document.
-/

namespace StoredCall.Document

/-! ## Blanks and strings -/

/-- The text after the blanks at its front. -/
def skipBlanks (cs : List Char) : List Char :=
  cs.dropWhile fun c => c = ' ' || c = '\t' || c = '\n' || c = '\r'

/-- The character of a code point, unless it is half of a pair. -/
def charOf? (n : Nat) : Option Char := if h : n.isValidChar then some (Char.ofNatAux n h) else none

/-- Reads the character that four or, for a pair, twice four hexadecimal digits stand for. -/
def codedChar? (cs : List Char) : Option (Char × List Char) := do
  if (cs.take 4).length < 4 then none
  let unit ← Text.hexNumber? (cs.take 4)
  let rest := cs.drop 4
  if unit < 0xd800 ∨ 0xdbff < unit then return (← charOf? unit, rest)
  match rest with
  | '\\' :: 'u' :: rest => do
    if (rest.take 4).length < 4 then none
    let second ← Text.hexNumber? (rest.take 4)
    if second < 0xdc00 ∨ 0xdfff < second then none
    return (← charOf? (0x10000 + 0x400 * (unit - 0xd800) + (second - 0xdc00)), rest.drop 4)
  | _ => none

/-- Reads the character that an escape stands for, after its backslash. -/
def escapedChar? : List Char → Option (Char × List Char)
  | 'u' :: cs => codedChar? cs
  | '"' :: cs => some ('"', cs)
  | '\\' :: cs => some ('\\', cs)
  | '/' :: cs => some ('/', cs)
  | 'b' :: cs => some ('\x08', cs)
  | 'f' :: cs => some ('\x0c', cs)
  | 'n' :: cs => some ('\n', cs)
  | 'r' :: cs => some ('\r', cs)
  | 't' :: cs => some ('\t', cs)
  | _ => none

/-- Reads a string after its opening quote. -/
def string? : Nat → List Char → Option (List Char × List Char)
  | 0, _ => none
  | _, [] => none
  | _, '"' :: cs => some ([], cs)
  | steps + 1, '\\' :: cs => do
    let (c, cs) ← escapedChar? cs
    let (s, rest) ← string? steps cs
    return (c :: s, rest)
  | steps + 1, c :: cs =>
    if c < ' ' then none else (string? steps cs).map fun (s, rest) => (c :: s, rest)

/-! ## Documents -/

mutual

/-- Reads a document at the front of a text. -/
def leading? : Nat → List Char → Option (Document × List Char)
  | 0, _ => none
  | steps + 1, cs =>
    match skipBlanks cs with
    | 'n' :: 'u' :: 'l' :: 'l' :: rest => some (null, rest)
    | 't' :: 'r' :: 'u' :: 'e' :: rest => some (bool true, rest)
    | 'f' :: 'a' :: 'l' :: 's' :: 'e' :: rest => some (bool false, rest)
    | '"' :: rest => (string? steps rest).map fun (s, rest) => (text (String.ofList s), rest)
    | '[' :: rest =>
      match skipBlanks rest with
      | ']' :: rest => some (array [], rest)
      | rest => (leadingItems? steps rest).map fun (ds, rest) => (array ds, rest)
    | '\x7b' :: rest =>
      match skipBlanks rest with
      | '\x7d' :: rest => some (object [], rest)
      | rest => (leadingMembers? steps rest).map fun (ms, rest) => (ofMembers ms, rest)
    | rest => do
      let (a, rest) ← Numeral.leading? rest
      return (← a.toDocument?, rest)

/-- Reads the items of an array up to its end. -/
def leadingItems? : Nat → List Char → Option (List Document × List Char)
  | 0, _ => none
  | steps + 1, cs => do
    let (d, cs) ← leading? steps cs
    match skipBlanks cs with
    | ',' :: cs => do
      let (ds, rest) ← leadingItems? steps cs
      return (d :: ds, rest)
    | ']' :: rest => return ([d], rest)
    | _ => none

/-- Reads the members of an object up to its end. -/
def leadingMembers? : Nat → List Char → Option (List (String × Document) × List Char)
  | 0, _ => none
  | steps + 1, cs =>
    match skipBlanks cs with
    | '"' :: cs => do
      let (name, cs) ← string? steps cs
      match skipBlanks cs with
      | ':' :: cs => do
        let (d, cs) ← leading? steps cs
        let m := (String.ofList name, d)
        match skipBlanks cs with
        | ',' :: cs => do
          let (ms, rest) ← leadingMembers? steps cs
          return (m :: ms, rest)
        | '\x7d' :: rest => return ([m], rest)
        | _ => none
      | _ => none
    | _ => none

end

/-- Reads a text that holds one document and blanks around it. Each step but every second consumes a
character. -/
def ofText? (s : String) : Option Document :=
  let cs := s.toList
  match leading? (2 * cs.length + 2) cs with
  | some (d, rest) => if (skipBlanks rest).isEmpty then some d else none
  | none => none

end StoredCall.Document
