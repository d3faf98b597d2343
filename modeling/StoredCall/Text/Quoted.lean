import StoredCall.Text.PrintData

/-!
# Quoted text

The diagnostic form of texts, optional texts and lists of texts: a text stands between double
quotes, with quotes, backslashes and whatever has no visible form of its own escaped.
-/

namespace StoredCall.Text

/-- The hexadecimal digits of a number, without leading zeros. -/
def hexDigits (n : Nat) : List Char := Nat.toDigits 16 n

/-- A character as it stands inside quotes. -/
def escapeChar (c : Char) : List Char :=
  if c = '"' then ['\\', '"']
  else if c = '\\' then ['\\', '\\']
  else if c = '\n' then ['\\', 'n']
  else if c = '\r' then ['\\', 'r']
  else if c = '\t' then ['\\', 't']
  else if c.toNat = 0 then ['\\', '0']
  else if inRuns unprintable c.toNat then ['\\', 'u', '\x7b'] ++ hexDigits c.toNat ++ ['\x7d']
  else [c]

/-- A text between quotes. -/
def quote (s : String) : String := String.ofList ('"' :: s.toList.flatMap escapeChar ++ ['"'])

/-- An optional text: `None`, or `Some` with the quoted text. -/
def quoteOption : Option String → String
  | none => "None"
  | some s => "Some(" ++ quote s ++ ")"

/-- A list of quoted texts between brackets. -/
def quoteList (texts : List String) : String := "[" ++ ", ".intercalate (texts.map quote) ++ "]"

/-- The name of a record followed by its fields between braces. -/
def quoteRecord (name : String) (fields : List (String × String)) : String :=
  name ++ " \x7b " ++ ", ".intercalate (fields.map fun f => f.1 ++ ": " ++ f.2) ++ " \x7d"

end StoredCall.Text
