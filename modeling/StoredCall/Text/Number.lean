/-!
# Numerals

Numbers as digits in a text.

* `numberOf`, `hexNumber?`: the number that decimal or hexadecimal digits stand for;
* `leadingNumber?`: the number at the front of a text;
* `padded`: the digits of a number, with zeros in front up to a width.
-/

namespace StoredCall.Text

/-! ## Reading -/

/-- The value of a decimal digit. -/
def digitValue (c : Char) : Nat := c.toNat - '0'.toNat

/-- The number that decimal digits stand for. -/
def numberOf (digits : List Char) : Nat := digits.foldl (fun n c => 10 * n + digitValue c) 0

/-- The decimal digits at the front of a text, and the text after them. -/
def leadingDigits (cs : List Char) : List Char × List Char :=
  (cs.takeWhile Char.isDigit, cs.dropWhile Char.isDigit)

/-- Reads a number of at most the given count of digits at the front of a text. -/
def leadingNumber? (most : Nat) (cs : List Char) : Option (Nat × List Char) :=
  match (leadingDigits (cs.take most)).1 with
  | [] => none
  | ds => some (numberOf ds, cs.drop ds.length)

/-- The value of a hexadecimal digit of either case. -/
def hexValue? (c : Char) : Option Nat :=
  if c.isDigit then some (digitValue c)
  else if 'a' ≤ c ∧ c ≤ 'f' then some (c.toNat - 'a'.toNat + 10)
  else if 'A' ≤ c ∧ c ≤ 'F' then some (c.toNat - 'A'.toNat + 10)
  else none

/-- The number that hexadecimal digits stand for. -/
def hexNumber? (digits : List Char) : Option Nat :=
  digits.foldlM (fun n c => (hexValue? c).map (16 * n + ·)) 0

/-! ## Writing -/

/-- The digits of a number to a base of at most sixteen, with zeros in front up to a width. -/
def padded (base width n : Nat) : List Char :=
  let digits := Nat.toDigits base n
  List.replicate (width - digits.length) '0' ++ digits

end StoredCall.Text
