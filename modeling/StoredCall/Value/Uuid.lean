import StoredCall.Text.Number

/-!
# Universally unique identifiers

Identifiers of 128 bits.

* `Uuid.ofText?`: reads 32 hexadecimal digits of either case, bare, in five groups, in braces or
  after `urn:uuid:`;
* `Uuid.text`: five groups of lower-case digits between hyphens.
-/

namespace StoredCall

structure Uuid where
  bits : BitVec 128
deriving DecidableEq

namespace Uuid

/-- Reads 32 digits. -/
def ofDigits? (cs : List Char) : Option Uuid :=
  if cs.length = 32 then (Text.hexNumber? cs).map fun n => ⟨BitVec.ofNat 128 n⟩ else none

/-- Splits a list into runs of the given lengths and what is left. -/
def split {α : Type} : List Nat → List α → List (List α)
  | [], xs => [xs]
  | n :: ns, xs => xs.take n :: split ns (xs.drop n)

/-- Reads five groups between hyphens. -/
def ofGroups? (cs : List Char) : Option Uuid :=
  match split [8, 1, 4, 1, 4, 1, 4, 1] cs with
  | [a, ['-'], b, ['-'], c, ['-'], d, ['-'], e] => ofDigits? (a ++ b ++ c ++ d ++ e)
  | _ => none

/-- Reads an identifier in any of its forms. -/
def ofText? (s : String) : Option Uuid :=
  match s.toList with
  | '\x7b' :: cs => if cs.getLast? = some '\x7d' then ofGroups? cs.dropLast else none
  | 'u' :: 'r' :: 'n' :: ':' :: 'u' :: 'u' :: 'i' :: 'd' :: ':' :: cs => ofGroups? cs
  | cs => if cs.length = 32 then ofDigits? cs else ofGroups? cs

/-- Five groups of 8, 4, 4, 4 and 12 digits. -/
def text (u : Uuid) : String :=
  String.ofList (['-'].intercalate (split [8, 4, 4, 4] (Text.padded 16 32 u.bits.toNat)))

end Uuid

end StoredCall
