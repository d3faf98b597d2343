import StoredCall.Text.Number
import StoredCall.Value.Document.Basic

/-!
# Numbers of documents

The numbers of JSON documents: which of them are integers, and for which floating-point numbers the
others stand.

* `Numeral.leading?`: a number as it is written, at the front of a text;
* `Numeral.toDocument?`: the number it stands for, an integer where 64 bits hold it and neither a
  fraction nor an exponent is written.
-/

namespace StoredCall

/-- A number as it is written: its sign, and the digits of its parts. -/
structure Numeral where
  negative : Bool
  whole : List Char
  fraction : List Char
  exponent : Option Int

namespace Numeral

/-! ## Reading -/

/-- Splits digits from the front of a text that must have some. -/
def someDigits? (cs : List Char) : Option (List Char × List Char) :=
  match Text.leadingDigits cs with
  | ([], _) => none
  | (ds, rest) => some (ds, rest)

/-- The whole part at the front of a text: a lone zero, or digits that begin with another. -/
def leadingWhole? (cs : List Char) : Option (List Char × List Char) :=
  (someDigits? cs).filter fun p => p.1 = ['0'] || p.1.head? != some '0'

/-- The fraction at the front of a text, empty if there is none. -/
def leadingFraction? : List Char → Option (List Char × List Char)
  | '.' :: cs => someDigits? cs
  | cs => some ([], cs)

/-- The exponent after its letter. -/
def exponentAfter? : List Char → Option (Option Int × List Char)
  | '-' :: cs => (someDigits? cs).map fun p => (some (-(Text.numberOf p.1 : Int)), p.2)
  | '+' :: cs => (someDigits? cs).map fun p => (some (Text.numberOf p.1 : Int), p.2)
  | cs => (someDigits? cs).map fun p => (some (Text.numberOf p.1 : Int), p.2)

/-- The exponent at the front of a text, if there is one. -/
def leadingExponent? : List Char → Option (Option Int × List Char)
  | 'e' :: cs => exponentAfter? cs
  | 'E' :: cs => exponentAfter? cs
  | cs => some (none, cs)

/-- Reads a number without its sign at the front of a text. -/
def leadingUnsigned? (negative : Bool) (cs : List Char) : Option (Numeral × List Char) := do
  let (whole, cs) ← leadingWhole? cs
  let (fraction, cs) ← leadingFraction? cs
  let (exponent, cs) ← leadingExponent? cs
  return (⟨negative, whole, fraction, exponent⟩, cs)

/-- Reads a number at the front of a text. -/
def leading? : List Char → Option (Numeral × List Char)
  | '-' :: cs => leadingUnsigned? true cs
  | cs => leadingUnsigned? false cs

/-! ## The number that is meant -/

/-- The number of the longest front of the digits that 64 bits hold, after those already read, and
the digits left. -/
def gather (n : Nat) : List Char → Nat × List Char
  | [] => (n, [])
  | c :: cs =>
    let next := 10 * n + Text.digitValue c
    if next < Nat.pow 2 64 then gather next cs else (n, c :: cs)

/-- A power of ten, up to the largest that is finite. -/
def powerOfTen (k : Nat) : Float := Float.ofScientific 1 false k

/-- The floating-point number next to `n`, scaled by a power of ten in one operation, or in two
below `10 ^ -308`. There is none beyond the finite numbers. -/
def scaled? (n : Nat) (exponent : Int) : Option Float :=
  let x := (UInt64.ofNat n).toFloat
  if n = 0 then some x
  else if 308 < exponent then none
  else if 0 ≤ exponent then
    let y := x * powerOfTen exponent.toNat
    if y.isFinite then some y else none
  else if -308 ≤ exponent then some (x / powerOfTen exponent.natAbs)
  else if -616 ≤ exponent then some (x / powerOfTen 308 / powerOfTen (exponent.natAbs - 308))
  else some 0

/-- The floating-point number of a numeral. Of the digits that 64 bits do not hold, the whole ones
count by their places only and those of the fraction not at all. -/
def toFloat? (a : Numeral) : Option Float :=
  let (n, dropped) := gather 0 a.whole
  let (n, unread) := gather n a.fraction
  let places := a.fraction.length - unread.length
  let exponent : Int := a.exponent.getD 0 + dropped.length - places
  (scaled? n exponent).map fun x => if a.negative then -x else x

/-- The integer of a numeral that is written as one, if 64 bits hold it; a negative zero is none. -/
def toInteger? (a : Numeral) : Option Int :=
  let n := Text.numberOf a.whole
  if !a.fraction.isEmpty || a.exponent.isSome then none
  else if a.negative then if 0 < n ∧ n ≤ Nat.pow 2 63 then some (-n) else none
  else if n < Nat.pow 2 64 then some n else none

/-- The number of a numeral. -/
def toDocument? (a : Numeral) : Option Document :=
  match a.toInteger? with
  | some n => some (.integer n)
  | none => a.toFloat?.map .real

end Numeral

end StoredCall
