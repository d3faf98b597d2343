import StoredCall.Text.Number

/-!
# Decimal numbers

Decimal numbers of at most 28 places, whose digits without the point stay below `2 ^ 96`.

* `Decimal.ofText?`: reads a sign, digits and at most one point;
* `Decimal.text`: the number with all its places;
* `Decimal.same`: two decimals stand for one number, whatever their trailing zeros.
-/

namespace StoredCall

/-- The number `unscaled / 10 ^ places`. -/
structure Decimal where
  unscaled : Int
  places : Nat
  inRange : unscaled.natAbs < Nat.pow 2 96 ∧ places ≤ 28

namespace Decimal

/-- The decimal of given digits, unless they are too many. -/
def ofDigits? (unscaled : Int) (places : Nat) : Option Decimal :=
  if h : unscaled.natAbs < Nat.pow 2 96 ∧ places ≤ 28 then some ⟨unscaled, places, h⟩ else none

/-! ## Reading -/

/-- Rounds by the first digit left out: five goes up. One place is given up where the digits would
become too many. -/
def rounded (n places digit : Nat) : Nat × Nat :=
  if digit < 5 then (n, places)
  else if n + 1 < Nat.pow 2 96 ∨ places = 0 then (n + 1, places)
  else ((n + 5) / 10, places - 1)

/-- Adds the digits after the point as far as they fit. The first that does not fit rounds the
number, and what follows it is left out. -/
def withFraction? (n places : Nat) : List Char → Option (Nat × Nat)
  | [] => some (n, places)
  | '_' :: cs => withFraction? n places cs
  | c :: cs =>
    if c.isDigit then
      let next := 10 * n + Text.digitValue c
      if places < 28 ∧ next < Nat.pow 2 96 then withFraction? next (places + 1) cs
      else some (rounded n places (Text.digitValue c))
    else none

/-- Reads a decimal without its sign: at least one digit, and an underscore may follow any. -/
def unsigned? (cs : List Char) : Option (Nat × Nat) :=
  let whole := cs.takeWhile (· ≠ '.')
  let fraction := (cs.dropWhile (· ≠ '.')).drop 1
  let digits := whole.filter (· ≠ '_')
  if digits.all Char.isDigit ∧ (whole ++ fraction).head?.any Char.isDigit then
    withFraction? (Text.numberOf digits) 0 fraction
  else none

/-- Reads a decimal. -/
def ofText? (s : String) : Option Decimal :=
  match s.toList with
  | '-' :: cs => (unsigned? cs).bind fun (n, places) => ofDigits? (-n) places
  | '+' :: cs => (unsigned? cs).bind fun (n, places) => ofDigits? n places
  | cs => (unsigned? cs).bind fun (n, places) => ofDigits? n places

/-! ## Writing and comparing -/

/-- The number with all its places and at least one digit before the point. -/
def text (d : Decimal) : String :=
  let digits := Text.padded 10 (d.places + 1) d.unscaled.natAbs
  let whole := digits.take (digits.length - d.places)
  let sign := if d.unscaled < 0 then ['-'] else []
  let point := if d.places = 0 then [] else ['.']
  String.ofList (sign ++ whole ++ point ++ digits.drop whole.length)

/-- Equality of the numbers. -/
def same (a b : Decimal) : Bool :=
  a.unscaled * Int.pow 10 b.places == b.unscaled * Int.pow 10 a.places

end Decimal

end StoredCall
