import StoredCall.Text.Number

/-!
# Shortest digits

Floating-point numbers in the fewest decimal digits that stand for them.

* `Magnitude.holds`: whether a decimal is nearest to the number;
* `Magnitude.shortest`: the digits, found on the coarsest grid of decimals that has one;
* `shortestText`: the text of a finite floating-point number.
-/

namespace StoredCall.Text

/-- The number `mantissa * 2 ^ power` without its sign. -/
structure Magnitude where
  mantissa : Nat
  power : Int

namespace Magnitude

/-- The magnitude of a finite floating-point number: 52 bits, with a bit before them unless the
number is among the smallest. -/
def ofFloat (x : Float) : Magnitude :=
  let bits := x.toBits.toNat
  let low := bits % Nat.pow 2 52
  match bits / Nat.pow 2 52 % Nat.pow 2 11 with
  | 0 => ⟨low, -1074⟩
  | p => ⟨low + Nat.pow 2 52, p - 1075⟩

/-! ## Decimals around a number

A quarter of the last bit is `scale` and the power `10 ^ unit` is `step`, both in one measure. -/

/-- A quarter of the last bit, measured against `step`. -/
def scale (a : Magnitude) (unit : Int) : Nat :=
  Nat.pow 2 (a.power - 2).toNat * Nat.pow 10 (-unit).toNat

/-- The power `10 ^ unit`, measured against `scale`. -/
def step (a : Magnitude) (unit : Int) : Nat :=
  Nat.pow 2 (2 - a.power).toNat * Nat.pow 10 unit.toNat

/-- The quarters down to the middle between the number and the one below it, which is nearer where
the power changes. -/
def quartersBelow (a : Magnitude) : Nat :=
  if a.mantissa = Nat.pow 2 52 ∧ -1074 < a.power then 1 else 2

/-- Whether the decimal `digits * 10 ^ unit` lies between the middles on both sides of the number.
The middles count for an even mantissa. -/
def holds (a : Magnitude) (unit : Int) (digits : Nat) : Bool :=
  let decimal := digits * a.step unit
  let low := (4 * a.mantissa - a.quartersBelow) * a.scale unit
  let high := (4 * a.mantissa + 2) * a.scale unit
  (low < decimal && decimal < high) || (a.mantissa % 2 = 0 && (decimal = low || decimal = high))

/-- The nearer of the two multiples of `10 ^ unit` around the number that it holds, of two as near
the even one. -/
def digitsAt? (a : Magnitude) (unit : Int) : Option Nat :=
  let value := 4 * a.mantissa * a.scale unit
  let floor := value / a.step unit
  let twice := 2 * (value % a.step unit)
  let down := twice < a.step unit || (twice = a.step unit && floor % 2 = 0)
  (if down then [floor, floor + 1] else [floor + 1, floor]).find? (a.holds unit)

/-- The exponents of ten from above the largest number down to the smallest. -/
def units : List Int := (List.range 634).map fun (i : Nat) => 309 - (i : Int)

/-- The fewest digits that stand for the number, and the power of ten of the last of them. -/
def shortest (a : Magnitude) : Nat × Int :=
  (units.findSome? fun unit => (a.digitsAt? unit).map (·, unit)).getD (0, 0)

end Magnitude

/-! ## Text -/

/-- Digits with a point, or with an exponent where the point would be far from them. -/
def pointed (digits : List Char) (unit : Int) : List Char :=
  let place := digits.length + unit
  if 0 ≤ unit ∧ place ≤ 16 then digits ++ List.replicate unit.toNat '0' ++ ['.', '0']
  else if 0 < place ∧ place ≤ 16 then digits.take place.toNat ++ '.' :: digits.drop place.toNat
  else if -5 < place ∧ place ≤ 0 then '0' :: '.' :: List.replicate place.natAbs '0' ++ digits
  else
    let fraction := if digits.length = 1 then [] else '.' :: digits.drop 1
    digits.take 1 ++ fraction ++ 'e' :: (toString (place - 1)).toList

/-- A finite floating-point number in the fewest digits that stand for it. -/
def shortestText (x : Float) : String :=
  let a := Magnitude.ofFloat x
  let sign := if x.toBits.toNat / Nat.pow 2 63 = 1 then ['-'] else []
  let (digits, unit) := a.shortest
  String.ofList (sign ++ (if a.mantissa = 0 then ['0', '.', '0']
    else pointed (Nat.toDigits 10 digits) unit))

end StoredCall.Text
