/-!
# Shortest decimals of binary fractions

A binary fraction `significand * 2 ^ exponent` of limited precision stands for all numbers that
round to it. This file selects the decimal with the fewest digits among them, the nearest one
where several have as few, and the even one of two that are equally near. The selection walks
through the grids of multiples of powers of ten, from the coarsest to the finest, and tests the
two grid points next to the exact value.
-/

namespace TimedBatch.Decimal

/-- A positive interval around an exact value, as three numerators over one denominator. The ends
belong to it when `closed` holds. -/
structure Interval where
  lower : Nat
  value : Nat
  upper : Nat
  denominator : Nat
  closed : Bool

namespace Interval

/-- The numbers that round to `significand * 2 ^ exponent` in the format of 53 binary digits.
Below a power of two the next representable number is half as far away as above it, except at the
least exponent. -/
def ofBinary (significand : Nat) (exponent : Int) : Interval :=
  let scale := 2 ^ exponent.toNat
  let below := if significand = 2 ^ 52 ∧ -1074 < exponent then 1 else 2
  { lower := (4 * significand - below) * scale
    value := 4 * significand * scale
    upper := (4 * significand + 2) * scale
    denominator := 4 * 2 ^ (-exponent).toNat
    closed := significand % 2 = 0 }

/-- Whether `digits * 10 ^ power` lies in the interval. -/
def contains (interval : Interval) (digits : Nat) (power : Int) : Bool :=
  let point := digits * 10 ^ power.toNat * interval.denominator
  let scale := 10 ^ (-power).toNat
  if interval.closed then
    interval.lower * scale ≤ point && point ≤ interval.upper * scale
  else
    interval.lower * scale < point && point < interval.upper * scale

/-- The grid point of `10 ^ power` in the interval that is next to the exact value, if any. -/
def gridPoint? (interval : Interval) (power : Int) : Option Nat :=
  let unit := 10 ^ power.toNat * interval.denominator
  let exact := interval.value * 10 ^ (-power).toNat
  let digits := exact / unit
  let offset := exact % unit
  match interval.contains digits power, interval.contains (digits + 1) power with
  | true, true =>
      if 2 * offset < unit ∨ (2 * offset = unit ∧ digits % 2 = 0) then some digits
      else some (digits + 1)
  | true, false => some digits
  | false, true => some (digits + 1)
  | false, false => none

/-- The digits and the power of ten of the shortest decimal in the interval. The powers tried
reach from above the greatest number of the format to below the least. -/
def shortest? (interval : Interval) : Option (Nat × Int) :=
  (List.range 660).findSome? fun (index : Nat) =>
    let power : Int := 310 - (index : Int)
    (interval.gridPoint? power).map fun digits => (digits, power)

end Interval

/-- Digits with a decimal point. The point stands among the digits, or after zeros that fill up to
it, as long as at most sixteen digits stand before it or at most four zeros between it and the
first digit; all other decimals are written with an exponent. -/
def layOut (digits : Nat) (power : Int) : String :=
  let written := Nat.toDigits 10 digits
  let point := written.length + power
  let zeros (count : Int) := List.replicate count.toNat '0'
  if 0 ≤ power ∧ point ≤ 16 then
    String.ofList (written ++ zeros power ++ ['.', '0'])
  else if 0 < point ∧ point ≤ 16 then
    String.ofList (written.take point.toNat ++ '.' :: written.drop point.toNat)
  else if -5 < point ∧ point ≤ 0 then
    String.ofList ('0' :: '.' :: (zeros (-point) ++ written))
  else
    let tail := if written.length = 1 then [] else '.' :: written.drop 1
    let sign := if 0 < point then "e+" else "e"
    String.ofList (written.take 1 ++ tail) ++ sign ++ toString (point - 1)

def text (number : Float) : String :=
  let bits := number.toBits.toNat
  let sign := if bits / 2 ^ 63 = 1 then "-" else ""
  let exponentField : Nat := bits / 2 ^ 52 % 2 ^ 11
  let fraction : Nat := bits % 2 ^ 52
  let interval :=
    if exponentField = 0 then Interval.ofBinary fraction (-1074)
    else Interval.ofBinary (2 ^ 52 + fraction) (exponentField - 1075)
  if interval.value = 0 then sign ++ "0.0"
  else
    match interval.shortest? with
    | some (digits, power) => sign ++ layOut digits power
    | none => sign

end TimedBatch.Decimal
