import Messenger.Text.Decimal

/-!
Double-precision numbers by their 64 bits, and the shortest decimal that reads back
as the same number.

Every finite number is `mantissa * 2 ^ exponent`. The reals that round to it reach
half way to its neighbours, the ends included if the mantissa is even. Among decimals
`digits * 10 ^ power` the shortest have the greatest power for which some multiple of
`10 ^ power` lies in that interval; of two such multiples the nearer is taken.
-/

namespace Messenger

namespace Binary64

def isNegative (bits : Nat) : Bool :=
  (bits >>> 63) % 2 == 1

def biasedExponent (bits : Nat) : Nat :=
  (bits >>> 52) % (1 <<< 11)

def fraction (bits : Nat) : Nat :=
  bits % (1 <<< 52)

def ofParts (negative : Bool) (exponent fraction : Nat) : Nat :=
  (if negative then 1 <<< 63 else 0) + (exponent <<< 52) + fraction

/-- The same number from a narrower format, given the widths of its fields. -/
def widen (exponentWidth fractionWidth bits : Nat) : Nat :=
  let negative := (bits >>> (exponentWidth + fractionWidth)) % 2 == 1
  let exponent := (bits >>> fractionWidth) % (1 <<< exponentWidth)
  let fraction := bits % (1 <<< fractionWidth)
  let bias := (1 <<< (exponentWidth - 1)) - 1
  if exponent = (1 <<< exponentWidth) - 1 then
    ofParts negative 2047 (fraction <<< (52 - fractionWidth))
  else if exponent ≠ 0 then
    ofParts negative (exponent + 1023 - bias) (fraction <<< (52 - fractionWidth))
  else if fraction = 0 then ofParts negative 0 0
  else
    let leading := Nat.log2 fraction
    ofParts negative (leading + 1024 - bias - fractionWidth)
      ((fraction - (1 <<< leading)) <<< (52 - leading))

structure Scaled where
  digits : Nat
  power : Int
  deriving DecidableEq, Repr

/-- The interval of reals that round to a number, as integers over a common scale:
its ends, the number itself, and the unit `10 ^ power`. -/
structure Window where
  low : Nat
  value : Nat
  high : Nat
  unit : Nat
  closed : Bool

def window (mantissa : Nat) (exponent : Int) (lowHalf : Nat) (power : Int) : Window :=
  -- Both sides of `x * 2 ^ (exponent - 2) = y * 10 ^ power` are made integers.
  let scale := Nat.pow 10 (-power).toNat <<< (exponent - 2).toNat
  { low := (4 * mantissa - lowHalf) * scale
    value := 4 * mantissa * scale
    high := (4 * mantissa + 2) * scale
    unit := Nat.pow 10 power.toNat <<< (2 - exponent).toNat
    closed := mantissa % 2 == 0 }

def Window.contains (window : Window) (digits : Nat) : Bool :=
  let point := digits * window.unit
  0 < digits &&
    (if window.closed then window.low ≤ point && point ≤ window.high
      else window.low < point && point < window.high)

/-- The multiple of the unit to take, if one lies in the window: the nearer of two, and
the higher if they are equally near. -/
def Window.pick? (window : Window) : Option Nat :=
  let below := window.value / window.unit
  let above := below + 1
  if window.contains below then
    if window.contains above &&
        above * window.unit - window.value ≤ window.value - below * window.unit then
      some above
    else some below
  else if window.contains above then some above
  else none

def shortestFrom (mantissa : Nat) (exponent : Int) (lowHalf : Nat) :
    (fuel : Nat) → (power : Int) → Scaled
  | 0, power => ⟨0, power⟩
  | fuel + 1, power =>
    match (window mantissa exponent lowHalf power).pick? with
    | some digits => ⟨digits, power⟩
    | none => shortestFrom mantissa exponent lowHalf fuel (power - 1)

def shortest (bits : Nat) : Scaled :=
  let exponent := biasedExponent bits
  let fraction := fraction bits
  if exponent = 0 then shortestFrom fraction (-1074) 2 700 310
  else
    let lowHalf := if fraction = 0 ∧ exponent ≠ 1 then 1 else 2
    shortestFrom ((1 <<< 52) + fraction) (exponent - 1075) lowHalf 700 310

/-- Digits with a point: `point` of them stand before it. -/
def writePositional (digits : String) (point : Int) : String :=
  let count := digits.length
  if point ≤ 0 then
    "0." ++ String.ofList (List.replicate (-point).toNat '0') ++ digits
  else if count ≤ point.toNat then
    digits ++ String.ofList (List.replicate (point.toNat - count) '0') ++ ".0"
  else
    String.ofList (digits.toList.take point.toNat) ++ "." ++
      String.ofList (digits.toList.drop point.toNat)

def writeInteger (value : Int) : String :=
  if value < 0 then "-" ++ Decimal.write value.natAbs
  else Decimal.write value.natAbs

def writeScientific (digits : String) (point : Int) : String :=
  let tail := digits.toList.drop 1
  String.ofList (digits.toList.take 1) ++
    (if tail.isEmpty then "" else "." ++ String.ofList tail) ++
    "e" ++ writeInteger (point - 1)

/-- Positional from 0.0001 up to, but not including, 10 ^ 16. -/
def writeMagnitude (bits : Nat) : String :=
  if biasedExponent bits = 0 ∧ fraction bits = 0 then "0.0"
  else
    let decimal := shortest bits
    let digits := Decimal.write decimal.digits
    let point := digits.length + decimal.power
    if -3 ≤ point ∧ point ≤ 16 then writePositional digits point
    else writeScientific digits point

def write (bits : Nat) : String :=
  if biasedExponent bits = 2047 then
    if fraction bits ≠ 0 then "NaN"
    else if isNegative bits then "-inf" else "inf"
  else (if isNegative bits then "-" else "") ++ writeMagnitude bits

end Binary64

end Messenger
