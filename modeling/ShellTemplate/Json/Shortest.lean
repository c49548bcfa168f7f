import ShellTemplate.Json.Decimal

namespace ShellTemplate

/-- A positive binary number `mantissa * 2 ^ exponent`; `narrow` tells that the next smaller number is
only half as far away as the next larger one. -/
structure Binary where
  mantissa : Nat
  exponent : Int
  narrow : Bool

namespace Binary

/-- Splits the bits of a double without its sign. -/
def ofBits (bits : Nat) : Binary :=
  let raised : Nat := bits / Nat.pow 2 52 % Nat.pow 2 11
  let fraction : Nat := bits % Nat.pow 2 52
  if raised = 0 then ⟨fraction, -1074, false⟩
  else ⟨Nat.pow 2 52 + fraction, (raised : Int) - 1075, fraction = 0 && 1 < raised⟩

/-- The bounds of the interval of numbers that round to this one, and the number itself between them:
three numerators over one denominator. -/
def bounds (b : Binary) : Nat × Nat × Nat × Nat :=
  let below := if b.narrow then 1 else 2
  let scale := if 2 ≤ b.exponent then Nat.pow 2 (b.exponent - 2).toNat else 1
  let den := if 2 ≤ b.exponent then 1 else Nat.pow 2 (2 - b.exponent).toNat
  ((4 * b.mantissa - below) * scale, 4 * b.mantissa * scale, (4 * b.mantissa + 2) * scale, den)

/-- The first number that reads back among those with 1, 2, ... digits, where `top` is the power of ten
above the number; of two that do, the nearer. -/
def search (b : Binary) (top : Int) (count : Nat) : Nat → Nat × Int
  | 0 => (0, 0)
  | tries + 1 =>
    let (low, mid, high, den) := b.bounds
    let place := top - count
    let up := if 0 ≤ place then 1 else Nat.pow 10 (-place).toNat
    let unit := den * (if 0 ≤ place then Nat.pow 10 place.toNat else 1)
    let floor := mid * up / unit
    let even := b.mantissa % 2 = 0
    let inside (n : Nat) : Bool :=
      (low * up < n * unit && n * unit < high * up) ||
        (even && (low * up = n * unit || n * unit = high * up))
    let nearer := 2 * (mid * up - floor * unit) ≤ unit
    if inside floor && (nearer || !inside (floor + 1)) then (floor, place)
    else if inside (floor + 1) then (floor + 1, place)
    else search b top (count + 1) tries

/-- The exponent of the least power of ten above the number. No power of ten below one is a binary
number, so the count of digits of the inverse decides there. -/
def topPower (b : Binary) : Int :=
  let (_, mid, _, den) := b.bounds
  if den ≤ mid then (toString (mid / den)).length else 1 - (toString (den / mid)).length

end Binary

namespace Decimal

/-- The shortest decimal number that reads back as the given finite double. -/
def ofFloat (x : Float) : Decimal :=
  let bits := x.toBits.toNat
  let negative := Nat.pow 2 63 ≤ bits
  let b := Binary.ofBits bits
  if b.mantissa = 0 then ⟨negative, 0, 0⟩
  else
    let (digits, exponent) := b.search b.topPower 1 17
    reduced ⟨negative, digits, exponent⟩

/-- Multiplies or divides by powers of ten that a double can hold. -/
def scaled (x : Float) (exponent : Int) : Nat → Float
  | 0 => x
  | tries + 1 =>
    if exponent < -308 then scaled (x / Float.ofScientific 1 false 308) (exponent + 308) tries
    else if exponent < 0 then x / Float.ofScientific 1 false (-exponent).toNat
    else x * Float.ofScientific 1 false exponent.toNat

/-- Drops digits from the end until the rest fits a 64-bit word. -/
def fitted (digits : Nat) (exponent : Int) : Nat × Int :=
  if digits < UInt64.size then (digits, exponent) else fitted (digits / 10) (exponent + 1)
termination_by digits
decreasing_by
  simp only [UInt64.size] at *
  omega

/-- The double that a written number stands for; nothing if it is too large. -/
def toFloat? (d : Decimal) : Option Float :=
  let (digits, exponent) := fitted d.digits d.exponent
  let magnitude :=
    if digits = 0 then 0.0
    else if 308 < exponent then 1.0 / 0.0
    else scaled digits.toUInt64.toFloat exponent 4
  if magnitude.isFinite then some (if d.negative then -magnitude else magnitude) else none

/-- The shortest number with the same double; nothing if it is too large for one. -/
def rounded? (d : Decimal) : Option Decimal :=
  d.toFloat?.map ofFloat

end Decimal

end ShellTemplate
