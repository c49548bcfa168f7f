namespace ShellTemplate

/-- The number `digits * 10 ^ exponent`, with a sign that zero has too. -/
structure Decimal where
  negative : Bool
  digits : Nat
  exponent : Int
deriving DecidableEq, Repr, Inhabited

namespace Decimal

/-- Moves zeros at the end of the digits into the exponent. -/
def withoutZeros (digits : Nat) (exponent : Int) : Nat × Int :=
  if _more : digits ≠ 0 ∧ digits % 10 = 0 then withoutZeros (digits / 10) (exponent + 1)
  else (digits, exponent)
termination_by digits
decreasing_by omega

/-- The same number with the fewest digits; zero has the exponent zero. -/
def reduced (d : Decimal) : Decimal :=
  if d.digits = 0 then ⟨d.negative, 0, 0⟩
  else
    let (digits, exponent) := withoutZeros d.digits d.exponent
    ⟨d.negative, digits, exponent⟩

def zeros (count : Nat) : String :=
  String.ofList (List.replicate count '0')

/-- Numbers from `1e-5` up to `1e16` are written with a point, all others with a signed exponent; a
whole number ends in `.0`. -/
def text (d : Decimal) : String :=
  let r := d.reduced
  let sign := if r.negative then "-" else ""
  let shown := toString r.digits
  let count := shown.length
  let point : Int := count + r.exponent
  if r.digits = 0 then sign ++ "0.0"
  else if 0 ≤ r.exponent ∧ point ≤ 16 then sign ++ shown ++ zeros r.exponent.toNat ++ ".0"
  else if 0 < point ∧ point ≤ 16 then
    let cs := shown.toList
    sign ++ String.ofList (cs.take point.toNat) ++ "." ++ String.ofList (cs.drop point.toNat)
  else if -5 < point ∧ point ≤ 0 then sign ++ "0." ++ zeros (-point).toNat ++ shown
  else
    let cs := shown.toList
    let fraction := if count = 1 then "" else "." ++ String.ofList (cs.drop 1)
    let plus := if 0 < point then "+" else ""
    sign ++ String.ofList (cs.take 1) ++ fraction ++ "e" ++ plus ++ toString (point - 1)

/-- Rounds to `places` digits after the point; a number half way goes to the even neighbour. -/
def fixed (places : Nat) (d : Decimal) : String :=
  let shift := d.exponent + places
  let units :=
    if 0 ≤ shift then d.digits * Nat.pow 10 shift.toNat
    else
      let unit := Nat.pow 10 (-shift).toNat
      let below := d.digits / unit
      let doubled := 2 * (d.digits % unit)
      if doubled < unit ∨ (doubled = unit ∧ below % 2 = 0) then below else below + 1
  let shown := toString units
  let padded := zeros (places + 1 - shown.length) ++ shown
  let cs := padded.toList
  let whole := cs.length - places
  (if d.negative then "-" else "") ++ String.ofList (cs.take whole) ++ "." ++
    String.ofList (cs.drop whole)

end Decimal

end ShellTemplate
