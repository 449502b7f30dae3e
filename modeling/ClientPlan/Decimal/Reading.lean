/-
Reading a decimal as a double in two roundings. The digits are gathered into one integer of at most 64 bits, which is
rounded to a double; this is multiplied or divided by a power of ten, which rounds once more. Digits that no longer
fit are dropped, those before the point leaving their place value behind.
-/
namespace ClientPlan.Decimal

/-- digits gathered so far: `significand * 10 ^ exponent` -/
structure Gathered where
  significand : Nat
  exponent : Int
  deriving DecidableEq, Repr

/-- the significand with one more digit fits 64 bits -/
def Gathered.fits (g : Gathered) (d : Nat) : Bool :=
  g.significand * 10 + d < Nat.pow 2 64

/-- gather the digits before the point -/
def Gathered.whole (g : Gathered) : List Nat → Gathered
  | [] => g
  | d :: ds =>
    if g.fits d then whole { g with significand := g.significand * 10 + d } ds
    else { g with exponent := g.exponent + (ds.length + 1) }

/-- gather the digits after the point -/
def Gathered.fraction (g : Gathered) : List Nat → Gathered
  | [] => g
  | d :: ds =>
    if g.fits d then fraction ⟨g.significand * 10 + d, g.exponent - 1⟩ ds else g

/-- a power of ten up to `10 ^ 308` -/
def powerOfTen (n : Nat) : Float :=
  Float.ofScientific 1 false n

/-- divide by `10 ^ 308` until the exponent is within reach -/
def lower (f : Float) (e : Nat) : Nat → Float
  | 0 => f / powerOfTen e
  | n + 1 => if e ≤ 308 then f / powerOfTen e else if f == 0.0 then f else lower (f / powerOfTen 308) (e - 308) n

/-- the gathered number as a double, unless it is too large for one -/
def Gathered.toFloat? (g : Gathered) : Option Float :=
  let f := (UInt64.ofNat g.significand).toFloat
  if g.exponent < 0 then
    some (lower f (-g.exponent).toNat 4)
  else if 308 < g.exponent then
    if g.significand = 0 then some f else none
  else
    let r := f * powerOfTen g.exponent.toNat
    if r.isInf then none else some r

end ClientPlan.Decimal
