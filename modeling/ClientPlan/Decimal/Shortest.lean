/-
The shortest decimal that reads back as a given double. A double stands for the interval of reals that round to it;
the ends belong to it if its mantissa is even. Grids of 1, 2, ... 17 digits are tried in turn, and on each grid only
the two neighbours of the double, because if any point of the grid lies in the interval then one of these does.
-/
namespace ClientPlan.Decimal

/-- the number `mantissa * 2 ^ exponent` -/
structure Binary where
  mantissa : Nat
  exponent : Int
  deriving DecidableEq, Repr

/-- the number `digits * 10 ^ exponent` -/
structure Scientific where
  digits : Nat
  exponent : Int
  deriving DecidableEq, Repr

/-- magnitude of the finite double with these bits -/
def Binary.ofBits (bits : UInt64) : Binary :=
  let field : Nat := bits.toNat / Nat.pow 2 52 % Nat.pow 2 11
  let fraction : Nat := bits.toNat % Nat.pow 2 52
  if field = 0 then ⟨fraction, -1074⟩ else ⟨Nat.pow 2 52 + fraction, (field : Int) - 1075⟩

/-- the interval that rounds to a double, in quarters of its last place: lower end, double, upper end -/
def Binary.quarters (b : Binary) : Nat × Nat × Nat :=
  let m := 4 * b.mantissa
  (if b.mantissa = Nat.pow 2 52 ∧ -1074 < b.exponent then m - 1 else m - 2, m, m + 2)

/-- factors that bring `d * 10 ^ s` and `x * 2 ^ t` to one scale: the first is for `d`, the second for `x` -/
def factors (s t : Int) : Nat × Nat :=
  (Nat.pow 10 s.toNat * Nat.pow 2 (-t).toNat, Nat.pow 2 t.toNat * Nat.pow 10 (-s).toNat)

/-- the point of the grid `10 ^ s` that stands for the double, if one of the neighbours does; the nearer one wins, and
of two equally near ones the even one -/
def Binary.onGrid (b : Binary) (s : Int) : Option Nat :=
  let (low, mid, high) := b.quarters
  let (f, g) := factors s (b.exponent - 2)
  let closed := b.mantissa % 2 = 0
  let inside (d : Nat) : Bool :=
    if closed then low * g ≤ d * f && d * f ≤ high * g else low * g < d * f && d * f < high * g
  let d := mid * g / f
  let below := mid * g - d * f
  let above := (d + 1) * f - mid * g
  match inside d, inside (d + 1) with
  | true, true => some (if below < above ∨ (below = above ∧ d % 2 = 0) then d else d + 1)
  | true, false => some d
  | false, true => some (d + 1)
  | false, false => none

/-- exponent of the first decimal digit of a positive number -/
def Binary.magnitude (b : Binary) : Int :=
  let guess := ((b.mantissa.log2 : Int) + b.exponent) * 30103 / 100000
  let (f, g) := factors (guess + 1) b.exponent
  if f ≤ b.mantissa * g then guess + 1 else guess

/-- the number without the zeros at the end of its digits -/
def Scientific.trim : Nat → Scientific → Scientific
  | 0, x => x
  | n + 1, x => if x.digits ≠ 0 ∧ x.digits % 10 = 0 then trim n ⟨x.digits / 10, x.exponent + 1⟩ else x

/-- the shortest decimal of a double, the nearest one among those -/
def Binary.shortest (b : Binary) : Scientific :=
  if b.mantissa = 0 then ⟨0, 0⟩ else
    let grids := (List.range 17).map fun (n : Nat) => b.magnitude - n
    match grids.findSome? fun s => (b.onGrid s).map (Scientific.mk · s) with
    | some x => x.trim 20
    | none => ⟨0, 0⟩

end ClientPlan.Decimal
