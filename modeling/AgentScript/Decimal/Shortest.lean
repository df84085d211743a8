set_option autoImplicit false

/-! # The shortest decimal of a binary fraction

A binary fraction `m · 2 ^ q` stands for every real number that rounds to it. `Fraction.shortest`
finds the decimal with the fewest digits among those; of two with equally many it takes the nearer
one, and at an exact tie the even one. Everything is computed with natural numbers. -/

namespace AgentScript.Decimal

/-- The `n`-th power of two. -/
def powTwo (n : Nat) : Nat := Nat.pow 2 n

/-- The `n`-th power of ten. -/
def powTen (n : Nat) : Nat := Nat.pow 10 n

/-- The reals that round to one binary fraction, as numerators over a common denominator. -/
structure Fraction where
  low : Nat
  value : Nat
  high : Nat
  den : Nat
  closed : Bool

/-- The reals that round to `m · 2 ^ q`: half a unit to either side, a quarter below where the
    spacing changes, the ends included if `m` is even. -/
def Fraction.ofBinary (m : Nat) (q : Int) (narrow : Bool) : Fraction :=
  let up := powTwo (q - 2).toNat
  { low := (4 * m - if narrow then 1 else 2) * up
    value := 4 * m * up
    high := (4 * m + 2) * up
    den := powTwo (2 - q).toNat
    closed := m % 2 == 0 }

/-- The numerators of `n · 10 ^ p` and of `x / den`, over one denominator. -/
def aligned (n : Nat) (p : Int) (x den : Nat) : Nat × Nat :=
  (n * powTen p.toNat * den, x * powTen (-p).toNat)

/-- Whether `n · 10 ^ p` rounds to the fraction. -/
def Fraction.covers (f : Fraction) (n : Nat) (p : Int) : Bool :=
  let (a, low) := aligned n p f.low f.den
  let (_, high) := aligned n p f.high f.den
  if f.closed then low ≤ a && a ≤ high else low < a && a < high

/-- The grid point `n · 10 ^ p` just below the fraction's value, as `n`. -/
def Fraction.floor (f : Fraction) (p : Int) : Nat :=
  (f.value * powTen (-p).toNat) / (powTen p.toNat * f.den)

/-- The point of the grid of step `10 ^ p` that stands for the fraction, if the grid is fine
    enough. -/
def Fraction.onGrid? (f : Fraction) (p : Int) : Option Nat :=
  let n := f.floor p
  match f.covers n p, f.covers (n + 1) p with
  | true, false => some n
  | false, true => some (n + 1)
  | false, false => none
  | true, true =>
    let (middle, value) := aligned (2 * n + 1) p (2 * f.value) f.den
    if value < middle || (value == middle && n % 2 == 0) then some n else some (n + 1)

/-- The number of decimal places before the point of a value below one, counted down from zero: the
    first `k` such that the value is at least `10 ^ (k - 1)`. -/
def Fraction.placesBelowOne (f : Fraction) : Nat → Int → Int
  | 0, k => k
  | fuel + 1, k =>
    if f.den ≤ f.value * powTen (1 - k).toNat then k else f.placesBelowOne fuel (k - 1)

/-- The `k` for which the value lies between `10 ^ (k - 1)` and `10 ^ k`. -/
def Fraction.places (f : Fraction) : Int :=
  if f.den ≤ f.value then (Nat.toDigits 10 (f.value / f.den)).length
  else f.placesBelowOne 400 0

/-- The first grid that holds a decimal of the fraction, trying `digits` digits, then one more, up
    to `fuel` more. -/
def Fraction.firstGrid (f : Fraction) (places : Int) : Nat → Int → Nat × Int
  | 0, p => (f.floor p, p)
  | fuel + 1, p =>
    match f.onGrid? p with
    | some n => (n, p)
    | none => f.firstGrid places fuel (p - 1)

/-- The shortest decimal of the fraction: its digits, and how many of them stand before the
    point. -/
def Fraction.shortest (f : Fraction) : List Char × Int :=
  let places := f.places
  let (n, p) := f.firstGrid places 17 (places - 1)
  let digits := Nat.toDigits 10 n
  ((digits.reverse.dropWhile (· == '0')).reverse, digits.length + p)

end AgentScript.Decimal
