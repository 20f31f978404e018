/-
  Intake.Numeric.Shortest — the decimal text of a floating point number.

  A number stands for the interval of reals that round to it. Its text shows the fewest digits of
  which a decimal in this interval can be made, and of the decimals with as many digits the one
  nearest to the number. The arithmetic is exact: interval and candidates are compared as
  fractions.
-/

import Intake.Numeric.Binary64

namespace Intake.Numeric

/-- A decimal: `digits * 10 ^ exponent`. -/
structure Decimal where
  digits : Nat
  exponent : Int
  deriving DecidableEq, Repr

namespace Shortest

/-- The reals between `low / den` and `high / den` that round to `mid / den`; the ends belong to
    it when the significand is even. -/
structure Interval where
  low : Nat
  mid : Nat
  high : Nat
  den : Nat
  closed : Bool

/-- The interval of the number `m * 2 ^ q`. The number below a power of two is nearer. -/
def interval (m : Nat) (q : Int) : Interval :=
  let below := if m = Nat.pow 2 52 ∧ q > -1074 then 1 else 2
  let scale := Nat.pow 2 (q - 2).toNat
  { low := (4 * m - below) * scale
    mid := 4 * m * scale
    high := (4 * m + 2) * scale
    den := Nat.pow 2 (2 - q).toNat
    closed := m % 2 = 0 }

/-- The number of decimal digits before the point, at most one off below 1. -/
def magnitude (i : Interval) : Int :=
  if i.den ≤ i.mid then ((Nat.toDigits 10 (i.mid / i.den)).length : Int)
  else 1 - ((Nat.toDigits 10 (i.den / i.mid)).length : Int)

/-- The grid point `c * 10 ^ k` as a fraction over the interval's denominator, both sides
    multiplied by `10 ^ (-k)` when `k` is negative. -/
structure Grid where
  interval : Interval
  unit : Nat

def grid (i : Interval) (k : Int) : Grid :=
  let up := Nat.pow 10 (-k).toNat
  { interval := { i with low := i.low * up, mid := i.mid * up, high := i.high * up }
    unit := i.den * Nat.pow 10 k.toNat }

def Grid.holds (g : Grid) (c : Nat) : Bool :=
  let at_ := c * g.unit
  if g.interval.closed then g.interval.low ≤ at_ && at_ ≤ g.interval.high
  else g.interval.low < at_ && at_ < g.interval.high

/-- The nearer of the two neighbours of the number on the grid, if the interval holds it. -/
def Grid.nearest? (g : Grid) : Option Nat :=
  let below := g.interval.mid / g.unit
  let rest := g.interval.mid - below * g.unit
  let nearer := if 2 * rest < g.unit then below
    else if g.unit < 2 * rest then below + 1
    else if below % 2 = 0 then below else below + 1
  if nearer ≠ 0 && g.holds nearer then some nearer
  else if below ≠ 0 && g.holds below then some below
  else if g.holds (below + 1) then some (below + 1)
  else none

/-- The first grid from `k` downwards with a point in the interval. -/
def search (i : Interval) (k : Int) : Nat → Decimal
  | 0 => ⟨i.mid * Nat.pow 10 (-k).toNat / (i.den * Nat.pow 10 k.toNat), k⟩
  | tries + 1 =>
    match (grid i k).nearest? with
    | some c => ⟨c, k⟩
    | none => search i (k - 1) tries

def stripZeros (d : Decimal) : Nat → Decimal
  | 0 => d
  | n + 1 =>
    if d.digits ≠ 0 ∧ d.digits % 10 = 0 then stripZeros ⟨d.digits / 10, d.exponent + 1⟩ n else d

def decimal (m : Nat) (q : Int) : Decimal :=
  let i := interval m q
  stripZeros (search i (magnitude i) 20) 20

end Shortest

/-! ## Text -/

structure DecimalFormat where
  /-- The point may stand this many places before the first digit. -/
  smallest : Int
  /-- The point may stand this many places after the first digit's left side. -/
  largest : Int
  /-- Written between the digits and a positive exponent. -/
  positiveMark : String
  negativeMark : String

/-- Positional between `1e-5` and `1e16`, always with a digit after the point; otherwise one
    digit before the point and a signed exponent. -/
def plainFormat : DecimalFormat := ⟨-5, 16, "e+", "e-"⟩

namespace DecimalFormat

def zeros (n : Nat) : List Char := List.replicate n '0'

/-- The text of a decimal other than zero; the point stands after `point` of its digits. -/
def layOut (format : DecimalFormat) (d : Decimal) : List Char :=
  let digits := Nat.toDigits 10 d.digits
  let point := (digits.length : Int) + d.exponent
  if 0 ≤ d.exponent ∧ point ≤ format.largest then
    digits ++ zeros d.exponent.toNat ++ ['.', '0']
  else if 0 < point ∧ point ≤ format.largest then
    digits.take point.toNat ++ ['.'] ++ digits.drop point.toNat
  else if format.smallest < point ∧ point ≤ 0 then
    ['0', '.'] ++ zeros (-point).toNat ++ digits
  else
    let mantissa := match digits with
      | [] => []
      | [x] => [x]
      | x :: xs => x :: '.' :: xs
    let exponent := point - 1
    mantissa ++
      (if exponent < 0 then format.negativeMark.toList else format.positiveMark.toList) ++
      Nat.toDigits 10 exponent.natAbs

end DecimalFormat

def Binary64.text (x : Binary64) : String :=
  let sign := if x.negative then ['-'] else []
  if x.isZero then String.ofList (sign ++ ['0', '.', '0'])
  else
    let p := x.parts
    String.ofList (sign ++ plainFormat.layOut (Shortest.decimal p.1 p.2))

end Intake.Numeric
