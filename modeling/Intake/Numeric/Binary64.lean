/-
  Intake.Numeric.Binary64 — binary floating point numbers, held as their 64 bits so that two are
  equal exactly when they are the same number, signed zeros apart.
-/

namespace Intake.Numeric

structure Binary64 where
  bits : UInt64
  deriving DecidableEq, Repr

namespace Binary64

def ofFloat (f : Float) : Binary64 := ⟨f.toBits⟩

def negative (x : Binary64) : Bool := x.bits.toNat ≥ Nat.pow 2 63

/-- The bits without the sign. -/
def magnitude (x : Binary64) : Nat := x.bits.toNat % Nat.pow 2 63

def isZero (x : Binary64) : Bool := x.magnitude = 0

/-- The significand `m` and exponent `q` of the magnitude `m * 2 ^ q`. -/
def parts (x : Binary64) : Nat × Int :=
  let exponent : Nat := x.magnitude / Nat.pow 2 52
  let fraction : Nat := x.magnitude % Nat.pow 2 52
  if exponent = 0 then (fraction, -1074) else (Nat.pow 2 52 + fraction, (exponent : Int) - 1075)

end Binary64

/-! ## From decimals -/

def powerOfTen (n : Nat) : Float := Float.ofScientific 1 false n

/-- Divides by `10 ^ n`, in steps that a power of ten can express. -/
def scaleDown (f : Float) (n : Nat) : Float :=
  if n ≤ 308 then f / powerOfTen n
  else if f == 0 then f
  else scaleDown (f / powerOfTen 308) (n - 308)
termination_by n

/-- The number `significand * 10 ^ exponent`, each step rounded; `none` when it is too large. -/
def Binary64.ofDecimal (negative : Bool) (significand : UInt64) (exponent : Int) :
    Option Binary64 :=
  let f := significand.toFloat
  let scaled : Option Float :=
    match exponent with
    | .ofNat n =>
      if n ≤ 308 then
        let g := f * powerOfTen n
        if g.isInf then none else some g
      else if f == 0 then some f
      else none
    | .negSucc n => some (scaleDown f (n + 1))
  scaled.map fun g => .ofFloat (if negative then -g else g)

end Intake.Numeric
