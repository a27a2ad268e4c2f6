/-!
Double-precision numbers as bit patterns, and the shortest decimals that read back as them. Both are made of
powers of two and of ten.
-/

namespace KDispatch

def twoTo (n : Nat) : Nat := Nat.pow 2 n

def tenTo (n : Nat) : Nat := Nat.pow 10 n

theorem twoTo_zero : twoTo 0 = 1 := rfl

theorem twoTo_succ (n : Nat) : twoTo (n + 1) = twoTo n * 2 := rfl

theorem twoTo_pos (n : Nat) : 0 < twoTo n := by
  induction n with
  | zero => decide
  | succ n ih => rw [twoTo_succ]; omega

theorem tenTo_zero : tenTo 0 = 1 := rfl

theorem tenTo_succ (n : Nat) : tenTo (n + 1) = tenTo n * 10 := rfl

theorem tenTo_pos (n : Nat) : 0 < tenTo n := by
  induction n with
  | zero => decide
  | succ n ih => rw [tenTo_succ]; omega

/-! ## Double precision

Double-precision numbers as bit patterns. `Double.ofRatio?` rounds a fraction to the nearest
representable magnitude, of two equally near ones to that with the even bit pattern; products and
quotients are rounded from their exact values in the same way.
-/

structure Double where
  bits : UInt64
  deriving DecidableEq

namespace Double

def isNegative (d : Double) : Bool := twoTo 63 ≤ d.bits.toNat

/-- The bit pattern without the sign. -/
def magnitudeBits (d : Double) : Nat := d.bits.toNat % twoTo 63

/-- The magnitude of `d` is `d.significand * 2 ^ d.exponent`. -/
def significand (d : Double) : Nat :=
  let m := d.magnitudeBits
  if m < twoTo 52 then m else m % twoTo 52 + twoTo 52

def exponent (d : Double) : Int :=
  let e : Nat := d.magnitudeBits / twoTo 52
  if e = 0 then -1074 else (e : Int) - 1075

/-- The magnitude as a fraction. -/
def ratio (d : Double) : Nat × Nat :=
  (d.significand * twoTo d.exponent.toNat, twoTo (-d.exponent).toNat)

def isZero (d : Double) : Bool := d.magnitudeBits = 0

def neg (d : Double) : Double := ⟨d.bits ^^^ 0x8000000000000000⟩

def zero : Double := ⟨0⟩

/-- The quotient rounded to the nearest integer, a half to the even one. -/
def roundDiv (num den : Nat) : Nat :=
  let q := num / den
  let twice := 2 * (num % den)
  if twice > den ∨ (twice = den ∧ q % 2 = 1) then q + 1 else q

/-- `num / den / 2 ^ e`, rounded. -/
def scaledRoundDiv (num den : Nat) (e : Int) : Nat :=
  roundDiv (num * twoTo (-e).toNat) (den * twoTo e.toNat)

/-- The exponent of the last bit of a number near `num / den`. -/
def unitExponent (num den : Nat) : Int :=
  let e : Int := (num.log2 : Int) - den.log2 - 53
  let fits := num * twoTo (-e).toNat < twoTo 53 * (den * twoTo e.toNat)
  max (if fits then e else e + 1) (-1074)

/-- The double nearest to `num / den`, or `none` if that is beyond the largest one. -/
def ofRatio? (num den : Nat) : Option Double :=
  if num = 0 then some zero
  else
    let e := unitExponent num den
    let bits := (e + 1074).toNat * twoTo 52 + scaledRoundDiv num den e
    if bits < 0x7FF * twoTo 52 then some ⟨UInt64.ofNat bits⟩ else none

/-- The magnitude of a product. -/
def mul? (a b : Double) : Option Double :=
  ofRatio? (a.ratio.1 * b.ratio.1) (a.ratio.2 * b.ratio.2)

/-- The magnitude of a quotient. -/
def div? (a b : Double) : Option Double :=
  ofRatio? (a.ratio.1 * b.ratio.2) (a.ratio.2 * b.ratio.1)

/-- The double nearest to `10 ^ n`. -/
def powerOfTen? (n : Nat) : Option Double := ofRatio? (tenTo n) 1

end Double

/-! ## Shortest decimals

The shortest decimal that reads back as a given double: the fewest digits for which some decimal
rounds to it, and of those decimals the nearest one, of two equally near ones that with the even
last digit.
-/

/-- The number `digits * 10 ^ exponent`. -/
structure Decimal where
  digits : Nat
  exponent : Int

namespace Decimal

def ratio (x : Decimal) : Nat × Nat :=
  (x.digits * tenTo x.exponent.toNat, tenTo (-x.exponent).toNat)

/-- The double nearest to the decimal. -/
def toDouble? (x : Decimal) : Option Double := Double.ofRatio? x.ratio.1 x.ratio.2

/-- The exponent of the leading digit of `num / den`. -/
def leadingExponent (num den : Nat) : Int :=
  if num < den then -((Nat.toDigits 10 ((den - 1) / num)).length : Int)
  else (Nat.toDigits 10 (num / den)).length - 1

/-- The largest decimal with the given last place that is not above `num / den`. -/
def floor (num den : Nat) (exponent : Int) : Decimal :=
  ⟨num * tenTo (-exponent).toNat / (den * tenTo exponent.toNat), exponent⟩

/-- Whether `x` is at most as far from `num / den` as its upper neighbour, a tie counting if the
last digit of `x` is even. -/
def isNearer (x : Decimal) (num den : Nat) : Bool :=
  let twice := 2 * num * tenTo (-x.exponent).toNat
  let middle := (2 * x.digits + 1) * (den * tenTo x.exponent.toNat)
  twice < middle || (twice == middle && x.digits % 2 == 0)

/-- The decimal with the given last place that reads back as the magnitude of `d`. -/
def atPlace? (d : Double) (exponent : Int) : Option Decimal :=
  let (num, den) := d.ratio
  let lower := floor num den exponent
  let upper : Decimal := ⟨lower.digits + 1, exponent⟩
  let magnitude : Double := ⟨UInt64.ofNat d.magnitudeBits⟩
  match lower.toDouble? == some magnitude, upper.toDouble? == some magnitude with
  | true, true => if lower.isNearer num den then some lower else some upper
  | true, false => some lower
  | false, true => some upper
  | false, false => none

/-- The shortest decimal for the magnitude of `d`; seventeen digits are always enough. -/
def shortest (d : Double) : Decimal :=
  if d.isZero then ⟨0, 0⟩
  else
    let leading := leadingExponent d.ratio.1 d.ratio.2
    ((List.range 17).findSome? fun n : Nat => atPlace? d (leading - n)).getD ⟨0, 0⟩

end Decimal

end KDispatch
