/-!
# Numbers of double precision

A number of double precision has 53 binary digits behind a power of two. It is kept as natural
numbers, so that all arithmetic is exact.

* `Double`: a number, an infinity, or no number;
* `Double.ofRatio`: the nearest number to a fraction, the even one of two;
* `Double.ofDecimal`: the nearest number to a decimal fraction;
* `Double.toUInt64`: the nearest word of 64 bits.
-/

namespace TagCatalog

/-- A number of double precision. -/
inductive Double where
  | nan
  | infinite (negative : Bool)
  /-- The number `m * 2 ^ q`, or its opposite. Zero has a sign, too. -/
  | finite (negative : Bool) (m : Nat) (q : Int)
  deriving DecidableEq, Repr

namespace Double

/-- The binary digits of a number. -/
def precision : Nat := 53

/-- What the binary digits of a number stay below. -/
def maxDigits : Nat := Nat.pow 2 precision

/-- The least exponent. -/
def minExponent : Int := -1074

/-- The greatest exponent. -/
def maxExponent : Int := 971

/-- Zero. -/
def zero (negative : Bool) : Double := finite negative 0 minExponent

/-- A natural number times a power, as a fraction. -/
def timesPower (n base : Nat) (e : Int) : Nat × Nat :=
  (n * Nat.pow base e.toNat, Nat.pow base (-e).toNat)

/-- The fraction `n / d` over `2 ^ q`, rounded to a natural number; halfway goes to the even one. -/
def roundScaled (n d : Nat) (q : Int) : Nat :=
  let n := n * Nat.pow 2 (-q).toNat
  let d := d * Nat.pow 2 q.toNat
  let m := n / d
  if d < 2 * (n % d) ∨ (d = 2 * (n % d) ∧ m % 2 = 1) then m + 1 else m

/-- The exponent of a fraction: over that power of two it has as many binary digits as a number may
have, or fewer at the least exponent. -/
def exponentOf (n d : Nat) : Int :=
  let q : Int := n.log2 - d.log2 - precision
  let q := if n * Nat.pow 2 (-q).toNat < maxDigits * (d * Nat.pow 2 q.toNat) then q else q + 1
  max q minExponent

/-- The number nearest to `n / d`. -/
def ofRatio (negative : Bool) (n d : Nat) : Double :=
  if n = 0 then zero negative
  else
    let q := exponentOf n d
    let m := roundScaled n d q
    let (m, q) := if m = maxDigits then (m / 2, q + 1) else (m, q)
    if maxExponent < q then infinite negative
    else if m = 0 then zero negative
    else finite negative m q

/-- The number nearest to `n * 10 ^ e`. A power of ten is at least that power of eight, which tells
without working it out that a power is far out of range. -/
def ofDecimal (negative : Bool) (n : Nat) (e : Int) : Double :=
  let size := (n.log2 : Int) + 3 * e
  if n = 0 ∨ (e < 0 ∧ size < -1100) then zero negative
  else if 0 ≤ e ∧ 1100 < size then infinite negative
  else
    let (n, d) := timesPower n 10 e
    ofRatio negative n d

/-- The nearest word of 64 bits; halfway goes up. What is no number gives zero. -/
def toUInt64 : Double → UInt64
  | nan => 0
  | infinite negative => if negative then 0 else UInt64.ofNat (UInt64.size - 1)
  | finite negative m q =>
    if negative then 0
    else
      let (n, d) := timesPower m 2 q
      UInt64.ofNat (min ((2 * n + d) / (2 * d)) (UInt64.size - 1))

end Double

end TagCatalog
