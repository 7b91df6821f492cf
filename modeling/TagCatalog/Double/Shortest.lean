import TagCatalog.Double
import TagCatalog.Text.Numeral

/-!
# Writing numbers

A number is written with the fewest digits that are read back as the same number; of several such
texts with the closest one, and of two equally close ones with the greater. No exponent is written.

* `Decimal`: digits before a power of ten;
* `Double.readsBack`: a decimal lies among the reals that round to a number;
* `Double.shortest`: the digits of a number;
* `Double.text`.
-/

namespace TagCatalog

/-- The number `digits * 10 ^ exponent`. -/
structure Decimal where
  digits : Nat
  exponent : Int
  deriving DecidableEq, Repr

namespace Double

/-- Compares `a * 10 ^ i` with `n * 2 ^ j`. -/
def compareScaled (a : Nat) (i : Int) (n : Nat) (j : Int) : Ordering :=
  compare (a * Nat.pow 10 i.toNat * Nat.pow 2 (-j).toNat)
    (n * Nat.pow 2 j.toNat * Nat.pow 10 (-i).toNat)

/-- The number below `m * 2 ^ q` is half as far away as the number above. -/
def narrowBelow (m : Nat) (q : Int) : Bool := 2 * m == maxDigits && minExponent < q

/-- A decimal lies among the reals that round to `m * 2 ^ q`. -/
def readsBack (m : Nat) (q : Int) (d : Decimal) : Bool :=
  let low := if narrowBelow m q then 4 * m - 1 else 4 * m - 2
  let ends := m % 2 == 0
  let below := compareScaled d.digits d.exponent low (q - 2)
  let above := compareScaled d.digits d.exponent (4 * m + 2) (q - 2)
  (below == .gt || (ends && below == .eq)) && (above == .lt || (ends && above == .eq))

/-- The least `k` of some candidates, from `k` on, with `m * 2 ^ q` below `10 ^ k`. -/
def scaleFrom (m : Nat) (q : Int) : Nat → Int → Int
  | 0, k => k
  | n + 1, k => if compareScaled 1 k m q == .gt then k else scaleFrom m q n (k + 1)

/-- The least `k` with `m * 2 ^ q` below `10 ^ k`. -/
def scale (m : Nat) (q : Int) : Int :=
  scaleFrom m q 4 (((m.log2 : Int) + q) * 30103 / 100000 - 1)

/-- The two decimals around `m * 2 ^ q` with an exponent. -/
def neighbours (m : Nat) (q e : Int) : Decimal × Decimal :=
  let n := m * Nat.pow 2 q.toNat * Nat.pow 10 (-e).toNat
  let d := Nat.pow 2 (-q).toNat * Nat.pow 10 e.toNat
  (⟨n / d, e⟩, ⟨n / d + 1, e⟩)

/-- The closer of two neighbouring decimals, the greater one halfway between them. -/
def closer (m : Nat) (q : Int) (d e : Decimal) : Decimal :=
  if compareScaled (d.digits + e.digits) d.exponent (2 * m) q == .gt then d else e

/-- The decimal with an exponent that reads back. -/
def candidate? (m : Nat) (q e : Int) : Option Decimal :=
  let (below, above) := neighbours m q e
  if readsBack m q below then
    some (if readsBack m q above then closer m q below above else below)
  else if readsBack m q above then some above
  else none

/-- The digits of `m * 2 ^ q`, the fewest that read back; seventeen are always enough. -/
def shortest (m : Nat) (q : Int) : Decimal :=
  let k := scale m q
  ((List.range 17).findSome? fun (n : Nat) => candidate? m q (k - n - 1)).getD
    (if 0 ≤ q then ⟨m * Nat.pow 2 q.toNat, 0⟩ else ⟨m * Nat.pow 5 (-q).toNat, q⟩)

/-- A decimal without an exponent. -/
def positional (d : Decimal) : List Char :=
  let digits := Text.decimal d.digits
  if 0 ≤ d.exponent then digits ++ List.replicate d.exponent.toNat '0'
  else
    let places := (-d.exponent).toNat
    let whole := digits.take (digits.length - places)
    let fraction := digits.drop (digits.length - places)
    (if whole = [] then ['0'] else whole) ++ '.' ::
      List.replicate (places - fraction.length) '0' ++ fraction

/-- A decimal without zeros at its end. -/
def stripped : Nat → Decimal → Decimal
  | 0, d => d
  | n + 1, d =>
    if d.digits % 10 = 0 ∧ d.digits ≠ 0 then stripped n ⟨d.digits / 10, d.exponent + 1⟩ else d

/-- The text of a number. -/
def text : Double → List Char
  | nan => "NaN".toList
  | infinite negative => if negative then "-inf".toList else "inf".toList
  | finite negative m q =>
    let digits := if m = 0 then ['0'] else positional (stripped 20 (shortest m q))
    if negative then '-' :: digits else digits

end Double

end TagCatalog
