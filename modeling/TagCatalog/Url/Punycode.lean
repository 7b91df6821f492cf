import TagCatalog.Text.Split

/-!
# Punycode

The encoding of a label with characters beyond ASCII as letters, digits and hyphens (RFC 3492): the
ASCII characters come first, then a delta for every other character in the order of code points,
each delta as a variable-length number whose digit thresholds adapt to the deltas before it.

* `Punycode.encode`, `Punycode.decode?`.
-/

namespace TagCatalog.Url.Punycode

/-- The digit of a value below 36. -/
def digit (n : Nat) : Char :=
  if n < 26 then Char.ofNat ('a'.toNat + n) else Char.ofNat ('0'.toNat + (n - 26))

/-- The value of a digit. -/
def value? (c : Char) : Option Nat :=
  if 'a' ≤ c ∧ c ≤ 'z' then some (c.toNat - 'a'.toNat)
  else if 'A' ≤ c ∧ c ≤ 'Z' then some (c.toNat - 'A'.toNat)
  else if '0' ≤ c ∧ c ≤ '9' then some (c.toNat - '0'.toNat + 26)
  else none

/-- The threshold of the digit at position `k` under a bias. -/
def threshold (bias k : Nat) : Nat := max 1 (min 26 (k - bias))

theorem threshold_pos (bias k : Nat) : 1 ≤ threshold bias k := Nat.le_max_left ..

/-- Divides a scaled delta until it is small, counting 36 for each division. -/
def settle (delta k : Nat) : Nat :=
  if 455 < delta then settle (delta / 35) (k + 36) else k + 36 * delta / (delta + 38)
termination_by delta
decreasing_by omega

/-- The bias after a delta, with `count` characters placed. -/
def adapt (delta count : Nat) (first : Bool) : Nat :=
  let scaled := if first then delta / 700 else delta / 2
  settle (scaled + scaled / count) 0

/-- A delta as a variable-length number. -/
def number (bias k delta : Nat) : List Char :=
  let t := threshold bias k
  if delta < t then [digit delta]
  else digit (t + (delta - t) % (36 - t)) :: number bias (k + 36) ((delta - t) / (36 - t))
termination_by delta
decreasing_by
  have := threshold_pos bias k
  exact Nat.lt_of_le_of_lt (Nat.div_le_self ..) (by omega)

/-- The state of an encoder: the output, the running delta, the bias and the characters placed. -/
structure Encoder where
  output : List Char
  delta : Nat
  bias : Nat
  placed : Nat

/-- Passes one character of the label while the code point `point` is being placed. -/
def Encoder.pass (basic point : Nat) (e : Encoder) (c : Char) : Encoder :=
  if c.toNat < point then { e with delta := e.delta + 1 }
  else if c.toNat = point then
    ⟨e.output ++ number e.bias 36 e.delta, 0, adapt e.delta (e.placed + 1) (e.placed = basic),
      e.placed + 1⟩
  else e

/-- Places the code points, given in increasing order, from `point` on. -/
def Encoder.place (label : List Char) (basic : Nat) : List Nat → Nat → Encoder → Encoder
  | [], _, e => e
  | p :: ps, point, e =>
    let ready := { e with delta := e.delta + (p - point) * (e.placed + 1) }
    let passed := label.foldl (Encoder.pass basic p) ready
    place label basic ps (p + 1) { passed with delta := passed.delta + 1 }

/-- The Punycode form of a label, without `xn--`. -/
def encode (label : List Char) : List Char :=
  let ascii := label.filter (·.toNat < 0x80)
  let points := ((label.filter (0x80 ≤ ·.toNat)).map Char.toNat).eraseDups.mergeSort
  let start := if ascii = [] then [] else ascii ++ ['-']
  (Encoder.place label ascii.length points 0x80 ⟨start, 0, 72, ascii.length⟩).output

/-- Reads a variable-length number of weight `weight` onto `index`. -/
def readNumber? (bias : Nat) : (k weight index : Nat) → List Char → Option (Nat × List Char)
  | _, _, _, [] => none
  | k, weight, index, c :: rest =>
    match value? c with
    | none => none
    | some d =>
      if d < threshold bias k then some (index + d * weight, rest)
      else readNumber? bias (k + 36) (weight * (36 - threshold bias k)) (index + d * weight) rest

theorem length_lt_of_readNumber? {bias k weight index : Nat} {s : List Char} {r : Nat × List Char}
    (h : readNumber? bias k weight index s = some r) : r.2.length < s.length := by
  induction s generalizing k weight index with
  | nil => simp [readNumber?] at h
  | cons c s ih =>
    rw [readNumber?] at h
    split at h
    · simp at h
    · split at h
      · cases h
        simp
      · exact Nat.lt_succ_of_lt (ih h)

/-- Inserts the characters that the deltas describe. -/
def insertAll (bias point index : Nat) (label : List Char) (s : List Char) : Option (List Char) :=
  match h : readNumber? bias 36 1 index s with
  | none => if s = [] then some label else none
  | some (i, rest) =>
    let count := label.length + 1
    let p := point + i / count
    if p < 0xD800 ∨ (0xDFFF < p ∧ p < 0x110000) then
      have : rest.length < s.length := length_lt_of_readNumber? h
      insertAll (adapt (i - index) count (index = 0)) p (i % count + 1)
        (label.insertIdx (i % count) (Char.ofNat p)) rest
    else none
termination_by s.length

/-- The label of a Punycode form. A hyphen at the start is no separator. -/
def decode? (s : List Char) : Option (List Char) :=
  match Text.splitLast? '-' s with
  | none => insertAll 72 0x80 0 [] s
  | some ([], _) => none
  | some (ascii, deltas) =>
    if ascii.all (·.toNat < 0x80) then insertAll 72 0x80 0 ascii deltas else none

end TagCatalog.Url.Punycode
