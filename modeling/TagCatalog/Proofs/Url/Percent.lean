import Mathlib.Order.Nat
import TagCatalog.Url.Percent

/-!
# What percent encoding leaves to be decoded

A triplet is a percent sign with two hexadecimal digits behind it. It alone is decoded to anything
else than the bytes of its characters, and an encode set without percent signs and digits neither
makes one nor breaks one. So decoding gives back the bytes of a text that was encoded, if there was
no triplet in it, and fewer bytes otherwise.

* `Url.hasTriplet`: a triplet stands in a text;
* `Url.decoding_induction`: decoding reads a triplet or a character;
* `Url.percentDecode_concat`: what is kept at the end of a text;
* **`Url.percentDecode_eq_encode_iff`**: the texts that are decoded to their own bytes;
* **`Url.percentDecode_percentEncode`**: encoding is not seen when it is decoded.
-/

namespace TagCatalog.Url

open Text Text.Utf8

variable {s t : List Char} {a b c : Char} {x y : Nat} {set : Char → Bool}

/-! ## Triplets -/

/-- The text begins with two hexadecimal digits. -/
def beginsWithByte : List Char → Bool
  | a :: b :: _ => (hexValue? a).isSome && (hexValue? b).isSome
  | _ => false

/-- A percent sign with two hexadecimal digits behind it stands in the text. -/
def hasTriplet : List Char → Bool
  | [] => false
  | c :: s => c == '%' && beginsWithByte s || hasTriplet s

theorem percentDecode_triplet (ha : hexValue? a = some x) (hb : hexValue? b = some y)
    (s : List Char) :
    percentDecode ('%' :: a :: b :: s) = UInt8.ofNat (16 * x + y) :: percentDecode s := by
  rw [percentDecode, ha, hb]

theorem percentDecode_cons (h : c = '%' → beginsWithByte s = false) :
    percentDecode (c :: s) = String.utf8EncodeChar c ++ percentDecode s := by
  by_cases hc : c = '%'
  · subst hc
    match s, h rfl with
    | [], _ => rfl
    | [a], _ =>
      rw [percentDecode]
      nofun
    | a :: b :: s, hpair =>
      rw [percentDecode]
      split
      · next x y ha hb =>
        rw [beginsWithByte, ha, hb] at hpair
        nomatch hpair
      · rfl
  · rw [percentDecode]
    exact fun _ _ _ h => absurd h hc

/-- Decoding reads a triplet, or one character that begins none. -/
theorem decoding_induction {P : List Char → Prop} (nil : P [])
    (triplet : ∀ a b x y s, hexValue? a = some x → hexValue? b = some y → P s →
      P ('%' :: a :: b :: s))
    (cons : ∀ c s, (c = '%' → beginsWithByte s = false) → P s → P (c :: s)) (s : List Char) :
    P s := by
  induction s using percentDecode.induct with
  | case1 a b s x y hb ha ih => exact triplet a b x y s ha hb ih
  | case2 a b s hab ih =>
    refine cons _ _ (fun _ => ?_) ih
    cases ha : hexValue? a with
    | none => rw [beginsWithByte, ha]; rfl
    | some x =>
      cases hb : hexValue? b with
      | none => rw [beginsWithByte, ha, hb]; rfl
      | some y => exact (hab x y ha hb).elim
  | case3 c s hc ih =>
    refine cons c s (fun hpercent => ?_) ih
    match s, hc with
    | [], _ => rfl
    | [a], _ => rfl
    | a :: b :: s, hc => exact (hc a b s hpercent rfl).elim
  | case4 => exact nil

theorem beginsWithByte_concat (hc : hexValue? c = none) (h : beginsWithByte s = false) :
    beginsWithByte (s ++ [c]) = false := by
  match s, h with
  | [], _ => rfl
  | [a], _ =>
    rw [List.singleton_append, beginsWithByte, hc]
    exact Bool.and_false _
  | a :: b :: s, h => exact h

/-! ## Decoding -/

theorem percentDecode_concat (hc : c ≠ '%') (hhex : hexValue? c = none) (s : List Char) :
    percentDecode (s ++ [c]) = percentDecode s ++ String.utf8EncodeChar c := by
  induction s using decoding_induction with
  | nil =>
    rw [List.nil_append, percentDecode_cons fun h => absurd h hc]
    exact List.append_nil _
  | triplet a b x y s ha hb ih =>
    rw [List.cons_append, List.cons_append, List.cons_append, percentDecode_triplet ha hb,
      percentDecode_triplet ha hb, ih]
    rfl
  | cons d s h ih =>
    rw [List.cons_append, percentDecode_cons fun hd => beginsWithByte_concat hhex (h hd),
      percentDecode_cons h, ih, List.append_assoc]

theorem encode_cons (c : Char) (s : List Char) :
    encode (c :: s) = String.utf8EncodeChar c ++ encode s := List.flatMap_cons

theorem length_encode_cons (c : Char) (s : List Char) :
    (encode (c :: s)).length = c.utf8Size + (encode s).length := by
  rw [encode_cons, List.length_append, String.length_utf8EncodeChar]

theorem length_percentDecode_triplet (ha : hexValue? a = some x) (hb : hexValue? b = some y)
    (h : (percentDecode s).length ≤ (encode s).length) :
    (percentDecode ('%' :: a :: b :: s)).length < (encode ('%' :: a :: b :: s)).length := by
  have := a.utf8Size_pos
  have := b.utf8Size_pos
  rw [percentDecode_triplet ha hb, List.length_cons, length_encode_cons, length_encode_cons,
    length_encode_cons]
  omega

theorem length_percentDecode_le (s : List Char) : (percentDecode s).length ≤ (encode s).length := by
  induction s using decoding_induction with
  | nil => exact le_refl _
  | triplet a b x y s ha hb ih => exact (length_percentDecode_triplet ha hb ih).le
  | cons c s h ih =>
    rw [percentDecode_cons h, encode_cons, List.length_append, List.length_append]
    omega

theorem length_percentDecode_lt (h : hasTriplet s) :
    (percentDecode s).length < (encode s).length := by
  induction s using decoding_induction with
  | nil => nomatch h
  | triplet a b x y s ha hb ih =>
    exact length_percentDecode_triplet ha hb (length_percentDecode_le s)
  | cons c s hc ih =>
    rw [hasTriplet, Bool.or_eq_true, Bool.and_eq_true, beq_iff_eq] at h
    have hs : hasTriplet s := h.resolve_left fun ⟨hpercent, hpair⟩ => by
      rw [hc hpercent] at hpair
      nomatch hpair
    rw [percentDecode_cons hc, encode_cons, List.length_append, List.length_append]
    have := ih hs
    omega

/-- **A text is decoded to its own bytes** if there is no triplet in it. -/
theorem percentDecode_eq_encode_iff : percentDecode s = encode s ↔ hasTriplet s = false := by
  constructor
  · intro h
    rw [Bool.eq_false_iff]
    exact fun htriplet => (length_percentDecode_lt htriplet).ne (congrArg List.length h)
  · intro h
    induction s with
    | nil => rfl
    | cons c s ih =>
      rw [hasTriplet, Bool.or_eq_false_iff] at h
      have hc : c = '%' → beginsWithByte s = false := by
        rintro rfl
        exact h.1
      rw [percentDecode_cons hc, encode_cons, ih h.2]

/-! ## Decoding what was encoded -/

theorem hexValue?_upperHexDigit : ∀ n < 16, hexValue? (upperHexDigit n) = some n := by decide

theorem percentDecode_percentByte (b : UInt8) (s : List Char) :
    percentDecode (percentByte b ++ s) = b :: percentDecode s := by
  have hb := b.toNat_lt
  have hhigh := hexValue?_upperHexDigit (b.toNat / 16) (by omega)
  have hlow := hexValue?_upperHexDigit (b.toNat % 16) (by omega)
  have hvalue : 16 * (b.toNat / 16) + b.toNat % 16 = b.toNat := by omega
  rw [percentByte, List.cons_append, List.cons_append, List.cons_append, List.nil_append,
    percentDecode_triplet hhigh hlow, hvalue, UInt8.ofNat_toNat]

theorem percentDecode_percentChar (c : Char) (s : List Char) :
    percentDecode (percentChar c ++ s) = String.utf8EncodeChar c ++ percentDecode s := by
  rw [percentChar]
  induction String.utf8EncodeChar c with
  | nil => rfl
  | cons b bytes ih =>
    rw [List.flatMap_cons, List.append_assoc, percentDecode_percentByte, ih]
    rfl

/-- The encode set holds no character of a triplet. -/
structure SparesTriplets (set : Char → Bool) : Prop where
  percent : set '%' = false
  digit : ∀ {c : Char}, (hexValue? c).isSome → set c = false

theorem percentEncode_cons (set : Char → Bool) (c : Char) (s : List Char) :
    percentEncode set (c :: s) = (if set c then percentChar c else [c]) ++ percentEncode set s :=
  List.flatMap_cons

theorem percentEncode_cons_of_not (h : set c = false) (s : List Char) :
    percentEncode set (c :: s) = c :: percentEncode set s := by
  rw [percentEncode_cons, h]
  rfl

theorem percentEncode_eq_self (h : ∀ c ∈ s, set c = false) : percentEncode set s = s := by
  induction s with
  | nil => rfl
  | cons c s ih =>
    rw [List.forall_mem_cons] at h
    rw [percentEncode_cons_of_not h.1, ih h.2]

theorem exists_percentChar (c : Char) : ∃ t, percentChar c = '%' :: t := by
  obtain ⟨b, bytes, h⟩ := List.exists_cons_of_ne_nil (l := String.utf8EncodeChar c) fun h => by
    have := c.utf8Size_pos
    rw [← String.length_utf8EncodeChar, h] at this
    nomatch this
  exact ⟨_, by rw [percentChar, h, List.flatMap_cons]; rfl⟩

theorem beginsWithByte_of_percentEncode (h : beginsWithByte (percentEncode set s)) :
    beginsWithByte s := by
  have hpercent : ∀ c t, ¬ (hexValue? c).isSome → ¬ beginsWithByte (c :: t) := by
    intro c t hc hpair
    cases t with
    | nil => nomatch hpair
    | cons b t => exact hc (Bool.and_eq_true_iff.1 hpair).1
  match s with
  | [] => nomatch h
  | a :: s =>
    cases ha : set a with
    | true =>
      obtain ⟨t, ht⟩ := exists_percentChar a
      rw [percentEncode_cons, ha, if_pos rfl, ht] at h
      exact (hpercent _ _ (by decide) h).elim
    | false =>
      rw [percentEncode_cons_of_not ha] at h
      match s with
      | [] => nomatch h
      | b :: s =>
        cases hb : set b with
        | true =>
          obtain ⟨t, ht⟩ := exists_percentChar b
          rw [percentEncode_cons, hb, if_pos rfl, ht] at h
          nomatch (Bool.and_eq_true_iff.1 h).2
        | false =>
          rw [percentEncode_cons_of_not hb] at h
          exact h

/-- **Encoding is not seen when it is decoded.** -/
theorem percentDecode_percentEncode (hset : SparesTriplets set) (s : List Char) :
    percentDecode (percentEncode set s) = percentDecode s := by
  induction s using decoding_induction with
  | nil => rfl
  | triplet a b x y s ha hb ih =>
    have hsome : ∀ {c z}, hexValue? c = some z → set c = false := fun h =>
      hset.digit (by rw [h]; rfl)
    rw [percentEncode_cons_of_not hset.percent, percentEncode_cons_of_not (hsome ha),
      percentEncode_cons_of_not (hsome hb), percentDecode_triplet ha hb,
      percentDecode_triplet ha hb, ih]
  | cons c s h ih =>
    rw [percentDecode_cons h, ← ih]
    cases hc : set c with
    | true => rw [percentEncode_cons, hc, if_pos rfl, percentDecode_percentChar]
    | false =>
      rw [percentEncode_cons_of_not hc, percentDecode_cons fun hpercent => ?_]
      rw [Bool.eq_false_iff]
      intro hpair
      rw [beginsWithByte_of_percentEncode hpair] at h
      nomatch h hpercent

theorem toNat_lt_of_hexValue? (h : (hexValue? c).isSome) : c.toNat < 0x67 := by
  have hval : c.val.toNat = c.toNat := rfl
  rw [hexValue?] at h
  split_ifs at h with h1 h2 h3
  · exact (UInt32.le_iff_toNat_le.1 h1.2).trans_lt (by decide)
  · exact (UInt32.le_iff_toNat_le.1 h2.2).trans_lt (by decide)
  · exact (UInt32.le_iff_toNat_le.1 h3.2).trans_lt (by decide)
  · nomatch h

theorem sparesTriplets_inPath : SparesTriplets inPath where
  percent := rfl
  digit {c} h := by
    have hdigit : ∀ n < 0x67, (hexValue? (Char.ofNat n)).isSome →
        inPath (Char.ofNat n) = false := by decide
    have hc := hdigit c.toNat (toNat_lt_of_hexValue? h)
    rw [Char.ofNat_toNat] at hc
    exact hc h

end TagCatalog.Url
