import Mathlib.Tactic.SplitIfs
import TagCatalog.Proofs.Text.Utf8
import TagCatalog.Text.Base64

/-!
# Padded Base64 is read as it was written

Three bytes make four digits of six bits. One or two bytes at the end make two or three digits, the
bits that they lack being zero, and the padding fills up the group of four. The padding is no
digit, so a group says how many bytes it was made of, and no two texts stand for the same bytes.

* `Text.Base64.alphabet`, `Text.Base64.eq_digit_of_value?`: the digits by their values;
* `Text.Base64.IsPadded`, `Text.Base64.isPadded_encode`: the form of a text, for each number of
  bytes;
* `Text.Base64.decode?_one`, `Text.Base64.decode?_two`, `Text.Base64.decode?_three`: one group;
* `Text.Base64.forall_mem_encode`: its characters;
* **`Text.Base64.decode?_encode`**, **`Text.Base64.decode?_eq_some_iff`**: a whole text.
-/

namespace TagCatalog.Text.Base64

variable {c p q r s : Char} {n : Nat} {text rest : List Char} {bytes : List UInt8}

/-! ## Digits -/

/-- The digits in the order of their values. -/
def alphabet : List Char :=
  "ABCDEFGHIJKLMNOPQRSTUVWXYZabcdefghijklmnopqrstuvwxyz0123456789+/".toList

theorem getElem?_alphabet : ∀ n < 64, alphabet[n]? = some (digit n) := by decide

theorem value?_digit : ∀ n < 64, value? (digit n) = some n := by decide

theorem digit_ne_padding : ∀ n < 64, digit n ≠ '=' := by decide

theorem eq_digit_of_value? (h : value? c = some n) : n < 64 ∧ c = digit n := by
  have hle : ∀ d : Char, c ≤ d → c.toNat ≤ d.toNat := fun d hd => hd
  have hge : ∀ d : Char, d ≤ c → d.toNat ≤ c.toNat := fun d hd => hd
  have hdigit : ∀ m, m = c.toNat → Char.ofNat m = c := fun m hm => by rw [hm, Char.ofNat_toNat]
  unfold value? at h
  split_ifs at h with hupper hlower hnumber hplus hslash
  · have hA := hge 'A' hupper.1
    have hZ := hle 'Z' hupper.2
    have : 'Z'.toNat = 90 := rfl
    have : 'A'.toNat = 65 := rfl
    cases h
    exact ⟨by omega, by rw [digit, if_pos (by omega), hdigit _ (by omega)]⟩
  · have ha := hge 'a' hlower.1
    have hz := hle 'z' hlower.2
    have : 'z'.toNat = 122 := rfl
    have : 'a'.toNat = 97 := rfl
    cases h
    exact ⟨by omega, by
      rw [digit, if_neg (by omega), if_pos (by omega), hdigit _ (by omega)]⟩
  · have h0 := hge '0' hnumber.1
    have h9 := hle '9' hnumber.2
    have : '9'.toNat = 57 := rfl
    have : '0'.toNat = 48 := rfl
    cases h
    exact ⟨by omega, by
      rw [digit, if_neg (by omega), if_neg (by omega), if_pos (by omega), hdigit _ (by omega)]⟩
  · cases h
    exact ⟨by decide, hplus⟩
  · cases h
    exact ⟨by decide, hslash⟩

/-! ## Groups -/

theorem decode?_one {m : Nat} (hn : n < 64) (hm : m < 64) (hzero : m % 16 = 0) :
    decode? [digit n, digit m, '=', '='] = some [UInt8.ofNat (n * 4 + m / 16)] := by
  rw [decode?, value?_digit n hn, value?_digit m hm]
  exact if_pos hzero

theorem decode?_two {m k : Nat} (hn : n < 64) (hm : m < 64) (hk : k < 64) (hzero : k % 4 = 0) :
    decode? [digit n, digit m, digit k, '='] =
      some [UInt8.ofNat (n * 4 + m / 16), UInt8.ofNat (m % 16 * 16 + k / 4)] := by
  rw [decode?.eq_3 _ _ _ (digit_ne_padding k hk), value?_digit n hn, value?_digit m hm,
    value?_digit k hk]
  exact if_pos hzero

theorem decode?_three {m k l : Nat} (hn : n < 64) (hm : m < 64) (hk : k < 64) (hl : l < 64)
    (rest : List Char) :
    decode? (digit n :: digit m :: digit k :: digit l :: rest) =
      (decode? rest).map fun bytes => UInt8.ofNat (n * 4 + m / 16) ::
        UInt8.ofNat (m % 16 * 16 + k / 4) :: UInt8.ofNat (k % 4 * 64 + l) :: bytes := by
  have hpadding := digit_ne_padding l hl
  rw [decode?.eq_4 _ _ _ _ _ (fun _ h _ => hpadding h) (fun h _ => hpadding h),
    value?_digit n hn, value?_digit m hm, value?_digit k hk, value?_digit l hl]
  cases decode? rest <;> rfl

/-! ## Whole texts -/

theorem ofNat_of_toNat (b : UInt8) (h : n = b.toNat) : UInt8.ofNat n = b := by
  rw [h, UInt8.ofNat_toNat]

/-- **The text of some bytes is read as these bytes.** -/
theorem decode?_encode (bytes : List UInt8) : decode? (encode bytes) = some bytes := by
  induction bytes using encode.induct with
  | case1 => rfl
  | case2 a =>
    have ha := a.toNat_lt
    rw [encode, decode?_one (by omega) (by omega) (by omega), ofNat_of_toNat a (by omega)]
  | case3 a b =>
    have ha := a.toNat_lt
    have hb := b.toNat_lt
    rw [encode, decode?_two (by omega) (by omega) (by omega) (by omega),
      ofNat_of_toNat a (by omega), ofNat_of_toNat b (by omega)]
  | case4 a b c rest ih =>
    have ha := a.toNat_lt
    have hb := b.toNat_lt
    have hc := c.toNat_lt
    rw [encode, decode?_three (by omega) (by omega) (by omega) (by omega), ih, Option.map_some,
      ofNat_of_toNat a (by omega), ofNat_of_toNat b (by omega), ofNat_of_toNat c (by omega)]

theorem eq_encode_of_decode? (h : decode? text = some bytes) : text = encode bytes := by
  induction text using decode?.induct generalizing bytes with
  | case1 =>
    cases h
    rfl
  | case2 p q =>
    rw [decode?] at h
    obtain ⟨n, hp, hrest⟩ := Option.bind_eq_some_iff.1 h
    obtain ⟨m, hq, hbytes⟩ := Option.bind_eq_some_iff.1 hrest
    obtain ⟨hn, rfl⟩ := eq_digit_of_value? hp
    obtain ⟨hm, rfl⟩ := eq_digit_of_value? hq
    obtain ⟨hzero, hbytes⟩ := Option.ite_none_right_eq_some.1 hbytes
    cases hbytes
    rw [encode, Utf8.toNat_byte (by omega)]
    congr 3 <;> omega
  | case3 p q r hr =>
    rw [decode?.eq_3 _ _ _ hr] at h
    obtain ⟨n, hp, hrest⟩ := Option.bind_eq_some_iff.1 h
    obtain ⟨m, hq, hrest⟩ := Option.bind_eq_some_iff.1 hrest
    obtain ⟨k, hr, hbytes⟩ := Option.bind_eq_some_iff.1 hrest
    obtain ⟨hn, rfl⟩ := eq_digit_of_value? hp
    obtain ⟨hm, rfl⟩ := eq_digit_of_value? hq
    obtain ⟨hk, rfl⟩ := eq_digit_of_value? hr
    obtain ⟨hzero, hbytes⟩ := Option.ite_none_right_eq_some.1 hbytes
    cases hbytes
    rw [encode, Utf8.toNat_byte (by omega), Utf8.toNat_byte (by omega)]
    congr 4 <;> omega
  | case4 p q r s rest hone htwo ih =>
    rw [decode?.eq_4 _ _ _ _ _ hone htwo] at h
    obtain ⟨n, hp, hrest⟩ := Option.bind_eq_some_iff.1 h
    obtain ⟨m, hq, hrest⟩ := Option.bind_eq_some_iff.1 hrest
    obtain ⟨k, hr, hrest⟩ := Option.bind_eq_some_iff.1 hrest
    obtain ⟨l, hs, hrest⟩ := Option.bind_eq_some_iff.1 hrest
    obtain ⟨others, hothers, hbytes⟩ := Option.bind_eq_some_iff.1 hrest
    obtain ⟨hn, rfl⟩ := eq_digit_of_value? hp
    obtain ⟨hm, rfl⟩ := eq_digit_of_value? hq
    obtain ⟨hk, rfl⟩ := eq_digit_of_value? hr
    obtain ⟨hl, rfl⟩ := eq_digit_of_value? hs
    cases hbytes
    rw [encode, Utf8.toNat_byte (by omega), Utf8.toNat_byte (by omega),
      Utf8.toNat_byte (by omega), ← ih hothers]
    congr 5 <;> omega
  | case5 text hnil hone htwo hthree =>
    rw [decode?.eq_5 _ hnil hone htwo hthree] at h
    nomatch h

/-- **Each byte string has one text.** -/
theorem decode?_eq_some_iff : decode? text = some bytes ↔ text = encode bytes :=
  ⟨eq_encode_of_decode?, fun h => h ▸ decode?_encode bytes⟩

/-! ## The form of a text -/

/-- The text has the form that `size` bytes are written in: groups of four, of which only the last
ends in padding, two of it if there is one byte over and one if there are two. -/
def IsPadded (size : Nat) (text : List Char) : Prop :=
  text.length = (size + 2) / 3 * 4 ∧
    ∃ digits, text = digits ++ List.replicate ((3 - size % 3) % 3) '=' ∧ ∀ c ∈ digits, c ∈ alphabet

theorem digit_mem_alphabet (hn : n < 64) : digit n ∈ alphabet :=
  List.mem_of_getElem? (getElem?_alphabet n hn)

theorem isPadded_encode (bytes : List UInt8) : IsPadded bytes.length (encode bytes) := by
  induction bytes using encode.induct with
  | case1 => exact ⟨rfl, [], rfl, List.forall_mem_nil _⟩
  | case2 a =>
    have ha := a.toNat_lt
    refine ⟨by simp [encode], [_, _], by rw [encode]; rfl, ?_⟩
    simp only [List.forall_mem_cons]
    exact ⟨digit_mem_alphabet (by omega), digit_mem_alphabet (by omega), List.forall_mem_nil _⟩
  | case3 a b =>
    have ha := a.toNat_lt
    have hb := b.toNat_lt
    refine ⟨by simp [encode], [_, _, _], by rw [encode]; rfl, ?_⟩
    simp only [List.forall_mem_cons]
    exact ⟨digit_mem_alphabet (by omega), digit_mem_alphabet (by omega),
      digit_mem_alphabet (by omega), List.forall_mem_nil _⟩
  | case4 a b c rest ih =>
    have ha := a.toNat_lt
    have hb := b.toNat_lt
    have hc := c.toNat_lt
    obtain ⟨hlength, digits, hdigits, hmem⟩ := ih
    have hover : (a :: b :: c :: rest).length % 3 = rest.length % 3 := by
      simp only [List.length_cons]
      omega
    refine ⟨?_, _ :: _ :: _ :: _ :: digits, by rw [encode, hdigits, hover]; rfl, ?_⟩
    · simp only [encode, List.length_cons, hlength]
      omega
    · simp only [List.forall_mem_cons]
      exact ⟨digit_mem_alphabet (by omega), digit_mem_alphabet (by omega),
        digit_mem_alphabet (by omega), digit_mem_alphabet (by omega), hmem⟩

theorem forall_mem_encode {p : Char → Prop} (hdigit : ∀ c ∈ alphabet, p c) (hpadding : p '=')
    (bytes : List UInt8) : ∀ c ∈ encode bytes, p c := by
  obtain ⟨-, digits, hdigits, hmem⟩ := isPadded_encode bytes
  rw [hdigits]
  refine List.forall_mem_append.2 ⟨fun c hc => hdigit c (hmem c hc), fun c hc => ?_⟩
  rw [List.eq_of_mem_replicate hc]
  exact hpadding

end TagCatalog.Text.Base64
