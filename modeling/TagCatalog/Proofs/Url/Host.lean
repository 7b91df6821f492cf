import TagCatalog.Proofs.Text.Split
import TagCatalog.Proofs.Url.Percent
import TagCatalog.Url.Parser

/-!
# Hosts that end in a blank or a control character

A control character or a blank at the end of a host is kept by every step that reads it, or becomes
the ASCII blank: it is still there when the name is tested for characters that no name may hold. So
no such host is read, whatever stands before the character.

* `Url.isEdge`, `Url.isVoid`: the characters in question, in ASCII and beyond;
* `Text.Utf8.getLast?_decodeLossy`, `Url.Idna.getLast?_nfc`: what is kept at the end of a text;
* `Url.Punycode.decode?_eq_none`, `Url.Domain.toAscii?_eq_none`: labels and names;
* **`Url.parseHost_ne_ok`**: a host that ends in such a character is refused.
-/

namespace TagCatalog

/-- A control character or a blank, as it is dropped at the ends of a URL's text. -/
def Url.isEdge (c : Char) : Bool := c.toNat ≤ 0x20

/-- A control character or a blank of any kind. -/
def Url.isVoid (c : Char) : Bool := isEdge c || Text.isBlank c

/-- What holds of all control characters and the ASCII blank is seen by trying them. -/
theorem Url.forall_isEdge {P : Char → Prop} (h : ∀ n < 0x21, P (Char.ofNat n)) {c : Char}
    (hc : isEdge c) : P c := by
  have hn : c.toNat < 0x21 := by
    rw [isEdge, decide_eq_true_eq] at hc
    omega
  have hP := h c.toNat hn
  rwa [Char.ofNat_toNat] at hP

/-- The code points of the blanks beyond ASCII. -/
def Url.wideBlanks : List Nat :=
  [0x85, 0xA0, 0x1680, 0x2000, 0x2001, 0x2002, 0x2003, 0x2004, 0x2005, 0x2006, 0x2007, 0x2008,
    0x2009, 0x200A, 0x2028, 0x2029, 0x202F, 0x205F, 0x3000]

theorem Url.mem_wideBlanks {c : Char} (hc : isVoid c) (hedge : isEdge c = false) :
    c.toNat ∈ wideBlanks := by
  rw [isEdge, decide_eq_false_iff_not] at hedge
  rw [isVoid, isEdge, decide_eq_false hedge, Bool.false_or, Text.isBlank] at hc
  simp only [Bool.or_eq_true, Bool.and_eq_true, decide_eq_true_eq, beq_iff_eq] at hc
  simp only [wideBlanks, List.mem_cons, List.not_mem_nil, or_false]
  omega

theorem Url.forall_isVoid {P : Char → Prop} (h : ∀ n < 0x21, P (Char.ofNat n))
    (hwide : ∀ n ∈ wideBlanks, P (Char.ofNat n)) {c : Char} (hc : isVoid c) : P c := by
  cases hedge : isEdge c with
  | true => exact forall_isEdge h hedge
  | false =>
    have hP := hwide c.toNat (mem_wideBlanks hc hedge)
    rwa [Char.ofNat_toNat] at hP

/-! ## Bytes -/

namespace Text.Utf8

/-- The bytes that continue a character. -/
def Pending.Continues (p : Pending) : Prop := 0x80 ≤ p.low ∧ p.high ≤ 0xBF

theorem continues_of_first {n : Nat} {p : Pending} (h : first n = some (.inr p)) : p.Continues := by
  unfold first at h
  split_ifs at h <;> cases h <;> exact ⟨Nat.le_of_ble_eq_true rfl, Nat.le_of_ble_eq_true rfl⟩

theorem getLast?_decodeFrom {b : UInt8} {e : List UInt8} {c : Char}
    (hb : b.toNat < 0x80 ∨ 0xBF < b.toNat) (he : decodeFrom none (b :: e) = [some c])
    {state : Option Pending} (hstate : ∀ p ∈ state, p.Continues) (bytes : List UInt8) :
    (decodeFrom state (bytes ++ b :: e)).getLast? = some (some c) := by
  have hcons : ∀ (x : Option Char) {cs : List (Option Char)} {c : Option Char},
      cs.getLast? = some c → (x :: cs).getLast? = some c := by
    intro x cs c h
    rw [List.getLast?_cons, h]
    rfl
  have hend : (decodeFrom none (b :: e)).getLast? = some (some c) := by
    rw [he]
    rfl
  induction bytes generalizing state with
  | nil =>
    cases state with
    | none => exact hend
    | some p =>
      have hp := hstate p rfl
      have hout : ¬ (p.low ≤ b.toNat ∧ b.toNat ≤ p.high) := by
        obtain ⟨hlow, hhigh⟩ := hp
        omega
      rw [List.nil_append, decodeFrom, if_neg hout]
      exact hcons none hend
  | cons x bytes ih =>
    have hnone : (decodeFrom none (bytes ++ b :: e)).getLast? = some (some c) := ih nofun
    have hpending : ∀ p : Pending, p.Continues →
        (decodeFrom (some p) (bytes ++ b :: e)).getLast? = some (some c) :=
      fun p hp => ih fun q hq => by
        rw [Option.mem_some_iff] at hq
        exact hq ▸ hp
    have hfirst : (decodeFrom none (x :: (bytes ++ b :: e))).getLast? = some (some c) := by
      rw [decodeFrom]
      split
      · exact hcons _ hnone
      · exact hcons _ hnone
      · next p hx => exact hpending p (continues_of_first hx)
    cases state with
    | none => exact hfirst
    | some p =>
      rw [decodeFrom] at hfirst
      rw [List.cons_append, decodeFrom]
      split_ifs with hrange howed
      · exact hcons _ hnone
      · exact hpending _ ⟨le_refl _, le_refl _⟩
      · exact hcons _ hfirst

theorem getLast?_decodeLossy {b : UInt8} {e : List UInt8} {c : Char}
    (hb : b.toNat < 0x80 ∨ 0xBF < b.toNat) (he : decodeFrom none (b :: e) = [some c])
    (bytes : List UInt8) : (decodeLossy (bytes ++ b :: e)).getLast? = some c := by
  have hstart : ∀ p ∈ (none : Option Pending), p.Continues := nofun
  have h := getLast?_decodeFrom hb he hstart bytes
  rw [decodeLossy, List.getLast?_map, decode, h]
  rfl

end Text.Utf8

namespace Url

/-! ## Composition -/

namespace Idna

theorem composePair?_eq_none {b : Nat} (hb : b < 0x300) (a : Nat) : composePair? a b = none := by
  rw [composePair?, if_neg (by omega), if_neg (by omega), if_pos hb]

theorem combiningClass_eq_zero {n : Nat} (hn : n < 0x300) : combiningClass n = 0 := by
  rw [combiningClass, if_pos hn]

theorem Composing.add_eq {n : Nat} (hn : n < 0x300) (s : Composing) :
    s.add n = ⟨s.before ++ s.starter.toList ++ s.marks.reverse, some n, []⟩ := by
  have hnone : s.starter.bind (composePair? · n) = none := by
    cases s.starter with
    | none => rfl
    | some a => exact composePair?_eq_none hn a
  have hplain : Composing.add.plain s n =
      ⟨s.before ++ s.starter.toList ++ s.marks.reverse, some n, []⟩ := by
    rw [Composing.add.plain, if_pos (combiningClass_eq_zero hn)]
  rw [Composing.add, hnone]
  split
  · next h => nomatch h
  · exact hplain

theorem compose_concat {n : Nat} (hn : n < 0x300) (s : List Nat) :
    ∃ t, compose (s ++ [n]) = t ++ [n] := by
  simp only [compose, List.foldl_append, List.foldl_cons, List.foldl_nil, Composing.add_eq hn]
  exact ⟨_, List.append_nil _⟩

theorem reorder_concat {n : Nat} (hn : n < 0x300) (s : List Nat) :
    ∃ t, reorder (s ++ [n]) = t ++ [n] := by
  simp only [reorder, List.foldl_append, List.foldl_cons, List.foldl_nil,
    if_pos (combiningClass_eq_zero hn)]
  rw [show reorder.sorted [] = [] from List.mergeSort_nil, List.append_nil]
  exact ⟨_, rfl⟩

theorem decompose_concat {n : Nat} (hn : n < 0xC0) (s : List Nat) :
    decompose (s ++ [n]) = decompose s ++ [n] := by
  have hpoint : ∀ depth, decomposePoint depth n = [n] := by
    intro depth
    cases depth with
    | zero => rfl
    | succ depth => rw [decomposePoint, decomposeWith, if_pos hn]
  show (s ++ [n]).flatMap (decomposePoint 4) = s.flatMap (decomposePoint 4) ++ [n]
  rw [List.flatMap_append, List.flatMap_singleton, hpoint]

theorem getLast?_nfc {s : List Char} {c : Char} (hc : c.toNat < 0xC0) (h : s.getLast? = some c) :
    (nfc s).getLast? = some c := by
  obtain ⟨s, rfl⟩ := List.getLast?_eq_some_iff.1 h
  obtain ⟨t, ht⟩ := reorder_concat (n := c.toNat) (by omega) (decompose (s.map Char.toNat))
  obtain ⟨u, hu⟩ := compose_concat (n := c.toNat) (by omega) t
  rw [nfc, List.map_append, List.map_singleton, decompose_concat hc, ht, hu, List.map_append,
    List.map_singleton, List.getLast?_concat, Char.ofNat_toNat]

end Idna

/-! ## Encoded labels -/

namespace Punycode

theorem readNumber?_concat {c : Char} (hc : value? c = none) {bias k weight index : Nat}
    {s : List Char} {i : Nat} {rest : List Char}
    (h : readNumber? bias k weight index (s ++ [c]) = some (i, rest)) :
    rest.getLast? = some c := by
  induction s generalizing k weight index with
  | nil => simp [readNumber?, hc] at h
  | cons d s ih =>
    rw [List.cons_append, readNumber?] at h
    split at h
    · cases h
    · split_ifs at h
      · cases h
        exact List.getLast?_concat
      · exact ih h

theorem insertAll_eq_none {s : List Char} {c : Char} (hc : value? c = none)
    (h : s.getLast? = some c) (bias point index : Nat) (label : List Char) :
    insertAll bias point index label s = none := by
  induction hlen : s.length using Nat.strongRecOn generalizing s bias point index label with
  | _ n ih =>
    obtain ⟨t, rfl⟩ := List.getLast?_eq_some_iff.1 h
    rw [insertAll]
    split
    · simp
    · next i rest hread =>
      have hlt := length_lt_of_readNumber? hread
      dsimp only
      split_ifs
      · exact ih _ (hlen ▸ hlt) (readNumber?_concat hc hread) _ _ _ _ rfl
      · rfl

theorem decode?_eq_none {s : List Char} {c : Char} (hc : value? c = none) (hdash : c ≠ '-')
    (h : s.getLast? = some c) : decode? s = none := by
  rw [decode?]
  split
  · exact insertAll_eq_none hc h _ _ _ _
  · rfl
  · next ascii deltas _ hsplit =>
    rw [Text.eq_append_of_splitLast? hsplit] at h
    have hdeltas : deltas.getLast? = some c := by
      cases deltas with
      | nil =>
        rw [List.getLast?_concat] at h
        exact absurd (Option.some.inj h).symm hdash
      | cons d deltas =>
        rwa [List.getLast?_append_of_ne_nil _ (by simp), List.getLast?_cons_cons] at h
    split_ifs
    · exact insertAll_eq_none hc hdeltas _ _ _ _
    · rfl

end Punycode

/-! ## Names -/

namespace Domain

theorem exists_of_mapM {α β : Type} {f : α → Option β} {xs : List α} {ys : List β}
    (h : xs.mapM f = some ys) {x : α} (hx : x ∈ xs) : ∃ y ∈ ys, f x = some y := by
  induction xs generalizing ys with
  | nil => nomatch hx
  | cons a xs ih =>
    rw [List.mapM_cons] at h
    obtain ⟨b, hb, h⟩ := Option.bind_eq_some_iff.1 h
    obtain ⟨bs, hbs, h⟩ := Option.bind_eq_some_iff.1 h
    cases h
    obtain rfl | hx := List.mem_cons.1 hx
    · exact ⟨b, List.mem_cons_self, hb⟩
    · obtain ⟨y, hy, hxy⟩ := ih hbs hx
      exact ⟨y, List.mem_cons_of_mem b hy, hxy⟩

variable {s : List Char} {c : Char}

theorem fate_of_isEdge (hc : isEdge c) : Idna.fate c = .kept := by
  have hupper : c.isUpper = false := forall_isEdge (P := fun c => c.isUpper = false) (by decide) hc
  have hlt : c.toNat < 0x80 := by
    rw [isEdge, decide_eq_true_eq] at hc
    omega
  simp only [Idna.fate, hlt, if_true, hupper, Bool.false_eq_true, if_false]

/-- A blank beyond ASCII becomes the ASCII one, unless it is refused. -/
theorem fate_of_isBlank (hc : isVoid c) (hedge : isEdge c = false) :
    Idna.fate c = .refused ∨ Idna.fate c = .replaced [' '] := by
  have hmem := mem_wideBlanks hc hedge
  have hge : ¬ c.toNat < 0x80 := by
    have hall : ∀ n ∈ wideBlanks, ¬ n < 0x80 := by decide
    exact hall _ hmem
  have hblank : Text.isBlank c := by
    rw [isVoid, hedge, Bool.false_or] at hc
    exact hc
  simp only [Idna.fate, hge, if_false, hblank, if_true]
  split_ifs
  · exact .inl rfl
  · exact .inr rfl

theorem getLast?_mapped? (hc : isVoid c) (h : s.getLast? = some c) {t : List Char}
    (ht : mapped? s = some t) : ∃ d, isEdge d ∧ t.getLast? = some d := by
  obtain ⟨s, rfl⟩ := List.getLast?_eq_some_iff.1 h
  obtain ⟨l, hl, rfl⟩ := Option.map_eq_some_iff.1 ht
  rw [List.mapM_append] at hl
  obtain ⟨l₁, _, hl⟩ := Option.bind_eq_some_iff.1 hl
  obtain ⟨l₂, hl₂, hl⟩ := Option.bind_eq_some_iff.1 hl
  cases hl
  rw [List.flatten_append]
  cases hedge : isEdge c with
  | true =>
    rw [List.mapM_cons, fate_of_isEdge hedge] at hl₂
    cases hl₂
    exact ⟨c, hedge, List.getLast?_concat⟩
  | false =>
    rw [List.mapM_cons] at hl₂
    obtain hfate | hfate := fate_of_isBlank hc hedge
    · rw [hfate] at hl₂
      nomatch hl₂
    · rw [hfate] at hl₂
      cases hl₂
      exact ⟨' ', by decide, List.getLast?_concat⟩

theorem mem_of_decodedLabel? (hc : isEdge c) (h : s.getLast? = some c) {t : List Char}
    (ht : decodedLabel? s = some t) : c ∈ t := by
  rw [decodedLabel?] at ht
  split at ht
  · next hsign =>
    have hdash : c ≠ '-' := forall_isEdge (P := (· ≠ '-')) (by decide) hc
    have hdigit : Punycode.value? c = none :=
      forall_isEdge (P := fun c => Punycode.value? c = none) (by decide) hc
    obtain ⟨u, rfl⟩ := List.isPrefixOf_iff_prefix.1 hsign
    have hlast : ((encodedSign ++ u).drop 4).getLast? = some c := by
      cases u with
      | nil => exact absurd (Option.some.inj h).symm hdash
      | cons x u =>
        rw [List.getLast?_append_of_ne_nil _ (List.cons_ne_nil x u)] at h
        exact h
    have hnone := Punycode.decode?_eq_none hdigit hdash hlast
    rw [hnone] at ht
    nomatch ht
  · cases ht
    exact List.mem_of_getLast? h

theorem tableForm?_eq_none (hc : isVoid c) (h : s.getLast? = some c) : tableForm? s = none := by
  rw [Option.eq_none_iff_forall_ne_some]
  intro r hr
  obtain ⟨m, hm, hr⟩ := Option.bind_eq_some_iff.1 hr
  obtain ⟨decoded, hdecoded, hr⟩ := Option.bind_eq_some_iff.1 hr
  obtain ⟨d, hd, hlastm⟩ := getLast?_mapped? hc h hm
  have hclass : d.toNat < 0xC0 := by
    rw [isEdge, decide_eq_true_eq] at hd
    omega
  have hdot : d ≠ '.' := forall_isEdge (P := (· ≠ '.')) (by decide) hd
  have hforbidden : isForbidden d := forall_isEdge (P := fun c => isForbidden c) (by decide) hd
  obtain ⟨label, hlabel, hlast⟩ := Text.exists_mem_splitAll hdot (Idna.getLast?_nfc hclass hlastm)
  obtain ⟨t, ht, hlabelt⟩ := exists_of_mapM hdecoded hlabel
  have hmem : d ∈ t := mem_of_decodedLabel? hd hlast hlabelt
  have hany : decoded.any (·.any isForbidden) :=
    List.any_eq_true.2 ⟨t, ht, List.any_eq_true.2 ⟨d, hmem, hforbidden⟩⟩
  simp only [hany, Bool.not_true, Bool.and_false, Bool.false_eq_true, if_false] at hr
  nomatch hr

theorem toAscii?_eq_none (hc : isVoid c) (h : s.getLast? = some c) : toAscii? s = none := by
  have hlower : c.toLower = c :=
    forall_isVoid (P := fun c => c.toLower = c) (by decide) (by decide) hc
  have hdot : c ≠ '.' := forall_isVoid (P := (· ≠ '.')) (by decide) (by decide) hc
  have hlast : (s.map Char.toLower).getLast? = some c := by
    rw [List.getLast?_map, h, Option.map_some, hlower]
  have hmem : c ∈ s.map Char.toLower := List.mem_of_getLast? hlast
  rw [toAscii?]
  split_ifs with hplain hany
  · rfl
  · -- without the table only ASCII is left, and there the character is forbidden
    obtain ⟨label, hlabel, hlastl⟩ := Text.exists_mem_splitAll hdot hlast
    have hascii : isAscii c := by
      have hplainl := List.all_eq_true.1 hplain label hlabel
      rw [isPlainLabel, Bool.and_eq_true] at hplainl
      exact List.all_eq_true.1 hplainl.1 c (List.mem_of_getLast? hlastl)
    have hforbidden : isAscii c → isForbidden c :=
      forall_isVoid (P := fun c => isAscii c → isForbidden c) (by decide) (by decide) hc
    exact absurd (List.any_eq_true.2 ⟨c, hmem, hforbidden hascii⟩) hany
  · exact tableForm?_eq_none hc h

end Domain

theorem toAscii?_percentDecode_eq_none {s : List Char} {c : Char} (hc : isVoid c)
    (h : s.getLast? = some c) :
    Domain.toAscii? (Text.Utf8.decodeLossy (percentDecode s)) = none := by
  obtain ⟨s, rfl⟩ := List.getLast?_eq_some_iff.1 h
  have hpercent : c ≠ '%' := forall_isVoid (P := (· ≠ '%')) (by decide) (by decide) hc
  have hhex : Text.hexValue? c = none :=
    forall_isVoid (P := fun c => Text.hexValue? c = none) (by decide) (by decide) hc
  have hread : (∀ b ∈ (String.utf8EncodeChar c).head?, b.toNat < 0x80 ∨ 0xBF < b.toNat) ∧
      Text.Utf8.decodeFrom none (String.utf8EncodeChar c) = [some c] :=
    forall_isVoid (P := fun c =>
      (∀ b ∈ (String.utf8EncodeChar c).head?, b.toNat < 0x80 ∨ 0xBF < b.toNat) ∧
        Text.Utf8.decodeFrom none (String.utf8EncodeChar c) = [some c])
      (by decide +kernel) (by decide +kernel) hc
  obtain ⟨b, e, henc⟩ := List.exists_cons_of_ne_nil (l := String.utf8EncodeChar c) fun hnil => by
    rw [hnil] at hread
    nomatch hread.2
  rw [henc] at hread
  have hb := hread.1 b rfl
  have he := hread.2
  have hlast := Text.Utf8.getLast?_decodeLossy hb he (percentDecode s)
  rw [percentDecode_concat hpercent hhex, henc, Domain.toAscii?_eq_none hc hlast]

/-- **A host that ends in a control character or a blank is refused.** -/
theorem parseHost_ne_ok {s : List Char} {c : Char} (hc : isVoid c) (h : s.getLast? = some c)
    (host : Host) : parseHost s ≠ .ok host := by
  by_cases hbracket : ∃ inner, s = '[' :: inner
  · obtain ⟨inner, rfl⟩ := hbracket
    have hclose : c ≠ ']' := forall_isVoid (P := (· ≠ ']')) (by decide) (by decide) hc
    have hinner : inner.getLast? ≠ some ']' := by
      cases inner with
      | nil => nofun
      | cons x inner =>
        rw [List.getLast?_cons_cons] at h
        rw [h]
        exact fun e => hclose (Option.some.inj e)
    rw [parseHost, if_neg hinner]
    nofun
  · rw [parseHost, toAscii?_percentDecode_eq_none hc h]
    · nofun
    · exact fun inner e => hbracket ⟨inner, e⟩

end Url

end TagCatalog
