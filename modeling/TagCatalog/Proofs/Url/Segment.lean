import TagCatalog.Proofs.Url.Path
import TagCatalog.Proofs.Url.Percent

/-!
# Texts that become the last segment of a path

A text that is put behind a slash as it is may end in the path, be cut at its slashes, and lose the
characters that the reader drops. It is the last segment of the path, in the sense that the segment
is decoded to its bytes, exactly if it is literal: every other text loses bytes on the way.

* `Text.Utf8.encode_injective`, `Text.Utf8.eq_of_sublist`: texts and their bytes;
* `Path.spelled`: the segment of a piece;
* `IsLiteral`: a text that stands for itself at the end of a path;
* **`percentDecode_spelled_iff`**: the texts that the last segment is decoded to.
-/

namespace TagCatalog

open Url

/-! ## Bytes -/

namespace Text.Utf8

variable {s t : List Char}

theorem encode_injective : Function.Injective encode := by
  intro s t h
  have hbytes : (String.ofList s).toByteArray = (String.ofList t).toByteArray := by
    rw [String.toByteArray_ofList, String.toByteArray_ofList]
    exact congrArg List.toByteArray h
  exact String.ofList_inj.1 (String.toByteArray_inj.1 hbytes)

theorem length_encode_le (h : s.Sublist t) : (encode s).length ≤ (encode t).length := by
  induction h with
  | slnil => exact le_refl _
  | cons c _ ih =>
    rw [length_encode_cons]
    omega
  | cons_cons c _ ih =>
    rw [length_encode_cons, length_encode_cons]
    omega

/-- A text that loses no byte loses no character. -/
theorem eq_of_sublist (h : s.Sublist t) (hlength : (encode t).length ≤ (encode s).length) :
    s = t := by
  induction h with
  | slnil => rfl
  | cons c h _ =>
    have := length_encode_le h
    have := c.utf8Size_pos
    rw [length_encode_cons] at hlength
    omega
  | cons_cons c _ ih =>
    rw [length_encode_cons, length_encode_cons] at hlength
    rw [ih (by omega)]

end Text.Utf8

namespace Url

open Text.Utf8

variable {s t piece : List Char} {front : List (List Char)}

/-! ## The segment of a piece -/

namespace Path

/-- The segment that a piece at the end of a path becomes: a piece that stands for a directory
leaves it open. -/
def spelled (piece : List Char) : String :=
  let encoded := percentEncode inPath piece
  if isDoubleDot encoded || isDot encoded then "" else String.ofList encoded

theorem exists_push_last (path : List String) (piece : List Char) :
    ∃ init, push false true path piece = init ++ [spelled piece] := by
  rw [push, spelled]
  cases isDoubleDot (percentEncode inPath piece) with
  | true => exact ⟨_, rfl⟩
  | false =>
    cases isDot (percentEncode inPath piece) with
    | true => exact ⟨_, rfl⟩
    | false => exact ⟨path, by simp⟩

theorem exists_extend_concat (path : List String) (pieces : List (List Char)) (piece : List Char) :
    ∃ init, extend false path (pieces ++ [piece]) = init ++ [spelled piece] := by
  rw [extend_append _ _ _ (List.cons_ne_nil piece [])]
  exact exists_push_last _ _

theorem exists_percentDecode_dot {u : List Char} (hu : u = ['.'] ∨ u = ['%', '2', 'e'])
    (h : s.map Char.toLower = u ++ t) :
    ∃ s', s'.map Char.toLower = t ∧ percentDecode s = 0x2E :: percentDecode s' := by
  obtain rfl | rfl := hu
  · obtain ⟨c, s, rfl, hc, hs⟩ := List.map_eq_cons_iff.1 h
    obtain rfl := eq_of_toLower_eq rfl hc
    exact ⟨s, hs, percentDecode_cons nofun⟩
  · obtain ⟨c, s, rfl, hc, h⟩ := List.map_eq_cons_iff.1 h
    obtain ⟨d, s, rfl, hd, h⟩ := List.map_eq_cons_iff.1 h
    obtain ⟨e, s, rfl, he, hs⟩ := List.map_eq_cons_iff.1 h
    obtain rfl := eq_of_toLower_eq rfl hc
    obtain rfl := eq_of_toLower_eq rfl hd
    obtain rfl | ⟨-, rfl⟩ := eq_or_eq_toUpper he
    · exact ⟨s, hs, percentDecode_triplet (x := 2) (y := 14) rfl rfl s⟩
    · exact ⟨s, hs, percentDecode_triplet (x := 2) (y := 14) rfl rfl s⟩

theorem percentDecode_of_isDot (h : isDot s) : percentDecode s = encode ['.'] := by
  obtain ⟨u, hu, h⟩ : ∃ u, (u = ['.'] ∨ u = ['%', '2', 'e']) ∧ s.map Char.toLower = u ++ [] := by
    rw [isDot, Bool.or_eq_true, beq_iff_eq, beq_iff_eq] at h
    obtain rfl | h := h
    · exact ⟨_, .inl rfl, rfl⟩
    · exact ⟨_, .inr rfl, h⟩
  obtain ⟨s', hnil, hs⟩ := exists_percentDecode_dot hu h
  rw [hs, List.map_eq_nil_iff.1 hnil]
  rfl

theorem percentDecode_of_isDoubleDot (h : isDoubleDot s) :
    percentDecode s = encode ['.', '.'] := by
  obtain ⟨u, v, hu, hv, h⟩ : ∃ u v, (u = ['.'] ∨ u = ['%', '2', 'e']) ∧
      (v = ['.'] ∨ v = ['%', '2', 'e']) ∧ s.map Char.toLower = u ++ (v ++ []) := by
    simp only [isDoubleDot, Bool.or_eq_true, beq_iff_eq] at h
    obtain ((h | h) | h) | h := h
    · exact ⟨_, _, .inl rfl, .inl rfl, h⟩
    · exact ⟨_, _, .inl rfl, .inr rfl, h⟩
    · exact ⟨_, _, .inr rfl, .inl rfl, h⟩
    · exact ⟨_, _, .inr rfl, .inr rfl, h⟩
  obtain ⟨s', h, hs⟩ := exists_percentDecode_dot hu h
  obtain ⟨s'', hnil, hs'⟩ := exists_percentDecode_dot hv h
  rw [hs, hs', List.map_eq_nil_iff.1 hnil]
  rfl

theorem not_dots_of_percentDecode (hdot : percentDecode piece ≠ encode ['.'])
    (hdots : percentDecode piece ≠ encode ['.', '.']) :
    isDoubleDot (percentEncode inPath piece) = false ∧
      isDot (percentEncode inPath piece) = false := by
  rw [← percentDecode_percentEncode sparesTriplets_inPath] at hdot hdots
  rw [Bool.eq_false_iff, Bool.eq_false_iff]
  exact ⟨fun h => hdots (percentDecode_of_isDoubleDot h), fun h => hdot (percentDecode_of_isDot h)⟩

theorem length_percentDecode_spelled_le (piece : List Char) :
    (percentDecode (spelled piece).toList).length ≤ (percentDecode piece).length := by
  rw [spelled]
  split
  · exact Nat.zero_le _
  · rw [String.toList_ofList, percentDecode_percentEncode sparesTriplets_inPath]

end Path

/-! ## Literal texts -/

/-- A text that stands for itself at the end of a path: it has no slash, and no mark of a query or a
fragment; nothing in it is dropped by the reader or decoded; it does not stand for a directory. -/
structure IsLiteral (s : List Char) : Prop where
  chars : ∀ c ∈ s, isKept c ∧ isSlash true c = false ∧ endsPath c = false
  ends : ∀ c ∈ s.getLast?, isEdge c = false
  triplet : hasTriplet s = false
  dots : s ≠ ['.'] ∧ s ≠ ['.', '.']

namespace IsLiteral

theorem kept_eq (h : IsLiteral s) : kept s = s := by
  rw [kept, Text.dropEnd_eq_self h.ends]
  exact List.filter_eq_self.2 fun c hc => (h.chars c hc).1

theorem pathPart_eq (h : IsLiteral s) : pathPart s = s :=
  List.takeWhile_eq_self_iff.2 fun c hc => by rw [(h.chars c hc).2.2]; rfl

theorem tailPart_eq (h : IsLiteral s) : tailPart s = [] :=
  List.dropWhile_eq_nil_iff.2 fun c hc => by rw [(h.chars c hc).2.2]; rfl

theorem not_dots (h : IsLiteral s) :
    Path.isDoubleDot (percentEncode inPath s) = false ∧
      Path.isDot (percentEncode inPath s) = false := by
  have hself := percentDecode_eq_encode_iff.2 h.triplet
  refine Path.not_dots_of_percentDecode ?_ ?_
  · exact hself ▸ fun heq => h.dots.1 (encode_injective heq)
  · exact hself ▸ fun heq => h.dots.2 (encode_injective heq)

theorem percentDecode_spelled (h : IsLiteral s) :
    percentDecode (Path.spelled s).toList = encode s := by
  rw [Path.spelled, h.not_dots.1, h.not_dots.2, Bool.or_false, if_neg Bool.false_ne_true,
    String.toList_ofList, percentDecode_percentEncode sparesTriplets_inPath]
  exact percentDecode_eq_encode_iff.2 h.triplet

theorem push_eq (h : IsLiteral s) (path : List String) :
    Path.push false true path s = path ++ [Path.spelled s] := by
  rw [Path.push, Path.spelled, h.not_dots.1, h.not_dots.2]
  simp

theorem piecesBehind_eq (h : IsLiteral s) : piecesBehind s = [s] := by
  rw [piecesBehind, h.kept_eq, h.pathPart_eq]
  exact Text.splitOn_eq_singleton fun c hc => (h.chars c hc).2.1

end IsLiteral

theorem hasTriplet_eq_false (h : '%' ∉ s) : hasTriplet s = false := by
  induction s with
  | nil => rfl
  | cons c s ih =>
    rw [List.mem_cons, not_or] at h
    rw [hasTriplet, ih h.2, beq_eq_false_iff_ne.2 (Ne.symm h.1)]
    rfl

theorem Path.IsPlain.isLiteral (h : IsPlain s) : IsLiteral s where
  chars c hc := by
    obtain ⟨hpath, -, hslash⟩ := h.chars c hc
    exact ⟨isKept_of_not_isEdge (not_isEdge_of_inPath hpath), hslash, not_endsPath_of_inPath hpath⟩
  ends c hc := not_isEdge_of_inPath (h.chars c (List.mem_of_mem_getLast? hc)).1
  triplet := hasTriplet_eq_false fun hc => (h.chars _ hc).2.1 rfl
  dots := ⟨fun e => h.start (by rw [e]; rfl), fun e => h.start (by rw [e]; rfl)⟩

/-! ## The last segment -/

theorem isLiteral_of_mem_piecesBehind (h : s ∈ piecesBehind s)
    (hdecode : percentDecode (Path.spelled s).toList = encode s) : IsLiteral s := by
  obtain ⟨hsub, hslash⟩ := Text.of_mem_splitOn h
  have hdrop := Text.dropEnd_sublist isEdge s
  have hfilter : (kept s).Sublist (Text.dropEnd isEdge s) := List.filter_sublist
  have htake : (pathPart (kept s)).Sublist (kept s) := List.takeWhile_sublist _
  have hpath : pathPart (kept s) = s := (htake.trans (hfilter.trans hdrop)).antisymm hsub
  have hkept : kept s = s := (hfilter.trans hdrop).antisymm (hsub.trans htake)
  have hend : Text.dropEnd isEdge s = s := hdrop.antisymm (hsub.trans (htake.trans hfilter))
  refine ⟨fun c hc => ⟨?_, hslash c hc, ?_⟩, fun c hc => ?_, ?_, ?_, ?_⟩
  · rw [← hkept] at hc
    exact (List.mem_filter.1 hc).2
  · rw [← hpath] at hc
    simpa using List.mem_takeWhile_imp hc
  · rw [← hend] at hc
    exact Text.getLast?_dropEnd isEdge s c hc
  · rw [Bool.eq_false_iff]
    intro htriplet
    have hlt := length_percentDecode_lt htriplet
    rw [← hdecode] at hlt
    exact hlt.not_ge (Path.length_percentDecode_spelled_le s)
  · rintro rfl
    nomatch hdecode
  · rintro rfl
    nomatch hdecode

/-- **The texts that the last segment is decoded to** are the literal ones. -/
theorem percentDecode_spelled_iff (h : piecesBehind s = front ++ [piece]) :
    percentDecode (Path.spelled piece).toList = encode s ↔ IsLiteral s := by
  have hmem : piece ∈ piecesBehind s := by simp [h]
  constructor
  · intro hdecode
    have hsub : piece.Sublist s := (Text.of_mem_splitOn hmem).1.trans
      ((List.takeWhile_sublist _).trans (List.filter_sublist.trans (Text.dropEnd_sublist isEdge s)))
    -- decoding makes no text longer, so the last piece has all bytes of the text
    have hlength : (encode s).length ≤ (encode piece).length := by
      rw [← hdecode]
      exact (Path.length_percentDecode_spelled_le piece).trans (length_percentDecode_le piece)
    cases eq_of_sublist hsub hlength
    exact isLiteral_of_mem_piecesBehind hmem hdecode
  · intro hs
    rw [hs.piecesBehind_eq, List.singleton_eq_append_iff] at h
    obtain ⟨-, h⟩ | ⟨-, h⟩ := h
    · cases h
      exact hs.percentDecode_spelled
    · nomatch h

end Url

end TagCatalog
