import TagCatalog.Proofs.Text.Split
import TagCatalog.Proofs.Text.Utf8
import TagCatalog.Proofs.Url.Percent
import TagCatalog.Url
import TagCatalog.Url.Form

/-!
# Forms are read as they are written

The marks that separate the pairs of a form, and a name from its value, never stand in an encoded
text, and an encoded text is decoded to itself whatever characters it has. So what is put into a
form is what is read from it: no text adds a pair or changes another one. The same holds behind a
query that a URL has already, however it was written.

* `Url.Form.isEncoded`: the characters that encoded texts are made of;
* `Url.Form.decodeText_encodeText`, `Url.Form.decodePair_encodePair`: one text, and one pair;
* **`Url.Form.decode_encode`**: a whole form;
* `Url.queryPairs`, **`Url.queryPairs_appendQuery`**: the pairs of a URL's query.
-/

namespace TagCatalog.Url

namespace Form

open Text

variable {c : Char} {s : List Char}

/-! ## Characters -/

/-- The characters that encoded texts are made of. -/
def isEncoded (c : Char) : Bool := isPlain c || c == '+' || c == '%'

/-- A plus sign stands for a space. -/
def ofPlus (c : Char) : Char := if c == '+' then ' ' else c

theorem isPlain_upperHexDigit : ∀ n < 16, isPlain (upperHexDigit n) := by decide

theorem eq_percent_or_isPlain_of_mem_percentChar {d : Char} (h : d ∈ percentChar c) :
    d = '%' ∨ isPlain d := by
  obtain ⟨b, -, hd⟩ := List.mem_flatMap.1 h
  have hb := b.toNat_lt
  rw [percentByte, List.mem_cons, List.mem_cons, List.mem_singleton] at hd
  obtain rfl | rfl | rfl := hd
  · exact .inl rfl
  · exact .inr (isPlain_upperHexDigit _ (by omega))
  · exact .inr (isPlain_upperHexDigit _ (by omega))

theorem isEncoded_of_mem_encodeChar {d : Char} (h : d ∈ encodeChar c) : isEncoded d := by
  rw [encodeChar] at h
  split_ifs at h with hspace hplain
  · rw [List.mem_singleton.1 h]
    rfl
  · rw [List.mem_singleton.1 h, isEncoded, hplain]
    rfl
  · obtain rfl | hd := eq_percent_or_isPlain_of_mem_percentChar h
    · rfl
    · rw [isEncoded, hd]
      rfl

theorem not_mem_encodeText {d : Char} (hd : isEncoded d = false) (s : String) :
    d ∉ encodeText s := by
  intro hmem
  obtain ⟨c, -, hc⟩ := List.mem_flatMap.1 hmem
  rw [isEncoded_of_mem_encodeChar hc] at hd
  nomatch hd

theorem ofPlus_of_isPlain (h : isPlain c) : ofPlus c = c := by
  have hne : c ≠ '+' := by
    rintro rfl
    nomatch h
  rw [ofPlus, if_neg (by simpa using hne)]

theorem map_ofPlus_percentChar (c : Char) : (percentChar c).map ofPlus = percentChar c := by
  refine (List.map_congr_left fun d hd => ?_).trans (List.map_id _)
  obtain rfl | hplain := eq_percent_or_isPlain_of_mem_percentChar hd
  · rfl
  · exact ofPlus_of_isPlain hplain

/-- **An encoded character is decoded to its bytes**, whatever stands behind it. -/
theorem percentDecode_encodeChar (c : Char) (s : List Char) :
    percentDecode ((encodeChar c).map ofPlus ++ s) =
      String.utf8EncodeChar c ++ percentDecode s := by
  rw [encodeChar]
  split_ifs with hspace hplain
  · rw [beq_iff_eq.1 hspace]
    exact percentDecode_cons (fun h => nomatch h)
  · have hne : c ≠ '%' := by
      rintro rfl
      nomatch hplain
    rw [List.map_singleton, ofPlus_of_isPlain hplain]
    exact percentDecode_cons fun h => absurd h hne
  · rw [map_ofPlus_percentChar, percentDecode_percentChar]

/-! ## Texts and pairs -/

theorem percentDecode_encodeText (s : List Char) :
    percentDecode ((s.flatMap encodeChar).map ofPlus) = Utf8.encode s := by
  induction s with
  | nil => rfl
  | cons c s ih =>
    rw [List.flatMap_cons, List.map_append, percentDecode_encodeChar, ih, encode_cons]

theorem decodeText_encodeText (s : String) : decodeText (encodeText s) = s := by
  have hbytes : percentDecode ((encodeText s).map ofPlus) = Utf8.encode s.toList :=
    percentDecode_encodeText s.toList
  calc decodeText (encodeText s)
      = String.ofList (Utf8.decodeLossy (percentDecode ((encodeText s).map ofPlus))) := rfl
    _ = String.ofList s.toList := by rw [hbytes, Utf8.decodeLossy_encode]
    _ = s := String.ofList_toList

/-- The first `=` of a pair is the one between its name and its value. -/
theorem decodePair_encodePair (p : String × String) : decodePair (encodePair p) = p := by
  rw [decodePair, encodePair, splitFirst?_append (not_mem_encodeText rfl p.1)]
  exact Prod.ext (decodeText_encodeText p.1) (decodeText_encodeText p.2)

theorem encodePair_ne_nil (p : String × String) : encodePair p ≠ [] :=
  List.append_ne_nil_of_right_ne_nil _ (List.cons_ne_nil _ _)

theorem not_mem_encodePair (p : String × String) : '&' ∉ encodePair p := by
  rw [encodePair, List.mem_append, List.mem_cons]
  rintro (h | h | h)
  · exact not_mem_encodeText rfl p.1 h
  · nomatch h
  · exact not_mem_encodeText rfl p.2 h

/-! ## Whole forms -/

theorem splitAll_encode {pairs : List (String × String)} (h : pairs ≠ []) :
    splitAll '&' (encode pairs) = pairs.map encodePair := by
  have hmarks : ∀ piece ∈ pairs.map encodePair, '&' ∉ piece := by
    intro piece hpiece
    obtain ⟨p, -, rfl⟩ := List.mem_map.1 hpiece
    exact not_mem_encodePair p
  have hsplit := List.splitOn_intercalate '&' hmarks (mt List.map_eq_nil_iff.1 h)
  rw [splitAll, splitOn_eq_splitOnP]
  exact hsplit

/-- **A form is read as it was written**, whatever texts are in it. -/
theorem decode_encode (pairs : List (String × String)) : decode (encode pairs) = pairs := by
  by_cases hnil : pairs = []
  · subst hnil
    rfl
  · have hpieces : (pairs.map encodePair).filter (· != []) = pairs.map encodePair := by
      refine List.filter_eq_self.2 fun piece hpiece => ?_
      obtain ⟨p, -, rfl⟩ := List.mem_map.1 hpiece
      exact bne_iff_ne.2 (encodePair_ne_nil p)
    have hpairs : decodePair ∘ encodePair = id := funext decodePair_encodePair
    rw [decode, splitAll_encode hnil, hpieces, List.map_map, hpairs, List.map_id]

theorem decode_append (a b : List Char) : decode (a ++ '&' :: b) = decode a ++ decode b := by
  rw [decode, splitAll_append_cons, List.filter_append, List.map_append]
  rfl

end Form

/-! ## Queries -/

/-- The pairs of a URL's query; without a query there are none. -/
def queryPairs (u : Url) : List (String × String) := Form.decode (u.query.getD "").toList

/-- **A form behind a query adds its own pairs** to those that the query has, and no others. -/
theorem queryPairs_appendQuery (u : Url) (pairs : List (String × String)) :
    (u.appendQuery (String.ofList (Form.encode pairs))).queryPairs = u.queryPairs ++ pairs := by
  have hform : Form.decode (String.ofList (Form.encode pairs)).toList = pairs := by
    rw [String.toList_ofList, Form.decode_encode]
  rw [queryPairs, queryPairs, appendQuery]
  cases u.query with
  | none => exact hform
  | some query =>
    by_cases hempty : query = ""
    · subst hempty
      exact hform
    · have hjoined : (query ++ "&" ++ String.ofList (Form.encode pairs)).toList =
          query.toList ++ '&' :: (String.ofList (Form.encode pairs)).toList := by
        simp [String.toList_append]
      simp only [hempty, if_false, Option.getD_some]
      rw [hjoined, Form.decode_append, hform]

end TagCatalog.Url
