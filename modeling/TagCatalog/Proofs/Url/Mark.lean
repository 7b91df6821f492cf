import TagCatalog.Proofs.Url.Path

/-!
# What is put behind a query or fragment

The first `?` or `#` in the text of a URL ends its path. What is put behind such a text becomes part
of the query or fragment, and the path stays what it was, whatever it is that is put there.

* `Url.exists_mark_of_parse`: the text of a URL with a query or fragment has a mark;
* `Url.exists_cleaned_eq_append`, `Url.exists_splitScheme?_of_mark`: a text with a mark keeps its
  place in front of what is put behind it;
* **`Url.path_parse_append_of_mark`**: the path of such a text, whatever stands behind it.
-/

namespace TagCatalog.Url

variable {scheme : String} {s t x y rest : List Char} {c : Char} {u v base : Url}

/-- **The text of a URL with a query or fragment** has a mark. -/
theorem exists_mark_of_parse {text : String} (hbase : parse text = .ok base)
    (hhttp : base.isHttp) (htail : base.query ≠ none ∨ base.fragment ≠ none) :
    ∃ c ∈ text.toList, endsPath c := by
  by_contra hnone
  have hends : ∀ c ∈ text.toList, endsPath c = false := fun c hc =>
    Bool.eq_false_iff.2 fun h => hnone ⟨c, hc, h⟩
  obtain ⟨rest, hrest⟩ := exists_splitScheme?_of_parse hbase
  obtain ⟨hfile, hspecial⟩ := isSpecialScheme_of_isHttp hhttp
  rw [parse_eq_withAuthority hfile hspecial hrest] at hbase
  obtain ⟨v, -, rfl⟩ := exists_authority hspecial hbase
  obtain ⟨name, hcleaned, -⟩ := splitScheme?_eq_some_iff.1 hrest
  have hnil : tailPart (behindAuthority (rest.dropWhile (isSlash true))) = [] := by
    refine List.dropWhile_eq_nil_iff.2 fun c hc => ?_
    have hmem : c ∈ rest := (List.dropWhile_sublist _).mem ((List.dropWhile_sublist _).mem hc)
    rw [hends c (mem_of_mem_cleaned (by rw [hcleaned]; simp [hmem]))]
    rfl
  rw [continued, hnil] at htail
  exact htail.elim (fun h => h rfl) fun h => h rfl

/-- A text with a character that is not dropped keeps its place in front of what follows. -/
theorem exists_cleaned_eq_append (hc : c ∈ s) (hedge : isEdge c = false) :
    ∃ front, c ∈ front ∧ ∀ x, ∃ y, cleaned (s ++ x) = front ++ y := by
  obtain ⟨a, b, rfl⟩ := List.append_of_mem hc
  refine ⟨(a.dropWhile isEdge).filter isKept ++ [c], by simp, fun x => ⟨kept (b ++ x), ?_⟩⟩
  have hstop : (c :: (b ++ x)).dropWhile isEdge = c :: (b ++ x) :=
    List.dropWhile_cons_of_neg (by simp [hedge])
  have hstart : (a ++ c :: (b ++ x)).dropWhile isEdge =
      a.dropWhile isEdge ++ c :: (b ++ x) := by
    by_cases hnil : a.dropWhile isEdge = []
    · rw [List.dropWhile_append_of_pos (List.dropWhile_eq_nil_iff.1 hnil), hnil, hstop]
      rfl
    · exact Text.dropWhile_append_of_dropWhile hnil _
  have hall : ¬ (c :: (b ++ x)).all isEdge := by
    rw [List.all_cons, hedge]
    nofun
  rw [List.append_assoc, List.cons_append, cleaned_eq, hstart, Text.dropEnd_append, if_neg hall,
    Text.dropEnd_cons_of_neg hedge, List.filter_append,
    List.filter_cons_of_pos (isKept_of_not_isEdge hedge), ← kept, List.append_assoc]
  rfl

theorem exists_splitScheme?_of_mark (hc : c ∈ s) (hends : endsPath c)
    (h : splitScheme? (s ++ x) = some (scheme, rest)) :
    ∃ behind, splitScheme? s = some (scheme, behind) ∧ c ∈ behind := by
  obtain ⟨name, hsplit, hname⟩ := splitScheme?_eq_some_iff.1 h
  have hnot : c ∉ name := fun hm => not_isSchemeChar_of_endsPath hends (hname.2.1 c hm)
  obtain ⟨t, rfl, -⟩ | ⟨t, rfl, ht⟩ := List.append_eq_append_iff.1 hsplit
  · exact absurd (List.mem_append_left t hc) hnot
  · have hct : c ∈ t := (List.mem_append.1 hc).resolve_left hnot
    cases t with
    | nil => nomatch hct
    | cons d t =>
      obtain ⟨rfl, -⟩ := List.cons_eq_cons.1 ht
      refine ⟨t, splitScheme?_eq_some_iff.2 ⟨name, rfl, hname⟩, ?_⟩
      obtain rfl | hct := List.mem_cons.1 hct
      · nomatch hends
      · exact hct

theorem path_withAuthority_of_mark (hs : isSpecialScheme scheme) (hc : c ∈ s) (hends : endsPath c)
    (hu : withAuthority scheme (s ++ x) = .ok u) (hv : withAuthority scheme (s ++ y) = .ok v) :
    u.path = v.path := by
  have hmark : c ∈ behindAuthority s := by
    refine Text.mem_dropWhile_of_neg hc ?_
    rw [endsAuthority_of_endsPath hends]
    rfl
  have hpath : c ∈ tailPart (behindAuthority s) := by
    refine Text.mem_dropWhile_of_neg hmark ?_
    rw [hends]
    rfl
  have hbehind (z : List Char) :
      pathPart (behindAuthority (s ++ z)) = pathPart (behindAuthority s) := by
    rw [behindAuthority, Text.dropWhile_append_of_dropWhile (List.ne_nil_of_mem hmark),
      ← behindAuthority, pathPart,
      Text.takeWhile_append_of_dropWhile (List.ne_nil_of_mem hpath), ← pathPart]
  obtain ⟨u', -, rfl⟩ := exists_authority hs hu
  obtain ⟨v', -, rfl⟩ := exists_authority hs hv
  rw [continued, continued, hbehind, hbehind]

/-- **What is put behind a text with a mark** leaves the path of its URL alone. -/
theorem path_parse_append_of_mark {text x y : String} (hmark : ∃ c ∈ text.toList, endsPath c)
    (hu : parse (text ++ x) = .ok u) (hv : parse (text ++ y) = .ok v) (hhttp : u.isHttp) :
    u.path = v.path := by
  obtain ⟨c, hc, hends⟩ := hmark
  obtain ⟨front, hfront, hcleaned⟩ := exists_cleaned_eq_append hc (not_isEdge_of_endsPath hends)
  obtain ⟨x', hx⟩ := hcleaned x.toList
  obtain ⟨y', hy⟩ := hcleaned y.toList
  rw [← String.toList_append] at hx hy
  obtain ⟨rest, hrest⟩ := exists_splitScheme?_of_parse hu
  rw [hx] at hrest
  obtain ⟨behind, hbehind, hmem⟩ := exists_splitScheme?_of_mark hfront hends hrest
  have hsplit (z : List Char) : splitScheme? (front ++ z) = some (u.scheme, behind ++ z) :=
    splitScheme?_append hbehind z
  have hslashes : c ∈ behind.dropWhile (isSlash true) :=
    Text.mem_dropWhile_of_neg hmem (not_isSlash_of_endsPath hends)
  have hdrop (z : List Char) : (behind ++ z).dropWhile (isSlash true) =
      behind.dropWhile (isSlash true) ++ z :=
    Text.dropWhile_append_of_dropWhile (List.ne_nil_of_mem hslashes) z
  obtain ⟨hfile, hspecial⟩ := isSpecialScheme_of_isHttp hhttp
  rw [parse_eq_withAuthority hfile hspecial (hx ▸ hsplit x'), hdrop] at hu
  rw [parse_eq_withAuthority hfile hspecial (hy ▸ hsplit y'), hdrop] at hv
  exact path_withAuthority_of_mark hspecial hslashes hends hu hv

end TagCatalog.Url
