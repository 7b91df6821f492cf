import TagCatalog.Proofs.Text.Split
import TagCatalog.Proofs.Url.Append

/-!
# Paths put behind a URL's text

A URL of the web is what its authority says, with a path, a query and a fragment read from the text
behind it. What is put behind a text without a query or fragment goes on with its path, piece by
piece between the slashes.

* `Url.continued`, `Url.withAuthority_eq_map`: a URL is its authority and what stands behind it;
* `Url.not_endsPath_of_parse`: the text of a URL without a query and a fragment;
* `Path.IsPlain`: a piece that stands for itself;
* `Url.piecesBehind`, `Url.extend_piecesBehind`: what is put behind a slash, and plain pieces in
  front of it;
* **`Url.exists_root`**: all paths behind one text are below one root.
-/

namespace TagCatalog.Url

variable {scheme : String} {s t z rest : List Char} {u base : Url}

/-! ## What stands behind the authority -/

/-- The segments of the text of a path. -/
def segmentsOf (pathText : List Char) : List String :=
  match pathText with
  | [] => [""]
  | c :: t => Path.build true false [] (if isSlash true c then t else c :: t)

/-- The text up to a query or fragment. -/
def pathPart (s : List Char) : List Char := s.takeWhile (!endsPath ·)

/-- The query and fragment, with their marks. -/
def tailPart (s : List Char) : List Char := s.dropWhile (!endsPath ·)

/-- A URL with the path, query and fragment of a text. -/
def continued (rest : List Char) (u : Url) : Url :=
  { u with
    path := .segments (segmentsOf (pathPart rest))
    query := (tail true (tailPart rest)).1
    fragment := (tail true (tailPart rest)).2 }

/-- The text behind the authority. -/
def behindAuthority (s : List Char) : List Char := s.dropWhile (!endsAuthority true ·)

theorem authorityOf_authorityOf (s : List Char) : authorityOf (authorityOf s) = authorityOf s :=
  List.takeWhile_eq_self_iff.2 fun _ hc => List.mem_takeWhile_imp (p := (!endsAuthority true ·)) hc

theorem behindAuthority_authorityOf (s : List Char) : behindAuthority (authorityOf s) = [] :=
  List.dropWhile_eq_nil_iff.2 fun _ hc => List.mem_takeWhile_imp (p := (!endsAuthority true ·)) hc

theorem map_bind_bind {ε α β γ δ : Type} {x : Except ε α} {y : Except ε β} {f : α → β → γ}
    {f' : α → β → δ} {g : δ → γ} (h : ∀ a b, g (f' a b) = f a b) :
    (x >>= fun a => y >>= fun b => pure (f a b)) =
      (x >>= fun a => y >>= fun b => pure (f' a b)).map g := by
  cases x with
  | error => rfl
  | ok a =>
    cases y with
    | error => rfl
    | ok b => exact congrArg Except.ok (h a b).symm

/-- **A URL is its authority and what stands behind it.** -/
theorem withAuthority_eq_map (hs : isSpecialScheme scheme) (s : List Char) :
    withAuthority scheme s =
      (withAuthority scheme (authorityOf s)).map (continued (behindAuthority s)) := by
  have hauthority : (authorityOf s).takeWhile (!endsAuthority true ·) = authorityOf s :=
    authorityOf_authorityOf s
  have hbehind : (authorityOf s).dropWhile (!endsAuthority true ·) = [] :=
    behindAuthority_authorityOf s
  have hdef : s.takeWhile (!endsAuthority true ·) = authorityOf s := rfl
  have hrest : s.dropWhile (!endsAuthority true ·) = behindAuthority s := rfl
  simp only [withAuthority, hs, if_true, hauthority, hbehind, hdef, hrest, true_or, and_true]
  split
  · split_ifs
    · rfl
    · exact map_bind_bind fun _ _ => rfl
  · split_ifs
    · rfl
    · exact map_bind_bind fun _ _ => rfl

theorem exists_authority (hs : isSpecialScheme scheme) (h : withAuthority scheme s = .ok u) :
    ∃ v, withAuthority scheme (authorityOf s) = .ok v ∧ u = continued (behindAuthority s) v := by
  rw [withAuthority_eq_map hs] at h
  cases hv : withAuthority scheme (authorityOf s) with
  | error e =>
    rw [hv] at h
    nomatch h
  | ok v =>
    rw [hv] at h
    cases h
    exact ⟨v, rfl, rfl⟩

/-! ## Texts without a query or fragment -/

theorem endsAuthority_of_endsPath {c : Char} (h : endsPath c) : endsAuthority true c := by
  rw [endsPath, Bool.or_eq_true] at h
  rw [endsAuthority, Bool.or_eq_true, Bool.or_eq_true]
  exact h.elim (fun h => .inl (.inr h)) .inr

theorem not_isEdge_of_endsPath {c : Char} (hc : endsPath c) : isEdge c = false := by
  rw [endsPath, Bool.or_eq_true, beq_iff_eq, beq_iff_eq] at hc
  obtain rfl | rfl := hc <;> rfl

theorem not_isSlash_of_endsPath {c : Char} (hc : endsPath c) : isSlash true c = false := by
  rw [endsPath, Bool.or_eq_true, beq_iff_eq, beq_iff_eq] at hc
  obtain rfl | rfl := hc <;> rfl

theorem not_isSchemeChar_of_endsPath {c : Char} (hc : endsPath c) : ¬ isSchemeChar c := by
  rw [endsPath, Bool.or_eq_true, beq_iff_eq, beq_iff_eq] at hc
  obtain rfl | rfl := hc <;> decide

theorem eq_nil_of_tail (hs : ∀ c ∈ s.head?, endsPath c) (hquery : (tail true s).1 = none)
    (hfragment : (tail true s).2 = none) : s = [] := by
  cases s with
  | nil => rfl
  | cons c s =>
    have hc := hs c rfl
    rw [endsPath, Bool.or_eq_true, beq_iff_eq, beq_iff_eq] at hc
    obtain rfl | rfl := hc
    · nomatch hquery
    · nomatch hfragment

theorem not_endsPath_of_continued (hquery : (continued s u).query = none)
    (hfragment : (continued s u).fragment = none) : ∀ c ∈ s, endsPath c = false := by
  have hnil : tailPart s = [] := by
    refine eq_nil_of_tail (fun c hc => ?_) hquery hfragment
    have hstop := List.head?_dropWhile_not (!endsPath ·) s
    rw [← tailPart, Option.mem_def.1 hc] at hstop
    simpa using hstop
  intro c hc
  simpa using List.dropWhile_eq_nil_iff.1 hnil c hc

theorem isKept_of_not_isEdge {c : Char} (h : isEdge c = false) : isKept c := by
  rw [isKept, Bool.not_eq_true', Bool.or_eq_false_iff, Bool.or_eq_false_iff, beq_eq_false_iff_ne,
    beq_eq_false_iff_ne, beq_eq_false_iff_ne]
  refine ⟨⟨?_, ?_⟩, ?_⟩ <;> rintro rfl <;> nomatch h

theorem mem_cleaned {c : Char} (hedge : isEdge c = false) (h : c ∈ s) : c ∈ cleaned s := by
  rw [cleaned_eq]
  refine List.mem_filter.2 ⟨?_, isKept_of_not_isEdge hedge⟩
  have hdrop : c ∈ s.dropWhile isEdge := Text.mem_dropWhile_of_neg h hedge
  obtain ⟨t, ht, hsplit⟩ := Text.exists_eq_dropEnd_append isEdge (s.dropWhile isEdge)
  rw [hsplit, List.mem_append] at hdrop
  refine hdrop.resolve_right fun h => ?_
  rw [ht c h] at hedge
  nomatch hedge

theorem kept_eq_self (h : ∀ c ∈ s, isEdge c = false) : kept s = s := by
  rw [kept, Text.dropEnd_eq_self fun c hc => h c (List.mem_of_mem_getLast? hc)]
  exact List.filter_eq_self.2 fun c hc => isKept_of_not_isEdge (h c hc)

theorem cleaned_eq_self (h : ∀ c ∈ s, isEdge c = false) : cleaned s = s := by
  have hstart : s.dropWhile isEdge = s := by
    cases s with
    | nil => rfl
    | cons c s => exact List.dropWhile_cons_of_neg (by simp [h c List.mem_cons_self])
  rw [cleaned_eq, hstart, ← kept, kept_eq_self h]

/-- **The text of a URL without query and fragment** holds neither mark. -/
theorem not_endsPath_of_parse {text : String} (hbase : parse text = .ok base)
    (hhttp : base.isHttp) (hquery : base.query = none) (hfragment : base.fragment = none) :
    ∀ c ∈ text.toList, endsPath c = false := by
  obtain ⟨rest, hrest⟩ := exists_splitScheme?_of_parse hbase
  obtain ⟨hfile, hspecial⟩ := isSpecialScheme_of_isHttp hhttp
  rw [parse_eq_withAuthority hfile hspecial hrest] at hbase
  obtain ⟨v, -, rfl⟩ := exists_authority hspecial hbase
  have hbehind := not_endsPath_of_continued hquery hfragment
  obtain ⟨name, hcleaned, -, hname, -⟩ := splitScheme?_eq_some_iff.1 hrest
  intro c hc
  rw [Bool.eq_false_iff]
  intro hends
  have hmem := mem_cleaned (not_isEdge_of_endsPath hends) hc
  rw [hcleaned, List.mem_append, List.mem_cons] at hmem
  obtain hmem | rfl | hmem := hmem
  · exact not_isSchemeChar_of_endsPath hends (hname c hmem)
  · nomatch hends
  · have hslashes := Text.mem_dropWhile_of_neg hmem (not_isSlash_of_endsPath hends)
    have hmark : c ∈ behindAuthority (rest.dropWhile (isSlash true)) :=
      Text.mem_dropWhile_of_neg hslashes (by rw [endsAuthority_of_endsPath hends]; rfl)
    rw [hbehind c hmark] at hends
    nomatch hends

/-! ## Paths that go on -/

/-- The pieces that stand in front of what is put behind a text. -/
def piecesOf (s : List Char) : List (List Char) :=
  match behindAuthority s with
  | [] => []
  | _ :: t => Text.splitOn (isSlash true) t

theorem pathPart_append (hs : ∀ c ∈ s, endsPath c = false) (t : List Char) :
    pathPart (s ++ t) = s ++ pathPart t :=
  List.takeWhile_append_of_pos fun c hc => by rw [hs c hc]; rfl

theorem tailPart_append (hs : ∀ c ∈ s, endsPath c = false) (t : List Char) :
    tailPart (s ++ t) = tailPart t :=
  List.dropWhile_append_of_pos fun c hc => by rw [hs c hc]; rfl

theorem isSlash_of_behindAuthority {c : Char} (h : behindAuthority s = c :: t)
    (hc : endsPath c = false) : isSlash true c := by
  have hends := List.head?_dropWhile_not (!endsAuthority true ·) s
  rw [← behindAuthority, h] at hends
  have hends : endsAuthority true c := by simpa using hends
  rw [endsPath] at hc
  rwa [endsAuthority, Bool.or_assoc, hc, Bool.or_false] at hends

theorem continued_append (hs : ∀ c ∈ s, endsPath c = false) (t : List Char) (u : Url) :
    continued (behindAuthority (s ++ '/' :: t)) u =
      { u with
        path := .segments
          (Path.extend false [] (piecesOf s ++ Text.splitOn (isSlash true) (pathPart t)))
        query := (tail true (tailPart t)).1
        fragment := (tail true (tailPart t)).2 } := by
  have hpath : pathPart ('/' :: t) = '/' :: pathPart t := pathPart_append (s := ['/']) (by decide) t
  have htail : tailPart ('/' :: t) = tailPart t := tailPart_append (s := ['/']) (by decide) t
  cases hbehind : behindAuthority s with
  | nil =>
    have hall : ∀ c ∈ s, (!endsAuthority true c) = true := List.dropWhile_eq_nil_iff.1 hbehind
    have hrest : behindAuthority (s ++ '/' :: t) = '/' :: t := by
      rw [behindAuthority, List.dropWhile_append_of_pos hall]
      exact List.dropWhile_cons_of_neg (by decide)
    rw [hrest, continued, hpath, htail, piecesOf, hbehind]
    rfl
  | cons c f =>
    have hplain : ∀ d ∈ c :: f, endsPath d = false := fun d hd =>
      hs d ((List.dropWhile_sublist _).mem (hbehind ▸ hd : d ∈ behindAuthority s))
    have hrest : behindAuthority (s ++ '/' :: t) = c :: f ++ '/' :: t := by
      rw [← hbehind]
      refine Text.dropWhile_append_of_dropWhile (fun h => ?_) _
      rw [← behindAuthority, hbehind] at h
      nomatch h
    rw [hrest, continued, pathPart_append hplain, tailPart_append hplain, hpath, htail, piecesOf,
      hbehind, List.cons_append, segmentsOf,
      if_pos (isSlash_of_behindAuthority hbehind (hplain c List.mem_cons_self)), Path.build,
      Text.splitOn_append_cons (by decide : isSlash true '/')]

/-! ## Pieces -/

namespace Path

theorem extend_append (file : Bool) (path : List String) (a : List (List Char))
    {b : List (List Char)} (hb : b ≠ []) :
    extend file path (a ++ b) = extend file (a.foldl (push file false) path) b := by
  induction a generalizing path with
  | nil => rfl
  | cons piece a ih =>
    have hne : a ++ b ≠ [] := by simp [hb]
    obtain ⟨next, rest, hnext⟩ := List.exists_cons_of_ne_nil hne
    rw [List.cons_append, hnext, extend, ← hnext, ih, List.foldl_cons]
    nofun

theorem not_isEdge_of_inPath {c : Char} (h : inPath c = false) : isEdge c = false := by
  rw [Bool.eq_false_iff]
  intro hedge
  have hpath : inPath c := forall_isEdge (P := fun c => inPath c) (by decide) hedge
  rw [hpath] at h
  nomatch h

theorem not_endsPath_of_inPath {c : Char} (h : inPath c = false) : endsPath c = false := by
  simp only [inPath, Bool.or_eq_false_iff] at h
  rw [endsPath, h.1.1.2, h.1.1.1.2]
  rfl

/-- A piece that stands for itself: nothing in it is encoded, and it does not begin with a dot. -/
structure IsPlain (piece : List Char) : Prop where
  chars : ∀ c ∈ piece, inPath c = false ∧ c ≠ '%' ∧ isSlash true c = false
  start : piece.head? ≠ some '.'

instance (piece : List Char) : Decidable (IsPlain piece) :=
  decidable_of_iff ((∀ c ∈ piece, inPath c = false ∧ c ≠ '%' ∧ isSlash true c = false) ∧
    piece.head? ≠ some '.') ⟨fun h => ⟨h.1, h.2⟩, fun h => ⟨h.chars, h.start⟩⟩

theorem eq_or_eq_toUpper {c d : Char} (h : c.toLower = d) : c = d ∨ d.isLower ∧ c = d.toUpper := by
  unfold Char.toLower at h
  split at h
  · next hc =>
    right
    have h1 := UInt32.le_iff_toNat_le.1 hc.1
    have h2 := UInt32.le_iff_toNat_le.1 hc.2
    have hval : d.val.toNat = c.val.toNat + 32 := by
      rw [← h]
      simp [UInt32.toNat_add] at h1 h2 ⊢
      omega
    have hlower : 'a'.val ≤ d.val ∧ d.val ≤ 'z'.val := by
      rw [UInt32.le_iff_toNat_le, UInt32.le_iff_toNat_le, hval]
      simp at h1 h2 ⊢
      omega
    unfold Char.isLower Char.toUpper
    refine ⟨by simpa using hlower, ?_⟩
    rw [dif_pos hlower, ← Char.val_inj, ← UInt32.toNat_inj, UInt32.toNat_add, hval]
    simp at h1 h2 ⊢
    omega
  · exact .inl h

theorem eq_of_toLower_eq {c d : Char} (hd : d.isLower = false) (h : c.toLower = d) : c = d :=
  (eq_or_eq_toUpper h).resolve_right fun hlower => Bool.false_ne_true (hd.symm.trans hlower.1)

theorem IsPlain.not_isDot (h : IsPlain s) : isDot s = false ∧ isDoubleDot s = false := by
  cases s with
  | nil => exact ⟨rfl, rfl⟩
  | cons c s =>
    have hdot : c ≠ '.' := fun e => h.start (by rw [e]; rfl)
    have hdot' : c.toLower ≠ '.' := fun e => hdot (eq_of_toLower_eq rfl e)
    have hpercent : c.toLower ≠ '%' := fun e =>
      (h.chars c List.mem_cons_self).2.1 (eq_of_toLower_eq rfl e)
    simp [isDot, isDoubleDot, hdot, hpercent, hdot']

theorem push_of_isPlain (h : IsPlain s) (last : Bool) (path : List String) :
    push false last path s = path ++ [String.ofList s] := by
  have hdots := h.not_isDot
  rw [push, percentEncode_eq_self fun c hc => (h.chars c hc).1, hdots.1, hdots.2]
  simp

variable {pieces : List (List Char)}

theorem inPath_of_mem_flatMap (h : ∀ s ∈ pieces, IsPlain s) :
    ∀ c ∈ pieces.flatMap ('/' :: ·), inPath c = false := by
  intro c hc
  obtain ⟨piece, hpiece, hc⟩ := List.mem_flatMap.1 hc
  obtain rfl | hc := List.mem_cons.1 hc
  · rfl
  · exact ((h piece hpiece).chars c hc).1

theorem splitOn_flatMap {first : List Char} (h : ∀ s ∈ first :: pieces, IsPlain s) :
    Text.splitOn (isSlash true) (first ++ pieces.flatMap ('/' :: ·)) = first :: pieces := by
  rw [List.forall_mem_cons] at h
  exact Text.splitOn_append_flatMap (by decide) (fun c hc => (h.1.chars c hc).2.2)
    fun s hs c hc => ((h.2 s hs).chars c hc).2.2

theorem foldl_push_of_isPlain (h : ∀ s ∈ pieces, IsPlain s) (path : List String) :
    pieces.foldl (push false false) path = path ++ pieces.map String.ofList := by
  induction pieces generalizing path with
  | nil => exact (List.append_nil path).symm
  | cons s pieces ih =>
    rw [List.forall_mem_cons] at h
    rw [List.foldl_cons, push_of_isPlain h.1, ih h.2, List.append_assoc]
    rfl

theorem extend_of_isPlain (h : ∀ s ∈ pieces, IsPlain s) (path : List String) :
    extend false path pieces = path ++ pieces.map String.ofList := by
  obtain rfl | ⟨init, last, rfl⟩ := pieces.eq_nil_or_concat'
  · exact (List.append_nil path).symm
  · rw [extend_append _ _ _ (List.cons_ne_nil last []),
      foldl_push_of_isPlain fun s hs => h s (List.mem_append_left _ hs), extend,
      push_of_isPlain (h last (by simp)), List.append_assoc, List.map_append]
    rfl

end Path

theorem continued_of_isPlain {pieces : List (List Char)} (hne : pieces ≠ [])
    (h : ∀ s ∈ pieces, Path.IsPlain s) (u : Url) : continued (pieces.flatMap ('/' :: ·)) u =
      { u with
        path := .segments (pieces.map String.ofList)
        query := none
        fragment := none } := by
  have hends : ∀ c ∈ pieces.flatMap ('/' :: ·), endsPath c = false := fun c hc =>
    Path.not_endsPath_of_inPath (Path.inPath_of_mem_flatMap h c hc)
  have hpath := pathPart_append hends []
  have htail := tailPart_append hends []
  rw [List.append_nil] at hpath htail
  obtain ⟨first, rest, rfl⟩ := List.exists_cons_of_ne_nil hne
  have hsegments : segmentsOf ((first :: rest).flatMap ('/' :: ·)) =
      (first :: rest).map String.ofList := by
    rw [List.flatMap_cons, List.cons_append, segmentsOf, if_pos (by decide), Path.build,
      Path.splitOn_flatMap h, Path.extend_of_isPlain h, List.nil_append]
  rw [continued, hpath, htail, pathPart, List.takeWhile_nil, List.append_nil, hsegments]
  rfl

/-! ## What is put behind the text of a URL -/

theorem kept_append (hs : ∀ c ∈ s, isEdge c = false) (t : List Char) :
    kept (s ++ '/' :: t) = s ++ '/' :: kept t := by
  have hslash : isEdge '/' = false := by decide
  have hall : ¬ ('/' :: t).all isEdge := by
    rw [List.all_cons, hslash]
    nofun
  rw [kept, Text.dropEnd_append, if_neg hall, Text.dropEnd_cons_of_neg hslash, List.filter_append,
    List.filter_eq_self.2 fun c hc => isKept_of_not_isEdge (hs c hc),
    List.filter_cons_of_pos (by decide), ← kept]

/-- The pieces of what is put behind a slash. -/
def piecesBehind (s : List Char) : List (List Char) :=
  Text.splitOn (isSlash true) (pathPart (kept s))

theorem piecesBehind_ne_nil (s : List Char) : piecesBehind s ≠ [] := Text.splitOn_ne_nil _ _

section

variable {first : List Char} {rest : List (List Char)}
  (hplain : ∀ piece ∈ first :: rest, Path.IsPlain piece)

include hplain

theorem inPath_of_plain : ∀ c ∈ first ++ rest.flatMap ('/' :: ·), inPath c = false := by
  have hall := Path.inPath_of_mem_flatMap hplain
  rw [List.flatMap_cons, List.cons_append, List.forall_mem_cons] at hall
  exact hall.2

theorem not_endsPath_of_plain :
    ∀ c ∈ first ++ rest.flatMap ('/' :: ·) ++ ['/'], endsPath c = false := by
  rw [List.forall_mem_append]
  exact ⟨fun c hc => Path.not_endsPath_of_inPath (inPath_of_plain hplain c hc), by decide⟩

theorem kept_append_of_plain (t : List Char) : kept (first ++ rest.flatMap ('/' :: ·) ++ '/' :: t) =
    first ++ rest.flatMap ('/' :: ·) ++ '/' :: kept t :=
  kept_append (fun c hc => Path.not_isEdge_of_inPath (inPath_of_plain hplain c hc)) t

/-- **Plain pieces in front of a text** are segments in front of what the text becomes. -/
theorem extend_piecesBehind (root : List String) (t : List Char) :
    Path.extend false root (piecesBehind (first ++ rest.flatMap ('/' :: ·) ++ '/' :: t)) =
      Path.extend false (root ++ (first :: rest).map String.ofList) (piecesBehind t) := by
  have hpath : pathPart (first ++ rest.flatMap ('/' :: ·) ++ '/' :: kept t) =
      first ++ rest.flatMap ('/' :: ·) ++ '/' :: pathPart (kept t) := by
    rw [List.append_cons, pathPart_append (not_endsPath_of_plain hplain), ← List.append_cons]
  rw [piecesBehind, kept_append_of_plain hplain, hpath, Text.splitOn_append_cons (by decide),
    Path.splitOn_flatMap hplain, ← piecesBehind, Path.extend_append _ _ _ (piecesBehind_ne_nil t),
    Path.foldl_push_of_isPlain hplain]

theorem piecesBehind_of_plain :
    piecesBehind (first ++ rest.flatMap ('/' :: ·)) = first :: rest ∧
      tailPart (kept (first ++ rest.flatMap ('/' :: ·))) = [] := by
  have hin := inPath_of_plain hplain
  have hends : ∀ c ∈ first ++ rest.flatMap ('/' :: ·), (!endsPath c) = true := fun c hc => by
    rw [Path.not_endsPath_of_inPath (hin c hc)]
    rfl
  rw [piecesBehind, kept_eq_self fun c hc => Path.not_isEdge_of_inPath (hin c hc), pathPart,
    List.takeWhile_eq_self_iff.2 hends, Path.splitOn_flatMap hplain]
  exact ⟨rfl, List.dropWhile_eq_nil_iff.2 hends⟩

theorem tailPart_kept_append (t : List Char) :
    tailPart (kept (first ++ rest.flatMap ('/' :: ·) ++ '/' :: t)) = tailPart (kept t) := by
  rw [kept_append_of_plain hplain, List.append_cons, tailPart_append (not_endsPath_of_plain hplain)]

end

/-- **A path behind the text of a URL** without query and fragment is below one root, whatever it
is. -/
theorem exists_root {text : String} (hbase : parse text = .ok base) (hhttp : base.isHttp)
    (hends : ∀ c ∈ text.toList, endsPath c = false) :
    ∃ root : List String, ∀ p u, parse (text ++ ("/" ++ p)) = .ok u →
      u.path = .segments
        (Path.extend false root (piecesBehind p.toList)) ∧
      u.query = (tail true (tailPart (kept p.toList))).1 := by
  obtain ⟨rest, z, hrest, hz, happend⟩ := exists_splitScheme?_append hbase
  obtain ⟨hfile, hspecial⟩ := isSpecialScheme_of_isHttp hhttp
  rw [parse_eq_withAuthority hfile hspecial hrest] at hbase
  have hslashes : rest.dropWhile (isSlash true) ≠ [] := fun h => by
    rw [h, withAuthority_nil hspecial] at hbase
    nomatch hbase
  have hplain : ∀ c ∈ rest.dropWhile (isSlash true) ++ z, endsPath c = false := by
    obtain ⟨name, hcleaned, -⟩ := splitScheme?_eq_some_iff.1 hrest
    intro c hc
    obtain hc | hc := List.mem_append.1 hc
    · refine hends c (mem_of_mem_cleaned ?_)
      rw [hcleaned]
      exact List.mem_append_right _
        (List.mem_cons_of_mem _ ((List.dropWhile_sublist _).mem hc))
    · exact forall_isEdge (P := fun c => endsPath c = false) (by decide) (hz c hc)
  refine ⟨(piecesOf (rest.dropWhile (isSlash true) ++ z)).foldl (Path.push false false) [],
    fun p u hu => ?_⟩
  rw [parse_eq_withAuthority hfile hspecial (happend p),
    Text.dropWhile_append_of_dropWhile hslashes, ← List.append_assoc] at hu
  obtain ⟨v, -, rfl⟩ := exists_authority hspecial hu
  rw [continued_append hplain, ← piecesBehind, Path.extend_append _ _ _ (piecesBehind_ne_nil _)]
  exact ⟨rfl, rfl⟩

end TagCatalog.Url
