import TagCatalog.Proofs.Text.Blank
import TagCatalog.Proofs.Text.Split
import TagCatalog.Registry.Link

/-!
# The next page that a header of links names

A `Link` header spells its links one after another, `<target>; rel="relation"` with a comma and a
blank between them. The header is cut at all its commas before the brackets are looked at: a
target with a comma in it is never seen, and a target that itself spells `rel='next'` is taken
whatever its relation is.

* `Link.Entry`, `Link.Entry.text`, `Link.header`: links, and how a header spells them;
* `Link.Entry.Seen`: a link that is taken for the next page;
* `Link.isNext_text_iff`, `Link.nextIn?_text`: one link;
* **`Link.next?_of_header`**: the next page in a header of links;
* `Link.next?_commaLink`: a link to the next page that is passed over.
-/

namespace TagCatalog.Link

/-- A target is made of visible ASCII characters; what delimits it in a header is none of them. -/
def isTargetChar (c : Char) : Bool :=
  0x21 ≤ c.toNat && c.toNat < 0x7F && c != '<' && c != '>' && c != '"'

/-- A link: the page it leads to, and the relation of that page to the one that names it. -/
structure Entry where
  target : List Char
  relation : List Char
  target_chars : target.all isTargetChar
  relation_letters : relation.all Char.isAlpha

/-- A link in a header. -/
def Entry.text (e : Entry) : List Char :=
  '<' :: (e.target ++ '>' :: ("; rel=".toList ++ '"' :: (e.relation ++ ['"'])))

/-- Links in a header. -/
def header (entries : List Entry) : List Char :=
  List.intercalate ", ".toList (entries.map Entry.text)

/-- The link is taken for the next page. -/
def Entry.Seen (e : Entry) : Prop :=
  ',' ∉ e.target ∧ (e.relation = "next".toList ∨ "rel='next'".toList <:+: e.target)

instance (e : Entry) : Decidable e.Seen := by unfold Entry.Seen; infer_instance

variable {e : Entry} {part : List Char}

/-! ## The characters of a link -/

theorem Entry.not_mem_target (e : Entry) {c : Char} (h : isTargetChar c = false) :
    c ∉ e.target := fun hc => by
  have := List.all_eq_true.1 e.target_chars c hc
  simp [h] at this

theorem Entry.not_mem_relation (e : Entry) {c : Char} (h : c.isAlpha = false) :
    c ∉ e.relation := fun hc => by
  have := List.all_eq_true.1 e.relation_letters c hc
  simp [h] at this

theorem Entry.comma_mem_text_iff : ',' ∈ e.text ↔ ',' ∈ e.target := by
  have hrel := e.not_mem_relation (c := ',') rfl
  simp [Entry.text, hrel]

/-! ## Which links name the next page -/

theorem double_quoted_infix_text_iff :
    "rel=\"next\"".toList <:+: e.text ↔ e.relation = "next".toList := by
  have htext : e.text =
      ('<' :: (e.target ++ ">; rel=".toList)) ++ '"' :: (e.relation ++ ['"']) := by
    simp [Entry.text]
  rw [htext]
  constructor
  · intro h
    have hbefore : '"' ∉ '<' :: (e.target ++ ">; rel=".toList) := by
      simp [e.not_mem_target (c := '"') rfl]
    have hname : '"' ∉ "next".toList := by decide
    have hpart : "rel=".toList ++ '"' :: ("next".toList ++ ['"']) <:+: _ := h
    exact (Text.eq_of_quoted_infix hbefore hname (e.not_mem_relation rfl) hpart).symm
  · intro h
    refine ⟨'<' :: (e.target ++ ">; ".toList), [], ?_⟩
    simp [h]

theorem single_quoted_infix_text_iff :
    "rel='next'".toList <:+: e.text ↔ "rel='next'".toList <:+: e.target := by
  have hafter : ¬ "rel='next'".toList <:+: "; rel=".toList ++ '"' :: (e.relation ++ ['"']) := by
    intro h
    have hquote := h.subset (show '\'' ∈ "rel='next'".toList by decide)
    simp [e.not_mem_relation (c := '\'') rfl] at hquote
  rw [Entry.text, ← List.cons_append, Text.infix_append_cons_iff (by decide), or_iff_left hafter,
    ← List.nil_append ('<' :: e.target), Text.infix_append_cons_iff (by decide)]
  simp

theorem isNext_text_iff :
    isNext e.text ↔ e.relation = "next".toList ∨ "rel='next'".toList <:+: e.target := by
  rw [isNext, Bool.or_eq_true, Text.occurs_iff, Text.occurs_iff, double_quoted_infix_text_iff,
    single_quoted_infix_text_iff]

/-! ## One link -/

theorem bracketed?_eq_none_of_not_open (h : '<' ∉ part) : bracketed? part = none := by
  rw [bracketed?, Text.splitFirst?_eq_none h]

theorem bracketed?_eq_none_of_not_close (h : '>' ∉ part) : bracketed? part = none := by
  rw [bracketed?]
  split
  · rfl
  · next before after hsplit =>
    have hafter : '>' ∉ after := fun hm => h <| by
      rw [Text.eq_append_of_splitFirst? hsplit]
      simp [hm]
    rw [Text.splitFirst?_eq_none hafter]
    split <;> rfl

theorem bracketed?_text (e : Entry) : bracketed? e.text = some e.target := by
  have hopen := Text.splitFirst?_append (List.not_mem_nil (a := '<'))
    (e.target ++ '>' :: ("; rel=".toList ++ '"' :: (e.relation ++ ['"'])))
  rw [List.nil_append] at hopen
  rw [bracketed?, Entry.text, hopen]
  simp [Text.splitFirst?_append (e.not_mem_target (c := '>') rfl)]

theorem targetOf?_eq_none_of_mem (hcomma : ',' ∈ e.target) (h : part ∈ Text.splitAll ',' e.text) :
    targetOf? part = none := by
  obtain ⟨a, b, hab⟩ := List.append_of_mem hcomma
  have hclose : '>' ∉ '<' :: a := by
    have := e.not_mem_target (c := '>') rfl
    simp_all
  have hopen : '<' ∉ b ++ '>' :: ("; rel=".toList ++ '"' :: (e.relation ++ ['"'])) := by
    have := e.not_mem_target (c := '<') rfl
    have := e.not_mem_relation (c := '<') rfl
    simp_all
  have htext : e.text = ('<' :: a) ++ ',' ::
      (b ++ '>' :: ("; rel=".toList ++ '"' :: (e.relation ++ ['"']))) := by
    simp [Entry.text, hab]
  have hsub := (Text.trim_sublist part).subset
  rw [htext, Text.splitAll_append_cons, List.mem_append] at h
  have hnone : bracketed? (Text.trim part) = none := by
    obtain h | h := h
    · exact bracketed?_eq_none_of_not_close fun hm =>
        hclose (Text.mem_of_mem_splitAll h (hsub hm))
    · exact bracketed?_eq_none_of_not_open fun hm =>
        hopen (Text.mem_of_mem_splitAll h (hsub hm))
  rw [targetOf?, hnone, ite_self]

theorem targetOf?_text (e : Entry) :
    targetOf? e.text = if isNext e.text then some e.target else none := by
  have htrim : Text.trim e.text = e.text := by
    refine Text.trim_eq_self ?_ ?_
    · simp [Entry.text, Text.isBlank]
    · have hlast : e.text = ('<' :: (e.target ++ '>' :: ("; rel=".toList ++ '"' :: e.relation))) ++
          ['"'] := by
        simp [Entry.text]
      rw [hlast, List.getLast?_concat]
      simp [Text.isBlank]
  rw [targetOf?, htrim, bracketed?_text]

theorem nextIn?_text (e : Entry) : nextIn? e.text = if e.Seen then some e.target else none := by
  by_cases hcomma : ',' ∈ e.target
  · rw [if_neg fun h => h.1 hcomma, nextIn?, List.findSome?_eq_none_iff]
    exact fun part hpart => targetOf?_eq_none_of_mem hcomma hpart
  · have hpieces := Text.splitAll_eq_singleton (mt Entry.comma_mem_text_iff.1 hcomma)
    rw [nextIn?, hpieces, List.findSome?_singleton, targetOf?_text]
    simp only [isNext_text_iff, Entry.Seen, hcomma, not_false_eq_true, true_and]

/-! ## The links of a header -/

theorem nextIn?_append_cons (a b : List Char) :
    nextIn? (a ++ ',' :: b) = (nextIn? a).or (nextIn? b) := by
  rw [nextIn?, Text.splitAll_append_cons, List.findSome?_append, nextIn?, nextIn?]

theorem nextIn?_cons_blank (s : List Char) : nextIn? (' ' :: s) = nextIn? s := by
  obtain ⟨t, ts, ht⟩ := List.exists_cons_of_ne_nil (Text.splitOn_ne_nil (· == ',') s)
  have hblank : targetOf? (' ' :: t) = targetOf? t := by
    rw [targetOf?, Text.trim_cons_of_blank rfl, targetOf?]
  rw [nextIn?, Text.splitAll, Text.splitOn, if_neg (by decide), nextIn?, Text.splitAll, ht]
  simp only [List.findSome?_cons, hblank]

theorem header_cons_cons (e e' : Entry) (rest : List Entry) :
    header (e :: e' :: rest) = e.text ++ ',' :: ' ' :: header (e' :: rest) := by
  simp [header, List.intercalate]

theorem nextIn?_header (entries : List Entry) :
    nextIn? (header entries) = (entries.find? fun e => decide e.Seen).map Entry.target := by
  induction entries with
  | nil => decide
  | cons e rest ih =>
    have hstep : nextIn? (header (e :: rest)) = (nextIn? e.text).or (nextIn? (header rest)) := by
      cases rest with
      | nil => simp [header, List.intercalate, show nextIn? [] = none by decide]
      | cons e' rest => rw [header_cons_cons, nextIn?_append_cons, nextIn?_cons_blank]
    rw [hstep, ih, nextIn?_text, List.find?_cons]
    by_cases hseen : e.Seen <;> simp [hseen]

theorem toNat_of_isAlpha {c : Char} (h : c.isAlpha) : 0x41 ≤ c.toNat ∧ c.toNat ≤ 0x7A := by
  have hval : c.toNat = c.val.toNat := rfl
  unfold Char.isAlpha Char.isUpper Char.isLower at h
  simp [UInt32.le_iff_toNat_le] at h
  omega

theorem isReadable_text (e : Entry) : Http.isReadable (String.ofList e.text) := by
  have hvisible : ∀ c : Char, 0x20 ≤ c.toNat → c.toNat < 0x7F →
      (c == '\t' || (0x20 ≤ c.toNat && c.toNat < 0x7F)) = true := by
    intro c h1 h2
    simp [h1, h2]
  have htarget : e.target.all fun c => c == '\t' || (0x20 ≤ c.toNat && c.toNat < 0x7F) := by
    refine List.all_eq_true.2 fun c hc => ?_
    have hchar := List.all_eq_true.1 e.target_chars c hc
    simp only [isTargetChar, Bool.and_eq_true, decide_eq_true_eq] at hchar
    exact hvisible c (by omega) (by omega)
  have hrelation : e.relation.all fun c => c == '\t' || (0x20 ≤ c.toNat && c.toNat < 0x7F) := by
    refine List.all_eq_true.2 fun c hc => ?_
    have hletter := toNat_of_isAlpha (List.all_eq_true.1 e.relation_letters c hc)
    exact hvisible c (by omega) (by omega)
  rw [Http.isReadable, String.toList_ofList, Entry.text, List.all_cons, List.all_append, htarget,
    List.all_cons, List.all_append, List.all_cons, List.all_append, hrelation]
  rfl

theorem isReadable_header (entries : List Entry) :
    Http.isReadable (String.ofList (header entries)) := by
  induction entries with
  | nil => rfl
  | cons e rest ih =>
    have htext := isReadable_text e
    cases rest with
    | nil => simpa [header, List.intercalate] using htext
    | cons e' rest =>
      rw [Http.isReadable, String.toList_ofList] at htext ih ⊢
      rw [header_cons_cons, List.all_append, htext, List.all_cons, List.all_cons, ih]
      rfl

/-- **The next page in a header of links.** It is the target of the first link that is seen; where
no target holds a comma or spells a relation, that is the first link to the next page. -/
theorem next?_of_header {headers : Http.Headers} {entries : List Entry} {rest : List String}
    (h : headers.values "Link" = String.ofList (header entries) :: rest) :
    next? headers = (entries.find? fun e => decide e.Seen).map (fun e => String.ofList e.target) ∧
      ((∀ e ∈ entries, ',' ∉ e.target ∧ ¬ "rel='next'".toList <:+: e.target) →
        next? headers = (entries.find? fun e => decide (e.relation = "next".toList)).map
          fun e => String.ofList e.target) := by
  have hnext : next? headers =
      (entries.find? fun e => decide e.Seen).map fun e => String.ofList e.target := by
    rw [next?, h]
    simp only [isReadable_header, if_true, String.toList_ofList, nextIn?_header, Option.map_map]
    rfl
  refine ⟨hnext, fun hplain => ?_⟩
  have hfind : (entries.find? fun e => decide e.Seen) =
      entries.find? fun e => decide (e.relation = "next".toList) := by
    rw [← List.head?_filter, ← List.head?_filter]
    refine congrArg List.head? (List.filter_congr fun e he => ?_)
    obtain ⟨hcomma, hspelt⟩ := hplain e he
    exact decide_eq_decide.2
      ⟨fun hseen => hseen.2.resolve_right hspelt, fun hn => ⟨hcomma, .inl hn⟩⟩
  rw [hnext, hfind]

/-- The page before and the page after, in a header whose targets hold every delimiter but one. -/
def plainLinks : List Entry :=
  [⟨"/v2/svc/tags/list?n=2;rel=next".toList, "prev".toList, by decide, by decide⟩,
    ⟨"http://r.test/v2/svc/tags/list?n=2&last=v4".toList, "next".toList, by decide, by decide⟩]

theorem next?_of_header_plainLinks :
    Http.Headers.values [("link", String.ofList (header plainLinks))] "Link" =
        [String.ofList (header plainLinks)] ∧
      (∀ e ∈ plainLinks, ',' ∉ e.target ∧ ¬ "rel='next'".toList <:+: e.target) ∧
      next? [("link", String.ofList (header plainLinks))] =
        some "http://r.test/v2/svc/tags/list?n=2&last=v4" := by
  have hvalues : Http.Headers.values [("link", String.ofList (header plainLinks))] "Link" =
      [String.ofList (header plainLinks)] := by decide +kernel
  have hplain : ∀ e ∈ plainLinks, ',' ∉ e.target ∧ ¬ "rel='next'".toList <:+: e.target := by
    decide +kernel
  refine ⟨hvalues, hplain, ?_⟩
  rw [(next?_of_header hvalues).2 hplain]
  decide +kernel

/-- The next page, named by a cursor of two numbers. -/
def commaLink : Entry :=
  ⟨"/v2/svc/tags/list?cursor=1,2".toList, "next".toList, by decide, by decide⟩

/-- The link to the next page is passed over for the comma in its target. -/
theorem next?_commaLink :
    ([commaLink].find? fun e => decide (e.relation = "next".toList)).map
        (fun e => String.ofList e.target) = some "/v2/svc/tags/list?cursor=1,2" ∧
      next? [("Link", String.ofList (header [commaLink]))] = none := by
  decide +kernel

end TagCatalog.Link
