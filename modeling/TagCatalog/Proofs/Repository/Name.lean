import Mathlib.Data.String.Basic
import TagCatalog.Proofs.Repository.Grammar

/-!
# Reading repository names

A text is a repository name if the grammar of names has it and its repository part is not too long.
A reference is a name that a tag and a digest may follow.

* `RepositoryName.Located`, `RepositoryName.Part`: the registry of a name and its repository part;
* `RepositoryName.part_iff`, `RepositoryName.fits_iff`: the repository part and its size;
* `Grammar.reference`, `Grammar.tagged`: references, and those with a tag or digest;
* `isSuffixed_iff_of_mem_reference`: a tag or digest is told from a port;
* **`RepositoryName.readName_iff_mem_name`**: the texts that are read, and why others are not.
-/

namespace TagCatalog.RepositoryName

open Computability Text Grammar

/-! ## The repository part -/

/-- A component that stands for a registry. -/
def IsRegistry (t : List Char) : Prop := '.' ∈ t ∨ ':' ∈ t ∨ t = "localhost".toList

/-- A name, its registry, and the name within the registry. -/
inductive Located : List Char → List Char → List Char → Prop
  | named {registry repository} : '/' ∉ registry → IsRegistry registry →
      Located (registry ++ '/' :: repository) registry repository
  | unnamed {s} : (∀ first rest, s = first ++ '/' :: rest → '/' ∉ first → ¬ IsRegistry first) →
      Located s defaultRegistry s

/-- A name that stands below `library/`. -/
def InLibrary (registry repository : List Char) : Prop :=
  (registry = defaultRegistry ∨ registry = defaultRegistryAlias) ∧ '/' ∉ repository

/-- A name and its repository part. -/
inductive Part : List Char → List Char → Prop
  | library {s registry repository} : Located s registry repository →
      InLibrary registry repository → Part s ("library/".toList ++ repository)
  | plain {s registry repository} : Located s registry repository →
      ¬ InLibrary registry repository → Part s repository

variable {s part registry repository : List Char} {tags digests : Language Char}

theorem namesRegistry_iff : namesRegistry s ↔ IsRegistry s := by
  simp [namesRegistry, IsRegistry, or_assoc]

theorem exists_located (s : List Char) : ∃ registry repository, Located s registry repository := by
  by_cases h : ∃ first rest, s = first ++ '/' :: rest ∧ '/' ∉ first ∧ IsRegistry first
  · obtain ⟨first, rest, rfl, hslash, hregistry⟩ := h
    exact ⟨first, rest, .named hslash hregistry⟩
  · exact ⟨_, s, .unnamed fun first rest hs hslash hregistry =>
      h ⟨first, rest, hs, hslash, hregistry⟩⟩

theorem repositoryPart_of_located (h : Located s registry repository) :
    (InLibrary registry repository → repositoryPart s = "library/".toList ++ repository) ∧
      (¬ InLibrary registry repository → repositoryPart s = repository) := by
  cases h with
  | @named registry repository hslash hregistry =>
    have hfirst : splitFirst? '/' (registry ++ '/' :: repository) = some (registry, repository) :=
      splitFirst?_append hslash repository
    unfold repositoryPart
    simp only [hfirst, namesRegistry_iff.2 hregistry, if_true, InLibrary, Bool.and_eq_true,
      Bool.or_eq_true, beq_iff_eq, Bool.not_eq_true', List.contains_eq_mem, decide_eq_false_iff_not]
    exact ⟨fun h => if_pos h, fun h => if_neg h⟩
  | unnamed hnone =>
    have hdefault : InLibrary defaultRegistry s ↔ '/' ∉ s :=
      ⟨fun h => h.2, fun h => ⟨.inl rfl, h⟩⟩
    rw [hdefault]
    unfold repositoryPart
    by_cases hs : '/' ∈ s
    · obtain ⟨first, rest, hsplit, hslash⟩ := List.eq_append_cons_of_mem hs
      have hfirst : splitFirst? '/' s = some (first, rest) := by
        rw [hsplit]
        exact splitFirst?_append hslash rest
      have hno : namesRegistry first = false := by
        rw [← Bool.not_eq_true, namesRegistry_iff]
        exact hnone first rest hsplit hslash
      simp [hfirst, hno, hs]
    · simp [splitFirst?_eq_none hs, hs]

theorem part_iff : Part s part ↔ repositoryPart s = part := by
  constructor
  · rintro (⟨hlocated, hlibrary⟩ | ⟨hlocated, hlibrary⟩)
    · exact (repositoryPart_of_located hlocated).1 hlibrary
    · exact (repositoryPart_of_located hlocated).2 hlibrary
  · rintro rfl
    obtain ⟨registry, repository, hlocated⟩ := exists_located s
    by_cases hlibrary : InLibrary registry repository
    · exact (repositoryPart_of_located hlocated).1 hlibrary ▸ .library hlocated hlibrary
    · exact (repositoryPart_of_located hlocated).2 hlibrary ▸ .plain hlocated hlibrary

/-! ## The size of a name -/

/-- A character of a name. -/
def isNameChar (c : Char) : Bool := c.isAlphanum || ['-', '.', '_', ':', '/'].contains c

theorem isNameChar_of_isWordChar {c : Char} (h : isWordChar c) : isNameChar c := by
  simp only [isWordChar, Bool.or_eq_true, Bool.and_eq_true, decide_eq_true_eq] at h
  unfold isNameChar Char.isAlphanum Char.isAlpha Char.isLower Char.isDigit
  simp only [Bool.or_eq_true, Bool.and_eq_true, decide_eq_true_eq]
  tauto

theorem name_le : name ≤ (charOf isNameChar)∗ := by
  have hcomponent : component ≤ (charOf isNameChar)∗ :=
    component_le (fun _ => isNameChar_of_isWordChar) (by decide)
  have hhost : host ≤ (charOf isNameChar)∗ :=
    host_le (fun c hc => by simp [isNameChar, hc]) rfl rfl rfl
  exact mul_le (add_le_iff.2 ⟨one_le_kstar, mul_le hhost (single_le rfl)⟩)
    (separated_le rfl hcomponent)

theorem toNat_lt_of_isNameChar {c : Char} (h : isNameChar c) : c.toNat < 0x7B := by
  have hc : c.val.toNat = c.toNat := rfl
  unfold isNameChar Char.isAlphanum Char.isAlpha Char.isUpper Char.isLower Char.isDigit at h
  simp only [Bool.or_eq_true, Bool.and_eq_true, decide_eq_true_eq, List.contains_iff_mem,
    List.mem_cons, List.not_mem_nil, or_false, UInt32.le_iff_toNat_le, ge_iff_le] at h
  rw [Nat.lt_succ_iff]
  obtain ((⟨_, h⟩ | ⟨_, h⟩) | ⟨_, h⟩) | rfl | rfl | rfl | rfl | rfl := h
  · exact h.trans (by decide)
  · exact h.trans (by decide)
  · exact h.trans (by decide)
  all_goals decide

theorem forall_isNameChar {P : Char → Prop}
    (h : ∀ n < 0x7B, isNameChar (Char.ofNat n) → P (Char.ofNat n)) {c : Char}
    (hc : isNameChar c) : P c := by
  have hofNat := h c.toNat (toNat_lt_of_isNameChar hc)
  rw [Char.ofNat_toNat] at hofNat
  exact hofNat hc

theorem utf8ByteSize_ofList_of_isNameChar {l : List Char} (h : ∀ c ∈ l, isNameChar c) :
    (String.ofList l).utf8ByteSize = l.length := by
  rw [String.utf8ByteSize_ofList]
  induction l with
  | nil => rfl
  | cons c l ih =>
    rw [List.forall_mem_cons] at h
    have hsize : c.utf8Size = 1 := forall_isNameChar (P := (·.utf8Size = 1)) (by decide) h.1
    rw [String.utf8Len_cons, ih h.2, hsize, List.length_cons]

theorem isNameChar_of_mem_part (hs : s ∈ name) (hpart : Part s part) {c : Char} (hc : c ∈ part) :
    isNameChar c := by
  have hsub : ∀ {registry repository}, Located s registry repository → repository ⊆ s := by
    rintro _ _ (_ | _)
    · exact fun c hc => List.mem_append_right _ (List.mem_cons_of_mem _ hc)
    · exact fun c hc => hc
  cases hpart with
  | library hlocated _ =>
    obtain hc | hc := List.mem_append.1 hc
    · have hlibrary : ∀ c ∈ "library/".toList, isNameChar c := by decide
      exact hlibrary c hc
    · exact of_le name_le hs (hsub hlocated hc)
  | plain hlocated _ => exact of_le name_le hs (hsub hlocated hc)

/-- A name whose repository part has at most 255 bytes. -/
def Fits (s : List Char) : Prop := ∃ part, Part s part ∧ (String.ofList part).utf8ByteSize ≤ 255

theorem fits_iff (hs : s ∈ name) : Fits s ↔ (repositoryPart s).length ≤ maxLength := by
  have hsize : ∀ part, Part s part → (String.ofList part).utf8ByteSize = part.length :=
    fun part hpart => utf8ByteSize_ofList_of_isNameChar fun c => isNameChar_of_mem_part hs hpart
  constructor
  · rintro ⟨part, hpart, hfits⟩
    rwa [hsize part hpart, ← part_iff.1 hpart] at hfits
  · intro hfits
    refine ⟨_, part_iff.2 rfl, ?_⟩
    rwa [hsize _ (part_iff.2 rfl)]

/-! ## Tags and digests -/

/-- A tag or a digest, or both, behind a name. -/
def Grammar.tagged (tags digests : Language Char) : Language Char :=
  name * ({[':']} * tags * (1 + {['@']} * digests) + {['@']} * digests)

/-- A name, perhaps with a tag and perhaps with a digest behind it. -/
def Grammar.reference (tags digests : Language Char) : Language Char :=
  name * ((1 + {[':']} * tags) * (1 + {['@']} * digests))

theorem reference_eq (tags digests : Language Char) :
    reference tags digests = name + tagged tags digests := by
  simp only [reference, tagged, add_mul, mul_add, one_mul, mul_one]
  ac_rfl

theorem isSuffixed_iff : isSuffixed s ↔
    '@' ∈ s ∨ ∃ last, (splitAll '/' s).getLast? = some last ∧ ':' ∈ last := by
  rw [isSuffixed]
  cases (splitAll '/' s).getLast? <;> simp

theorem exists_component_of_mem_name (hs : s ∈ name) :
    ∃ last ∈ component, (splitAll '/' s).getLast? = some last := by
  obtain ⟨first, rest, h⟩ := List.exists_cons_of_ne_nil (splitOn_ne_nil (· == '/') s)
  obtain ⟨hrest, hfirst⟩ := (mem_name_iff h).1 hs
  rw [splitAll, h]
  obtain rfl | ⟨init, last, rfl⟩ := List.eq_nil_or_concat rest
  · exact ⟨first, hfirst.resolve_right fun hhost => hhost.2 rfl, rfl⟩
  · exact ⟨last, hrest last (by simp), by simp [List.getLast?_cons]⟩

theorem colon_not_mem_component (hs : s ∈ component) : ':' ∉ s :=
  not_mem_component (by decide) (by decide) hs

theorem not_isSuffixed_of_mem_name (hs : s ∈ name) : ¬ isSuffixed s := by
  rw [isSuffixed_iff, not_or]
  refine ⟨not_mem_of_le name_le hs rfl, ?_⟩
  rintro ⟨last, hlast, hcolon⟩
  obtain ⟨last', hcomponent, hlast'⟩ := exists_component_of_mem_name hs
  obtain rfl := Option.some.inj (hlast'.symm.trans hlast)
  exact colon_not_mem_component hcomponent hcolon

theorem exists_getLast?_splitAll_append {a b : List Char} (h : '/' ∉ b) :
    ∃ last, (splitAll '/' (a ++ b)).getLast? = some (last ++ b) := by
  by_cases ha : '/' ∈ a
  · obtain ⟨last, init, hsplit, hlast⟩ := List.eq_append_cons_of_mem (List.mem_reverse.2 ha)
    have hpiece : '/' ∉ last.reverse ++ b := by simp [hlast, h]
    refine ⟨last.reverse, ?_⟩
    rw [← List.reverse_reverse a, hsplit, List.reverse_append, List.reverse_cons, List.append_assoc,
      List.append_assoc, List.singleton_append, splitAll_append_cons, splitAll_eq_singleton hpiece]
    simp
  · have hpiece : '/' ∉ a ++ b := by simp [ha, h]
    exact ⟨a, by rw [splitAll_eq_singleton hpiece]; rfl⟩

theorem isSuffixed_of_mem_tagged (htags : ∀ t ∈ tags, '/' ∉ t) (hs : s ∈ tagged tags digests) :
    isSuffixed s := by
  rw [isSuffixed_iff]
  obtain ⟨_, -, _, ⟨_, ⟨_, rfl, tag, htag, rfl⟩, _, rfl | ⟨_, rfl, _, -, rfl⟩, rfl⟩ |
    ⟨_, rfl, _, -, rfl⟩, rfl⟩ := hs
  · have hslash : '/' ∉ ':' :: tag := by simp [htags tag htag]
    obtain ⟨last, hlast⟩ := exists_getLast?_splitAll_append hslash
    exact .inr ⟨_, by simpa using hlast, by simp⟩
  · exact .inl (by simp)
  · exact .inl (by simp)

/-- **Tags and digests are told from ports**: of the references, those that the look at `@` and at
the last component refuses are the ones with a tag or digest, and the others are names. -/
theorem isSuffixed_iff_of_mem_reference (htags : ∀ t ∈ tags, '/' ∉ t)
    (hs : s ∈ reference tags digests) :
    (isSuffixed s ↔ s ∈ tagged tags digests) ∧ (isSuffixed s ↔ s ∉ name) := by
  rw [reference_eq, Language.mem_add] at hs
  obtain hs | hs := hs
  · have hno := not_isSuffixed_of_mem_name hs
    exact ⟨iff_of_false hno fun h => hno (isSuffixed_of_mem_tagged htags h), by simp [hno, hs]⟩
  · have hyes := isSuffixed_of_mem_tagged htags hs
    exact ⟨iff_of_true hyes hs, iff_of_true hyes fun h => not_isSuffixed_of_mem_name h hyes⟩

/-! ## Reading a name -/

theorem nil_not_mem_name : [] ∉ name := by
  rw [← matchesGrammar_iff]
  decide

theorem fault?_eq_none_iff : fault? s = none ↔ s ∈ name ∧ Fits s := by
  constructor
  · intro h
    rw [fault?] at h
    split_ifs at h with hnil hsuffixed hgrammar hlong
    have hs : s ∈ name := matchesGrammar_iff.1 (by simpa using hgrammar)
    exact ⟨hs, (fits_iff hs).2 (Nat.not_lt.1 hlong)⟩
  · rintro ⟨hs, hfits⟩
    have hnil : s ≠ [] := fun h => nil_not_mem_name (h ▸ hs)
    rw [fault?, if_neg hnil, if_neg (not_isSuffixed_of_mem_name hs),
      if_neg (by simp [matchesGrammar_iff.2 hs]), if_neg (Nat.not_lt.2 ((fits_iff hs).1 hfits))]

theorem fault?_eq_suffixed_iff : fault? s = some .suffixed ↔ s ≠ [] ∧ isSuffixed s := by
  rw [fault?]
  split_ifs with hnil hsuffixed hgrammar hlong
  all_goals simp_all

theorem readName_eq_error_iff {text : String} {e : CatalogError} :
    Repository.readName text = .error e ↔
      ∃ fault, fault? text.toList = some fault ∧ e = .badName text fault := by
  rw [Repository.readName, parse]
  split
  · next h => simp [Except.mapError, h]
  · next fault h => simp [Except.mapError, h, eq_comm]

theorem exists_readName_iff {text : String} :
    (∃ n, Repository.readName text = .ok n) ↔ fault? text.toList = none := by
  rw [Repository.readName, parse]
  split
  · next h => simp [Except.mapError, h]
  · next fault h => simp [Except.mapError, h]

theorem text_of_readName {text : String} {n : RepositoryName}
    (h : Repository.readName text = .ok n) : n.text = text := by
  rw [Repository.readName, parse] at h
  split at h
  · cases h
    rfl
  · nomatch h

/-- **Repository names**: a text is read exactly if the grammar of names has it and its repository
part fits, and then it is kept as it is. Any other text is an error of the configuration. Of the
references, those that are refused for a tag or digest are the ones that have one, and these are the
ones that are no names. -/
theorem readName_iff_mem_name (htags : ∀ t ∈ tags, '/' ∉ t) (text : String) :
    ((∃ n, Repository.readName text = .ok n) ↔ text.toList ∈ name ∧ Fits text.toList) ∧
      (∀ n, Repository.readName text = .ok n → n.text = text) ∧
      (∀ e, Repository.readName text = .error e → e.kind = .config) ∧
      (text.toList ∈ reference tags digests →
        (Repository.readName text = .error (.badName text .suffixed) ↔
          text.toList ∈ tagged tags digests) ∧
        (text.toList ∈ tagged tags digests ↔ text.toList ∉ name)) := by
  refine ⟨exists_readName_iff.trans fault?_eq_none_iff, fun n => text_of_readName, ?_, ?_⟩
  · intro e he
    obtain ⟨fault, -, rfl⟩ := readName_eq_error_iff.1 he
    rfl
  · intro hreference
    obtain ⟨htagged, hname⟩ := isSuffixed_iff_of_mem_reference htags hreference
    have hnil : isSuffixed text.toList → text.toList ≠ [] := fun h he => by
      rw [he] at h
      nomatch h
    refine ⟨?_, htagged.symm.trans hname⟩
    rw [readName_eq_error_iff, ← htagged]
    constructor
    · rintro ⟨fault, hfault, he⟩
      obtain rfl : Fault.suffixed = fault := by simpa using he
      exact (fault?_eq_suffixed_iff.1 hfault).2
    · intro h
      exact ⟨.suffixed, fault?_eq_suffixed_iff.2 ⟨hnil h, h⟩, rfl⟩

/-- A tag behind a name on a registry with a port. -/
theorem readName_local_tagged :
    (∀ t ∈ many1 (charOf Char.isAlphanum), '/' ∉ t) ∧
      Repository.readName "localhost:5000/team/svc:v1" =
        .error (.badName "localhost:5000/team/svc:v1" .suffixed) := by
  have htags : ∀ t ∈ many1 (charOf Char.isAlphanum), '/' ∉ t := fun t ht =>
    not_mem_of_le (p := Char.isAlphanum) (many1_le le_kstar) ht rfl
  have hname : "localhost:5000/team/svc".toList ∈ name := matchesGrammar_iff.1 (by decide)
  have htag : "v1".toList ∈ many1 (charOf Char.isAlphanum) :=
    mem_many1_charOf_iff.2 ⟨nofun, by decide⟩
  have htagged : "localhost:5000/team/svc:v1".toList ∈
      tagged (many1 (charOf Char.isAlphanum)) (many1 (charOf Char.isAlphanum)) :=
    ⟨_, hname, _, .inl ⟨_, ⟨[':'], rfl, _, htag, rfl⟩, [], .inl rfl, rfl⟩, rfl⟩
  have hreference : "localhost:5000/team/svc:v1".toList ∈
      reference (many1 (charOf Char.isAlphanum)) (many1 (charOf Char.isAlphanum)) := by
    rw [reference_eq]
    exact .inr htagged
  exact ⟨htags, ((readName_iff_mem_name htags _).2.2.2 hreference).1.2 htagged⟩

end TagCatalog.RepositoryName
