import TagCatalog.Proofs.Repository.Name

/-!
# Upper-case letters in repository names

A name is in lower case, but for the host that may stand in front of it. The grammar takes any first
component with letters, digits and inner dashes for a host, and the split into registry and
repository takes it for one only if it has a dot or a colon; so a single label in front of a slash
may have upper-case letters and be part of the repository.

* `RepositoryName.HasUpper`: a component with an upper-case letter;
* `RepositoryName.mem_label_iff_of_mem_host`: the hosts of a single label;
* `RepositoryName.located_of_mem_label`: a label in front of a slash is no registry;
* **`RepositoryName.host_of_hasUpper`**: where upper-case letters may stand.
-/

namespace TagCatalog.RepositoryName

open Computability Text Grammar

/-- A component has an upper-case letter. -/
def HasUpper (t : List Char) : Prop := ∃ c ∈ t, c.isUpper

variable {t path : List Char}

/-! ## Path components -/

theorem not_isUpper_of_isWordChar {c : Char} (h : isWordChar c) : (!c.isUpper) = true :=
  forall_isNameChar (P := fun c => isWordChar c → (!c.isUpper) = true) (by decide)
    (isNameChar_of_isWordChar h) h

theorem not_hasUpper_of_mem_component (h : t ∈ component) : ¬ HasUpper t := by
  have hlower : component ≤ (charOf fun c => !c.isUpper)∗ :=
    component_le (fun _ => not_isUpper_of_isWordChar) (by decide)
  rintro ⟨c, hc, hupper⟩
  have hno : (!c.isUpper) = true := of_le hlower h hc
  rw [hupper] at hno
  nomatch hno

/-! ## Hosts -/

theorem not_mem_label {d : Char} (halnum : d.isAlphanum = false) (hdash : ('-' != d) = true)
    (h : t ∈ label) : d ∉ t :=
  not_mem_of_le (p := (· != d)) (label_le (bne_of_class halnum) hdash) h (bne_self_eq_false d)

theorem mem_host_of_mem_label (h : t ∈ label) : t ∈ host :=
  ⟨t, ⟨t, h, [], Language.nil_mem_kstar _, List.append_nil t⟩, [], .inl rfl, List.append_nil t⟩

/-- A host is a single label if it has neither a dot nor a colon. -/
theorem mem_label_iff_of_mem_host (h : t ∈ host) : t ∈ label ↔ '.' ∉ t ∧ ':' ∉ t := by
  constructor
  · intro hlabel
    exact ⟨not_mem_label (by decide) (by decide) hlabel,
      not_mem_label (by decide) (by decide) hlabel⟩
  · rintro ⟨hdot, hcolon⟩
    rw [← isHost_iff, isHost, splitFirst?_eq_none hcolon] at h
    have hlabels : ∀ u ∈ splitAll '.' t, isLabel u := List.all_eq_true.1 h
    rw [splitAll_eq_singleton hdot] at hlabels
    exact isLabel_iff.1 (hlabels t (List.mem_singleton_self t))

/-! ## Labels in front of a slash -/

theorem not_isRegistry_of_mem_label (h : t ∈ label) (hupper : HasUpper t) : ¬ IsRegistry t := by
  obtain ⟨hdot, hcolon⟩ := (mem_label_iff_of_mem_host (mem_host_of_mem_label h)).1 h
  rintro (hmem | hmem | rfl)
  · exact hdot hmem
  · exact hcolon hmem
  · have hlower : ∀ c ∈ "localhost".toList, c.isUpper = false := by decide
    obtain ⟨c, hc, hc'⟩ := hupper
    rw [hlower c hc] at hc'
    nomatch hc'

/-- A label in front of a slash is part of the repository. -/
theorem located_of_mem_label (h : t ∈ label) (hupper : HasUpper t) (path : List Char) :
    Located (t ++ '/' :: path) defaultRegistry (t ++ '/' :: path) := by
  refine .unnamed fun first rest heq hslash => ?_
  have ht : '/' ∉ t := slash_not_mem_host (mem_host_of_mem_label h)
  obtain ⟨rfl, -⟩ := append_cons_inj ht hslash heq
  exact not_isRegistry_of_mem_label h hupper

theorem append_mem_name (h : t ∈ host) (hpath : path ∈ separated '/' component) :
    t ++ '/' :: path ∈ name :=
  ⟨t ++ ['/'], .inr ⟨t, h, ['/'], rfl, rfl⟩, path, hpath, by simp⟩

theorem fits_append_iff (h : t ∈ label) (hupper : HasUpper t)
    (hpath : path ∈ separated '/' component) :
    Fits (t ++ '/' :: path) ↔ t.length + 1 + path.length ≤ 255 := by
  have hplain : ¬ InLibrary defaultRegistry (t ++ '/' :: path) := fun hlibrary =>
    hlibrary.2 (by simp)
  have hpart := part_iff.1 (.plain (located_of_mem_label h hupper path) hplain)
  have hlength : (t ++ '/' :: path).length = t.length + 1 + path.length := by
    rw [List.length_append, List.length_cons]
    omega
  rw [fits_iff (append_mem_name (mem_host_of_mem_label h) hpath), hpart, hlength]
  rfl

/-! ## Names -/

theorem mem_name_of_readName {text : String} {n : RepositoryName}
    (h : Repository.readName text = .ok n) : text.toList ∈ name :=
  (fault?_eq_none_iff.1 (exists_readName_iff.1 ⟨n, h⟩)).1

theorem eq_nil_of_hasUpper {s : List Char} (hs : s ∈ name) {before after : List (List Char)}
    (hsplit : splitAll '/' s = before ++ t :: after) (hupper : HasUpper t) :
    before = [] ∧ after ≠ [] ∧ t ∈ host := by
  cases before with
  | nil =>
    obtain ⟨-, hcomponent | ⟨hhost, hafter⟩⟩ := (mem_name_iff hsplit).1 hs
    · exact absurd hupper (not_hasUpper_of_mem_component hcomponent)
    · exact ⟨rfl, hafter, hhost⟩
  | cons first before =>
    obtain ⟨hrest, -⟩ := (mem_name_iff hsplit).1 hs
    exact absurd hupper (not_hasUpper_of_mem_component (hrest t (by simp)))

/-- **Upper-case letters stand in the host.** A component of a name with an upper-case letter is the
first one, a slash follows it, and the grammar takes it for a host; it has a dot or a colon unless
it is a single label. In turn every label with an upper-case letter may stand in front of the path
components of a name that is not too long, and then no registry is split off. -/
theorem host_of_hasUpper (t : List Char) (hupper : HasUpper t) :
    (∀ text n before after, Repository.readName text = .ok n →
      splitAll '/' text.toList = before ++ t :: after →
      before = [] ∧ after ≠ [] ∧ t ∈ host ∧ ('.' ∈ t ∨ ':' ∈ t ↔ t ∉ label)) ∧
    (t ∈ label → ∀ path ∈ separated '/' component,
      ((∃ n, Repository.readName (String.ofList (t ++ '/' :: path)) = .ok n) ↔
        t.length + 1 + path.length ≤ 255) ∧
      Located (t ++ '/' :: path) defaultRegistry (t ++ '/' :: path)) := by
  constructor
  · intro text n before after hread hsplit
    obtain ⟨hbefore, hafter, hhost⟩ := eq_nil_of_hasUpper (mem_name_of_readName hread) hsplit hupper
    refine ⟨hbefore, hafter, hhost, ?_⟩
    rw [mem_label_iff_of_mem_host hhost, ← not_or, not_not]
  · intro ht path hpath
    refine ⟨?_, located_of_mem_label ht hupper path⟩
    rw [exists_readName_iff, String.toList_ofList, fault?_eq_none_iff,
      fits_append_iff ht hupper hpath]
    exact and_iff_right (append_mem_name (mem_host_of_mem_label ht) hpath)

/-- A host with a dot, and a single label. -/
theorem host_of_hasUpper_dotted :
    Repository.readName "Reg.test/svc" = .ok ⟨"Reg.test/svc", by decide⟩ ∧
      HasUpper "Reg.test".toList ∧ "Reg.test".toList ∈ host ∧ "Reg.test".toList ∉ label ∧
      HasUpper "Team".toList ∧ "Team".toList ∈ label ∧
      ∃ n, Repository.readName "Team/svc" = .ok n := by
  have hread : Repository.readName "Reg.test/svc" = .ok ⟨"Reg.test/svc", by decide⟩ := rfl
  have hdotted : HasUpper "Reg.test".toList := ⟨'R', by decide, rfl⟩
  have hbare : HasUpper "Team".toList := ⟨'T', by decide, rfl⟩
  have hlabel : "Team".toList ∈ label := isLabel_iff.1 (by decide)
  have hpath : "svc".toList ∈ separated '/' component :=
    (mem_separated_iff fun _ => slash_not_mem_component).2 fun t ht => by
      rw [splitAll_eq_singleton (by decide), List.mem_singleton] at ht
      rw [ht, ← isPathComponent_iff]
      decide
  obtain ⟨-, -, hhost, hdot⟩ :=
    (host_of_hasUpper _ hdotted).1 "Reg.test/svc" _ [] ["svc".toList] hread (by decide)
  exact ⟨hread, hdotted, hhost, hdot.1 (.inl (by decide)), hbare, hlabel,
    ((host_of_hasUpper _ hbare).2 hlabel _ hpath).1.2 (by decide)⟩

/-- A name with an upper-case letter in a component that no registry is split off at. -/
theorem readName_bareHost : ∃ n, Repository.readName "Team/svc" = .ok n ∧
    splitAll '/' "Team/svc".toList = [] ++ "Team".toList :: ["svc".toList] ∧
    HasUpper "Team".toList ∧ ¬ ('.' ∈ "Team".toList ∨ ':' ∈ "Team".toList) :=
  ⟨⟨"Team/svc", by decide⟩, rfl, by decide, ⟨'T', by decide, rfl⟩, by decide⟩

end TagCatalog.RepositoryName
