import TagCatalog.Proofs.Registry.Address
import TagCatalog.Proofs.Registry.Manifest

/-!
# Printed references

A reference is printed with the base URL of the connection, from which blanks around it and then
slashes at its end are cut off; the client that asks the registry has the same cut off once more. The
two texts are equal unless a blank stands in front of these slashes.

* `normalizedUrl_eq_self_iff`: the URLs from which nothing is cut off;
* `IsRagged`, `normalizedUrl_normalizedUrl_eq_iff`: the URLs from which something is cut off twice;
* **`Catalog.fullReference_of_resolve`**: the printed reference and the registry that is asked.
-/

namespace TagCatalog

variable {url : String}

/-! ## Cutting off twice -/

/-- Nothing is cut off a URL that neither begins nor ends with a blank and does not end in a
slash. -/
theorem normalizedUrl_eq_self_iff : normalizedUrl url = url ↔
    (∀ c ∈ url.toList.head?, Text.isBlank c = false) ∧
      ∀ c ∈ url.toList.getLast?, Text.isBlank c = false ∧ (c == '/') = false := by
  constructor
  · intro h
    have hlist : Text.dropEnd (· == '/') (Text.trim url.toList) = url.toList := by
      rw [← String.toList_ofList (l := Text.dropEnd _ _), ← normalizedUrl, h]
    have hsub := Text.dropEnd_sublist (· == '/') (Text.trim url.toList)
    rw [hlist] at hsub
    have htrim := (Text.trim_sublist url.toList).antisymm hsub
    have hblank := Text.getLast?_dropEnd Text.isBlank (Text.trimStart url.toList)
    have hslash := Text.getLast?_dropEnd (· == '/') (Text.trim url.toList)
    rw [← Text.trimEnd, ← Text.trim, htrim] at hblank
    rw [hlist] at hslash
    exact ⟨h ▸ head?_normalizedUrl url, fun c hc => ⟨hblank c hc, hslash c hc⟩⟩
  · rintro ⟨hhead, hlast⟩
    rw [normalizedUrl, Text.trim_eq_self hhead fun c hc => (hlast c hc).1,
      Text.dropEnd_eq_self fun c hc => (hlast c hc).2, String.ofList_toList]

/-- A blank stands in front of the slashes at the end of a URL, the blanks around it left out. -/
def IsRagged (url : String) : Prop :=
  ∃ front c slashes, Text.trim url.toList = front ++ c :: slashes ∧ Text.isBlank c ∧
    ∀ d ∈ slashes, d = '/'

theorem isRagged_iff : IsRagged url ↔
    ∃ c ∈ (normalizedUrl url).toList.getLast?, Text.isBlank c := by
  rw [normalizedUrl, String.toList_ofList]
  constructor
  · rintro ⟨front, c, slashes, hsplit, hblank, hslashes⟩
    have hall : slashes.all (· == '/') := List.all_eq_true.2 fun d hd => beq_iff_eq.2 (hslashes d hd)
    have hc : (c == '/') = false := by
      rw [beq_eq_false_iff_ne]
      rintro rfl
      exact absurd hblank (by decide)
    have hshape : front ++ c :: slashes = (front ++ [c]) ++ slashes := by simp
    rw [hsplit, hshape, Text.dropEnd_append_of_all hall,
      Text.dropEnd_concat_of_neg (p := (· == '/')) hc, List.getLast?_concat]
    exact ⟨c, rfl, hblank⟩
  · rintro ⟨c, hc, hblank⟩
    obtain ⟨slashes, hslashes, hsplit⟩ :=
      Text.exists_eq_dropEnd_append (· == '/') (Text.trim url.toList)
    obtain ⟨front, hfront⟩ := List.getLast?_eq_some_iff.1 hc
    refine ⟨front, c, slashes, ?_, hblank, fun d hd => beq_iff_eq.1 (hslashes d hd)⟩
    rw [hfront, List.append_assoc] at hsplit
    exact hsplit

/-- A second time something is cut off only where a blank has become the last character. -/
theorem normalizedUrl_normalizedUrl_eq_iff :
    normalizedUrl (normalizedUrl url) = normalizedUrl url ↔ ¬ IsRagged url := by
  have hslash : ∀ c ∈ (normalizedUrl url).toList.getLast?, (c == '/') = false := by
    rw [normalizedUrl, String.toList_ofList]
    exact Text.getLast?_dropEnd _ _
  rw [normalizedUrl_eq_self_iff, isRagged_iff]
  constructor
  · rintro ⟨-, hlast⟩ ⟨c, hc, hblank⟩
    exact Bool.false_ne_true ((hlast c hc).1.symm.trans hblank)
  · intro h
    refine ⟨head?_normalizedUrl url, fun c hc => ⟨?_, hslash c hc⟩⟩
    exact Bool.eq_false_iff.2 fun hblank => h ⟨c, hc, hblank⟩

/-! ## References -/

namespace Catalog

/-- **The printed reference and the registry that is asked.** The handle that resolves a repository
asks the registry URL without what is cut off twice, for the qualified name. The printed reference
is that URL, the blanks and slashes that only the client cuts off, and the name with the tag; so it
names what is asked exactly if the base URL has no blank in front of the slashes at its end. -/
theorem fullReference_of_resolve (c : Catalog) (repository : String) (w : World) (t log : Trace)
    (handle : Repository)
    (h : (Repository.resolve c.connection repository).run w t = (.ok handle, t ++ log)) :
    handle.client.registryUrl = normalizedUrl c.connection.registryUrl ∧
      handle.name.text = c.connection.qualify repository ∧
      (∃ filler : String, (∀ ch ∈ filler.toList, Url.isFiller ch) ∧ ∀ tag,
        c.fullReference repository tag =
          handle.client.registryUrl ++ filler ++ "/" ++ handle.name.text ++ ":" ++ tag) ∧
      (normalizedUrl c.connection.registryUrl = c.connection.registryUrl ↔
        ¬ IsRagged c.connection.baseUrl) ∧
      ∀ tag, c.fullReference repository tag =
          handle.client.registryUrl ++ "/" ++ handle.name.text ++ ":" ++ tag ↔
        ¬ IsRagged c.connection.baseUrl := by
  have hy := Session.yields_of_run h
  have hclient : handle.client = c.connection.client :=
    Except.ok.inj ((Client.client_of_yields_resolve hy).1.symm.trans
      (Connection.ofUrl_registryUrl c.valid))
  have hname : handle.name.text = c.connection.qualify repository :=
    RepositoryName.text_of_readName (Client.readName_of_yields_resolve hy)
  have htwice : normalizedUrl c.connection.registryUrl = c.connection.registryUrl ↔
      ¬ IsRagged c.connection.baseUrl := normalizedUrl_normalizedUrl_eq_iff
  have hurl : handle.client.registryUrl = normalizedUrl c.connection.registryUrl := by
    rw [hclient, Connection.client]
  obtain ⟨filler, hfiller, hsplit⟩ :=
    exists_append_of_head? (head?_normalizedUrl c.connection.baseUrl)
  refine ⟨hurl, hname, ⟨filler, hfiller, fun tag => ?_⟩, htwice, fun tag => ?_⟩
  · rw [fullReference, hname, hurl, Connection.registryUrl, ← hsplit]
  · rw [fullReference, hname, hurl, ← htwice, String.append_left_inj, String.append_left_inj,
      String.append_left_inj, String.append_left_inj]
    exact eq_comm

/-- At the registry of a host the reference names what is asked. -/
theorem fullReference_of_resolve_host :
    ∃ handle log, (Repository.resolve hostCatalog.connection "svc").run
        (hostCatalog.world oneTag) [] = (.ok handle, [] ++ log) ∧
      hostCatalog.fullReference "svc" "v1" =
        handle.client.registryUrl ++ "/" ++ handle.name.text ++ ":" ++ "v1" := by
  obtain ⟨handle, log, hrun⟩ : ∃ handle log,
      (Repository.resolve hostCatalog.connection "svc").run (hostCatalog.world oneTag) [] =
        (.ok handle, [] ++ log) := Session.exists_run_of_toBool (by decide +kernel)
  obtain ⟨-, -, -, htwice, href⟩ := fullReference_of_resolve hostCatalog "svc" _ _ _ handle hrun
  exact ⟨handle, log, hrun, (href "v1").2 (htwice.1 (by decide +kernel))⟩

/-- A catalog whose base URL has a blank in front of the slash at its end. -/
def raggedCatalog : Catalog := ⟨.anonymous "http://reg.test/a /", .default, by decide +kernel⟩

/-- The reference that is printed there is not below the URL that is asked. -/
theorem fullReference_raggedCatalog_ne :
    ∃ handle log, (Repository.resolve raggedCatalog.connection "svc").run
        (raggedCatalog.world oneTag) [] = (.ok handle, [] ++ log) ∧
      handle.client.registryUrl = "http://reg.test/a" ∧ handle.name.text = "svc" ∧
      raggedCatalog.fullReference "svc" "v1" = "http://reg.test/a /svc:v1" ∧
      normalizedUrl raggedCatalog.connection.registryUrl ≠
        raggedCatalog.connection.registryUrl := by
  obtain ⟨handle, log, hrun⟩ : ∃ handle log,
      (Repository.resolve raggedCatalog.connection "svc").run (raggedCatalog.world oneTag) [] =
        (.ok handle, [] ++ log) := Session.exists_run_of_toBool (by decide +kernel)
  have hy := Session.yields_of_run hrun
  refine ⟨handle, log, hrun, ?_, ?_, by decide +kernel, by decide +kernel⟩
  · have hclient : Client.ofUrl raggedCatalog.connection.registryUrl =
        .ok ⟨"http://reg.test/a"⟩ := by decide +kernel
    rw [Except.ok.inj ((Client.client_of_yields_resolve hy).1.symm.trans hclient)]
  · exact RepositoryName.text_of_readName (Client.readName_of_yields_resolve hy)

end Catalog

end TagCatalog
