import TagCatalog.Proofs.Config.Layers

/-!
# Loading a configuration

A file and the environment are put over the defaults, and what is read from the six settings then is
the configuration, if its connection is valid.

* `Config.effective?_eq`: in a file that can be read every setting has a value;
* `Config.exists_load_eq_finish`, `Config.load_of_not_readable`: loading a plain file, which can be
  read or not;
* `Config.load_of_unset`: loading without variables;
* **`Config.load_of_layers`**: the configurations that are loaded.
-/

namespace TagCatalog.Config

open Yaml

variable {text : String} {entries : List (Node × Node)} {environment : List (String × String)}

theorem exists_ofNode_of_fileValue? {rs : List (String × Setting)} {k : Key} {n : Node}
    (hrs : Setting.ofEntries entries [] = .ok rs) (hvalue : fileValue? entries k = some n) :
    ∃ v, Setting.ofNode n = .ok v := by
  rw [fileValue?] at hvalue
  split at hvalue
  · next fields hfields =>
    obtain ⟨v, hv⟩ := exists_ofNode_of_valueOf? hrs hfields
    obtain ⟨fs, hfs, -⟩ := Setting.ofNode_mapping.mp hv
    exact exists_ofNode_of_valueOf? hfs hvalue
  · exact absurd hvalue.symm (Option.some_ne_none n)

theorem effective?_eq {rs : List (String × Setting)}
    (hrs : Setting.ofEntries entries [] = .ok rs) (k : Key) :
    effective? entries environment k = some (((environmentValue? environment k).map .text).getD
      ((fileSetting? entries k).getD k.default)) := by
  rw [effective?, fileSetting?]
  cases environmentValue? environment k with
  | some text => rfl
  | none =>
    cases hvalue : fileValue? entries k with
    | none => rfl
    | some n =>
      obtain ⟨v, hv⟩ := exists_ofNode_of_fileValue? hrs hvalue
      simp only [Option.bind_some, hv]
      rfl

theorem load_some : load (some text) environment =
    (Config.fileLayer text).bind fun rs => (overlaid rs defaults).bind fun s =>
      (overlaid (Config.environmentLayer environment) s).bind finish := rfl

theorem fileLayer_eq_ok {rs : List (String × Setting)}
    (hfile : document? text = some (some (.mapping entries)))
    (hrs : Setting.ofEntries entries [] = .ok rs) : Config.fileLayer text = .ok rs := by
  unfold Config.fileLayer
  simp only [Setting.ofYaml_of_mapping hfile, hrs]

theorem fileLayer_ne_ok {fault : SettingFault}
    (hfile : document? text = some (some (.mapping entries)))
    (hrs : Setting.ofEntries entries [] = .error fault) (rs : List (String × Setting)) :
    Config.fileLayer text ≠ .ok rs := by
  unfold Config.fileLayer
  cases fault <;> simp [Setting.ofYaml_of_mapping hfile, hrs]

/-- **Loading a plain file that can be read** makes the configuration of a tree that shows the value
of every setting. -/
theorem exists_load_eq_finish {rs : List (String × Setting)}
    (hfile : document? text = some (some (.mapping entries)))
    (hplain : IsPlain entries) (henv : NamesSettings environment)
    (hrs : Setting.ofEntries entries [] = .ok rs) :
    ∃ t value, load (some text) environment = finish t ∧ Shows t value ∧
      ∀ k, effective? entries environment k = some (value k) := by
  obtain ⟨s, hs, hshows⟩ := shows_defaults.fileLayer hplain hrs
  obtain ⟨t, ht, hshows⟩ := hshows.environmentLayer henv
  refine ⟨t, _, ?_, hshows, fun k => effective?_eq hrs k⟩
  simp only [load_some, fileLayer_eq_ok hfile hrs, Except.bind, overlaid, hs, ht]

/-- A file that cannot be read is not loaded. -/
theorem load_of_not_readable {c : Config}
    (hfile : document? text = some (some (.mapping entries)))
    (h : ¬ (Node.mapping entries).Readable) : load (some text) environment ≠ .ok c := by
  cases hrs : Setting.ofEntries entries [] with
  | ok rs => exact absurd (Setting.exists_ofEntries_iff_readable.mp ⟨rs, hrs⟩) h
  | error fault =>
    rw [load_some]
    cases hlayer : Config.fileLayer text with
    | ok rs => exact absurd hlayer (fileLayer_ne_ok hfile hrs rs)
    | error e => exact fun heq => nomatch heq

/-- Where no variable is set, a file is loaded as its text is read. -/
theorem load_of_unset (henv : NamesSettings environment)
    (hunset : ∀ k, environmentValue? environment k = none) :
    load (some text) environment = ofYaml text := by
  have hnil : Config.environmentLayer environment = [] := by
    refine List.eq_nil_iff_forall_not_mem.mpr fun l hl => ?_
    obtain ⟨k, text, rfl⟩ := environmentLayer_paths henv l hl
    have hget := get_environmentLayer henv k
    rw [hunset k] at hget
    exact Setting.get_eq_none_iff.mp hget (List.mem_map_of_mem hl)
  rw [load_some, hnil]
  rfl

/-- **The layers of a configuration.** Let a file hold a plain mapping, and let the variables that
take part be those of the six settings. A configuration is loaded just when the file can be read,
every setting has the value of its variable, else of the file, else its default, read as its type,
and the connection is valid. Files that give the six settings the same values, whatever else stands
in them, are loaded alike. Where no variable is set, a file is loaded as its text is read. -/
theorem load_of_layers
    (hfile : document? text = some (some (.mapping entries)))
    (hplain : IsPlain entries) (henv : NamesSettings environment) :
    (∀ c, load (some text) environment = .ok c ↔
      (Node.mapping entries).Readable ∧ Holds (effective? entries environment) c ∧
        c.connection.validate = .ok ()) ∧
    (∀ text' entries', document? (text') = some (some (.mapping entries')) →
      IsPlain entries' → (Node.mapping entries).Readable → (Node.mapping entries').Readable →
      (∀ k, fileValue? entries' k = fileValue? entries k) →
      load (some text') environment = load (some text) environment) ∧
    ((∀ k, environmentValue? environment k = none) →
      load (some text) environment = ofYaml text) := by
  refine ⟨fun c => ?_, fun text' entries' hfile' hplain' hreadable hreadable' hsame => ?_,
    load_of_unset henv⟩
  · by_cases hreadable : (Node.mapping entries).Readable
    · obtain ⟨rs, hrs⟩ := Setting.exists_ofEntries_iff_readable.mpr hreadable
      obtain ⟨t, value, hload, ht, hvalue⟩ := exists_load_eq_finish hfile hplain henv hrs
      rw [hload, finish_eq_ok_iff ht, ← funext hvalue]
      exact (and_iff_right hreadable).symm
    · exact ⟨fun h => absurd h (load_of_not_readable hfile hreadable), fun h => absurd h.1 hreadable⟩
  · obtain ⟨rs, hrs⟩ := Setting.exists_ofEntries_iff_readable.mpr hreadable
    obtain ⟨rs', hrs'⟩ := Setting.exists_ofEntries_iff_readable.mpr hreadable'
    obtain ⟨t, value, hload, ht, hvalue⟩ := exists_load_eq_finish hfile hplain henv hrs
    obtain ⟨t', value', hload', ht', hvalue'⟩ := exists_load_eq_finish hfile' hplain' henv hrs'
    have heq : value' = value := by
      funext k
      have heffective : effective? entries' environment k = effective? entries environment k := by
        rw [effective?, effective?, hsame k]
      rw [hvalue', hvalue] at heffective
      exact Option.some.inj heffective
    rw [hload, hload', finish_of_shows (heq ▸ ht') ht]

/-- A file with unknown keys, on both levels. -/
def layeredText : String :=
  "registry:\n  base_url: http://reg.test\nnetwork:\n  timeout: 60\n  more: 3\nmore: [1.5]\n"

/-- The mapping of this file. -/
def layeredEntries : List (Node × Node) :=
  [(.text "registry", .mapping [(.text "base_url", .text "http://reg.test")]),
    (.text "network", .mapping [(.text "timeout", .integer 60), (.text "more", .integer 3)]),
    (.text "more", .list [.real "1.5"])]

/-- A variable for a setting of this file, one for another setting, and one that takes no part. -/
def layeredEnvironment : List (String × String) :=
  [("TAGWATCH_NETWORK__TIMEOUT", "on"), ("PATH", "/bin"), ("TAGWATCH_REGISTRY__NAMESPACE", "")]

/-- The same file without its unknown keys. -/
def knownText : String :=
  "network: \x7btimeout: 60\x7d\nregistry: \x7bbase_url: http://reg.test\x7d\n"

/-- The mapping of the file without unknown keys. -/
def knownEntries : List (Node × Node) :=
  [(.text "network", .mapping [(.text "timeout", .integer 60)]),
    (.text "registry", .mapping [(.text "base_url", .text "http://reg.test")])]

/-- The variables win over the file, and the file over the defaults; unknown keys play no part. -/
theorem load_layered :
    load (some layeredText) layeredEnvironment =
      .ok ⟨⟨"http://reg.test", none, none, some ""⟩, ⟨1, 10⟩⟩ ∧
    load (some knownText) layeredEnvironment = load (some layeredText) layeredEnvironment ∧
    load (some layeredText) [] = ofYaml layeredText := by
  have hfile : document? layeredText = some (some (.mapping layeredEntries)) := by
    decide +kernel
  have hplain : IsPlain layeredEntries := by decide +kernel
  have hread : (Node.mapping layeredEntries).Readable := by decide +kernel
  have hnames : NamesSettings layeredEnvironment := by decide +kernel
  have hnone : NamesSettings [] := by decide
  have hlayers := load_of_layers hfile hplain hnames
  have hbare := load_of_layers hfile hplain hnone
  exact ⟨(hlayers.1 _).mpr ⟨hread, by decide +kernel, by decide +kernel⟩,
    hlayers.2.1 knownText knownEntries (by decide +kernel) (by decide +kernel) hread
      (by decide +kernel) (by decide +kernel),
    hbare.2.2 fun _ => rfl⟩

/-- A file in which a number has no value, the time-out. -/
def endlessText : String := "registry:\n  base_url: http://reg.test\nnetwork:\n  timeout: .inf\n"

/-- The mapping of this file. -/
def endlessEntries : List (Node × Node) :=
  [(.text "registry", .mapping [(.text "base_url", .text "http://reg.test")]),
    (.text "network", .mapping [(.text "timeout", .real ".inf")])]

/-- A file with a base URL alone. -/
def shortText : String := "registry:\n  base_url: http://reg.test\n"

/-- The mapping of this file. -/
def shortEntries : List (Node × Node) :=
  [(.text "registry", .mapping [(.text "base_url", .text "http://reg.test")])]

/-- What an unknown key may hold so that its file cannot be read: a number without a value, or a
truth value as a key. -/
def unreadable : List (String × Node) :=
  [("more: .inf\n", .real ".inf"),
    ("more:\n  true: 1\n", .mapping [(.boolean true, .integer 1)])]

/-- **A file that cannot be read is not loaded**, even if all settings have values without what
cannot be read: where a variable is set in its place, or it stands under an unknown key. -/
theorem load_unreadable :
    (document? endlessText = some (some (.mapping endlessEntries)) ∧
      IsPlain endlessEntries ∧ NamesSettings [("TAGWATCH_NETWORK__TIMEOUT", "5")] ∧
      ¬ (load (some endlessText) [("TAGWATCH_NETWORK__TIMEOUT", "5")] =
          .ok ⟨.anonymous "http://reg.test", ⟨5, 10⟩⟩ ↔
        Holds (effective? endlessEntries [("TAGWATCH_NETWORK__TIMEOUT", "5")])
            ⟨.anonymous "http://reg.test", ⟨5, 10⟩⟩ ∧
          (Connection.anonymous "http://reg.test").validate = .ok ())) ∧
    (∀ more ∈ unreadable,
      document? (shortText ++ more.1) =
        some (some (.mapping (shortEntries ++ [(.text "more", more.2)]))) ∧
      IsPlain (shortEntries ++ [(.text "more", more.2)]) ∧
      (∀ k, fileValue? (shortEntries ++ [(.text "more", more.2)]) k = fileValue? shortEntries k) ∧
      load (some (shortText ++ more.1)) [] ≠ load (some shortText) []) := by
  refine ⟨⟨by decide +kernel, by decide +kernel, by decide +kernel, by decide +kernel⟩, ?_⟩
  decide +kernel

end TagCatalog.Config
