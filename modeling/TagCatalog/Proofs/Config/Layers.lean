import Mathlib.Data.List.Induction
import TagCatalog.Proofs.Config.Values
import TagCatalog.Proofs.Setting.Yaml

/-!
# The layers of a configuration

Each of the six settings is decided on its own: by its variable if that is set, else by the file,
else by its default.

* `Config.fileValue?`, `Config.environmentValue?`, `Config.effective?`: the value of a setting;
* `Config.IsPlain`, `Config.NamesSettings`: plain files and environments;
* **`Config.Shows.fileLayer`**: a plain file changes what is shown of the settings that it has values
  for;
* `Config.environmentLayer_append`, **`Config.Shows.environmentLayer`**: the environment changes what
  is shown of the settings whose variables are set.
-/

namespace TagCatalog.Config

open Yaml

variable {text : String} {entries : List (Node × Node)} {environment : List (String × String)}
  {s : Setting} {value : Key → Setting}

/-- The value that a file gives a setting. -/
def fileValue? (entries : List (Node × Node)) (k : Key) : Option Node :=
  match valueOf? k.sectionName entries with
  | some (.mapping fields) => valueOf? k.name fields
  | _ => none

/-- The value that the environment gives a setting: that of its variable. -/
def environmentValue? (environment : List (String × String)) (k : Key) : Option String :=
  (environment.reverse.find? (·.1 == k.variableName)).map (·.2)

/-- The setting that a file gives. -/
def fileSetting? (entries : List (Node × Node)) (k : Key) : Option Setting :=
  (fileValue? entries k).bind fun n => (Setting.ofNode n).toOption

/-- **The value of a setting**: of its variable, else of the file, else its default. A value of the
file may have no setting. -/
def effective? (entries : List (Node × Node)) (environment : List (String × String)) (k : Key) :
    Option Setting :=
  match environmentValue? environment k, fileValue? entries k with
  | some text, _ => some (.text text)
  | none, some n => (Setting.ofNode n).toOption
  | none, none => some k.default

/-- A key that is a plain name. -/
def IsPlainKey : Node → Prop
  | .text name => IsIdentifier name
  | _ => False

instance : DecidablePred IsPlainKey
  | .text name => inferInstanceAs (Decidable (IsIdentifier name))
  | .null | .boolean _ | .integer _ | .real _ | .list _ | .mapping _ | .bad =>
    inferInstanceAs (Decidable False)

/-- A mapping whose keys are plain names. -/
def IsPlainSection : Node → Prop
  | .mapping fields => ∀ e ∈ fields, IsPlainKey e.1
  | _ => False

instance : DecidablePred IsPlainSection
  | .mapping fields => inferInstanceAs (Decidable (∀ e ∈ fields, IsPlainKey e.1))
  | .null | .boolean _ | .integer _ | .real _ | .text _ | .list _ | .bad =>
    inferInstanceAs (Decidable False)

/-- A plain file: all keys of the file and of its two sections are plain names, and the values of
the six settings are scalars. What stands under other names may be anything. -/
structure IsPlain (entries : List (Node × Node)) : Prop where
  keys : ∀ e ∈ entries, IsPlainKey e.1
  sections : ∀ name ∈ Config.sections, ∀ n ∈ valueOf? name entries, IsPlainSection n
  scalars : ∀ k, ∀ n ∈ fileValue? entries k, n.IsScalar

instance : DecidablePred IsPlain := fun entries =>
  decidable_of_iff ((∀ e ∈ entries, IsPlainKey e.1) ∧
    (∀ name ∈ Config.sections, ∀ n ∈ valueOf? name entries, IsPlainSection n) ∧
    ∀ k, ∀ n ∈ fileValue? entries k, n.IsScalar)
    ⟨fun ⟨hkeys, hsections, hscalars⟩ => ⟨hkeys, hsections, hscalars⟩,
      fun ⟨hkeys, hsections, hscalars⟩ => ⟨hkeys, hsections, hscalars⟩⟩

/-- All variables that take part are those of the six settings. -/
def NamesSettings (environment : List (String × String)) : Prop :=
  ∀ v ∈ environment, (variablePath? v.1).isSome → ∃ k : Key, v.1 = k.variableName

instance : DecidablePred NamesSettings := fun environment =>
  inferInstanceAs (Decidable (∀ v ∈ environment, _ → _))

/-! ## The layer of a file -/

theorem IsPlainKey.exists_text {key : Node} (h : IsPlainKey key) :
    ∃ name, key = .text name ∧ IsIdentifier name := by
  cases key with
  | text name => exact ⟨name, rfl, h⟩
  | _ => exact h.elim

theorem isIdentifier_of_ofEntries {rs : List (String × Setting)}
    (hkeys : ∀ e ∈ entries, IsPlainKey e.1) (h : Setting.ofEntries entries [] = .ok rs)
    {r : String × Setting} (hr : r ∈ rs) : IsIdentifier r.1 := by
  obtain hnil | ⟨e, he, hname⟩ := Setting.mem_ofEntries h hr
  · nomatch hnil
  · obtain ⟨name, hkey, hplain⟩ := (hkeys e he).exists_text
    rw [hkey, Setting.nameOf?, Option.some.injEq] at hname
    exact hname ▸ hplain

theorem IsPlainSection.exists_mapping {n : Node} (h : IsPlainSection n) :
    ∃ fields, n = .mapping fields ∧ ∀ e ∈ fields, IsPlainKey e.1 := by
  cases n with
  | mapping fields => exact ⟨fields, rfl, h⟩
  | _ => exact h.elim

theorem get_mergeAll_ofEntries {rs : List (String × Setting)} {m : String}
    (hkeys : ∀ e ∈ entries, IsPlainKey e.1) (h : Setting.ofEntries entries [] = .ok rs) :
    (Setting.mergeAll rs s).get m =
      match (valueOf? m entries).bind fun n => (Setting.ofNode n).toOption with
      | some v => some (v.onto (s.get m))
      | none => s.get m := by
  rw [Setting.get_mergeAll
    (fun r hr => (isIdentifier_of_ofEntries hkeys h hr).lowerName_eq)
    (Setting.nodup_ofEntries h List.nodup_nil), Setting.get_ofEntries h]
  cases valueOf? m entries <;> rfl

theorem exists_ofNode_of_valueOf? {rs : List (String × Setting)} {m : String} {n : Node}
    (h : Setting.ofEntries entries [] = .ok rs) (hvalue : valueOf? m entries = some n) :
    ∃ v, Setting.ofNode n = .ok v := by
  obtain ⟨e, hfind, rfl⟩ := Option.map_eq_some_iff.mp hvalue
  have he : e ∈ entries := List.mem_reverse.mp (List.mem_of_find?_eq_some hfind)
  exact (Setting.exists_ofNode_iff _).mpr
    ((Setting.exists_ofEntries_iff entries []).mp ⟨rs, h⟩ e he).2

/-- **The layer of a plain file** gives its values to the settings that it has values for. -/
theorem Shows.fileLayer {rs : List (String × Setting)} (hplain : IsPlain entries)
    (hrs : Setting.ofEntries entries [] = .ok rs) (hs : Shows s value) :
    ∃ t, s.layer? rs = some t ∧
      Shows t fun k => (fileSetting? entries k).getD (value k) := by
  refine ⟨_, Setting.layer?_of_identifiers fun r hr =>
    isIdentifier_of_ofEntries hplain.keys hrs hr, fun name hname => ?_⟩
  obtain ⟨fields, hfields, hget⟩ := hs name hname
  rw [get_mergeAll_ofEntries hplain.keys hrs]
  cases hvalue : valueOf? name entries with
  | none =>
    -- the section is not in the file
    refine ⟨fields, hfields, fun k hk => ?_⟩
    have hnone : fileSetting? entries k = none := by
      rw [fileSetting?, fileValue?, hk, hvalue]
      rfl
    beta_reduce
    rw [hnone]
    exact hget k hk
  | some n =>
    obtain ⟨es, rfl, hkeys⟩ := (hplain.sections name hname n hvalue).exists_mapping
    obtain ⟨v, hv⟩ := exists_ofNode_of_valueOf? hrs hvalue
    obtain ⟨fs, hfs, rfl⟩ := Setting.ofNode_mapping.mp hv
    obtain ⟨ts, hts⟩ := Setting.exists_mergeAll_table fs fields
    refine ⟨ts, ?_, fun k hk => ?_⟩
    · rw [Option.bind_some, hv, hfields, ← hts]
      rfl
    · have hk' : fileValue? entries k = valueOf? k.name es := by
        rw [fileValue?, hk, hvalue]
      have hsetting : fileSetting? entries k =
          (valueOf? k.name es).bind fun n => (Setting.ofNode n).toOption := by
        rw [fileSetting?, hk']
      beta_reduce
      rw [← hts, get_mergeAll_ofEntries hkeys hfs, hsetting, hget k hk]
      cases hn : valueOf? k.name es with
      | none => rfl
      | some n =>
        obtain ⟨w, hw⟩ := exists_ofNode_of_valueOf? hfs hn
        rw [Option.bind_some, hw]
        exact congrArg some (Setting.onto_of_isScalar (hplain.scalars k n (hk'.trans hn)) hw _)

/-! ## The layer of the environment -/

theorem environmentLayer_append {v : String × String} (h : NamesSettings (environment ++ [v])) :
    (∃ k : Key, v.1 = k.variableName ∧ environmentLayer (environment ++ [v]) =
      Setting.replaceIn k.path (.text v.2) (environmentLayer environment)) ∨
    (∀ k : Key, v.1 ≠ k.variableName) ∧
      environmentLayer (environment ++ [v]) = environmentLayer environment := by
  cases hpath : variablePath? v.1 with
  | none =>
    refine .inr ⟨fun k hk => ?_, ?_⟩
    · rw [hk, k.variablePath?_variableName] at hpath
      exact absurd hpath (Option.some_ne_none _)
    · rw [environmentLayer, List.foldl_append, List.foldl_cons, List.foldl_nil]
      simp only [hpath]
      rfl
  | some path =>
    obtain ⟨k, hk⟩ := h v (List.mem_append_right _ (List.mem_singleton_self v)) (by rw [hpath]; rfl)
    have hpath' := hpath
    rw [hk, k.variablePath?_variableName, Option.some.injEq] at hpath'
    refine .inl ⟨k, hk, ?_⟩
    rw [environmentLayer, List.foldl_append, List.foldl_cons, List.foldl_nil]
    simp only [hpath, hpath']
    rfl

theorem environmentValue?_append (v : String × String) (k : Key) :
    environmentValue? (environment ++ [v]) k =
      if v.1 = k.variableName then some v.2 else environmentValue? environment k := by
  rw [environmentValue?, environmentValue?, List.reverse_append]
  by_cases h : v.1 = k.variableName <;> simp [h]

theorem NamesSettings.of_append {v : String × String} (h : NamesSettings (environment ++ [v])) :
    NamesSettings environment :=
  fun w hw => h w (List.mem_append_left _ hw)

theorem environmentLayer_paths (h : NamesSettings environment) :
    ∀ l ∈ environmentLayer environment, ∃ (k : Key) (text : String), l = (k.path, .text text) := by
  induction environment using List.reverseRecOn with
  | nil => exact fun l hl => (List.not_mem_nil hl).elim
  | append_singleton environment v ih =>
    intro l hl
    obtain ⟨k, -, hlayer⟩ | ⟨-, hlayer⟩ := environmentLayer_append h <;> rw [hlayer] at hl
    · obtain rfl | hl := Setting.mem_replaceIn hl
      · exact ⟨k, v.2, rfl⟩
      · exact ih h.of_append l hl
    · exact ih h.of_append l hl

theorem nodup_environmentLayer (h : NamesSettings environment) :
    ((environmentLayer environment).map (·.1)).Nodup := by
  induction environment using List.reverseRecOn with
  | nil => exact List.nodup_nil
  | append_singleton environment v ih =>
    obtain ⟨k, -, hlayer⟩ | ⟨-, hlayer⟩ := environmentLayer_append h <;> rw [hlayer]
    · exact Setting.nodup_replaceIn (ih h.of_append)
    · exact ih h.of_append

theorem get_environmentLayer (h : NamesSettings environment) (k : Key) :
    (Setting.table (environmentLayer environment)).get k.path =
      (environmentValue? environment k).map .text := by
  induction environment using List.reverseRecOn with
  | nil => rfl
  | append_singleton environment v ih =>
    rw [environmentValue?_append]
    obtain ⟨j, hj, hlayer⟩ | ⟨hnone, hlayer⟩ := environmentLayer_append h <;> rw [hlayer]
    · rw [Setting.get_replaceIn, hj, ih h.of_append]
      by_cases hjk : j = k
      · rw [hjk, if_pos rfl, if_pos rfl]
        rfl
      · rw [if_neg (Key.path_injective.ne hjk), if_neg (Key.variableName_injective.ne hjk)]
    · rw [ih h.of_append, if_neg (hnone k)]

theorem Shows.layer?_of_paths {ls : List (String × Setting)}
    (hpaths : ∀ l ∈ ls, ∃ (k : Key) (text : String), l = (k.path, .text text))
    (hnames : (ls.map (·.1)).Nodup) (hs : Shows s value) :
    ∃ t, s.layer? ls = some t ∧
      Shows t fun k => ((Setting.table ls).get k.path).getD (value k) := by
  induction ls generalizing s value with
  | nil => exact ⟨s, rfl, hs⟩
  | cons l ls ih =>
    obtain ⟨k, text, rfl⟩ := hpaths _ List.mem_cons_self
    obtain ⟨hnew, hnames⟩ := List.nodup_cons.mp hnames
    obtain ⟨s', hinsert, hs'⟩ := hs.insert? k text
    obtain ⟨t, hlayer, ht⟩ := ih (fun l hl => hpaths l (List.mem_cons_of_mem _ hl)) hnames hs'
    refine ⟨t, ?_, ?_⟩
    · rw [Setting.layer?, List.foldlM_cons, hinsert]
      exact hlayer
    · have hvalues : (fun j : Key => ((Setting.table ((k.path, .text text) :: ls)).get j.path).getD
          (value j)) = fun j : Key => ((Setting.table ls).get j.path).getD
            (Function.update value k (.text text) j) := by
        funext j
        rw [Setting.get_table_cons]
        by_cases hkj : k = j
        · -- no later text has the same path
          rw [← hkj, if_pos rfl, Setting.get_eq_none_iff.mpr hnew, Function.update_self]
          rfl
        · rw [if_neg (Key.path_injective.ne hkj), Function.update_of_ne (Ne.symm hkj)]
      rw [hvalues]
      exact ht

/-- **The layer of the environment** gives the variables that are set to their settings. -/
theorem Shows.environmentLayer (henv : NamesSettings environment) (hs : Shows s value) :
    ∃ t, s.layer? (Config.environmentLayer environment) = some t ∧
      Shows t fun k => ((environmentValue? environment k).map .text).getD (value k) := by
  obtain ⟨t, hlayer, ht⟩ :=
    hs.layer?_of_paths (environmentLayer_paths henv) (nodup_environmentLayer henv)
  refine ⟨t, hlayer, ?_⟩
  simpa only [get_environmentLayer henv] using ht

end TagCatalog.Config
