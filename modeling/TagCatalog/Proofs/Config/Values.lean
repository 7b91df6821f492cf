import Mathlib.Data.Fintype.Defs
import Mathlib.Logic.Function.Basic
import TagCatalog.Config
import TagCatalog.Proofs.Setting.Merge

/-!
# The six settings

A configuration is read from six settings. A tree of settings shows a value for each of them,
whatever else stands in the tree.

* `Config.Key`: the settings, each with its section, its name, its variable and its default;
* `Config.Holds`: a configuration has the values of the settings, each read as its type;
* `Config.Shows`: a tree shows values;
* `Config.shows_defaults`, **`Config.finish_of_shows`**: the configuration of a tree depends only on
  what the tree shows;
* `Config.Shows.insert?`: a value put in the place of one setting changes what is shown of that
  setting alone.
-/

namespace TagCatalog.Config

/-- A setting of a service. -/
inductive Key where
  | baseUrl
  | username
  | password
  | nameSpace
  | timeout
  | maxIdlePerHost
  deriving DecidableEq, Repr

namespace Key

instance : Fintype Key where
  elems := ⟨[baseUrl, username, password, nameSpace, timeout, maxIdlePerHost], by decide⟩
  complete k := by cases k <;> decide

/-- The section of a setting. -/
def sectionName : Key → String
  | baseUrl | username | password | nameSpace => "registry"
  | timeout | maxIdlePerHost => "network"

/-- The name of a setting in its section. -/
def name : Key → String
  | baseUrl => "base_url"
  | username => "username"
  | password => "password"
  | nameSpace => "namespace"
  | timeout => "timeout"
  | maxIdlePerHost => "max_idle_per_host"

/-- The path of a setting. -/
def path (k : Key) : String := k.sectionName ++ "." ++ k.name

/-- The variable of a setting. -/
def variableName : Key → String
  | baseUrl => "TAGWATCH_REGISTRY__BASE_URL"
  | username => "TAGWATCH_REGISTRY__USERNAME"
  | password => "TAGWATCH_REGISTRY__PASSWORD"
  | nameSpace => "TAGWATCH_REGISTRY__NAMESPACE"
  | timeout => "TAGWATCH_NETWORK__TIMEOUT"
  | maxIdlePerHost => "TAGWATCH_NETWORK__MAX_IDLE_PER_HOST"

/-- The default of a setting. -/
def default : Key → Setting
  | baseUrl => .text ""
  | username | password | nameSpace => .null
  | timeout => .integer 30
  | maxIdlePerHost => .integer 10

theorem sectionName_mem (k : Key) : k.sectionName ∈ sections := by
  cases k <;> decide

theorem isIdentifier_name (k : Key) : IsIdentifier k.name := by
  cases k <;> decide

theorem path_injective : Function.Injective path := by
  intro j k
  cases j <;> cases k <;> decide

theorem variableName_injective : Function.Injective variableName := by
  intro j k
  cases j <;> cases k <;> decide

theorem eq_of_name {j k : Key} (hsection : j.sectionName = k.sectionName) (hname : j.name = k.name) :
    j = k :=
  path_injective (by rw [path, path, hsection, hname])

theorem ofText_path (k : Key) : Path.ofText k.path = [.name k.sectionName, .name k.name] := by
  cases k <;> decide +kernel

theorem variablePath?_variableName (k : Key) : variablePath? k.variableName = some k.path := by
  cases k <;> decide +kernel

end Key

/-! ## Values of the settings -/

/-- A configuration has the values of the settings, each read as its type. -/
structure Holds (value? : Key → Option Setting) (c : Config) : Prop where
  baseUrl : (value? .baseUrl).bind Setting.text? = some c.connection.baseUrl
  username :
    (value? .username).bind (Setting.optional? Setting.text?) = some c.connection.username
  password :
    (value? .password).bind (Setting.optional? Setting.text?) = some c.connection.password
  nameSpace :
    (value? .nameSpace).bind (Setting.optional? Setting.text?) = some c.connection.nameSpace
  timeout : (value? .timeout).bind Setting.uint64? = some c.settings.timeout
  maxIdlePerHost :
    (value? .maxIdlePerHost).bind Setting.uint64? = some c.settings.maxIdlePerHost

instance (value? : Key → Option Setting) (c : Config) : Decidable (Holds value? c) :=
  decidable_of_iff
    ((value? .baseUrl).bind Setting.text? = some c.connection.baseUrl ∧
      (value? .username).bind (Setting.optional? Setting.text?) = some c.connection.username ∧
      (value? .password).bind (Setting.optional? Setting.text?) = some c.connection.password ∧
      (value? .nameSpace).bind (Setting.optional? Setting.text?) = some c.connection.nameSpace ∧
      (value? .timeout).bind Setting.uint64? = some c.settings.timeout ∧
      (value? .maxIdlePerHost).bind Setting.uint64? = some c.settings.maxIdlePerHost)
    ⟨fun ⟨h1, h2, h3, h4, h5, h6⟩ => ⟨h1, h2, h3, h4, h5, h6⟩,
      fun ⟨h1, h2, h3, h4, h5, h6⟩ => ⟨h1, h2, h3, h4, h5, h6⟩⟩

/-- A tree of settings shows values: both sections are tables, in which they stand. -/
def Shows (s : Setting) (value : Key → Setting) : Prop :=
  ∀ name ∈ sections, ∃ fields, s.get name = some (.table fields) ∧
    ∀ k : Key, k.sectionName = name → (Setting.table fields).get k.name = some (value k)

variable {s t : Setting} {value : Key → Setting} {c : Config}

theorem shows_defaults : Shows defaults Key.default := by
  intro name hname
  simp only [sections, List.mem_cons, List.not_mem_nil, or_false] at hname
  obtain rfl | rfl := hname
  · refine ⟨_, rfl, fun k hk => ?_⟩
    cases k with
    | baseUrl | username | password | nameSpace => rfl
    | timeout | maxIdlePerHost => exact absurd hk (by decide)
  · refine ⟨_, rfl, fun k hk => ?_⟩
    cases k with
    | timeout | maxIdlePerHost => rfl
    | baseUrl | username | password | nameSpace => exact absurd hk (by decide)

theorem fields?_of_get {name : String} {v : Setting} (h : s.get name = some v)
    (names : List String) : s.fields? names = some (names.map s.get) := by
  cases s with
  | table es => rfl
  | _ => nomatch h

theorem connectionOf?_eq_some_iff {fields : List (String × Setting)} {d : Connection}
    (h : ∀ k : Key, k.sectionName = "registry" →
      (Setting.table fields).get k.name = some (value k)) :
    connectionOf? (.table fields) = some d ↔
      Setting.text? (value .baseUrl) = some d.baseUrl ∧
      Setting.optional? Setting.text? (value .username) = some d.username ∧
      Setting.optional? Setting.text? (value .password) = some d.password ∧
      Setting.optional? Setting.text? (value .nameSpace) = some d.nameSpace := by
  have hfields : (Setting.table fields).fields? connectionFields =
      some [some (value .baseUrl), some (value .username), some (value .password),
        some (value .nameSpace)] := by
    rw [fields?_of_get (h .baseUrl rfl), ← h .baseUrl rfl, ← h .username rfl, ← h .password rfl,
      ← h .nameSpace rfl]
    rfl
  obtain ⟨url, username, password, name⟩ := d
  simp [connectionOf?, hfields, Setting.fieldOr?, Option.bind_eq_some_iff]

theorem clientOf?_eq_some_iff {fields : List (String × Setting)} {d : ClientSettings}
    (h : ∀ k : Key, k.sectionName = "network" →
      (Setting.table fields).get k.name = some (value k)) :
    clientOf? (.table fields) = some d ↔
      Setting.uint64? (value .timeout) = some d.timeout ∧
      Setting.uint64? (value .maxIdlePerHost) = some d.maxIdlePerHost := by
  have hfields : (Setting.table fields).fields? clientFields =
      some [some (value .timeout), some (value .maxIdlePerHost)] := by
    rw [fields?_of_get (h .timeout rfl), ← h .timeout rfl, ← h .maxIdlePerHost rfl]
    rfl
  obtain ⟨timeout, idle⟩ := d
  simp [clientOf?, hfields, Setting.fieldOr?, Option.bind_eq_some_iff]

/-- **What a tree shows is what is read from it.** -/
theorem decode?_eq_some_iff (h : Shows s value) :
    decode? s = some c ↔ Holds (fun k => some (value k)) c := by
  obtain ⟨registry, hregistry, hr⟩ := h "registry" (by decide)
  obtain ⟨network, hnetwork, hn⟩ := h "network" (by decide)
  have hsections : s.fields? sections = some [some (.table registry), some (.table network)] := by
    rw [fields?_of_get hregistry, ← hregistry, ← hnetwork]
    rfl
  obtain ⟨connection, settings⟩ := c
  have hboth : decode? s = some ⟨connection, settings⟩ ↔
      connectionOf? (.table registry) = some connection ∧
        clientOf? (.table network) = some settings := by
    simp [decode?, hsections, Setting.fieldOr?, Option.bind_eq_some_iff]
  rw [hboth, connectionOf?_eq_some_iff hr, clientOf?_eq_some_iff hn]
  constructor
  · rintro ⟨⟨hurl, husername, hpassword, hname⟩, htimeout, hidle⟩
    exact ⟨hurl, husername, hpassword, hname, htimeout, hidle⟩
  · rintro ⟨hurl, husername, hpassword, hname, htimeout, hidle⟩
    exact ⟨⟨hurl, husername, hpassword, hname⟩, htimeout, hidle⟩

theorem finish_eq_ok_iff (h : Shows s value) :
    finish s = .ok c ↔ Holds (fun k => some (value k)) c ∧ c.connection.validate = .ok () := by
  rw [← decode?_eq_some_iff h, finish]
  cases decode? s with
  | none => simp
  | some d =>
    cases hvalid : d.connection.validate with
    | ok u =>
      simp only [hvalid, Except.ok.injEq, Option.some.injEq]
      exact ⟨fun heq => ⟨heq, heq ▸ hvalid⟩, And.left⟩
    | error e =>
      simp only [hvalid, reduceCtorEq, Option.some.injEq, false_iff]
      rintro ⟨rfl, hok⟩
      rw [hvalid] at hok
      nomatch hok

/-- **Trees that show the same values give the same configuration, or the same error.** -/
theorem finish_of_shows (hs : Shows s value) (ht : Shows t value) : finish s = finish t := by
  have hdecode : decode? s = decode? t :=
    Option.ext fun c => (decode?_eq_some_iff hs).trans (decode?_eq_some_iff ht).symm
  rw [finish, finish, hdecode]

/-! ## One setting -/

/-- **A value put in the place of one setting** changes what is shown of that setting alone. -/
theorem Shows.insert? (h : Shows s value) (k : Key) (text : String) :
    ∃ t, s.insert? k.path (.text text) = some t ∧
      Shows t (Function.update value k (.text text)) := by
  obtain ⟨fields, hfields, hget⟩ := h k.sectionName k.sectionName_mem
  refine ⟨s.put k.sectionName ((Setting.table fields).put k.name (.text text)), ?_, ?_⟩
  · rw [Setting.insert?, k.ofText_path]
    simp only [Setting.assign?, hfields, Option.getD_some, Setting.merge,
      k.isIdentifier_name.lowerName_eq]
    rfl
  · intro name hname
    rw [Setting.get_put]
    split
    · next heq =>
      refine ⟨_, rfl, fun j hj => ?_⟩
      rw [Setting.get_replaceIn, Function.update_apply]
      by_cases hjk : j = k
      · rw [if_pos hjk, if_pos (congrArg Key.name hjk).symm]
      · have hne : k.name ≠ j.name := fun hname =>
          hjk (Key.eq_of_name (hj.trans heq.symm) hname.symm)
        rw [if_neg hjk, if_neg hne]
        exact hget j (hj.trans heq.symm)
    · next hne =>
      obtain ⟨fields, hfields, hget⟩ := h name hname
      refine ⟨fields, hfields, fun j hj => ?_⟩
      rw [Function.update_of_ne (fun heq : j = k => hne (heq ▸ hj)), hget j hj]

end TagCatalog.Config
