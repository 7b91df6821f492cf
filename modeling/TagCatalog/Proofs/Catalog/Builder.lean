import TagCatalog.Catalog.Builder

/-!
# What a builder builds

A builder takes any number of steps, in any order. A step sets one of its five settings, the user
name and the password together, or all of them at once; where two steps set the same, the later one
holds. So whether there is a catalog, and with which settings, is known from the last steps alone.

* `Builder.Step`, `Builder.run`: the steps, and the settings after them;
* `Builder.Field`: one of the settings, and the value that a step sets it to;
* `Field.last`, `Field.last_eq`, `Field.last_eq_start`: the value that the last of the steps sets;
* `Field.get_foldl`, `Field.get_run`, `Builder.run_eq`: each setting has its last value;
* `Builder.build_eq_ok_iff`: the catalog has the settings of its builder, and they are valid;
* **`Builder.build_run`**: what a sequence of steps builds.
-/

namespace TagCatalog.Catalog.Builder

/-! ## Steps -/

/-- A step of building. -/
inductive Step where
  | registryUrl (url : String)
  | credentials (username password : String)
  | nameSpace (name : String)
  | clientSettings (settings : ClientSettings)
  /-- A whole configuration, valid or not. -/
  | config (c : Config)

/-- The settings after a step. -/
def Step.apply (b : Builder) : Step → Builder
  | registryUrl url => b.registryUrl url
  | credentials username password => b.withCredentials username password
  | nameSpace name => b.withNamespace name
  | clientSettings settings => b.withClientSettings settings
  | config c => b.withConfig c

/-- The settings after some steps. -/
def run (steps : List Step) : Builder := steps.foldl Step.apply start

/-! ## Settings -/

variable {α : Type}

/-- One of a builder's settings: a step sets it to a value, or leaves it as it is. -/
structure Field (α : Type) where
  get : Builder → α
  /-- The value that a step sets it to. -/
  set? : Step → Option α
  get_apply : ∀ b s, get (Step.apply b s) = (set? s).getD (get b)

namespace Field

/-- The registry URL. -/
def baseUrl : Field String where
  get b := b.connection.baseUrl
  set?
    | .registryUrl url => some url
    | .config c => some c.connection.baseUrl
    | _ => none
  get_apply _ s := by cases s <;> rfl

/-- The user name. -/
def username : Field (Option String) where
  get b := b.connection.username
  set?
    | .credentials username _ => some (some username)
    | .config c => some c.connection.username
    | _ => none
  get_apply _ s := by cases s <;> rfl

/-- The password. -/
def password : Field (Option String) where
  get b := b.connection.password
  set?
    | .credentials _ password => some (some password)
    | .config c => some c.connection.password
    | _ => none
  get_apply _ s := by cases s <;> rfl

/-- The namespace. -/
def nameSpace : Field (Option String) where
  get b := b.connection.nameSpace
  set?
    | .nameSpace name => some (some name)
    | .config c => some c.connection.nameSpace
    | _ => none
  get_apply _ s := by cases s <;> rfl

/-- The settings of the client. -/
def settings : Field ClientSettings where
  get b := b.settings
  set?
    | .clientSettings settings => some settings
    | .config c => some c.settings
    | _ => none
  get_apply _ s := by cases s <;> rfl

/-- The value that the last of the steps to set it gives, or else the one it starts with. -/
def last (f : Field α) (steps : List Step) : α :=
  (steps.reverse.findSome? f.set?).getD (f.get start)

theorem last_eq (f : Field α) {before after : List Step} {s : Step} {v : α}
    (hs : f.set? s = some v) (hafter : ∀ s' ∈ after, f.set? s' = none) :
    f.last (before ++ s :: after) = v := by
  have hnone : after.reverse.findSome? f.set? = none := by simpa using hafter
  simp [last, List.findSome?_append, hnone, hs]

theorem last_eq_start (f : Field α) {steps : List Step} (h : ∀ s ∈ steps, f.set? s = none) :
    f.last steps = f.get start := by
  have hnone : steps.reverse.findSome? f.set? = none := by simpa using h
  rw [last, hnone, Option.getD_none]

theorem get_foldl (f : Field α) (steps : List Step) (b : Builder) :
    f.get (steps.foldl Step.apply b) = (steps.reverse.findSome? f.set?).getD (f.get b) := by
  induction steps generalizing b with
  | nil => rfl
  | cons s steps ih =>
    rw [List.foldl_cons, ih, f.get_apply, List.reverse_cons, List.findSome?_append]
    -- What a later step sets hides what this one does.
    cases steps.reverse.findSome? f.set? <;> cases h : f.set? s <;> simp [h]

theorem get_run (f : Field α) (steps : List Step) : f.get (run steps) = f.last steps :=
  f.get_foldl steps start

end Field

/-- The connection whose settings are the last that the steps give. -/
def lastConnection (steps : List Step) : Connection :=
  ⟨Field.baseUrl.last steps, Field.username.last steps, Field.password.last steps,
    Field.nameSpace.last steps⟩

theorem run_eq (steps : List Step) :
    run steps = ⟨lastConnection steps, Field.settings.last steps⟩ := by
  simp only [lastConnection, ← Field.get_run]
  rfl

/-! ## Catalogs -/

theorem baseUrl_ne_empty {c : Connection} (h : c.validate = .ok ()) : c.baseUrl ≠ "" := by
  intro hurl
  rw [Connection.validate, hurl] at h
  cases h

/-- A builder's catalog has its settings. They are valid, as those of any catalog are. -/
theorem build_eq_ok_iff {b : Builder} {c : Catalog} :
    b.build = .ok c ↔ c.connection = b.connection ∧ c.settings = b.settings := by
  unfold build ofConnection
  constructor
  · intro h
    split at h
    · cases h
    · split at h
      · cases h
        exact ⟨rfl, rfl⟩
      · cases h
  · rintro ⟨hconnection, hsettings⟩
    obtain ⟨connection, settings, hvalid⟩ := c
    subst hconnection hsettings
    rw [if_neg (baseUrl_ne_empty hvalid)]
    split
    · rfl
    · rename_i e he
      rw [hvalid] at he
      cases he

theorem exists_build_iff {b : Builder} :
    (∃ c, b.build = .ok c) ↔ b.connection.validate = .ok () := by
  constructor
  · rintro ⟨c, h⟩
    rw [← (build_eq_ok_iff.1 h).1]
    exact c.valid
  · exact fun hvalid => ⟨⟨b.connection, b.settings, hvalid⟩, build_eq_ok_iff.2 ⟨rfl, rfl⟩⟩

/-- **What a sequence of steps builds.** There is a catalog exactly if the connection of the last
settings is valid; each of its settings is then the last that the steps give, or the default where
none of them gives it. So no sequence builds a catalog with a connection that is not valid. -/
theorem build_run (steps : List Step) :
    ((∃ c, (run steps).build = .ok c) ↔ (run steps).connection.validate = .ok ()) ∧
    (run steps).connection = lastConnection steps ∧
    ∀ c, (run steps).build = .ok c →
      c.connection.baseUrl = Field.baseUrl.last steps ∧
      c.connection.username = Field.username.last steps ∧
      c.connection.password = Field.password.last steps ∧
      c.connection.nameSpace = Field.nameSpace.last steps ∧
      c.settings = Field.settings.last steps ∧
      c.connection.validate = .ok () := by
  refine ⟨exists_build_iff, by rw [run_eq], fun c h => ?_⟩
  obtain ⟨hconnection, hsettings⟩ := build_eq_ok_iff.1 h
  rw [run_eq] at hconnection hsettings
  rw [hsettings]
  have hvalid := c.valid
  rw [hconnection] at hvalid ⊢
  exact ⟨rfl, rfl, rfl, rfl, rfl, hvalid⟩

/-- Credentials and a namespace, a configuration without them, and settings after it. -/
def configured : List Step :=
  [.credentials "robot" "secret", .nameSpace "team", .registryUrl "nowhere",
    .config ⟨Connection.anonymous "http://reg.test", ⟨5, 1⟩⟩, .clientSettings ⟨60, 20⟩]

theorem build_run_configured : (run configured).connection.validate = .ok () ∧
    ∃ c, (run configured).build = .ok c ∧ c.connection.baseUrl = "http://reg.test" ∧
      c.connection.username = none ∧ c.connection.password = none ∧
      c.connection.nameSpace = none ∧ c.settings = ⟨60, 20⟩ := by
  have hvalid : (run configured).connection.validate = .ok () := rfl
  obtain ⟨c, hc⟩ := (build_run configured).1.2 hvalid
  obtain ⟨hurl, husername, hpassword, hname, hsettings, -⟩ := (build_run configured).2.2 c hc
  exact ⟨hvalid, c, hc, hurl, husername, hpassword, hname, hsettings⟩

end TagCatalog.Catalog.Builder
