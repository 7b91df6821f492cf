import TagCatalog.Catalog
import TagCatalog.Proofs.Auth.Alike

/-!
# Catalogs that differ in the password

What a service does hangs on its password in one way only: the password is part of the values of
`Authorization` headers. So a registry that does not look at these values cannot tell two services
apart that differ in nothing else, and neither can their callers: the results are the same, with
every message and status of an error.

* `Client.probe_alike`, `Client.listTags_alike`, `Client.tagDigest_alike`: the calls of a client;
* `Repository.resolve_alike`: a handle is the same whatever the password;
* **`Catalog.eq_of_password`**: the results and the requests of two services.
-/

namespace TagCatalog

namespace Client

variable (c : Client) (a : Authorizer)

theorem probe_alike : Session.Alike Eq c.probe c.probe := by
  unfold probe
  split
  · exact .fail _
  · refine (Http.exchange_alike ⟨rfl, rfl⟩).bind ?_
    rintro sent _ rfl
    cases sent with
    | error e => exact .fail _
    | ok response => exact Session.alike_ofExcept _

theorem send_alike (call : Http.Call) : Session.Alike Eq (c.send a call) (c.send a call) := by
  unfold send
  refine a.headerValue_alike.bind fun header header' h => ?_
  refine (Http.exchange_alike (call.alike_authorize h)).bind ?_
  rintro sent _ rfl
  cases sent with
  | error e => exact .fail _
  | ok response => exact .done rfl

theorem listFrom_alike (limit : Nat) (visited : List Url) (url : Url) :
    Session.Alike Eq (c.listFrom a limit visited url) (c.listFrom a limit visited url) := by
  induction limit generalizing visited url with
  | zero => exact .fail _
  | succ limit ih =>
    unfold listFrom
    refine (c.send_alike a _).bind ?_
    rintro response _ rfl
    refine (Session.alike_ofExcept _).bind ?_
    rintro tags _ rfl
    refine (Session.alike_ofExcept _).bind ?_
    rintro next _ rfl
    cases next with
    | none => exact .done rfl
    | some next =>
      refine (ih (url :: visited) next).bind ?_
      rintro rest _ rfl
      exact .done rfl

theorem listTags_alike (limit : Nat) (repository : String) :
    Session.Alike Eq (c.listTags a limit repository) (c.listTags a limit repository) := by
  refine (Session.alike_ofExcept _).bind ?_
  rintro url _ rfl
  exact c.listFrom_alike a limit [] url

theorem tagDigest_alike (repository tag : String) :
    Session.Alike Eq (c.tagDigest a repository tag) (c.tagDigest a repository tag) := by
  refine (Session.alike_ofExcept _).bind ?_
  rintro url _ rfl
  refine (c.send_alike a _).bind ?_
  rintro response _ rfl
  exact Session.alike_ofExcept _

end Client

/-- A handle is the same whatever the password. -/
theorem Repository.resolve_alike (c : Connection) (password : Option String) (repository : String) :
    Session.Alike Eq (resolve c repository) (resolve { c with password } repository) := by
  unfold resolve
  refine (Session.alike_ofExcept _).bind ?_
  rintro name _ rfl
  refine (Session.alike_ofExcept _).bind ?_
  rintro client _ rfl
  refine client.probe_alike.bind ?_
  rintro challenges _ rfl
  refine (Session.alike_ofExcept _).bind ?_
  rintro registry _ rfl
  exact .done rfl

namespace Catalog

variable {c c' : Catalog} {server : Server}

theorem alike_world (hserver : server.IgnoresAuthorization)
    (h : c'.connection = { c.connection with password := c'.connection.password }) :
    (c.world server).Alike (c'.world server) where
  server := fun _ _ _ _ ht hrequest => hserver _ _ _ _ (Trace.map_masked_requests ht) hrequest
  basic := by
    intro _ _ _ _
    have husername : c'.connection.username = c.connection.username := by rw [h]
    show (Store.fixedCredentials? _ _).map _ = (Store.fixedCredentials? _ _).map _
    rw [husername]
    cases c.connection.username with
    | none => rfl
    | some name => by_cases hname : name = "" <;> simp [Store.fixedCredentials?, hname]
  refresh := fun _ _ _ _ _ => rfl

theorem branchRecords_alike
    (h : c'.connection = { c.connection with password := c'.connection.password })
    (limit : Nat) (repository branch : String) :
    Session.Alike Eq (c.branchRecords limit repository branch)
      (c'.branchRecords limit repository branch) := by
  unfold branchRecords
  rw [h]
  refine (Repository.resolve_alike c.connection _ repository).bind ?_
  rintro handle _ rfl
  refine (handle.client.listTags_alike handle.authorizer limit _).bind ?_
  rintro tags _ rfl
  exact .done rfl

theorem tagDigest_alike
    (h : c'.connection = { c.connection with password := c'.connection.password })
    (repository tag : String) :
    Session.Alike Eq (c.tagDigest repository tag) (c'.tagDigest repository tag) := by
  unfold tagDigest
  rw [h]
  refine (Repository.resolve_alike c.connection _ repository).bind ?_
  rintro handle _ rfl
  exact handle.client.tagDigest_alike handle.authorizer _ tag

/-- **The password makes no difference** but for the values of `Authorization` headers. Two
services that differ in it alone get the same from a registry that does not look at these values:
the same records and digests, or the same errors, and their requests are the same in the same order
but for these values. -/
theorem eq_of_password (hserver : server.IgnoresAuthorization)
    (h : c'.connection = { c.connection with password := c'.connection.password }) (t : Trace) :
    (∀ timing limit repository branches,
      (c.fetch server timing limit repository branches t).1 =
        (c'.fetch server timing limit repository branches t).1 ∧
      (Trace.requests (c.fetch server timing limit repository branches t).2).map
          Http.Request.masked =
        (Trace.requests (c'.fetch server timing limit repository branches t).2).map
          Http.Request.masked) ∧
    ∀ repository tag,
      ((c.tagDigest repository tag).run (c.world server) t).1 =
        ((c'.tagDigest repository tag).run (c'.world server) t).1 ∧
      (Trace.requests ((c.tagDigest repository tag).run (c.world server) t).2).map
          Http.Request.masked =
        (Trace.requests ((c'.tagDigest repository tag).run (c'.world server) t).2).map
          Http.Request.masked := by
  have hw := alike_world hserver h
  refine ⟨fun timing limit repository branches => ?_, fun repository tag => ?_⟩
  · have hsessions : List.Forall₂ (Session.Alike Eq)
        (branches.map (c.branchRecords limit repository))
        (branches.map (c'.branchRecords limit repository)) := by
      rw [List.forall₂_map_left_iff, List.forall₂_map_right_iff, List.forall₂_same]
      exact fun branch _ => branchRecords_alike h limit repository branch
    obtain ⟨hresults, ht⟩ :=
      Session.interleave_alike hw timing.schedule hsessions (t := t) rfl
    refine ⟨?_, Trace.map_masked_requests ht⟩
    simp only [fetch, hresults]
  · obtain ⟨hresult, ht⟩ := (tagDigest_alike h repository tag).run hw (t := t) rfl
    exact ⟨hresult, Trace.map_masked_requests ht⟩

/-- A registry that asks for a password and takes any, and has no repository. -/
def anyPassword : Server := fun _ request =>
  if request.url.path = .segments ["v2", ""] then
    .reply ⟨401, [("WWW-Authenticate", "Basic realm=\"r\"")], .whole []⟩
  else .reply ⟨404, [], .whole []⟩

/-- Two passwords of one user: both are presented, and both look-ups fail alike. -/
theorem eq_of_password_anyPassword : ∃ c c' : Catalog,
    c.connection = .withCredentials (.anonymous "http://r.test") "robot" "a" ∧
    c'.connection = { c.connection with password := c'.connection.password } ∧
    anyPassword.IgnoresAuthorization ∧
    ((c.tagDigest "app" "x").run (c.world anyPassword) []).1 =
      ((c'.tagDigest "app" "x").run (c'.world anyPassword) []).1 ∧
    Trace.requests ((c.tagDigest "app" "x").run (c.world anyPassword) []).2 ≠
      Trace.requests ((c'.tagDigest "app" "x").run (c'.world anyPassword) []).2 := by
  have hserver : anyPassword.IgnoresAuthorization := by
    intro before before' request request' _ hrequest
    have hurl : request.masked.url = request'.masked.url := by rw [hrequest]
    have hurl' : request.url = request'.url := hurl
    rw [anyPassword, anyPassword, hurl']
  let c : Catalog :=
    ⟨.withCredentials (.anonymous "http://r.test") "robot" "a", .default, rfl⟩
  let c' : Catalog :=
    ⟨.withCredentials (.anonymous "http://r.test") "robot" "b", .default, rfl⟩
  have hdiffer : c'.connection = { c.connection with password := c'.connection.password } := rfl
  refine ⟨c, c', rfl, hdiffer, hserver, ((eq_of_password hserver hdiffer []).2 "app" "x").1, ?_⟩
  decide +kernel

end Catalog

end TagCatalog
