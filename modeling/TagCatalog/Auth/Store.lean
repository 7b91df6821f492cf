import TagCatalog.Session

/-!
# Credential stores

* `Store.fixed`: one optional user name and password for every URL, and no memory;
* `Store.remembering`: credentials that may be absent or empty, and the last refresh token kept for
  each realm and service, after those it starts with.
-/

namespace TagCatalog.Store

/-- The credentials of an optional user name and password: none without a user name or with an
empty one; a missing password is empty. -/
def fixedCredentials? (username password : Option String) : Option Credentials :=
  match username with
  | some name => if name = "" then none else some ⟨name, password.getD ""⟩
  | none => none

/-- A store that presents the same credentials everywhere and keeps no refresh token. -/
def fixed (username password : Option String) : Store where
  basic _ _ := fixedCredentials? username password
  refresh _ _ _ := none

/-- A refresh token with the realm and service it is kept for. -/
structure Entry where
  realm : String
  service : String
  token : String
  deriving DecidableEq, Repr

/-- The refresh tokens kept in a trace, oldest first. -/
def kept (t : Trace) : List Entry :=
  t.filterMap fun e => match e with
    | .keptRefresh realm service token => some ⟨realm.text, service, token⟩
    | _ => none

/-- The last token among entries for a realm and service. -/
def lastToken? (entries : List Entry) (realm service : String) : Option String :=
  (entries.reverse.find? fun e => e.realm == realm && e.service == service).map (·.token)

/-- A store that remembers the last refresh token of each realm and service. -/
def remembering (credentials : Option Credentials) (seed : List Entry) : Store where
  basic _ _ := credentials
  refresh t realm service := lastToken? (seed ++ kept t) realm.text service

end TagCatalog.Store
