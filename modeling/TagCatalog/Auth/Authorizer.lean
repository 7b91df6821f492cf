import TagCatalog.Auth.Token

/-!
# Authorizers

An authorizer answers the challenges of a registry for the requests of one scope. A Bearer
challenge wins over a Basic one, wherever they stand; the first of several counts. Nothing is kept:
each request is authorized afresh.

* `Authorizer`, `Authorizer.headerValue`;
* `Authorizer.description`: a text for messages that shows no secret.
-/

namespace TagCatalog

/-- What a client needs to authorize its requests to a registry. -/
structure Authorizer where
  registry : Url
  challenges : ChallengeSet
  scope : String
  deriving DecidableEq, Repr

namespace Authorizer

/-- The `Authorization` header of the next request, if it takes one. -/
def headerValue (a : Authorizer) : Session (Option String) :=
  match a.challenges.find? .bearer with
  | some challenge => do
    let token ← Token.fetch challenge a.scope
    return some ("Bearer " ++ token)
  | none =>
    match a.challenges.find? .basic with
    | some _ => .askBasic a.registry fun credentials =>
      match credentials with
      | some c => .done (some c.headerValue)
      | none => .raise .noCredentials
    | none => .done none

/-! ## Descriptions -/

/-- A quoted text. -/
def quoted (s : String) : String := String.ofList (Text.Quoted.encode s.toList)

/-- The description of an optional text. -/
def describeOption : Option String → String
  | none => "None"
  | some s => "Some(" ++ quoted s ++ ")"

/-- The description of a scheme. -/
def describeScheme : Scheme → String
  | .basic => "Basic"
  | .bearer => "Bearer"
  | .other name => "Other(" ++ quoted name ++ ")"

/-- The description of a challenge. -/
def describeChallenge (c : Challenge) : String :=
  "AuthChallenge \x7b scheme: " ++ describeScheme c.scheme ++ ", realm: " ++
    describeOption c.realm ++ ", service: " ++ describeOption c.service ++ ", scope: " ++
    describeOption c.scope ++ " \x7d"

/-- The description of an authorizer: where it goes and what it answers, not with what. -/
def description (a : Authorizer) : String :=
  "Authorizer \x7b registry_url: " ++ quoted a.registry.text ++
    ", challenges: ChallengeSet \x7b challenges: [" ++
    ", ".intercalate (a.challenges.challenges.map describeChallenge) ++ "] \x7d, scope: " ++
    quoted a.scope ++ ", .. \x7d"

end Authorizer

end TagCatalog
