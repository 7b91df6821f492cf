import TagCatalog.Auth.ChallengeSet
import TagCatalog.Http.Exchange
import TagCatalog.Json.Reader
import TagCatalog.Url.Form

/-!
# Token exchange

A Bearer challenge names a realm where credentials are traded for a token. A refresh token that the
store keeps for the realm and service is posted; otherwise the token is asked for with the store's
credentials for the realm, if it has any. A refresh token in the reply goes to the store.

* `TokenReply`, `TokenReply.ofJson?`, `TokenReply.bearer?`;
* `Token.refreshForm`, `Token.queryForm`: what is posted, and what is added to the realm's query;
* `Token.fetch`: one exchange.
-/

namespace TagCatalog

/-- The reply of a token service. -/
structure TokenReply where
  token : Option String
  accessToken : Option String
  refreshToken : Option String
  expiresIn : Option UInt64
  deriving DecidableEq, Repr

namespace TokenReply

/-- The fields of a reply, in order. -/
def fieldNames : List String := ["token", "access_token", "refresh_token", "expires_in"]

/-- Reads a reply from a JSON value; every field may be missing or `null`. -/
def ofValue? (j : Json) : Option TokenReply := do
  let text? := Json.fieldOr? none (Json.optional? Json.text?)
  match ← j.fields? fieldNames with
  | [token, accessToken, refreshToken, expiresIn] =>
    return ⟨← text? token, ← text? accessToken, ← text? refreshToken,
      ← Json.fieldOr? none (Json.optional? Json.uint64?) expiresIn⟩
  | _ => none

/-- Reads a reply from a JSON text. -/
def ofJson? (s : String) : Option TokenReply := (Json.ofText? s).bind ofValue?

/-- Reads a reply from the bytes of a body. -/
def ofBytes? (bytes : List UInt8) : Option TokenReply := (Json.ofBytes? bytes).bind ofValue?

/-- A token that is not empty. -/
def nonEmpty? (token : Option String) : Option String := token.filter (· != "")

/-- The token to present: `token`, or else `access_token`; an empty one does not count. -/
def bearer? (r : TokenReply) : Option String := nonEmpty? r.token <|> nonEmpty? r.accessToken

end TokenReply

namespace Token

/-- The name that clients give themselves when they post a refresh token. -/
def clientId : String := "tagwatch"

/-- The content type of a form. -/
def formType : String := "application/x-www-form-urlencoded"

/-- What is posted with a refresh token. -/
def refreshForm (refreshToken service scope : String) : List (String × String) :=
  [("grant_type", "refresh_token"), ("refresh_token", refreshToken), ("service", service),
    ("scope", scope), ("client_id", clientId)]

/-- What is added to the realm's query without one; an empty service is left out. -/
def queryForm (service scope : String) : List (String × String) :=
  (if service = "" then [] else [("service", service)]) ++ [("scope", scope)]

/-- The call that posts a refresh token. -/
def refreshCall (realm : Url) (refreshToken service scope : String) : Http.Call where
  method := .post
  url := realm
  authorization := []
  accept := none
  contentType := some formType
  body := String.ofList (Url.Form.encode (refreshForm refreshToken service scope))

/-- The call that asks for a token, with credentials if there are any. -/
def queryCall (realm : Url) (service scope : String) (credentials : Option Credentials) :
    Http.Call :=
  let query := String.ofList (Url.Form.encode (queryForm service scope))
  (Http.Call.plain .get (realm.appendQuery query)).authorize
    (credentials.map Credentials.headerValue)

/-- The token of a response; a refresh token in it goes to the store first. -/
def ofResponse (realm : Url) (service : String) (response : Http.Response) : Session String :=
  let reply := response.reply
  if Http.isSuccess reply.status then
    match reply.body.bytes?.bind TokenReply.ofBytes? with
    | none => .raise .badTokenReply
    | some tokens =>
      let finish : Session String := match tokens.bearer? with
        | some token => .done token
        | none => .raise .noToken
      match tokens.refreshToken with
      | some refreshToken => .keepRefresh realm service refreshToken finish
      | none => finish
  else .raise (.tokenRefused realm reply.status (reply.body.text?.getD ""))

/-- Makes a call to the realm and reads the token of its response. -/
def exchange (realm : Url) (service : String) (c : Http.Call) : Session String := do
  match ← Http.exchange c with
  | .error e => .raise (.tokenRequestFailed realm e)
  | .ok response => ofResponse realm service response

/-- Trades what the store has for a token with a scope. -/
def fetch (challenge : Challenge) (scope : String) : Session String :=
  match challenge.realm with
  | none => .raise .noRealm
  | some realmText =>
    match Url.parse realmText with
    | .error fault => .raise (.badRealm realmText fault)
    | .ok realm =>
      let service := challenge.service.getD ""
      .askRefresh realm service fun kept =>
        match kept with
        | some refreshToken => exchange realm service (refreshCall realm refreshToken service scope)
        | none => .askBasic realm fun credentials =>
          exchange realm service (queryCall realm service scope credentials)

end Token

end TagCatalog
