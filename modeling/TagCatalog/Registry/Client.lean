import TagCatalog.Auth.Authorizer
import TagCatalog.Registry.Link

/-!
# Registry clients

The three calls of the registry protocol: the probe that brings the challenges, the listing of a
repository's tags page by page, and the look-up of a tag's digest.

* `Client`, `Client.ofUrl`, `Client.baseUrl`, `Client.endpoint`;
* `Client.probe`, `Client.listTags`, `Client.tagDigest`;
* `TagPage.ofBytes?`: the tags of one page.
-/

namespace TagCatalog

/-- The text of a URL without blanks around it and slashes at its end. -/
def normalizedUrl (url : String) : String :=
  String.ofList (Text.dropEnd (· == '/') (Text.trim url.toList))

namespace TagPage

/-- The tags of a page; a missing list, or `null`, is empty. -/
def ofValue? (j : Json) : Option (List String) := do
  match ← j.fields? ["tags"] with
  | [tags] =>
    return (← Json.fieldOr? none (Json.optional? (Json.list? Json.text?)) tags).getD []
  | _ => none

/-- The tags of the body of a page. -/
def ofBytes? (bytes : List UInt8) : Option (List String) := (Json.ofBytes? bytes).bind ofValue?

end TagPage

/-- A client of one registry, given by its URL without a slash at the end. -/
structure Client where
  registryUrl : String
  deriving DecidableEq, Repr

namespace Client

/-- The client of a registry URL, which must not be empty. -/
def ofUrl (url : String) : Except CatalogError Client :=
  let normalized := normalizedUrl url
  if normalized = "" then .error .emptyRegistryUrl else .ok ⟨normalized⟩

/-- Reads a URL that is made of the registry URL. -/
def readUrl (c : Client) (text : String) : Except CatalogError Url :=
  (Url.parse text).mapError (.badRegistryUrl c.registryUrl)

/-- The URL of the registry. -/
def baseUrl (c : Client) : Except CatalogError Url := c.readUrl c.registryUrl

/-- The URL of a path below the registry URL. -/
def endpoint (c : Client) (path : String) : Except CatalogError Url :=
  c.readUrl (c.registryUrl ++ path)

/-- The text of the URL that is probed. -/
def probeText (c : Client) : String := c.registryUrl ++ "/v2/"

/-- The path of a repository's listing. -/
def listingPath (repository : String) : String := "/v2/" ++ repository ++ "/tags/list"

/-- The path of a manifest. -/
def manifestPath (repository tag : String) : String :=
  "/v2/" ++ repository ++ "/manifests/" ++ tag

/-- Asks the registry for its challenges. -/
def probe (c : Client) : Session ChallengeSet :=
  match Url.parse c.probeText with
  | .error _ => .raise (.probeFailed c.probeText)
  | .ok url => do
    match ← Http.exchange (Http.Call.plain .get url) with
    | .error _ => .raise (.probeFailed c.probeText)
    | .ok response =>
      .ofExcept (ChallengeSet.ofReply response.reply.status response.reply.headers)

/-- What a body that breaks off is shown as. -/
def unreadableBody : String := "(unable to read response body)"

/-- The error that a response's status stands for, unless it reports success. -/
def statusError? (r : Http.Response) : Option CatalogError :=
  let body := r.reply.body.text?.getD unreadableBody
  if Http.isSuccess r.reply.status then none
  else if r.reply.status = 401 then some (.unauthorized r.url body)
  else if r.reply.status = 403 then some (.forbidden r.url body)
  else if r.reply.status = 404 then some (.notFound r.url)
  else some (.badStatus r.reply.status r.url body)

/-- Authorizes a call and sends it. -/
def send (c : Client) (authorizer : Authorizer) (call : Http.Call) : Session Http.Response := do
  let header ← authorizer.headerValue
  match ← Http.exchange (call.authorize header) with
  | .error e => .raise (.sendFailed c.registryUrl e.fault)
  | .ok response => .done response

/-- The tags of a page that a response holds. -/
def pageTags (r : Http.Response) : Except CatalogError (List String) :=
  match statusError? r with
  | some e => .error e
  | none =>
    match r.reply.body.bytes?.bind TagPage.ofBytes? with
    | none => .error .badTagPage
    | some tags => .ok tags

/-- The page after `url`, if the response names one that has not been asked for. -/
def nextPage (url : Url) (visited : List Url) (r : Http.Response) :
    Except CatalogError (Option Url) :=
  match Link.next? r.reply.headers with
  | none => .ok none
  | some link =>
    match url.join link with
    | .error fault => .error (.badPageLink url link fault)
    | .ok next => .ok (if visited.contains next then none else some next)

/-- Lists the page at `url` and those after it, as many as `limit` allows; `visited` are the pages
asked for before. -/
def listFrom (c : Client) (authorizer : Authorizer) : (limit : Nat) → (visited : List Url) →
    (url : Url) → Session (List String)
  | 0, _, _ => .fail .pageLimit
  | limit + 1, visited, url => do
    let visited := url :: visited
    let response ← c.send authorizer (Http.Call.plain .get url)
    let tags ← Session.ofExcept (pageTags response)
    match ← Session.ofExcept (nextPage url visited response) with
    | none => return tags
    | some next => return tags ++ (← c.listFrom authorizer limit visited next)

/-- Lists the tags of a repository, on at most `limit` pages. -/
def listTags (c : Client) (authorizer : Authorizer) (limit : Nat) (repository : String) :
    Session (List String) := do
  let url ← Session.ofExcept (c.endpoint (listingPath repository))
  c.listFrom authorizer limit [] url

/-- The manifest types that a digest is looked up for. -/
def manifestTypes : String :=
  "application/vnd.oci.image.manifest.v1+json, application/vnd.oci.image.index.v1+json, " ++
    "application/vnd.docker.distribution.manifest.v2+json, " ++
    "application/vnd.docker.distribution.manifest.list.v2+json"

/-- The header that carries a digest. -/
def digestHeader : String := "Docker-Content-Digest"

/-- The digest that a response carries. -/
def digestOf (repository tag : String) (r : Http.Response) : Except CatalogError Digest :=
  match statusError? r with
  | some e => .error e
  | none =>
    match (r.reply.headers.values digestHeader).head?.filter Http.isReadable with
    | none => .error (.missingDigest repository tag r.reply.status)
    | some value => (Digest.parse value).mapError .badDigest

/-- The call that asks for a manifest's headers. -/
def manifestCall (url : Url) : Http.Call :=
  { Http.Call.plain .head url with accept := some manifestTypes }

/-- Looks up the digest of a tag. -/
def tagDigest (c : Client) (authorizer : Authorizer) (repository tag : String) :
    Session Digest := do
  let url ← Session.ofExcept (c.endpoint (manifestPath repository tag))
  let response ← c.send authorizer (manifestCall url)
  Session.ofExcept (digestOf repository tag response)

end Client

end TagCatalog
