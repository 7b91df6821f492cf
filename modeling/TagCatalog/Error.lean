import TagCatalog.Auth.Challenge
import TagCatalog.Digest
import TagCatalog.Http.Message
import TagCatalog.Repository.Name
import TagCatalog.Text.Quoted
import TagCatalog.Url.Parser

/-!
# Errors

Everything that can go wrong, one constructor for each cause. An error belongs to one of four
stages: the configuration, the discovery of the registry's challenges, authentication, and the
transport of listings and digests.

* `CatalogError`, `ErrorKind`;
* `CatalogError.kind`, `CatalogError.detail`, `CatalogError.status?`, `CatalogError.source?`;
* `CatalogError.message`: the detail behind the name of the stage.
-/

namespace TagCatalog

/-- The stage that an error belongs to. -/
inductive ErrorKind where
  | config
  | authDiscovery
  | authentication
  | transport
  deriving DecidableEq, Repr

/-- What an error was caused by: a text, or a cause whose wording is not told. -/
inductive ErrorSource where
  | text (message : String)
  | untold
  deriving DecidableEq, Repr

/-- An error. -/
inductive CatalogError where
  /-- No base URL is configured. -/
  | emptyBaseUrl
  | badBaseUrl (url : String) (fault : Url.Fault)
  /-- The base URL has another scheme than http or https, or no host. -/
  | foreignBaseUrl (url : String)
  | passwordWithoutUsername
  /-- A service was built without a registry URL. -/
  | missingRegistryUrl
  /-- Nothing is left of the registry URL without slashes. -/
  | emptyRegistryUrl
  | badRegistryUrl (url : String) (fault : Url.Fault)
  | badName (name : String) (fault : RepositoryName.Fault)
  /-- The settings file or a variable does not fit the settings. -/
  | badSettings
  /-- The probe of the registry at `url` got no reply. -/
  | probeFailed (url : String)
  | badChallenge (fault : Challenge.Fault)
  | unreadableChallenge
  | noChallenge
  | noRealm
  | badRealm (realm : String) (fault : Url.Fault)
  | tokenRequestFailed (realm : Url) (error : Http.SendError)
  | tokenRefused (realm : Url) (status : Nat) (body : String)
  | badTokenReply
  | noToken
  /-- The registry wants a password and none is configured. -/
  | noCredentials
  | unauthorized (url : Url) (body : String)
  | forbidden (url : Url) (body : String)
  | notFound (url : Url)
  | badStatus (status : Nat) (url : Url) (body : String)
  /-- A request to the registry got no reply. -/
  | sendFailed (registry : String) (fault : Http.SendFault)
  | badTagPage
  | badPageLink (page : Url) (link : String) (fault : Url.Fault)
  | missingDigest (repository tag : String) (status : Nat)
  | badDigest (fault : Digest.Fault)
  /-- The task of a branch did not complete. -/
  | branchCrashed (reason : String)
  /-- An error stated by a caller. -/
  | stated (kind : ErrorKind) (detail : String) (status : Option Nat) (source : Option ErrorSource)
  deriving DecidableEq, Repr

namespace CatalogError

/-- The stage of an error. -/
def kind : CatalogError → ErrorKind
  | emptyBaseUrl | badBaseUrl .. | foreignBaseUrl _ | passwordWithoutUsername | missingRegistryUrl
  | emptyRegistryUrl | badRegistryUrl .. | badName .. | badSettings => .config
  | probeFailed _ | badChallenge _ | unreadableChallenge | noChallenge => .authDiscovery
  | noRealm | badRealm .. | tokenRequestFailed .. | tokenRefused .. | badTokenReply | noToken
  | noCredentials | unauthorized .. | forbidden .. => .authentication
  | notFound _ | badStatus .. | sendFailed .. | badTagPage | badPageLink .. | missingDigest ..
  | badDigest _ | branchCrashed _ => .transport
  | stated kind .. => kind

/-- The HTTP status that an error carries. -/
def status? : CatalogError → Option Nat
  | tokenRefused _ status _ => some status
  | noCredentials | unauthorized .. => some 401
  | forbidden .. => some 403
  | notFound _ => some 404
  | badStatus status .. => some status
  | missingDigest _ _ status => some status
  | stated .authentication _ status _ | stated .transport _ status _ => status
  | _ => none

/-- What an error was caused by. -/
def source? : CatalogError → Option ErrorSource
  | badBaseUrl _ fault | badRegistryUrl _ fault | badPageLink _ _ fault => some (.text fault.message)
  | badName _ fault => fault.message?.map .text
  | unreadableChallenge => some (.text "failed to convert header to a str")
  | badSettings | probeFailed _ | sendFailed .. | badTagPage => some .untold
  | badDigest fault => some (.text fault.message)
  | stated _ _ _ source => source
  | _ => none

/-- The wording of the cause. -/
def detail : CatalogError → String
  | emptyBaseUrl => "Registry base URL cannot be empty"
  | badBaseUrl url _ => "Invalid registry base URL: " ++ url
  | foreignBaseUrl url => "Registry base URL must be an absolute http(s) URL: " ++ url
  | passwordWithoutUsername => "A registry password was configured without a username"
  | missingRegistryUrl => "Registry URL is required"
  | emptyRegistryUrl => "Registry URL cannot be empty"
  | badRegistryUrl url _ => "Invalid registry URL: " ++ url
  | badName _ .empty => "Repository name cannot be empty"
  | badName name .suffixed =>
    "Invalid repository name '" ++ name ++ "': tag or digest suffix not allowed"
  | badName name _ => "Invalid repository name '" ++ name ++ "'"
  | badSettings => "Failed to deserialize configuration"
  | probeFailed url => "Failed to probe registry at " ++ url
  | badChallenge fault => fault.message
  | unreadableChallenge => "Non-ASCII WWW-Authenticate header"
  | noChallenge => "Registry answered 401 without a WWW-Authenticate challenge"
  | noRealm => "Bearer challenge has no realm"
  | badRealm realm fault => "Invalid token realm '" ++ realm ++ "': " ++ fault.message
  | tokenRequestFailed realm error =>
    "Token request to " ++ realm.text ++ " failed: " ++ error.message
  | tokenRefused realm _ body =>
    "Token service " ++ realm.text ++ " rejected the request: " ++ body
  | badTokenReply => "Failed to parse token response: error decoding response body"
  | noToken => "Token response did not contain a token"
  | noCredentials => "Registry requires basic authentication but no credentials are configured"
  | unauthorized url body => "Authentication required for " ++ url.text ++ ": " ++ body
  | forbidden url body => "Access forbidden for " ++ url.text ++ ": " ++ body
  | notFound url => "Not found: " ++ url.text
  | badStatus status url body =>
    "HTTP " ++ toString status ++ " from " ++ url.text ++ ": " ++ body
  | sendFailed registry .timedOut => "Request to " ++ registry ++ " timed out"
  | sendFailed registry .refused => "Failed to connect to registry at " ++ registry
  | sendFailed registry _ => "Network error communicating with " ++ registry
  | badTagPage => "Failed to parse tags response"
  | badPageLink page link _ => "Invalid pagination link from " ++ page.text ++ ": " ++ link
  | missingDigest repository tag _ =>
    "Response for " ++ repository ++ ":" ++ tag ++ " missing Docker-Content-Digest header"
  | badDigest fault => "Invalid digest returned by registry: " ++ fault.message
  | branchCrashed reason =>
    "Branch task did not complete: task N panicked with message " ++
      String.ofList (Text.Quoted.encode reason.toList)
  | stated _ detail _ _ => detail

/-- A status as it stands in a message. -/
def statusText : Option Nat → String
  | none => "None"
  | some status => "Some(" ++ toString status ++ ")"

/-- The full wording of an error. -/
def message (e : CatalogError) : String :=
  match e.kind with
  | .config => "Configuration error: " ++ e.detail
  | .authDiscovery => "Authentication discovery error: " ++ e.detail
  | .authentication =>
    "Authentication error (status: " ++ statusText e.status? ++ "): " ++ e.detail
  | .transport => "Transport error (status: " ++ statusText e.status? ++ "): " ++ e.detail

end CatalogError

end TagCatalog
