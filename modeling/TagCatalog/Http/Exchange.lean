import TagCatalog.Session

/-!
# Exchanges

Sending one request of a client: a user named in its URL becomes an `Authorization` header, and
redirects are followed.

* `Http.Call`, `Http.Response`: what a client asks for, and what it gets, with the URL that was
  asked at last;
* `Http.user?`: the user that a URL names;
* `Http.isAddressable`: the URLs that can be put on the wire;
* `Http.exchange`: sends a call; at most `maxRedirects` redirects are followed.
-/

namespace TagCatalog.Http

/-- What a client asks for. The URL may have a fragment and name a user. -/
structure Call where
  method : Method
  url : Url
  authorization : List String
  accept : Option String
  contentType : Option String
  body : String
  deriving DecidableEq, Repr

/-- A call without a body or a wish about the reply. -/
def Call.plain (method : Method) (url : Url) : Call := ⟨method, url, [], none, none, ""⟩

/-- Adds an `Authorization` header, if there is one, behind those the call has. -/
def Call.authorize (c : Call) (header : Option String) : Call :=
  { c with authorization := c.authorization ++ header.toList }

/-- The request of a call. -/
def Call.request (c : Call) : Request :=
  ⟨c.method, c.url.withoutUser.withoutFragment, c.authorization, c.accept, c.contentType, c.body⟩

/-- A reply with the URL that gave it. -/
structure Response where
  reply : Reply
  url : Url
  deriving DecidableEq, Repr

/-- The text of a percent-encoded component, if its bytes are UTF-8. -/
def decodedText? (s : String) : Option String :=
  (Text.Utf8.decode? (Url.percentDecode s.toList)).map String.ofList

/-- The user that a URL names: a user name that is not empty, or a password. -/
def user? (u : Url) : Option Credentials := do
  let name ← decodedText? u.username
  let password := if u.password = "" then none else decodedText? u.password
  if name = "" ∧ password = none then none else some ⟨name, password.getD ""⟩

/-- The call with the user of its URL moved in front of its `Authorization` headers. -/
def Call.withUserMoved (c : Call) : Call :=
  match user? c.url with
  | none => c
  | some user =>
    { c with url := c.url.withoutUser, authorization := user.headerValue :: c.authorization }

/-- A character that a host may hold but a request may not. -/
def isUnaddressable (c : Char) : Bool :=
  c == '"' || c == '\x7b' || c == '\x7d' || c.toNat == 0x60

/-- The greatest length of a URL on the wire. -/
def maxUrlLength : Nat := 65534

/-- A URL of the web that a request can be addressed to. -/
def isAddressable (u : Url) : Bool :=
  u.isHttp && u.hasHost && u.text.utf8ByteSize ≤ maxUrlLength &&
    match u.host with
    | some (.domain name) => !name.toList.any isUnaddressable
    | _ => true

/-- A status that points elsewhere. -/
def isRedirect (status : Nat) : Bool :=
  status == 301 || status == 302 || status == 303 || status == 307 || status == 308

/-- Where a reply points. -/
def Response.target? (r : Response) : Option Url :=
  if isRedirect r.reply.status then
    match r.reply.headers.values "Location" with
    | location :: _ => (r.url.join location).toOption
    | [] => none
  else none

/-- The call that follows a redirect: 307 and 308 repeat the call, the others turn all but GET and
HEAD into a GET without a body; another host or port gets no `Authorization`. -/
def Call.redirected (c : Call) (status : Nat) (target : Url) : Call :=
  let repeated := status == 307 || status == 308
  let rewritten := !repeated && c.method == .post
  let sameHost := c.url.host == target.host && c.url.effectivePort == target.effectivePort
  { method := if rewritten then .get else c.method
    url := target
    authorization := if sameHost then c.authorization else []
    accept := c.accept
    contentType := if rewritten then none else c.contentType
    body := if rewritten then "" else c.body }

/-- Sends a call and follows as many redirects as are left. -/
def follow : (left : Nat) → Call → Session (Except SendError Response)
  | left, c =>
    if !isAddressable c.url then .done (.error ⟨.unsendable, c.url⟩)
    else .send c.request fun answer =>
      match answer with
      | .refused => .done (.error ⟨.refused, c.url⟩)
      | .timedOut => .done (.error ⟨.timedOut, c.url⟩)
      | .dropped => .done (.error ⟨.dropped, c.url⟩)
      | .reply reply =>
        match (Response.mk reply c.url).target? with
        | none => .done (.ok ⟨reply, c.url⟩)
        | some target =>
          match left with
          | 0 => .done (.error ⟨.tooManyRedirects, c.url⟩)
          | left + 1 => follow left (c.redirected reply.status target)

/-- The redirects that are followed. -/
def maxRedirects : Nat := 10

/-- Sends a call, unless one of its headers may not be sent. -/
def exchange (c : Call) : Session (Except SendError Response) :=
  let c := c.withUserMoved
  if c.authorization.all isSendable then follow maxRedirects c
  else .done (.error ⟨.unsendable, c.url⟩)

end TagCatalog.Http
