import TagCatalog.Url
import TagCatalog.Text.Utf8

/-!
# HTTP messages

What goes over the wire, as far as the registry protocol looks at it.

* `Http.Request`, `Http.Reply`, `Http.Answer`: a request, a reply, and what may come in its place;
* `Http.Headers.values`: the values of a header, its name compared without regard to case;
* `Http.isReadable`, `Http.isSendable`: header values that read as text, and that may be sent;
* `Http.Body.text?`, `Http.Body.bytes?`: a body that arrives whole;
* `Http.SendError`: why a request got no reply.
-/

namespace TagCatalog.Http

/-- The methods in use. -/
inductive Method where
  | get
  | head
  | post
  deriving DecidableEq, Repr

/-- The name of a method. -/
def Method.name : Method → String
  | get => "GET"
  | head => "HEAD"
  | post => "POST"

/-- A request as a server sees it: its URL has no fragment and names no user. -/
structure Request where
  method : Method
  url : Url
  /-- The values of the `Authorization` header, in order. -/
  authorization : List String
  accept : Option String
  contentType : Option String
  body : String
  deriving DecidableEq, Repr

/-- Headers in the order they arrive. -/
abbrev Headers := List (String × String)

/-- Header names are equal without regard to the case of ASCII letters. -/
def sameName (a b : String) : Bool := a.toList.map Char.toLower == b.toList.map Char.toLower

/-- The values of a header, in order. -/
def Headers.values (h : Headers) (name : String) : List String :=
  (h.filter fun p => sameName p.1 name).map (·.2)

/-- A header value of visible ASCII characters, blanks and tabs, which alone reads as text. -/
def isReadable (value : String) : Bool :=
  value.toList.all fun c => c == '\t' || (0x20 ≤ c.toNat && c.toNat < 0x7F)

/-- A header value without control characters, which alone may be sent. -/
def isSendable (value : String) : Bool :=
  value.toList.all fun c => c == '\t' || (0x20 ≤ c.toNat && c.toNat != 0x7F)

/-- The body of a reply: it arrives whole, or the connection breaks before its end. -/
inductive Body where
  | whole (bytes : List UInt8)
  | broken
  deriving DecidableEq, Repr

/-- The bytes of a body that arrives whole. -/
def Body.bytes? : Body → Option (List UInt8)
  | whole bytes => some bytes
  | broken => none

/-- The text of a body that arrives whole. -/
def Body.text? (b : Body) : Option String :=
  b.bytes?.map fun bytes => String.ofList (Text.Utf8.decodeLossy bytes)

/-- A reply. -/
structure Reply where
  status : Nat
  headers : Headers
  body : Body
  deriving DecidableEq, Repr

/-- A status that reports success. -/
def isSuccess (status : Nat) : Bool := 200 ≤ status && status ≤ 299

/-- What a request gets: a reply, a refused connection, no reply in time, or a connection that
closes without a reply. -/
inductive Answer where
  | reply (r : Reply)
  | refused
  | timedOut
  | dropped
  deriving DecidableEq, Repr

/-- Why no reply came. -/
inductive SendFault where
  /-- The request cannot be put on the wire: its URL is not of the web, or a header not sendable. -/
  | unsendable
  | refused
  | timedOut
  | dropped
  | tooManyRedirects
  deriving DecidableEq, Repr

/-- A request that got no reply, with the URL that was asked at last. -/
structure SendError where
  fault : SendFault
  url : Url
  deriving DecidableEq, Repr

/-- The wording of an error in sending. -/
def SendError.message (e : SendError) : String :=
  (match e.fault with
    | .unsendable => "builder error"
    | .refused | .timedOut | .dropped => "error sending request"
    | .tooManyRedirects => "error following redirect") ++ " for url (" ++ e.url.text ++ ")"

end TagCatalog.Http
