import TagCatalog.Url.Address

/-!
# URLs

The parts of a URL as the URL Standard keeps them, and its text. The parts hold no character that
their place would encode, so the text is the parts put together.

* `Host`, `Url.Path`, `Url`;
* `Url.text`: the serialised URL;
* `Url.Origin`, `Url.origin`: the scheme, host and port that a request goes to;
* `Url.withoutFragment`, `Url.withoutUser`, `Url.appendQuery`.
-/

namespace TagCatalog

/-- The host of a URL. -/
inductive Host where
  /-- A name, or the text of a host of a scheme without special rules. -/
  | domain (name : String)
  | ipv4 (address : Nat)
  | ipv6 (pieces : List Nat)
  deriving DecidableEq, Repr

namespace Url

/-- The path of a URL: a text that is not taken apart, or the segments behind its slashes. -/
inductive Path where
  | opaque_ (text : String)
  | segments (list : List String)
  deriving DecidableEq, Repr

end Url

/-- A URL. -/
structure Url where
  scheme : String
  username : String
  password : String
  host : Option Host
  port : Option Nat
  path : Url.Path
  query : Option String
  fragment : Option String
  deriving DecidableEq, Repr

namespace Host

/-- The host as it stands in a URL. -/
def text : Host → String
  | domain name => name
  | ipv4 address => String.ofList (Url.Ipv4.text address)
  | ipv6 pieces => String.ofList ('[' :: Url.Ipv6.text pieces ++ [']'])

end Host

namespace Url

/-- The default port of a scheme. -/
def defaultPort? (scheme : String) : Option Nat :=
  if scheme = "http" ∨ scheme = "ws" then some 80
  else if scheme = "https" ∨ scheme = "wss" then some 443
  else if scheme = "ftp" then some 21
  else none

/-- A scheme with an authority and a path of segments always. -/
def isSpecialScheme (scheme : String) : Bool := (defaultPort? scheme).isSome || scheme == "file"

/-- A URL that the registry protocol can use. -/
def isHttp (u : Url) : Bool := u.scheme == "http" || u.scheme == "https"

/-- The URL has a host that is not empty. -/
def hasHost (u : Url) : Bool :=
  match u.host with
  | none => false
  | some (.domain name) => name != ""
  | some _ => true

/-- The path of a URL as text. -/
def pathText (u : Url) : String :=
  match u.path with
  | .opaque_ text => text
  | .segments list => String.join (list.map fun s => "/" ++ s)

/-- The user name and password, if any, up to the `@`. -/
def userText (u : Url) : String :=
  if u.username = "" ∧ u.password = "" then ""
  else u.username ++ (if u.password = "" then "" else ":" ++ u.password) ++ "@"

/-- The port with the colon before it, unless it is the scheme's own. -/
def portText (u : Url) : String :=
  match u.port with
  | none => ""
  | some port => ":" ++ String.ofList (Text.decimal port)

/-- What stands between the scheme and the path. A path without a host that begins with an empty
segment is set off, so that it does not read as a host. -/
def authorityText (u : Url) : String :=
  match u.host, u.path with
  | some host, _ => "//" ++ u.userText ++ host.text ++ u.portText
  | none, .segments ("" :: _ :: _) => "/."
  | none, _ => ""

/-- An optional part with the mark before it. -/
def markedText (mark : String) : Option String → String
  | none => ""
  | some text => mark ++ text

/-- The text of a URL. -/
def text (u : Url) : String :=
  u.scheme ++ ":" ++ u.authorityText ++ u.pathText ++ markedText "?" u.query ++
    markedText "#" u.fragment

/-- The scheme, host and port that a request goes to. -/
structure Origin where
  scheme : String
  host : Option Host
  port : Option Nat
  deriving DecidableEq, Repr

/-- The port of a URL, or the default port of its scheme. -/
def effectivePort (u : Url) : Option Nat := u.port <|> defaultPort? u.scheme

/-- The origin of a URL. -/
def origin (u : Url) : Origin := ⟨u.scheme, u.host, u.effectivePort⟩

/-- The URL without its fragment, which is never sent. -/
def withoutFragment (u : Url) : Url := { u with fragment := none }

/-- The URL without user name and password. -/
def withoutUser (u : Url) : Url := { u with username := "", password := "" }

/-- Appends an encoded query to the query of a URL. -/
def appendQuery (u : Url) (encoded : String) : Url :=
  let joined := match u.query with
    | none => encoded
    | some query => if query = "" then encoded else query ++ "&" ++ encoded
  { u with query := some joined }

end Url

end TagCatalog
