import TagCatalog.Session

/-!
# Scripted servers

A server that answers from a list of rules, for trying out clients. The first rule that matches a
request and has uses left gives the answer; what no rule matches is not found.

* `Script.Rule`: what a rule matches, how often it may be used, and its answer;
* `Script.serve`: the server of a list of rules, among which only some hosts accept connections;
* `Script.isRefused`, `Script.isSilent`: the hosts that do not.
-/

namespace TagCatalog.Http.Script

/-- A rule of a script. -/
structure Rule where
  /-- The name of the method, if only one is matched. -/
  method : Option String
  url : String
  /-- The URL is matched without its query. -/
  anyQuery : Bool
  /-- The uses that are left, if they are limited. -/
  uses : Option Nat
  answer : Answer
  deriving DecidableEq, Repr

/-- The text of a URL without its query. -/
def withoutQuery (url : String) : String := String.ofList (url.toList.takeWhile (· != '?'))

/-- A rule matches a request and has uses left. -/
def Rule.fits (r : Rule) (request : Request) : Bool :=
  let url := request.url.text
  r.uses != some 0 && r.method.all (· == request.method.name) &&
    r.url == (if r.anyQuery then withoutQuery url else url)

/-- A rule with one use less. -/
def Rule.used (r : Rule) : Rule := { r with uses := r.uses.map (· - 1) }

/-- The rules after a request was answered. -/
def use (request : Request) : List Rule → List Rule
  | [] => []
  | r :: rules => if r.fits request then r.used :: rules else r :: use request rules

/-- A reply without a body, where the request or the status asks for none. -/
def bodiless (request : Request) (r : Reply) : Reply :=
  if request.method == .head || r.status == 204 || r.status == 304 then
    { r with body := .whole [] }
  else r

/-- The reply to what no rule matches. -/
def notFound : Reply := ⟨404, [], .whole (Text.Utf8.encode "no rule".toList)⟩

/-- The answer of the first rule that matches. -/
def answer (rules : List Rule) (request : Request) : Answer :=
  match rules.find? (·.fits request) with
  | none => .reply (bodiless request notFound)
  | some rule =>
    match rule.answer with
    | .reply r => .reply (bodiless request r)
    | other => other

/-- The local host. -/
def localHost : Host := .ipv4 (0x7F000001)

/-- Hosts that accept no connection: those behind https, and the local one. -/
def isRefused (request : Request) : Bool :=
  request.url.scheme == "https" || request.url.host == some localHost

/-- A host that accepts connections and never answers. -/
def silentHost : String := "hang.test"

/-- The host never answers. -/
def isSilent (request : Request) : Bool := request.url.host == some (.domain silentHost)

/-- A request that reaches the rules. -/
def isServed (request : Request) : Bool := !isRefused request && !isSilent request

/-- The server of a list of rules. -/
def serve (rules : List Rule) : Server := fun before request =>
  if isRefused request then .refused
  else if isSilent request then .timedOut
  else answer ((before.filter isServed).foldl (fun rs r => use r rs) rules) request

end TagCatalog.Http.Script
